import BoundQuery.Chars.Split
import BoundQuery.Document.Section
import BoundQuery.GraphQuery.Build
import BoundQuery.Value.Display

/-!
# Documents of graph queries

The sections of a document are turned into calls on a graph query in a fixed order. A path is a
text, one element, or a list of elements, each a mapping of a node or of a relationship.
-/

namespace BoundQuery.Document.Graph

open GraphQuery Building

/-- The fields of a node or relationship; one that is not given has none. -/
def elementFields (element fields : Value) : Result Entries :=
  if fields.isTruthy then
    match fields with
    | .map entries => .ok entries
    | _ => .error (.argument (.badPattern element))
  else .ok []

def nodeMaking (fields : Entries) : Making :=
  .node (Value.field fields "id") (Value.field fields "labels") (Value.field fields "properties")

def relationshipMaking (fields : Entries) : Making :=
  .relationship (Value.field fields "id") (Value.field fields "type")
    (Value.field fields "properties") (fieldOr fields "direction" (.str "->"))

def elementMaking (element : Value) : Result Making :=
  match element with
  | .map entries =>
    match Value.field? entries "node", Value.field? entries "rel" with
    | some node, _ => return nodeMaking (← elementFields element node)
    | none, some rel => return relationshipMaking (← elementFields element rel)
    | none, none => do
      throw (.argument (.badElement (← Value.sortedBy id (entries.map Prod.fst))))
  | v => throw (.argument (.badPattern v))

def element (v : Value) : Building Pattern := do
  makePattern (← elementMaking v)

/-- What a pattern of a document says: its text, or the pattern that its elements make. -/
def pattern (spec : Value) : Building Value :=
  match spec with
  | .text _ => return spec
  | .map _ => return (← element spec).toValue
  | .list elements => do
    let made ← elements.mapM element
    return (← makePattern (.path (.list (made.map Pattern.toValue)))).toValue
  | v => throw (.argument (.badPattern v))

/-- The identifier and the property of a reference, apart at its first dot. -/
def splitReference (reference : Value) : Result (Value × Value) :=
  match Chars.breakAt? '.' reference.shown.toList with
  | some (identifier, property) =>
    .ok (.str (Str.ofList identifier), .str (Str.ofList property))
  | none => .error (.argument (.badReference reference))

/-- Whether a reference names a property; a list of names does when one of them is a dot. -/
def namesProperty : Value → Result Bool
  | .text t => .ok (t.chars.contains '.')
  | .tuple xs => .ok (xs.any fun x => x.isText ".")
  | v => .error (.misuse (.notContainer v))

def callEach (entries : Entries) (key : Str) (toCall : Value → Building Call) :
    Building Unit := do
  (← (Value.field entries key).elementsOrNone).forM fun v => do call (← toCall v)

def callIfTruthy (entries : Entries) (key : Str) (toCall : List Value → Call) :
    Building Unit := do
  let v := Value.field entries key
  if v.isTruthy then call (toCall (← v.elements))

def callIfGiven (entries : Entries) (key : Str) (toCall : Value → Call) : Building Unit := do
  let v := Value.field entries key
  if !v.isNull then call (toCall v)

/-- A call for each entry of a mapping, if it is given. -/
def callEachEntry (entries : Entries) (key : Str) (toCall : Value → Value → Result Call) :
    Building Unit := do
  let v := Value.field entries key
  if v.isTruthy then
    (← v.items).forM fun entry => do call (← toCall entry.1 entry.2)

def unwindCall (v : Value) : Result Call := do
  let items ← require v "items" "unwind"
  return .unwind items (← require v "as" "unwind")

def filterCall (reference spec : Value) : Result Call := do
  let (identifier, property) ← splitReference reference
  return .filters identifier (.map [(property, spec)])

def assignCall (reference value : Value) : Result Call := do
  if ← namesProperty reference then
    let (identifier, property) ← splitReference reference
    return .setProperty identifier property value
  else return .setProperties reference value

def orderCall (entry : Value) : Result Call := do
  let (field, direction) ← sortEntry entry
  return .orderBy field direction

def building (entries : Entries) : Building Unit := do
  callEach entries "match" fun spec => return .matching (← pattern spec)
  callEach entries "optional_match" fun spec => return .optionalMatching (← pattern spec)
  let unwind := Value.field entries "unwind"
  if unwind.isTruthy then call (← unwindCall unwind)
  callEachEntry entries "where" filterCall
  callIfTruthy entries "with" .withItems
  callEach entries "create" fun spec => return .create (← pattern spec)
  callEach entries "merge" fun spec => return .merge (← pattern spec)
  callEachEntry entries "set" assignCall
  callIfTruthy entries "detach_delete" .detachDelete
  callIfTruthy entries "delete" .delete
  callIfTruthy entries "return" .returnItems
  callEach entries "order_by" fun entry => orderCall entry
  callIfGiven entries "skip" .skip
  callIfGiven entries "limit" .limit

def render (config : Config) (entries : Entries) : Result CypherQuery := do
  let ((), q) ← (building entries).run { config }
  q.build

end BoundQuery.Document.Graph
