import BoundQuery.Call
import BoundQuery.Condition.Filter
import BoundQuery.Condition.Render
import BoundQuery.Config.Basic
import BoundQuery.GraphQuery.Pattern

/-!
# Graph queries

A graph query collects its clauses in any order of calls. Unlike in a relational statement the
names of parameters are taken when a call is made, from one counter, and every piece carries the
parameters it refers to; a call that is turned down takes no name.
-/

namespace BoundQuery

/-- The clauses that are made of patterns. -/
inductive PatternClause where
  | matching
  | optional
  | unwind
  | condition
  | create
  | merge
  | assign
  deriving DecidableEq, Repr

structure GraphQuery where
  config : Config
  counter : Nat := 0
  patterns : PatternClause → List Pattern := fun _ => []
  withItems : List Value := []
  detachDeletes : List Text := []
  deletes : List Text := []
  returnItems : List Value := []
  orders : List Str := []
  skip : Option Pattern := none
  limit : Option Pattern := none

namespace GraphQuery

/-- The calls that make a pattern without placing it. -/
inductive Making where
  | node (identifier labels properties : Value)
  | relationship (identifier type properties direction : Value)
  | path (patterns : Value)

def Making.run : Making → Minting Pattern
  | node identifier labels properties => Pattern.node identifier labels properties
  | relationship identifier type properties direction =>
    Pattern.relationship identifier type properties direction
  | path patterns => Pattern.path patterns

/-- The shorthands for a comparison with one operator. -/
inductive Shorthand where
  | equals | member | notMember | contains | startsWith | endsWith
  deriving DecidableEq, Repr

def Shorthand.operator : Shorthand → Operator
  | equals => .eq
  | member => .oneOf
  | notMember => .noneOf
  | contains => .contains
  | startsWith => .startsWith
  | endsWith => .endsWith

inductive Call where
  | matching (pattern : Value)
  | optionalMatching (pattern : Value)
  | create (pattern : Value)
  | merge (pattern : Value)
  | unwind (items identifier : Value)
  | condition (fragment values : Value)
  | compare (identifier property operator operand : Value)
  | shorthand (s : Shorthand) (identifier property operand : Value)
  | null (identifier property : Value)
  | notNull (identifier property : Value)
  | filters (identifier mapping : Value)
  | assign (fragment values : Value)
  | setProperty (identifier property value : Value)
  | setProperties (identifier properties : Value)
  | withItems (items : List Value)
  | returnItems (items : List Value)
  | delete (targets : List Value)
  | detachDelete (targets : List Value)
  | orderBy (item direction : Value)
  | skip (count : Value)
  | limit (count : Value)

inductive Edit where
  | place (clause : PatternClause) (p : Pattern)
  | withItem (v : Value)
  | returnItem (v : Value)
  | delete (target : Text)
  | detachDelete (target : Text)
  | order (text : Str)
  | skip (p : Pattern)
  | limit (p : Pattern)

def apply (q : GraphQuery) : Edit → GraphQuery
  | .place clause p =>
    { q with patterns := fun c => if c = clause then q.patterns c ++ [p] else q.patterns c }
  | .withItem v => { q with withItems := q.withItems ++ [v] }
  | .returnItem v => { q with returnItems := q.returnItems ++ [v] }
  | .delete target => { q with deletes := q.deletes ++ [target] }
  | .detachDelete target => { q with detachDeletes := q.detachDeletes ++ [target] }
  | .order text => { q with orders := q.orders ++ [text] }
  | .skip p => { q with skip := some p }
  | .limit p => { q with limit := some p }

/-- A property of a named node or relationship. -/
def propertyRef (identifier property : Value) : Result Str := do
  let identifier ← Name.plain "identifier" identifier
  let property ← Name.plain "property" property
  return identifier.shown ++ "." ++ property.shown

/-- A raw fragment of the caller with its values bound. -/
def rawPattern (marker : List Chr) (fragment values : Value) : Minting Pattern :=
  match fragment with
  | .text t => do
    if t.isBlank then throw (.condition .blankFragment)
    Minting.fill (← Marker.template marker t (← values.elementsOrNone))
  | _ => throw (.condition .blankFragment)

/-- The patterns of the conditions that write anything. -/
def conditionEdits : List FieldCondition → Minting (List Edit)
  | [] => return []
  | c :: rest =>
    match c.template? .graph with
    | none => conditionEdits rest
    | some t => do
      let p ← Minting.fill t
      return .place .condition p :: (← conditionEdits rest)

def comparison (identifier property operator operand : Value) : Minting (List Edit) := do
  let field ← propertyRef identifier property
  conditionEdits [← FieldCondition.make .graph (.str field) operator operand]

def operatorValue (op : Operator) : Value :=
  .text (.term (.operator op))

/-- A filter on the properties of one identifier, with each property as a field of it. -/
def qualifiedEntry (identifier : Text) (entry : Value × Value) : Result (Value × Value) := do
  let property ← Name.plain "property" entry.1
  return (.str (identifier.shown ++ "." ++ property.shown), entry.2)

def unwound (items identifier : Value) : Minting Pattern := do
  let name ← Name.plain "unwind identifier" identifier
  match items with
  | .text t => return { text := "UNWIND " ++ t.shown ++ " AS " ++ name.shown }
  | v => Pattern.bound Named.defaultStem "UNWIND " (.list (← v.elements)) (" AS " ++ name.shown)

def assignedProperties (identifier properties : Value) : Minting Pattern := do
  let _ ← (← properties.elements).mapM (fun key => (Name.plain "property key" key : Result Text))
  let name ← Name.plain "identifier" identifier
  Pattern.bound Named.defaultStem (name.shown ++ " += ") (← properties.toMapping) ""

def placed (clause : PatternClause) (make : Minting Pattern) : Minting (List Edit) :=
  return [.place clause (← make)]

def orderText (item direction : Value) : Result Str := do
  let direction ← checkDirection direction
  let field ← Name.qualified "sort field" item
  return field.shown ++ " " ++ direction.spelling

def counted (what keyword : Str) (count : Value) : Minting Pattern := do
  Pattern.bound what keyword (.int (← checkCount what count)) ""

namespace Call

/-- The edits of a call that edits all or nothing. -/
def edits (marker : List Chr) : Call → Minting (List Edit)
  | matching pattern => placed .matching (Pattern.ofValue pattern)
  | optionalMatching pattern => placed .optional (Pattern.ofValue pattern)
  | create pattern => placed .create (Pattern.ofValue pattern)
  | merge pattern => placed .merge (Pattern.ofValue pattern)
  | unwind items identifier => placed .unwind (unwound items identifier)
  | condition fragment values => placed .condition (rawPattern marker fragment values)
  | compare identifier property operator operand =>
    comparison identifier property operator operand
  | shorthand s identifier property operand => do
    let operand ← if s = .member ∨ s = .notMember then
      (operand.elements).map .list else pure operand
    comparison identifier property (operatorValue s.operator) operand
  | null identifier property =>
    comparison identifier property (operatorValue .isNull) .null
  | notNull identifier property =>
    comparison identifier property (operatorValue .isNotNull) .null
  | filters identifier mapping => do
    let name ← Name.plain "identifier" identifier
    let entries ← (← mapping.items).mapM (fun entry => qualifiedEntry name entry)
    conditionEdits (← Filter.conditionsOfEntries .graph entries)
  | assign fragment values => placed .assign (rawPattern marker fragment values)
  | setProperty identifier property value => placed .assign do
    Pattern.bound Named.defaultStem ((← propertyRef identifier property) ++ " = ") value ""
  | setProperties identifier properties =>
    placed .assign (assignedProperties identifier properties)
  | withItems items => return items.map .withItem
  | returnItems items => return items.map .returnItem
  | orderBy item direction => return [.order (← orderText item direction)]
  | skip count => return [.skip (← counted "skip" "SKIP " count)]
  | limit count => return [.limit (← counted "limit" "LIMIT " count)]
  | delete _ | detachDelete _ => return []

def deleteTarget (v : Value) : Result Text :=
  Name.plain "delete target" v

/-- What a call edits when the counter stands at a number, and where the counter stands then. -/
def effect (marker : List Chr) (counter : Nat) : Call → Effect Edit × Nat
  | delete targets =>
    (.upToFault (fun v => (deleteTarget v).map .delete) targets, counter)
  | detachDelete targets =>
    (.upToFault (fun v => (deleteTarget v).map .detachDelete) targets, counter)
  | call =>
    let (answer, counter) := (call.edits marker).outcome counter
    (.ofResult answer, counter)

end Call

/-- Runs a call: the query after it, and why it was turned down if it was. -/
def step (q : GraphQuery) (call : Call) : GraphQuery × Option Fault :=
  let (effect, counter) := call.effect q.config.marker q.counter
  (effect.edits.foldl apply { q with counter }, effect.fault)

/-- Makes a pattern. -/
def make (q : GraphQuery) (making : Making) : Result Pattern × GraphQuery :=
  let (answer, counter) := making.run.outcome q.counter
  (answer, { q with counter })

/-- A run of calls that stops at the first that is turned down. -/
abbrev Building := StateT GraphQuery Result

namespace Building

def call (c : Call) : Building Unit := do
  let (q, fault?) := (← get).step c
  match fault? with
  | some fault => throw fault
  | none => set q

def makePattern (making : Making) : Building Pattern := do
  match (← get).make making with
  | (.ok p, q) => set q; return p
  | (.error fault, _) => throw fault

end Building
end GraphQuery
end BoundQuery
