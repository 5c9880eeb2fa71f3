import BoundQuery.Name
import BoundQuery.Parameters.Named
import BoundQuery.Validation
import BoundQuery.Value.Access

/-!
# Graph patterns

A piece of a graph query together with the names it binds and the parameters it refers to. The
properties of a node or a relationship are bound as one parameter, a mapping, from which each key
is read.
-/

namespace BoundQuery

structure Pattern where
  text : Str
  identifiers : List Text := []
  params : Bindings := []

/-- Work that may take new parameter names. A number that has been taken stays taken, also when the
work is turned down later on. -/
abbrev Minting := ExceptT Fault (StateM Nat)

namespace Minting

/-- The answer of some work when the counter stands at a number, and where the counter stands
then. -/
def outcome {α : Type} (m : Minting α) (counter : Nat) : Result α × Nat :=
  StateT.run (ExceptT.run m) counter

/-- The next number of the counter behind a stem. -/
def name (stem : Str) : Minting Str := do
  let (name, store) := Named.generateName stem { counter := ← get }
  set store.counter
  return name

/-- Writes a template, with a store that holds the values of its slots alone. -/
def fill (t : Template) : Minting Pattern := do
  let (text, store) := Named.fill t { counter := ← get }
  set store.counter
  return { text, params := store.values }

end Minting

namespace Pattern

def toValue (p : Pattern) : Value :=
  .pattern p.text p.identifiers p.params

def isBlank (p : Pattern) : Bool :=
  Chars.isAllBlank p.text

/-- A pattern that says something, or the text of one. -/
def ofValue (v : Value) : Result Pattern :=
  match v with
  | .pattern text identifiers params =>
    if Chars.isAllBlank text then .error (.argument (.notPattern v))
    else .ok { text, identifiers, params }
  | .text t =>
    if Chars.isAllBlank t.spelling then .error (.argument (.notPattern v))
    else .ok { text := t.shown }
  | v => .error (.argument (.notPattern v))

/-- A value bound to a new name between two texts. -/
def bound (stem before : Str) (v : Value) (after : Str) : Minting Pattern := do
  let name ← Minting.name stem
  return { text := before ++ "$" ++ name ++ after, params := [(name, v)] }

def labels (v : Value) : Result (List Value) :=
  if v.isNull then .ok [] else v.asList

/-- The name a caller gives to a node or relationship, if any. -/
def identifier? (context : Str) (v : Value) : Result (Option Text) :=
  if v.isTruthy then (Name.plain context v).map some else .ok none

def optionalSpelling : Option Text → Str
  | some t => t.spelling
  | none => ""

/-- One key of a property mapping, read from the parameter that holds the mapping. -/
def propertyText (param : Str) (key : Text) : Str :=
  key.shown ++ ": $" ++ param ++ "." ++ key.shown

def propertiesText (param : Str) (keys : List Text) : Str :=
  " \x7b" ++ Str.intercalate ", " (keys.map (propertyText param)) ++ "\x7d"

/-- The text and the parameter of a property mapping; there are none when no properties are
given. -/
def properties (stem : Str) (v : Value) : Minting (Str × Bindings) := do
  if v.isTruthy then
    let keys ← (← v.elements).mapM (fun key => (Name.plain "property key" key : Result Text))
    let mapping ← v.toMapping
    let param ← Minting.name stem
    return (propertiesText param keys, [(param, mapping)])
  else return ("", [])

def node (identifier labels properties : Value) : Minting Pattern := do
  let identifier ← identifier? "node identifier" identifier
  let labels ← (← Pattern.labels labels).mapM (fun l => (Name.plain "label" l : Result Text))
  let (propertiesText, params) ← Pattern.properties "props" properties
  let labelsText := Str.join (labels.map fun l => ":" ++ l.shown)
  return { text := "(" ++ optionalSpelling identifier ++ labelsText ++ propertiesText ++ ")"
           identifiers := identifier.toList
           params }

def tailOf : RelDirection → Str
  | .inward => "<-"
  | _ => "-"

def tipOf : RelDirection → Str
  | .outward => "->"
  | _ => "-"

def typeText : Option Text → Str
  | some t => ":" ++ t.shown
  | none => ""

def relationship (identifier type properties direction : Value) : Minting Pattern := do
  let direction ← checkRelDirection direction
  let identifier ← identifier? "relationship identifier" identifier
  let type ← identifier? "relationship type" type
  let (propertiesText, params) ← Pattern.properties "relProps" properties
  let inner := optionalSpelling identifier ++ typeText type ++ propertiesText
  return { text := tailOf direction ++ "[" ++ inner ++ "]" ++ tipOf direction
           identifiers := identifier.toList
           params }

/-- Adds the names that are not there yet. -/
def addNames (known : List Text) (names : List Text) : List Text :=
  names.foldl (fun made name =>
    if made.any (fun other => other.spelling == name.spelling) then made else made ++ [name]) known

def append (p q : Pattern) : Pattern where
  text := p.text ++ q.text
  identifiers := addNames p.identifiers q.identifiers
  params := p.params.merge q.params

def empty : Pattern where
  text := ""

def concat (ps : List Pattern) : Pattern :=
  ps.foldl append empty

/-- An element of a path; only patterns have a text of their own. -/
def ofPathElement : Value → Result Pattern
  | .pattern text identifiers params => .ok { text, identifiers, params }
  | v => .error (.misuse (.noMember v "text"))

def path (patterns : Value) : Result Pattern := do
  return concat (← (← patterns.elements).mapM ofPathElement)

end Pattern
end BoundQuery
