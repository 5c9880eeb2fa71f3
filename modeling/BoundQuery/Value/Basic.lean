import BoundQuery.Number.Binary64
import BoundQuery.Vocabulary

/-!
# Values

The values that callers bind into statements or describe statements with. A mapping keeps its
entries in the order in which they were written. A comparator is a comparison that waits for its
field, and a pattern is a piece of a graph query together with the parameters it refers to.
-/

namespace BoundQuery

/-- The comparisons that a filter can ask for; `unnamed` is the one that compares for equality
without being asked to. -/
inductive Comparison where
  | unnamed
  | eq | ne | lt | lte | gt | gte
  | like | ilike
  | oneOf | noneOf
  | isNull | isNotNull
  | contains | startsWith | endsWith
  deriving DecidableEq, Repr

namespace Comparison

def all : List Comparison :=
  [.unnamed, .eq, .ne, .lt, .lte, .gt, .gte, .like, .ilike, .oneOf, .noneOf, .isNull, .isNotNull,
    .contains, .startsWith, .endsWith]

def name : Comparison → Str
  | unnamed => "Comparator"
  | eq => "Eq"
  | ne => "Ne"
  | lt => "Lt"
  | lte => "Lte"
  | gt => "Gt"
  | gte => "Gte"
  | like => "Like"
  | ilike => "ILike"
  | oneOf => "In"
  | noneOf => "NotIn"
  | isNull => "IsNull"
  | isNotNull => "IsNotNull"
  | contains => "Contains"
  | startsWith => "StartsWith"
  | endsWith => "EndsWith"

def ofName? (s : Str) : Option Comparison :=
  all.find? fun c => c.name == s

def operator : Comparison → Operator
  | unnamed | eq => .eq
  | ne => .ne
  | lt => .lt
  | lte => .lte
  | gt => .gt
  | gte => .gte
  | like => .like
  | ilike => .ilike
  | oneOf => .oneOf
  | noneOf => .noneOf
  | isNull => .isNull
  | isNotNull => .isNotNull
  | contains => .contains
  | startsWith => .startsWith
  | endsWith => .endsWith

end Comparison

inductive Value where
  | null
  | bool (b : Bool)
  | int (i : Int)
  | float (x : Binary64)
  | text (t : Text)
  | list (xs : List Value)
  | tuple (xs : List Value)
  | set (xs : List Value)
  | map (entries : List (Value × Value))
  | comparator (comparison : Comparison) (operand : Value)
  | pattern (text : Str) (identifiers : List Text) (bindings : List (Str × Value))
  deriving Inhabited

namespace Value

/-- A text of plain characters. -/
@[match_pattern] abbrev str (s : Str) : Value :=
  .text (.plain s)

def strings (ss : List Str) : List Value :=
  ss.map .str

/-- The mapping with the given texts as keys. -/
def record (fields : List (Str × Value)) : Value :=
  .map (fields.map fun (key, value) => (.str key, value))

def isNull : Value → Bool
  | null => true
  | _ => false

/-- Whether a value counts as given: null, zero, false and everything empty do not. -/
def isTruthy : Value → Bool
  | null => false
  | bool b => b
  | int i => i != 0
  | float x => !x.isZero
  | text t => !t.isEmpty
  | list xs | tuple xs | set xs => !xs.isEmpty
  | map entries => !entries.isEmpty
  | comparator _ _ | pattern _ _ _ => true

def isMap : Value → Bool
  | map _ => true
  | _ => false

def typeName : Value → Str
  | null => "NoneType"
  | bool _ => "bool"
  | int _ => "int"
  | float _ => "float"
  | str _ => "str"
  | text (.term t) => t.vocabulary
  | list _ => "list"
  | tuple _ => "tuple"
  | set _ => "set"
  | map _ => "dict"
  | comparator c _ => c.name
  | pattern _ _ _ => "Pattern"

/-- Where a number lies; truth values count as one and zero. -/
def measure? : Value → Option Measure
  | bool b => some (.ofInt b.toNat)
  | int i => some (.ofInt i)
  | float x => some x.measure
  | _ => none

/-- Whether a value is a text with the given characters. -/
def isText (v : Value) (s : Str) : Bool :=
  match v with
  | text t => t.spelling == s
  | _ => false

/-- The value of a key among entries. -/
def field? (entries : List (Value × Value)) (key : Str) : Option Value :=
  (entries.find? fun entry => entry.1.isText key).map (·.2)

/-- The value of a key, or null when there is none. -/
def field (entries : List (Value × Value)) (key : Str) : Value :=
  (field? entries key).getD .null

end Value
end BoundQuery
