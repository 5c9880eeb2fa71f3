import BoundQuery.Value.Order

/-!
# Taking values apart

The elements that a value is made of, its entries, the mapping it can be turned into, and the texts
that the elements of a list are. What a value of the wrong kind is misused for is said by the error.
-/

namespace BoundQuery.Value

/-- The elements of a value: the characters of a text, the keys of a mapping. -/
def elements : Value → Result (List Value)
  | .text t => .ok (t.chars.map fun c => .str (Str.singleton c))
  | .list xs | .tuple xs | .set xs => .ok xs
  | .map entries => .ok (entries.map (·.1))
  | v => .error (.misuse (.notIterable v))

/-- The elements of a value that is given, and none of one that is not. -/
def elementsOrNone (v : Value) : Result (List Value) :=
  if v.isTruthy then v.elements else .ok []

/-- The entries of a mapping, which is asked for them as its `member`. -/
def entriesFor (member : Str) : Value → Result (List (Value × Value))
  | .map entries => .ok entries
  | v => .error (.misuse (.noMember v member))

def items (v : Value) : Result (List (Value × Value)) :=
  v.entriesFor "items"

/-- A text stands for itself, any other value for the list of its elements. -/
def asList (v : Value) : Result (List Value) :=
  match v with
  | .text _ => .ok [v]
  | v => v.elements

mutual

/-- Whether a value can be a key: lists, sets and mappings cannot, nor what holds one. -/
def unhashable? : Value → Option Value
  | .list xs => some (.list xs)
  | .set xs => some (.set xs)
  | .map entries => some (.map entries)
  | .tuple xs => unhashableIn? xs
  | .comparator _ operand => unhashable? operand
  | .pattern _ _ bindings => some (.record bindings)
  | _ => none

def unhashableIn? : List Value → Option Value
  | [] => none
  | x :: xs => (unhashable? x).orElse fun _ => unhashableIn? xs

end

/-- A value that can be a key. -/
def checkKey (key : Value) : Result Value :=
  match key.unhashable? with
  | some bad => .error (.misuse (.unhashable bad))
  | none => .ok key

/-- Puts an entry into a mapping: a key that is there keeps its place. -/
def putEntry (key value : Value) : List (Value × Value) → List (Value × Value)
  | [] => [(key, value)]
  | (k, v) :: rest =>
    if k.sameKey key then (k, value) :: rest else (k, v) :: putEntry key value rest

/-- The entries that pairs spell, from the `index`-th pair on, after those already `made`. -/
def pairs : Nat → List Value → List (Value × Value) → Result (List (Value × Value))
  | _, [], made => .ok made
  | index, pair :: rest, made => do
    match ← pair.elements with
    | [key, value] => pairs (index + 1) rest (putEntry (← checkKey key) value made)
    | xs => throw (.setting (.pairLength index xs.length))

/-- The mapping that a value stands for: itself, or the pairs that its elements are. -/
def toMapping (v : Value) : Result Value :=
  match v with
  | .map entries => .ok (.map entries)
  | v => do
    let xs ← v.elements
    return .map (← pairs 0 xs [])

/-- The mapping of one key to one value. -/
def singleton (key value : Value) : Result Value :=
  return .map [(← checkKey key, value)]

end BoundQuery.Value

namespace BoundQuery

/-- The spelling of each element, from place `index` on; only texts have one. -/
def spellings : Nat → List Value → Result (List Str)
  | _, [] => .ok []
  | index, .text t :: rest => (spellings (index + 1) rest).map (t.spelling :: ·)
  | index, v :: _ => .error (.misuse (.notText index v))

end BoundQuery
