import BoundQuery.Value.Access
import BoundQuery.Value.Display

/-!
# JSON trees

A value as JSON: tuples become lists, texts lose whether they are members of a vocabulary, and
values that JSON has no form for are written as they are shown. Keys become texts; a key that JSON
has no text for is refused.
-/

namespace BoundQuery

inductive Json where
  | null
  | bool (b : Bool)
  | int (i : Int)
  | float (x : Binary64)
  | str (s : Str)
  | arr (xs : List Json)
  | obj (fields : List (Str × Json))
  deriving Inhabited

namespace Json

def keyText : Value → Result Str
  | .text t => .ok t.spelling
  | .float x => .ok (DecimalFormat.json.text x)
  | .bool b => .ok (if b then "true" else "false")
  | .null => .ok "null"
  | .int i => .ok (Str.ofInt i)
  | v => .error (.misuse (.notKey v))

def keyed (field : Value × Json) : Result (Str × Json) :=
  return (← keyText field.1, field.2)

mutual

/-- The tree of a value, with the fields of mappings sorted by their keys or in their own order. -/
def ofValue (sorted : Bool) : Value → Result Json
  | .null => .ok .null
  | .bool b => .ok (.bool b)
  | .int i => .ok (.int i)
  | .float x => .ok (.float x)
  | .text t => .ok (.str t.spelling)
  | .list xs => (ofList sorted xs).map .arr
  | .tuple xs => (ofList sorted xs).map .arr
  | .map entries => do
    let fields ← ofEntries sorted entries
    let fields ← if sorted then Value.sortedBy Prod.fst fields else pure fields
    return .obj (← fields.mapM keyed)
  | v => .ok (.str v.shown)

def ofList (sorted : Bool) : List Value → Result (List Json)
  | [] => .ok []
  | x :: xs => do return (← ofValue sorted x) :: (← ofList sorted xs)

def ofEntries (sorted : Bool) : List (Value × Value) → Result (List (Value × Json))
  | [] => .ok []
  | (key, value) :: rest => do return (key, ← ofValue sorted value) :: (← ofEntries sorted rest)

end

mutual

/-- The value of a tree; a field that comes again takes the later value. -/
def toValue : Json → Value
  | .null => .null
  | .bool b => .bool b
  | .int i => .int i
  | .float x => .float x
  | .str s => .str s
  | .arr xs => .list (toValues xs)
  | .obj fields => .map (toEntries [] fields)

def toValues : List Json → List Value
  | [] => []
  | x :: xs => toValue x :: toValues xs

def toEntries (made : List (Value × Value)) : List (Str × Json) → List (Value × Value)
  | [] => made
  | (key, x) :: rest => toEntries (Value.putEntry (.str key) (toValue x) made) rest

end

end Json
end BoundQuery
