import BoundQuery.Error.Basic

/-!
# Order of keys

Texts are ordered by their characters, numbers by size and tuples element by element; values of
different kinds have no order, so a list that mixes them cannot be sorted.
-/

namespace BoundQuery.Value

mutual

/-- Whether two keys are equal: texts by their characters, numbers by size. -/
def sameKey : Value → Value → Bool
  | .null, .null => true
  | .text a, .text b => a.spelling == b.spelling
  | .tuple xs, .tuple ys => sameKeys xs ys
  | x, y =>
    match x.measure?, y.measure? with
    | some a, some b => !a.lt b && !b.lt a && a != .nowhere && b != .nowhere
    | _, _ => false

def sameKeys : List Value → List Value → Bool
  | [], [] => true
  | x :: xs, y :: ys => sameKey x y && sameKeys xs ys
  | _, _ => false

end

mutual

def less : Value → Value → Result Bool
  | .text a, .text b => .ok (decide (a.spelling < b.spelling))
  | .tuple xs, .tuple ys => lessList xs ys
  | x, y =>
    match x.measure?, y.measure? with
    | some a, some b => .ok (a.lt b)
    | _, _ => .error (.misuse (.unordered x y))

/-- The first elements that differ decide, and otherwise the lengths. -/
def lessList : List Value → List Value → Result Bool
  | _, [] => .ok false
  | [], _ :: _ => .ok true
  | x :: xs, y :: ys => if sameKey x y then lessList xs ys else less x y

end

/-- Puts an element before the first that is not below it. -/
def insertSorted {α : Type} (key : α → Value) (x : α) : List α → Result (List α)
  | [] => .ok [x]
  | y :: ys => do
    if ← less (key y) (key x) then return y :: (← insertSorted key x ys)
    else return x :: y :: ys

/-- The elements in the order of their keys. -/
def sortedBy {α : Type} (key : α → Value) : List α → Result (List α)
  | [] => .ok []
  | x :: xs => do insertSorted key x (← sortedBy key xs)

end BoundQuery.Value
