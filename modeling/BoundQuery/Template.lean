import BoundQuery.Value.Basic

/-!
# Templates

A statement before its parameters have names: pieces of text and, between them, slots that each
hold the value which belongs at that place. Filling a template writes a placeholder into each slot
from left to right, as a store of parameters mints it.
-/

namespace BoundQuery

inductive Piece where
  | text (s : Str)
  | slot (v : Value)

abbrev Template := List Piece

namespace Template

/-- The values in the slots, from left to right. -/
def values : Template → List Value
  | [] => []
  | .text _ :: rest => values rest
  | .slot v :: rest => v :: values rest

/-- The text that `write` makes of each slot's value at its own place. -/
def print (write : Value → Str) : Template → Str
  | [] => ""
  | .text s :: rest => s ++ print write rest
  | .slot v :: rest => write v ++ print write rest

/-- Writes what `mint` makes of each slot, which may change a store. -/
def fill {σ : Type} (mint : Value → σ → Str × σ) : Template → σ → Str × σ
  | [], store => ("", store)
  | .text s :: rest, store =>
    let (tail, store) := fill mint rest store
    (s ++ tail, store)
  | .slot v :: rest, store =>
    let (placeholder, store) := mint v store
    let (tail, store) := fill mint rest store
    (placeholder ++ tail, store)

/-- Text pieces and values by turns, starting with a piece. -/
def weave : List (List Chr) → List Value → Template
  | [], _ => []
  | piece :: pieces, v :: vs => .text (Str.ofList piece) :: .slot v :: weave pieces vs
  | piece :: _, [] => [.text (Str.ofList piece)]

/-- Slots for a list of values with a text between each two. -/
def slots (separator : Str) : List Value → Template
  | [] => []
  | [v] => [.slot v]
  | v :: vs => .slot v :: .text separator :: slots separator vs

/-- Templates with a text between each two. -/
def join (separator : Str) : List Template → Template
  | [] => []
  | [t] => t
  | t :: ts => t ++ .text separator :: join separator ts

@[simp] theorem values_append (s t : Template) : values (s ++ t) = values s ++ values t := by
  fun_induction values s <;> simp_all [values]

@[simp] theorem print_append (write : Value → Str) (s t : Template) :
    print write (s ++ t) = print write s ++ print write t := by
  fun_induction print write s <;> simp_all [print, Str.append_assoc]

end Template
end BoundQuery
