import BoundQuery.Template

/-!
# Positional parameters

Placeholders `$1`, `$2`, … in the order in which values are added: the number of a placeholder is
the place of its value, which is how a driver binds it.
-/

namespace BoundQuery

structure Positional where
  values : List Value := []

namespace Positional

def placeholder (n : Nat) : Str :=
  "$" ++ Str.ofNat n

def add (v : Value) (p : Positional) : Str × Positional :=
  (placeholder (p.values.length + 1), ⟨p.values ++ [v]⟩)

def fill (t : Template) (p : Positional) : Str × Positional :=
  t.fill add p

@[simp] theorem values_fill (t : Template) (p : Positional) :
    (p.fill t).2.values = p.values ++ t.values := by
  unfold fill
  induction t generalizing p with
  | nil => simp [Template.fill, Template.values]
  | cons piece rest ih => cases piece <;> simp [Template.fill, Template.values, ih, add]

end Positional
end BoundQuery
