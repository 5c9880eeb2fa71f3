import BoundQuery.Proofs.Placeholder.Inscription

/-!
# Stems and numbers

A name is a stem and a number after it. When the stem has no digits, both can be read back from the
name, so that names with different stems or numbers are different.

## Main definitions

* `Mark.rename` — the name with another number.

## Main statements

* `Mark.word_inj` — a name determines its stem and its number.
-/

namespace BoundQuery.Mark

/-- The part of a name before its first digit. -/
def stemOf (name : Str) : Str :=
  Str.ofList (name.toList.takeWhile fun c => !c.isDigit)

/-- The number that the rest of a name says. -/
def numberOf (name : Str) : Nat :=
  Chr.numberOf (name.toList.dropWhile fun c => !c.isDigit)

/-- The name with another number under the same stem. -/
def rename (f : Nat → Nat) (name : Str) : Str :=
  word (stemOf name) (f (numberOf name))

def IsDigitless (stem : Str) : Prop :=
  ∀ c ∈ stem.toList, c.isDigit = false

instance (stem : Str) : Decidable (IsDigitless stem) :=
  decidable_of_iff (stem.toList.all (fun c => !c.isDigit) = true) (by simp [IsDigitless])

variable {stem stem' : Str} {n n' : Nat}

theorem toList_word : (word stem n).toList = stem.toList ++ Chr.digits n := by
  simp [word]

theorem stemOf_word (h : IsDigitless stem) : stemOf (word stem n) = stem := by
  have before : ∀ c ∈ stem.toList, (!c.isDigit) = true := fun c mem => by simp [h c mem]
  have after : (Chr.digits n).takeWhile (fun c => !c.isDigit) = [] := by
    cases digits : Chr.digits n with
    | nil => rfl
    | cons c cs =>
      have digit : c.isDigit = true := Chr.isDigit_of_mem_digits (digits ▸ List.mem_cons_self)
      simp [digit]
  rw [stemOf, toList_word, List.takeWhile_append_of_pos before, after, List.append_nil,
    Str.ofList_toList]

theorem numberOf_word (h : IsDigitless stem) : numberOf (word stem n) = n := by
  have before : ∀ c ∈ stem.toList, (!c.isDigit) = true := fun c mem => by simp [h c mem]
  have after : (Chr.digits n).dropWhile (fun c => !c.isDigit) = Chr.digits n := by
    cases digits : Chr.digits n with
    | nil => rfl
    | cons c cs =>
      have digit : c.isDigit = true := Chr.isDigit_of_mem_digits (digits ▸ List.mem_cons_self)
      simp [digit]
  rw [numberOf, toList_word, List.dropWhile_append_of_pos before, after,
    Chr.numberOf_digits]

theorem rename_word (f : Nat → Nat) (h : IsDigitless stem) :
    rename f (word stem n) = word stem (f n) := by
  rw [rename, stemOf_word h, numberOf_word h]

/-- A name determines its stem and its number. -/
theorem word_inj (h : IsDigitless stem) (h' : IsDigitless stem')
    (same : word stem n = word stem' n') :
    stem = stem' ∧ n = n' := by
  have stems := congrArg stemOf same
  have numbers := congrArg numberOf same
  rw [stemOf_word h, stemOf_word h'] at stems
  rw [numberOf_word h, numberOf_word h'] at numbers
  exact ⟨stems, numbers⟩

end BoundQuery.Mark
