import BoundQuery.Proofs.Placeholder.Word
import Mathlib.Data.List.Induction
import Mathlib.Data.Set.Defs

/-!
# Stems that keep names apart

A name is a stem with a number right after it. Names with different numbers can still be the same
text: `p1` with the number 1 is `p` with the number 11. This can happen just when a stem is another
stem with a number after it.

## Main definitions

* `Mark.StemsApart` — no stem is another one with a number after it.

## Main statements

* `Mark.StemsApart.word_ne` — such stems with different numbers are different names.
* `Mark.word_word` — a stem that is another one with a number after it is a name of that one too.
-/

namespace BoundQuery.Mark

/-- No stem is another one with a number after it. -/
def StemsApart (stems : Set Str) : Prop :=
  ∀ s ∈ stems, ∀ t ∈ stems, ∀ n > 0, s ≠ word t n

variable {stems : Set Str} {s t : Str} {m n : Nat}

/-! ## Digits -/

theorem eq_of_toDigits_eq (same : Nat.toDigits 10 m = Nat.toDigits 10 n) : m = n := by
  have numbers := congrArg (fun digits => Nat.ofDigitChars 10 digits 0) same
  simpa only [Nat.ofDigitChars_ten_toDigits] using numbers

theorem eq_of_digits_eq (same : Chr.digits m = Chr.digits n) : m = n :=
  eq_of_toDigits_eq ((List.map_inj_right fun _ _ => Chr.scalar.inj).1 same)

/-- The first digits of a number are those of a number; the induction takes the last digit off. -/
theorem exists_toDigits_of_append {front back : List Char} (nonempty : front ≠ [])
    (positive : 0 < n) (same : Nat.toDigits 10 n = front ++ back) :
    ∃ m > 0, front = Nat.toDigits 10 m := by
  induction back using List.reverseRecOn generalizing n with
  | nil => exact ⟨n, positive, by simpa using same.symm⟩
  | append_singleton back c ih =>
    have longer : 10 ≤ n := by
      by_contra small
      rw [Nat.not_le] at small
      have length := congrArg List.length same
      have front := List.length_pos_iff.2 nonempty
      rw [Nat.toDigits_of_lt_base small] at length
      simp only [List.length_append, List.length_singleton] at length
      omega
    rw [Nat.toDigits_of_base_le (by decide) longer, ← List.append_assoc] at same
    exact ih (by omega) (List.append_inj_left' same rfl)

theorem exists_digits_of_append {front back : List Chr} (nonempty : front ≠ [])
    (positive : 0 < n) (same : Chr.digits n = front ++ back) :
    ∃ m > 0, front = Chr.digits m := by
  obtain ⟨cs, ds, digits, rfl, rfl⟩ := List.map_eq_append_iff.1 same
  obtain ⟨m, above, rfl⟩ := exists_toDigits_of_append (by simpa using nonempty) positive digits
  exact ⟨m, above, rfl⟩

/-- The digits of a smaller number are not those of a larger one with others before them. -/
theorem digits_ne_append (less : m < n) (front : List Chr) :
    Chr.digits m ≠ front ++ Chr.digits n := by
  intro same
  have bound : (Nat.toDigits 10 n).length ≤ (Nat.toDigits 10 n).length := Nat.le_refl _
  rw [Nat.length_toDigits_le_iff (by decide) Nat.length_toDigits_pos] at bound
  have shorter : (Nat.toDigits 10 m).length ≤ (Nat.toDigits 10 n).length := by
    rw [Nat.length_toDigits_le_iff (by decide) Nat.length_toDigits_pos]
    omega
  have none : front = [] := by
    have lengths := congrArg List.length same
    simp only [Chr.digits, List.length_map, List.length_append] at lengths
    exact List.length_eq_zero_iff.1 (by omega)
  rw [none, List.nil_append] at same
  exact absurd (eq_of_digits_eq same) (by omega)

/-! ## Names -/

/-- The name of a smaller number is not that of a larger one when the stems are apart. -/
theorem StemsApart.word_ne (apart : StemsApart stems) (hs : s ∈ stems) (ht : t ∈ stems)
    (less : m < n) : word s m ≠ word t n := by
  intro same
  have chars := congrArg Str.toList same
  rw [toList_word, toList_word] at chars
  rcases List.append_eq_append_iff.1 chars with ⟨front, _, digits⟩ | ⟨front, stem, digits⟩
  · exact digits_ne_append less front digits
  · by_cases none : front = []
    · rw [none, List.nil_append] at digits
      exact absurd (eq_of_digits_eq digits) (by omega)
    · obtain ⟨k, positive, rfl⟩ := exists_digits_of_append none (by omega) digits
      refine apart s hs t ht k positive (Str.toList_inj.1 ?_)
      rw [stem, toList_word]

/-- A stem that is another one with a number after it is a name of that one too. -/
theorem word_word (positive : 0 < n) : word (word t n) 1 = word t (10 * n + 1) := by
  apply Str.toList_inj.1
  rw [toList_word, toList_word, toList_word, List.append_assoc,
    Chr.digits, Chr.digits, ← List.map_append,
    Nat.toDigits_append_toDigits (by decide) positive (by decide), Chr.digits]

/-- Stems without digits are apart. -/
theorem stemsApart_of_isDigitless (h : ∀ s ∈ stems, IsDigitless s) : StemsApart stems := by
  intro s hs t _ n _ same
  obtain ⟨c, digits, cs⟩ := List.exists_cons_of_ne_nil (Chr.digits_ne_nil n)
  have inside : c ∈ s.toList := by
    rw [same, toList_word, cs]
    simp
  have digit : c.isDigit = true := Chr.isDigit_of_mem_digits (cs ▸ List.mem_cons_self)
  rw [h s hs c inside] at digit
  cases digit

end BoundQuery.Mark
