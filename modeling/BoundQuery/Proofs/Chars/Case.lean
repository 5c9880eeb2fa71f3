import BoundQuery.Chars.Case
import Mathlib.Data.List.Basic

/-!
# Upper case is upper case already

The full mapping sends no character to one that it would send on, so that a text in upper case is
its own upper case. The characters that are sent on and those that come out are two finite sets, and
the tables are compared as such: a set of codes is a number with those bits.

## Main definitions

* `Chars.bits` — a set of codes as the bits of a number.
* `Chars.raised`, `Chars.reached` — the codes outside ASCII that the mapping changes, and the codes
  to which it changes them.

## Main statements

* `Chars.upper_upper` — the upper case of an upper case is that upper case.
-/

namespace BoundQuery.Chars

/-! ## Sets of codes -/

/-- The number whose bits are the codes of a list. -/
def bits (codes : List Nat) : Nat :=
  codes.foldr (fun n made => made ||| 1 <<< n) 0

theorem testBit_bits (codes : List Nat) (n : Nat) : (bits codes).testBit n = codes.contains n := by
  induction codes with
  | nil => simp [bits]
  | cons m codes ih =>
    have step : bits (m :: codes) = bits codes ||| 1 <<< m := rfl
    rw [step, Nat.testBit_or, ih, Nat.one_shiftLeft, Nat.testBit_two_pow, List.contains_cons,
      Bool.or_comm]
    congr 1
    exact decide_eq_decide.2 ⟨Eq.symm, Eq.symm⟩

theorem notMem_of_bits {codes others : List Nat} (apart : bits codes &&& bits others = 0) {n : Nat}
    (mem : n ∈ codes) : n ∉ others := by
  intro mem'
  have common := congrArg (Nat.testBit · n) apart
  simp [Nat.testBit_and, testBit_bits, mem, mem'] at common

/-! ## The tables of upper case -/

def Shift.codes (s : Shift) : List Nat :=
  List.range' s.first ((s.last - s.first) / s.step + 1) s.step

theorem Shift.mem_codes {s : Shift} {n : Nat} (h : s.covers n = true) : n ∈ s.codes := by
  simp only [covers, Bool.and_eq_true, decide_eq_true_eq, beq_iff_eq] at h
  obtain ⟨⟨least, most⟩, onStep⟩ := h
  refine List.mem_range'.2 ⟨(n - s.first) / s.step, ?_, ?_⟩
  · exact Nat.lt_succ_of_le (Nat.div_le_div_right (Nat.sub_le_sub_right most _))
  · rw [Nat.mul_div_cancel' (Nat.dvd_of_mod_eq_zero onStep)]
    omega

/-- The codes outside ASCII with an upper case of their own. -/
def raised : List Nat :=
  upperExpansions.map (·.1) ++ upperShifts.flatMap Shift.codes

/-- The codes in the upper cases of other codes. -/
def reached : List Nat :=
  upperExpansions.flatMap (·.2) ++
    upperShifts.flatMap fun s => s.codes.map fun n : Nat => (n + s.delta).toNat

theorem mem_raised_of_lookup {n : Nat} {codes : List Nat}
    (expanded : upperExpansions.lookup n = some codes) : n ∈ raised ∧ codes ⊆ reached := by
  obtain ⟨before, after, split, _⟩ := List.lookup_eq_some_iff.1 expanded
  have mem : (n, codes) ∈ upperExpansions := by simp [split]
  exact ⟨List.mem_append_left _ (List.mem_map_of_mem mem),
    fun m inCodes => List.mem_append_left _ (List.mem_flatMap.2 ⟨_, mem, inCodes⟩)⟩

theorem shifted_mem_reached {n : Nat} (changed : shifted upperShifts n ≠ n) :
    n ∈ raised ∧ shifted upperShifts n ∈ reached := by
  unfold shifted at changed ⊢
  split
  · next s found =>
    have mem := List.mem_of_find?_eq_some found
    have inRun := Shift.mem_codes (List.find?_some (p := fun s : Shift => s.covers n) found)
    exact ⟨List.mem_append_right _ (List.mem_flatMap.2 ⟨s, mem, inRun⟩),
      List.mem_append_right _ (List.mem_flatMap.2 ⟨s, mem, List.mem_map_of_mem inRun⟩)⟩
  · next missing =>
    rw [missing] at changed
    exact absurd rfl changed

/-- The mapping changes no code that it reaches, and none of ASCII but the small letters. -/
theorem notMem_raised {n : Nat} (h : n ∈ reached ∨ n < 128) : n ∉ raised := by
  have apart : bits (reached ++ List.range 128) &&& bits raised = 0 := by decide +kernel
  exact notMem_of_bits apart (by simpa using h)

theorem notMem_small {n : Nat} (mem : n ∈ reached) : n ∉ List.range' 97 26 :=
  notMem_of_bits (by decide +kernel) mem

/-! ## Characters in upper case -/

/-- A character that is its own upper case. -/
def IsUpper (c : Chr) : Prop :=
  upperChar c = [c]

theorem isUpper_of_notMem {c : Chr} (small : c.toNat ∉ List.range' 97 26)
    (kept : c.toNat ∉ raised) : IsUpper c := by
  unfold IsUpper upperChar
  split
  · have kept : c.toUpper = c := by
      cases c with
      | lone unit => rfl
      | scalar c =>
        have notSmall : ¬ ('a'.val ≤ c.val ∧ c.val ≤ 'z'.val) := by
          rintro ⟨least, most⟩
          exact small (List.mem_range'_1.2 ⟨least, Nat.lt_succ_of_le most⟩)
        exact congrArg Chr.scalar (dif_neg notSmall)
    rw [kept]
  · split
    · next codes expanded => exact absurd (mem_raised_of_lookup expanded).1 kept
    · have same : shifted upperShifts c.toNat = c.toNat := by
        by_contra changed
        exact kept (shifted_mem_reached changed).1
      rw [same, Chr.ofNat_toNat]

/-- A code that is no character stands for the first one, which has no case. -/
theorem isUpper_ofNat {n : Nat} (mem : n ∈ reached) : IsUpper (Chr.ofNat n) := by
  rcases Nat.lt_or_ge n 0x110000 with valid | invalid
  · have same := Chr.toNat_ofNat valid
    refine isUpper_of_notMem ?_ ?_
    · rw [same]
      exact notMem_small mem
    · rw [same]
      exact notMem_raised (.inl mem)
  · rw [Chr.ofNat_of_le invalid]
    exact isUpper_of_notMem (by decide) (notMem_raised (.inr (by decide)))

theorem isUpper_toUpper {c : Chr} (ascii : c.toNat < 128) : IsUpper c.toUpper := by
  have all : ∀ n < 128, upperChar (Chr.ofNat n).toUpper = [(Chr.ofNat n).toUpper] := by decide
  simpa [IsUpper, Chr.ofNat_toNat] using all c.toNat ascii

theorem isUpper_of_mem_upperChar {c d : Chr} (mem : d ∈ upperChar c) : IsUpper d := by
  unfold upperChar at mem
  split at mem
  · next ascii =>
    rw [List.mem_singleton.1 mem]
    exact isUpper_toUpper ascii
  · next other =>
    split at mem
    · next codes expanded =>
      obtain ⟨n, inCodes, rfl⟩ := List.mem_map.1 mem
      exact isUpper_ofNat ((mem_raised_of_lookup expanded).2 inCodes)
    · next single =>
      rw [List.mem_singleton.1 mem]
      by_cases same : shifted upperShifts c.toNat = c.toNat
      · have alone : upperChar c = [c] := by
          rw [upperChar, if_neg other, single, same, Chr.ofNat_toNat]
        rwa [same, Chr.ofNat_toNat]
      · exact isUpper_ofNat (shifted_mem_reached same).2

/-! ## Texts -/

theorem upper_of_isUpper {s : Str} (h : ∀ c ∈ s.toList, IsUpper c) : upper s = s := by
  rw [upper, List.flatMap_congr h, List.flatMap_singleton', Str.ofList_toList]

/-- What is in upper case stays as it is. -/
theorem upper_upper (s : Str) : upper (upper s) = upper s := by
  refine upper_of_isUpper fun d mem => ?_
  obtain ⟨c, _, mem⟩ := List.mem_flatMap.1 (by simpa [upper] using mem)
  exact isUpper_of_mem_upperChar mem

end BoundQuery.Chars
