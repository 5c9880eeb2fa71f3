import BoundQuery.Number.Decimal
import BoundQuery.Proofs.Parameters.Stem

/-!
# The form of written numbers

A number that is finite is written in the form that JSON gives to numbers: a sign, digits with no
zero in front, a fraction and an exponent, of which all but the digits may be missing.

## Main definitions

* `Number.IsNumber` — the numbers of JSON.

## Main statements

* `Number.isNumber_text` — finite numbers are written as numbers.
-/

namespace BoundQuery

namespace Number

def IsDigits (cs : List Char) : Prop :=
  cs ≠ [] ∧ ∀ c ∈ cs, c.isDigit = true

/-- Digits with a zero in front only when it stands alone. -/
def IsWhole (cs : List Char) : Prop :=
  IsDigits cs ∧ (cs.head? = some '0' → cs = ['0'])

def IsSign (cs : List Char) : Prop :=
  cs = [] ∨ cs = ['-']

inductive IsFraction : List Char → Prop
  | none : IsFraction []
  | point {digits : List Char} (some : IsDigits digits) : IsFraction ('.' :: digits)

inductive IsExponent : List Char → Prop
  | none : IsExponent []
  | mark {mark : Char} {sign digits : List Char} (letter : mark = 'e' ∨ mark = 'E')
      (signed : sign = [] ∨ sign = ['-'] ∨ sign = ['+']) (some : IsDigits digits) :
      IsExponent (mark :: sign ++ digits)

/-- The numbers of JSON. -/
inductive IsNumber : List Char → Prop
  | mk {sign whole fraction exponent : List Char} (signed : IsSign sign) (digits : IsWhole whole)
      (hasFraction : IsFraction fraction) (hasExponent : IsExponent exponent) :
      IsNumber (sign ++ whole ++ fraction ++ exponent)

/-! ## Digits -/

variable {cs cs' : List Char} {n : Nat}

theorem isDigits_append (left : ∀ c ∈ cs, c.isDigit = true) (right : IsDigits cs') :
    IsDigits (cs ++ cs') := by
  refine ⟨by simp [right.1], fun c mem => ?_⟩
  rcases List.mem_append.1 mem with mem | mem
  · exact left c mem
  · exact right.2 c mem

theorem isDigit_zeros (n : Nat) : ∀ c ∈ List.replicate n '0', c.isDigit = true := by
  intro c mem
  rw [List.eq_of_mem_replicate mem]
  rfl

theorem isDigits_toDigits (n : Nat) : IsDigits (Nat.toDigits 10 n) :=
  ⟨Nat.toDigits_ne_nil, fun _ => Nat.isDigit_of_mem_toDigits (by decide) (by decide)⟩

/-- The first digit of a number is the digit of a number that is not zero either. -/
theorem head?_toDigits_ne (positive : 0 < n) : (Nat.toDigits 10 n).head? ≠ some '0' := by
  intro zero
  obtain ⟨rest, same⟩ := List.head?_eq_some_iff.1 zero
  obtain ⟨m, above, front⟩ := Mark.exists_toDigits_of_append (List.cons_ne_nil '0' []) positive same
  have nothing : m = 0 := Mark.eq_of_toDigits_eq front.symm
  omega

theorem isWhole_toDigits (n : Nat) : IsWhole (Nat.toDigits 10 n) := by
  refine ⟨isDigits_toDigits n, fun zero => ?_⟩
  cases n with
  | zero => rfl
  | succ n => exact absurd zero (head?_toDigits_ne n.succ_pos)

end Number

/-! ## Decimals -/

namespace Binary64

theorem dropZeros_pos {fuel n : Nat} {e : Int} (positive : 0 < n) :
    0 < (dropZeros fuel n e).1 := by
  induction fuel generalizing n e with
  | zero => exact positive
  | succ fuel ih =>
    rw [dropZeros]
    split
    · next round =>
      simp only [Bool.and_eq_true, beq_iff_eq] at round
      exact ih (by omega)
    · exact positive

theorem searchDigits_pos (i : Interval) (x : Fraction) (fuel : Nat) (unit : Int) :
    0 < (searchDigits i x fuel unit).1 := by
  induction fuel generalizing unit with
  | zero => exact Nat.lt_of_lt_of_le Nat.one_pos (Nat.le_max_left _ _)
  | succ fuel ih =>
    rw [searchDigits]
    split
    · next n found =>
      have chosen := List.find?_some found
      simp only [Bool.and_eq_true, bne_iff_ne] at chosen
      exact Nat.pos_of_ne_zero chosen.1
    · exact ih _

theorem shortest_pos (significand : Nat) (exponent : Int) (narrowBelow : Bool) :
    0 < (shortest significand exponent narrowBelow).1 := by
  have found := searchDigits_pos (readingInterval significand exponent narrowBelow)
    (.scaled 2 significand exponent) 17 (magnitude (.scaled 2 significand exponent) - 1)
  exact dropZeros_pos found

end Binary64

namespace DecimalFormat

open Number

variable {digits : List Char}

@[simp] theorem toList_zeros (n : Nat) : (zeros n).toList = List.replicate n '0' := by
  simp [zeros]

theorem isNumber_append_exponent {sign whole fraction : List Char} (signed : IsSign sign)
    (isWhole : IsWhole whole) (hasFraction : IsFraction fraction) {exponent : List Char}
    (hasExponent : IsExponent exponent) :
    IsNumber (sign ++ (whole ++ fraction ++ exponent)) := by
  rw [← List.append_assoc, ← List.append_assoc]
  exact .mk signed isWhole hasFraction hasExponent

/-- Digits that begin with no zero, with a point after some of them. -/
theorem exists_pointed (all : IsDigits digits) (first : digits.head? ≠ some '0') (point : Int) :
    ∃ whole fraction, (pointed digits point).toList = whole ++ fraction ∧ IsWhole whole ∧
      IsFraction fraction := by
  unfold pointed
  split_ifs with low high
  · refine ⟨['0'], '.' :: (List.replicate (-point).toNat '0' ++ digits), by simp, ?_, ?_⟩
    · exact ⟨⟨by simp, by simp⟩, fun _ => rfl⟩
    · exact .point (isDigits_append (isDigit_zeros _) all)
  · refine ⟨digits ++ List.replicate (point.toNat - digits.length) '0', ['.', '0'], by simp, ?_,
      .point ⟨by simp, by simp⟩⟩
    refine ⟨⟨by simp [all.1], fun c mem => ?_⟩, fun zero => ?_⟩
    · rcases List.mem_append.1 mem with mem | mem
      · exact all.2 c mem
      · exact isDigit_zeros _ c mem
    · obtain ⟨d, rest, rfl⟩ := List.exists_cons_of_ne_nil all.1
      exact absurd zero first
  · have inside : 0 < point.toNat ∧ point.toNat < digits.length := by omega
    refine ⟨digits.take point.toNat, '.' :: digits.drop point.toNat, by simp, ?_, ?_⟩
    · refine ⟨⟨?_, fun c mem => all.2 c (List.mem_of_mem_take mem)⟩, fun zero => ?_⟩
      · rw [ne_eq, List.take_eq_nil_iff]
        exact not_or_intro (by omega) all.1
      · rw [List.head?_take, if_neg (by omega)] at zero
        exact absurd zero first
    · refine .point ⟨?_, fun c mem => all.2 c (List.mem_of_mem_drop mem)⟩
      rw [ne_eq, List.drop_eq_nil_iff]
      omega

theorem isExponent_exponentText (e : Int) : IsExponent (json.exponentText e).toList := by
  have digits : IsDigits (List.replicate (2 - (toString e.natAbs).length) '0' ++
      Nat.toDigits 10 e.natAbs) :=
    isDigits_append (isDigit_zeros _) (isDigits_toDigits _)
  have written : (json.exponentText e).toList = 'e' :: (if e < 0 then ['-'] else ['+']) ++
      (List.replicate (2 - (toString e.natAbs).length) '0' ++ Nat.toDigits 10 e.natAbs) := by
    by_cases negative : e < 0 <;>
      simp [exponentText, json, plain, negative, Nat.repr]
  rw [written]
  refine .mark (.inl rfl) ?_ digits
  split_ifs <;> simp

theorem exists_scientific (all : IsDigits digits) (point : Int) (first : digits.head? ≠ some '0') :
    ∃ whole fraction exponent, (json.scientific digits point).toList =
        whole ++ fraction ++ exponent ∧
      IsWhole whole ∧ IsFraction fraction ∧ IsExponent exponent := by
  have exponent := isExponent_exponentText (point - 1)
  have alone {d : Char} {rest : List Char} (all : IsDigits (d :: rest))
      (first : (d :: rest).head? ≠ some '0') : IsWhole [d] :=
    ⟨⟨by simp, by simpa using all.2 d List.mem_cons_self⟩, fun zero => absurd zero first⟩
  match digits, all, first with
  | [], all, _ => exact absurd rfl all.1
  | [d], all, first =>
    exact ⟨[d], [], _, by simp [scientific], alone all first, .none, exponent⟩
  | d :: c :: rest, all, first =>
    refine ⟨[d], '.' :: c :: rest, _, by simp [scientific], alone all first, ?_, exponent⟩
    exact .point ⟨by simp, fun x mem => all.2 x (List.mem_cons_of_mem _ mem)⟩

theorem isNumber_finite {n : Nat} (positive : 0 < n) (e : Int) {sign : List Char}
    (signed : IsSign sign) : IsNumber (sign ++ (json.finite n e).toList) := by
  have all := isDigits_toDigits n
  have first := head?_toDigits_ne positive
  unfold finite
  dsimp only
  split
  · obtain ⟨whole, fraction, written, isWhole, hasFraction⟩ :=
      exists_pointed all first (e + (Nat.toDigits 10 n).length)
    rw [written]
    simpa using isNumber_append_exponent signed isWhole hasFraction .none
  · obtain ⟨whole, fraction, exponent, written, isWhole, hasFraction, hasExponent⟩ :=
      exists_scientific all (e + (Nat.toDigits 10 n).length) first
    rw [written]
    exact isNumber_append_exponent signed isWhole hasFraction hasExponent

end DecimalFormat

/-- Numbers that lie somewhere between the ends. -/
def Binary64.IsFinite (x : Binary64) : Prop :=
  ∃ negative significand exponent, x.read = .finite negative significand exponent

/-- Finite numbers are written as numbers. -/
theorem Number.isNumber_text {x : Binary64} (finite : x.IsFinite) :
    IsNumber (DecimalFormat.json.text x).toList := by
  obtain ⟨negative, significand, exponent, known⟩ := finite
  have signed (negative : Bool) : IsSign (DecimalFormat.sign negative).toList := by
    cases negative
    · exact .inl rfl
    · exact .inr rfl
  unfold DecimalFormat.text
  rw [known]
  cases significand with
  | zero =>
    have zero : IsWhole ['0'] := ⟨⟨by simp, by simp⟩, fun _ => rfl⟩
    have point : IsFraction ['.', '0'] := .point ⟨by simp, by simp⟩
    simpa using DecimalFormat.isNumber_append_exponent (signed negative) zero point .none
  | succ significand =>
    change IsNumber (DecimalFormat.sign negative ++ DecimalFormat.json.finite _ _).toList
    rw [String.toList_append]
    exact DecimalFormat.isNumber_finite (Binary64.shortest_pos _ _ _) _ (signed negative)

end BoundQuery
