import BoundQuery.Name
import BoundQuery.Proofs.Result

/-!
# Gates of names

A gate answers with the text that it is given when that is in its language, and turns everything
else down. Plain names with a dot between them are a qualified name, also when a member of a
vocabulary is written with its full name.

## Main definitions

* `Name.isIn` — the values that a gate lets through.

## Main statements

* `Name.gate_eq_ok_iff`, `Name.exists_gate_iff` — what a gate lets through.
* `Name.isQualified_shown` — a plain name is shown as a qualified one.
-/

namespace BoundQuery

theorem Chars.pieces_append_cons (separator : Chr) (xs ys : List Chr) :
    pieces separator (xs ++ separator :: ys) = pieces separator xs ++ pieces separator ys := by
  induction xs with
  | nil => simp [pieces]
  | cons c xs ih =>
    by_cases cut : c = separator
    · simp [pieces, cut, ih]
    · obtain ⟨piece, others, same⟩ := List.exists_cons_of_ne_nil (pieces_ne_nil separator xs)
      simp [pieces, cut, ih, same]

theorem Chars.pieces_of_notMem {separator : Chr} {xs : List Chr} (absent : separator ∉ xs) :
    pieces separator xs = [xs] := by
  induction xs with
  | nil => rfl
  | cons c xs ih =>
    obtain ⟨first, rest⟩ := List.ne_and_not_mem_of_not_mem_cons absent
    simp [pieces, first.symm, ih rest]

namespace Name

variable {language : List Chr → Bool} {context : Str} {name : Value}

/-- Whether a value is a text of a language. -/
def isIn (language : List Chr → Bool) : Value → Bool
  | .text t => language t.chars
  | _ => false

theorem gate_eq_ok_iff {t : Text} :
    gate language context name = .ok t ↔ name = .text t ∧ language t.chars = true := by
  refine ⟨gate_eq_ok, ?_⟩
  rintro ⟨rfl, spoken⟩
  simp [gate, spoken]

theorem exists_gate_iff :
    (∃ t, gate language context name = .ok t) ↔ isIn language name = true := by
  constructor
  · rintro ⟨t, passed⟩
    obtain ⟨rfl, spoken⟩ := gate_eq_ok passed
    exact spoken
  · intro h
    cases name with
    | text t => exact ⟨t, gate_eq_ok_iff.2 ⟨rfl, h⟩⟩
    | _ => cases h

theorem isValid_eq_isIn (name : Value) : isValid name = isIn isPlain name := by
  cases name <;> rfl

/-! ## Qualified names -/

theorem isQualified_append_dot (xs ys : List Chr) :
    isQualified (xs ++ .scalar '.' :: ys) = (isQualified xs && isQualified ys) := by
  rw [isQualified, Chars.pieces_append_cons, List.all_append]
  rfl

theorem dot_notMem_of_isPlain {xs : List Chr} (h : isPlain xs = true) : .scalar '.' ∉ xs := by
  intro mem
  simp only [isPlain, Bool.and_eq_true, List.all_eq_true] at h
  exact absurd (h.2 '.' mem) (by decide)

/-- A text without a dot is one piece. -/
theorem isQualified_eq_isPlain {xs : List Chr} (dotless : .scalar '.' ∉ xs) :
    isQualified xs = isPlain xs := by
  rw [isQualified, Chars.pieces_of_notMem dotless, List.all_cons, List.all_nil, Bool.and_true]

theorem isQualified_of_isPlain {xs : List Chr} (h : isPlain xs = true) :
    isQualified xs = true := by
  rw [isQualified_eq_isPlain (dot_notMem_of_isPlain h), h]

theorem isQualified_shown_term (t : Term) : isQualified t.shown.toList = true := by
  cases t with
  | operator op => cases op <;> decide
  | joinType j => cases j <;> decide
  | sortDirection d => cases d <;> decide
  | relDirection d => cases d <;> decide

theorem isQualified_shown {t : Text} (h : isPlain t.chars = true) :
    isQualified t.shown.toList = true := by
  cases t with
  | plain s => exact isQualified_of_isPlain h
  | term t => exact isQualified_shown_term t

end Name
end BoundQuery
