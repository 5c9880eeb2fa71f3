import BoundQuery.Name

/-!
# The characters of names

What passes a gate is made of few characters: letters, digits and the underscore in a plain name,
the dot besides them in a qualified one, parentheses and the star besides these in an expression. A
member of a vocabulary that passes a gate may be written with its full name, which is made of the
characters of a qualified name.

## Main statements

* `Name.forall_mem_of_isQualified`, `Name.forall_mem_of_isExpression` — the characters of a
  language.
* `Text.dollar_notMem_shown` — a text without a dollar sign is also shown without one.
-/

namespace BoundQuery

namespace Chars

theorem mem_pieces {separator c : Chr} {cs : List Chr} (mem : c ∈ cs) (ne : c ≠ separator) :
    ∃ piece ∈ pieces separator cs, c ∈ piece := by
  induction cs with
  | nil => simp at mem
  | cons first rest ih =>
    by_cases cut : first = separator
    · have later : c ∈ rest := by
        rcases List.mem_cons.1 mem with rfl | later
        · exact absurd cut ne
        · exact later
      obtain ⟨piece, inPieces, inPiece⟩ := ih later
      exact ⟨piece, by simp [pieces, cut, inPieces], inPiece⟩
    · obtain ⟨piece, others, same⟩ := List.exists_cons_of_ne_nil (pieces_ne_nil separator rest)
      have read : pieces separator (first :: rest) = (first :: piece) :: others := by
        simp [pieces, cut, same]
      rcases List.mem_cons.1 mem with rfl | later
      · exact ⟨c :: piece, by simp [read], by simp⟩
      · obtain ⟨found, inPieces, inPiece⟩ := ih later
        rw [same] at inPieces
        rcases List.mem_cons.1 inPieces with rfl | inOthers
        · exact ⟨first :: found, by simp [read], by simp [inPiece]⟩
        · exact ⟨found, by simp [read, inOthers], inPiece⟩

end Chars

namespace Name

theorem isNameChar_of_isPlain {cs : List Chr} (h : isPlain cs = true) :
    ∀ c ∈ cs, isNameChar c = true := by
  simp only [isPlain, Bool.and_eq_true, List.all_eq_true] at h
  exact h.2

theorem forall_mem_of_isQualified {cs : List Chr} (h : isQualified cs = true) :
    ∀ c ∈ cs, isNameChar c = true ∨ c = '.' := by
  intro c mem
  by_cases dot : c = '.'
  · exact Or.inr dot
  · obtain ⟨piece, inPieces, inPiece⟩ := Chars.mem_pieces mem dot
    exact Or.inl (isNameChar_of_isPlain (List.all_eq_true.1 h piece inPieces) c inPiece)

theorem forall_mem_of_isArgument {cs : List Chr} (h : isArgument cs = true) :
    ∀ c ∈ cs, isNameChar c = true ∨ c = '.' ∨ c = '*' := by
  intro c mem
  simp only [isArgument, Bool.or_eq_true, Bool.and_eq_true, beq_iff_eq] at h
  rcases h with rfl | h
  · exact Or.inr (Or.inr (by simpa using mem))
  · rcases forall_mem_of_isQualified h.1 c mem with name | dot
    · exact Or.inl name
    · exact Or.inr (Or.inl dot)

theorem forall_mem_of_isCall {cs : List Chr} (h : isCall cs = true) :
    ∀ c ∈ cs, isNameChar c = true ∨ c ∈ [('.' : Chr), '*', '(', ')'] := by
  intro c mem
  unfold isCall at h
  split at h
  · next rest split =>
    simp only [Bool.and_eq_true, beq_iff_eq] at h
    rw [← List.takeWhile_append_dropWhile (p := isNameChar) (l := cs), split] at mem
    rcases List.mem_append.1 mem with function | mem
    · exact Or.inl (List.all_eq_true.1 List.all_takeWhile c function)
    · obtain ⟨argument, same⟩ := List.getLast?_eq_some_iff.1 h.1.2
      rw [same] at mem h
      have inArgument := forall_mem_of_isArgument (by simpa using h.2) c
      grind
  · cases h

theorem forall_mem_of_isExpression {cs : List Chr} (h : isExpression cs = true) :
    ∀ c ∈ cs, isNameChar c = true ∨ c ∈ [('.' : Chr), '*', '(', ')'] := by
  intro c mem
  rcases Bool.or_eq_true_iff.1 h with call | name
  · exact forall_mem_of_isCall call c mem
  · rcases forall_mem_of_isQualified name c mem with name | rfl
    · exact Or.inl name
    · exact Or.inr (by simp)

theorem dollar_notMem_of_isPlain {cs : List Chr} (h : isPlain cs = true) : .scalar '$' ∉ cs :=
  fun mem => absurd (isNameChar_of_isPlain h _ mem) (by decide)

theorem dollar_notMem_of_isQualified {cs : List Chr} (h : isQualified cs = true) :
    .scalar '$' ∉ cs :=
  fun mem => absurd (forall_mem_of_isQualified h _ mem) (by decide)

theorem dollar_notMem_of_isExpression {cs : List Chr} (h : isExpression cs = true) :
    .scalar '$' ∉ cs :=
  fun mem => absurd (forall_mem_of_isExpression h _ mem) (by decide)

end Name

theorem Term.forall_mem_shown (t : Term) :
    ∀ c ∈ t.shown.toList, Name.isNameChar c = true ∨ c = '.' := by
  have all : t.shown.toList.all (fun c => Name.isNameChar c || c == '.') = true := by
    cases t with
    | operator op => cases op <;> rfl
    | joinType j => cases j <;> rfl
    | sortDirection d => cases d <;> rfl
    | relDirection d => cases d <;> rfl
  simpa using all

theorem Text.dollar_notMem_shown {t : Text} (h : .scalar '$' ∉ t.chars) :
    .scalar '$' ∉ t.shown.toList := by
  cases t with
  | plain s => exact h
  | term t => exact fun mem => absurd (t.forall_mem_shown _ mem) (by decide)

/-- A text without a dollar sign, or no text at all. -/
def Value.IsDollarFree : Value → Prop
  | .text t => .scalar '$' ∉ t.chars
  | _ => True

end BoundQuery
