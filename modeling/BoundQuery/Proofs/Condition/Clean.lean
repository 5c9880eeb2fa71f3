import BoundQuery.Condition.Render
import BoundQuery.Proofs.Name.Characters
import BoundQuery.Proofs.Placeholder.Template
import BoundQuery.Proofs.Result

/-!
# Clean conditions

The template of a condition is clean when its field holds no dollar sign or, for a raw fragment of
the caller, when the fragment holds none and no marker in it runs on.
-/

namespace BoundQuery

/-! ## Pieces of fragments -/

namespace Marker

theorem mem_or_exists_of_mem_modifyHead {first c : Chr} {pieces : List (List Chr)}
    {piece : List Chr} (inPieces : piece ∈ pieces.modifyHead (first :: ·)) (inPiece : c ∈ piece) :
    c = first ∨ ∃ before ∈ pieces, c ∈ before := by
  cases pieces with
  | nil => cases inPieces
  | cons head others =>
    rcases List.mem_cons.1 inPieces with rfl | inOthers
    · rcases List.mem_cons.1 inPiece with same | inHead
      · exact Or.inl same
      · exact Or.inr ⟨head, List.mem_cons_self, inHead⟩
    · exact Or.inr ⟨piece, List.mem_cons_of_mem _ inOthers, inPiece⟩

theorem mem_of_mem_splitFrom {marker cs piece : List Chr} {skip : Nat} {quoted : Bool} {c : Chr}
    (inPieces : piece ∈ splitFrom marker skip quoted cs) (inPiece : c ∈ piece) : c ∈ cs := by
  fun_induction splitFrom marker skip quoted cs generalizing piece with
  | case1 => simp_all
  | case2 skip quoted first rest ih => exact List.mem_cons_of_mem _ (ih inPieces inPiece)
  | case3 quoted first rest _ ih | case5 quoted first rest _ _ ih =>
    rcases mem_or_exists_of_mem_modifyHead inPieces inPiece with rfl | ⟨before, inRest, inBefore⟩
    · exact List.mem_cons_self
    · exact List.mem_cons_of_mem _ (ih inRest inBefore)
  | case4 quoted first rest _ _ ih =>
    rcases List.mem_cons.1 inPieces with rfl | inOthers
    · cases inPiece
    · exact List.mem_cons_of_mem _ (ih inOthers inPiece)

theorem mem_of_mem_split {marker cs piece : List Chr} {pieces : List (List Chr)} {c : Chr}
    (h : split marker cs = .ok pieces) (inPieces : piece ∈ pieces) (inPiece : c ∈ piece) :
    c ∈ cs := by
  unfold split at h
  split at h
  · cases h
  · cases h
    exact mem_of_mem_splitFrom inPieces inPiece

/-- The fragment holds no dollar sign, and no word character stands right after a marker. -/
structure IsClean (d : Dialect) (marker : List Chr) (fragment : Text) : Prop where
  dollar_notMem : .scalar '$' ∉ fragment.chars
  heads : ∀ pieces, split marker fragment.chars = .ok pieces →
    ∀ piece ∈ pieces.tail, ∀ c ∈ piece.head?, d.isWordChar c = false

theorem template_eq_ok {marker : List Chr} {fragment : Text} {values : List Value} {t : Template}
    (h : template marker fragment values = .ok t) :
    ∃ pieces, split marker fragment.chars = .ok pieces ∧ pieces.length = values.length + 1 ∧
      t = Template.weave pieces values := by
  obtain ⟨pieces, cut, h⟩ := Result.bind_eq_ok.1 h
  split at h
  · next count => exact ⟨pieces, cut, by simpa using count, (Except.ok.inj h).symm⟩
  · cases h

theorem IsClean.template {d : Dialect} {marker : List Chr} {fragment : Text} {values : List Value}
    {t : Template} (h : IsClean d marker fragment)
    (made : template marker fragment values = .ok t) : t.IsClean d := by
  obtain ⟨pieces, cut, _, rfl⟩ := template_eq_ok made
  refine Template.isClean_weave (fun piece inPieces inPiece => ?_) (h.heads pieces cut)
  exact h.dollar_notMem (mem_of_mem_split cut inPieces inPiece)

end Marker

/-! ## Templates of conditions -/

namespace Template

theorem isSeparator_comma (d : Dialect) : IsSeparator d ", " where
  dollar_notMem := by decide
  head := ⟨',', by decide, by cases d <;> decide⟩

theorem isSeparator_conjunction (d : Dialect) : IsSeparator d Condition.conjunction where
  dollar_notMem := by decide
  head := ⟨' ', by decide, by cases d <;> decide⟩

end Template

theorem Operator.dollar_notMem_spelling (op : Operator) : .scalar '$' ∉ op.spelling.toList := by
  cases op <;> decide

namespace FieldCondition

theorem isClean_memberTemplate {field : Text} (h : .scalar '$' ∉ field.chars) (d : Dialect)
    (negated : Bool) (values : List Value) : (memberTemplate d field negated values).IsClean d := by
  have shown := Text.dollar_notMem_shown h
  have slots := Template.isClean_slots (Template.isSeparator_comma d) values
  cases d with
  | relational =>
    refine ⟨?_, slots.append ⟨by decide, trivial⟩ ?_⟩
    · cases negated <;> simp [shown]
    · exact Template.opens_text_of_head (c := ')') rfl (by decide) []
  | graph =>
    refine ⟨?_, slots.append ⟨by decide, trivial⟩ ?_⟩
    · cases negated <;> simp [shown]
    · exact Template.opens_text_of_head (c := ']') rfl (by decide) []

theorem isClean_template? {d : Dialect} {c : FieldCondition} {t : Template}
    (h : .scalar '$' ∉ c.field.chars)
    (made : c.template? d = some t) : t.IsClean d := by
  have shown := Text.dollar_notMem_shown h
  unfold template? at made
  split at made
  · next negated _ =>
    cases made
    refine ⟨?_, trivial⟩
    cases negated <;> simp [shown]
  · cases made
  · cases made
    exact isClean_memberTemplate h d _ _
  · next op operand _ =>
    cases made
    exact ⟨by simp [shown, op.dollar_notMem_spelling], Template.opens_nil, trivial⟩

end FieldCondition

namespace Condition

/-- A raw fragment is text of the caller; the rest of a condition is not. -/
def CallerTextIsClean (d : Dialect) (marker : List Chr) : Condition → Prop
  | field _ => True
  | raw fragment _ => Marker.IsClean d marker fragment

/-- Whether a condition writes nothing that could be taken for a placeholder. -/
def IsClean (d : Dialect) (marker : List Chr) : Condition → Prop
  | field c => .scalar '$' ∉ c.field.chars
  | raw fragment _ => Marker.IsClean d marker fragment

theorem IsClean.template? {d : Dialect} {marker : List Chr} {c : Condition} {t : Template}
    (h : c.IsClean d marker) (made : c.template? d marker = .ok (some t)) : t.IsClean d := by
  cases c with
  | field c => exact FieldCondition.isClean_template? h (Except.ok.inj made)
  | raw fragment values =>
    obtain ⟨t, made, same⟩ := Result.map_eq_ok.1 made
    cases same
    exact Marker.IsClean.template h made

/-- Each template of several conditions is that of one of them. -/
theorem exists_of_mem_templates {d : Dialect} {marker : List Chr} {cs : List Condition}
    {ts : List Template} {t : Template} (made : templates d marker cs = .ok ts) (mem : t ∈ ts) :
    ∃ c ∈ cs, c.template? d marker = .ok (some t) := by
  obtain ⟨found, each, same⟩ := Result.bind_eq_ok.1 made
  cases same
  obtain ⟨t?, inFound, rfl⟩ := List.mem_filterMap.1 mem
  exact Result.exists_of_mem_mapM each inFound

theorem conjunction?_eq_ok {d : Dialect} {marker : List Chr} {cs : List Condition}
    {t? : Option Template} :
    conjunction? d marker cs = .ok t? ↔ ∃ ts, templates d marker cs = .ok ts ∧ joined? ts = t? := by
  have mapped : conjunction? d marker cs = (templates d marker cs).map joined? := by
    rw [conjunction?]
    cases templates d marker cs <;> rfl
  rw [mapped, Result.map_eq_ok]

theorem eq_join_of_mem_joined? {ts : List Template} {t : Template} (mem : t ∈ joined? ts) :
    t = Template.join conjunction ts := by
  unfold joined? at mem
  split at mem
  · cases mem
  · exact (Option.mem_some.1 mem).symm

theorem isClean_templates {d : Dialect} {marker : List Chr} {cs : List Condition}
    {ts : List Template} (h : ∀ c ∈ cs, c.IsClean d marker)
    (made : templates d marker cs = .ok ts) : ∀ t ∈ ts, t.IsClean d := by
  intro t mem
  obtain ⟨c, inConditions, read⟩ := exists_of_mem_templates made mem
  exact (h c inConditions).template? read

/-- The joined template of clean conditions is clean, and none when nothing is written. -/
theorem isClean_conjunction? {d : Dialect} {marker : List Chr} {cs : List Condition}
    {t? : Option Template} (h : ∀ c ∈ cs, c.IsClean d marker)
    (made : conjunction? d marker cs = .ok t?) : ∀ t ∈ t?, t.IsClean d := by
  obtain ⟨ts, each, rfl⟩ := conjunction?_eq_ok.1 made
  intro t mem
  obtain rfl := eq_join_of_mem_joined? mem
  exact Template.isClean_join (Template.isSeparator_conjunction d) (isClean_templates h each)

end Condition
end BoundQuery
