import BoundQuery.Proofs.Result
import BoundQuery.Statement.Restriction

/-!
# The fields of conditions

A condition is on the field that passed the gate, whatever the operator and the operand are. So
every condition that a call gives is on a qualified name.
-/

namespace BoundQuery

namespace FieldCondition

theorem field_of_onField {d : Dialect} {field : Text} {operator operand : Value}
    {c : FieldCondition} (h : onField d field operator operand = .ok c) : c.field = field := by
  unfold onField at h
  split at h
  · unfold ofOperator at h
    split at h
    · cases h
    · split at h <;>
      · obtain ⟨test, _, rfl⟩ := Result.map_eq_ok.1 h
        rfl
  · cases h

theorem isQualified_of_make {d : Dialect} {field operator operand : Value} {c : FieldCondition}
    (h : make d field operator operand = .ok c) : Name.isQualified c.field.chars = true := by
  obtain ⟨name, gate, h⟩ := Result.bind_eq_ok.1 h
  rw [field_of_onField h]
  exact (Name.gate_eq_ok gate).2

theorem isExpression_of_makeAggregate {d : Dialect} {field operator operand : Value}
    {c : FieldCondition} (h : makeAggregate d field operator operand = .ok c) :
    Name.isExpression c.field.chars = true := by
  obtain ⟨name, gate, h⟩ := Result.bind_eq_ok.1 h
  rw [field_of_onField h]
  exact (Name.gate_eq_ok gate).2

end FieldCondition

theorem Filter.isQualified_of_conditionsOfEntries {d : Dialect} {entries : List (Value × Value)}
    {cs : List FieldCondition} (h : conditionsOfEntries d entries = .ok cs) :
    ∀ c ∈ cs, Name.isQualified c.field.chars = true := by
  intro c mem
  obtain ⟨pairs, _, each⟩ := Result.bind_eq_ok.1 h
  obtain ⟨pair, _, made⟩ := Result.exists_of_mem_mapM each mem
  exact FieldCondition.isQualified_of_make made

/-- A condition on a qualified name, or a raw fragment. -/
def Condition.WellNamed : Condition → Prop
  | .field c => Name.isQualified c.field.chars = true
  | .raw _ _ => True

namespace Restriction

theorem wellNamed_of_comparison {d : Dialect} {field operator operand : Value}
    {cs : List Condition} (h : comparison d field operator operand = .ok cs) :
    ∀ c ∈ cs, c.WellNamed := by
  obtain ⟨c, made, same⟩ := Result.bind_eq_ok.1 h
  cases same
  intro c' mem
  rw [List.mem_singleton.1 mem]
  exact FieldCondition.isQualified_of_make made

theorem wellNamed_of_conditions {d : Dialect} {r : Restriction} {cs : List Condition}
    (h : r.conditions d = .ok cs) : ∀ c ∈ cs, c.WellNamed := by
  cases r with
  | compare | equals | notEquals | like | ilike | null | notNull => exact wellNamed_of_comparison h
  | member field values | notMember field values =>
    obtain ⟨xs, _, h⟩ := Result.bind_eq_ok.1 h
    exact wellNamed_of_comparison h
  | raw fragment values =>
    obtain ⟨c, made, same⟩ := Result.bind_eq_ok.1 h
    cases same
    intro c' mem
    rw [List.mem_singleton.1 mem]
    unfold Condition.makeRaw at made
    split at made
    · split at made
      · cases made
      · obtain ⟨xs, _, rfl⟩ := Result.map_eq_ok.1 made
        trivial
    · cases made
  | filters mapping =>
    obtain ⟨found, made, same⟩ := Result.bind_eq_ok.1 h
    cases same
    obtain ⟨entries, _, made⟩ := Result.bind_eq_ok.1 made
    intro c mem
    obtain ⟨fc, inFound, rfl⟩ := List.mem_map.1 mem
    exact Filter.isQualified_of_conditionsOfEntries made fc inFound

end Restriction

theorem isQualified_of_returningItem {v : Value} {t : Text} (h : returningItem v = .ok t) :
    t.spelling = "*" ∨ Name.isQualified t.chars = true := by
  unfold returningItem at h
  split at h
  · split at h
    · next star =>
      cases h
      exact Or.inl (by simpa using star)
    · exact Or.inr (Name.gate_eq_ok h).2
  · exact Or.inr (Name.gate_eq_ok h).2

end BoundQuery
