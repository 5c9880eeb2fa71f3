import BoundQuery.Condition.Render
import BoundQuery.Proofs.Alphabet.Basic
import BoundQuery.Proofs.Statement.Clean

/-!
# Alphabets of statements

A relational statement that holds no text of the caller is written in the alphabet of its dialect:
each name in it has passed its gate, and everything else is a word or a sign of the grammar, or a
placeholder.

## Main definitions

* `Statement.IsOwn` — a statement without texts of the caller.

## Main statements

* `Statement.admits_of_builds` — such a statement is built into a text in the alphabet.
-/

namespace BoundQuery

/-! ## Conditions -/

namespace Operator

theorem admits_spelling (d : Dialect) (op : Operator) : d.Admits op.spelling := by
  cases d <;> cases op <;> decide

end Operator

theorem SortDirection.admits_spelling (d : Dialect) (s : SortDirection) : d.Admits s.spelling := by
  cases d <;> cases s <;> decide

namespace FieldCondition

theorem isAdmitted_memberTemplate {field : Text} (h : field.IsNameLike) (d : Dialect)
    (negated : Bool) (values : List Value) :
    (memberTemplate d field negated values).IsAdmitted d := by
  have shown := h.admits_shown d
  have slots := Template.isAdmitted_slots (d := d) ", " (by cases d <;> decide) values
  cases d with
  | relational =>
    have opening : Dialect.relational.Admits (if negated then " NOT IN (" else " IN (") := by
      cases negated <;> decide
    have closing : Dialect.relational.Admits ")" := by decide
    simp [memberTemplate, shown, slots, opening, closing]
  | graph =>
    have before : Dialect.graph.Admits (if negated then "NOT " else "") := by
      cases negated <;> decide
    have opening : Dialect.graph.Admits " IN [" := by decide
    have closing : Dialect.graph.Admits "]" := by decide
    simp [memberTemplate, shown, slots, before, opening, closing]

theorem isAdmitted_template? {d : Dialect} {c : FieldCondition} {t : Template}
    (h : c.field.IsNameLike) (made : c.template? d = some t) : t.IsAdmitted d := by
  have shown := h.admits_shown d
  unfold template? at made
  split at made
  · next negated _ =>
    cases made
    have test : d.Admits (if negated then " IS NOT NULL" else " IS NULL") := by
      cases d <;> cases negated <;> decide
    simp [shown, test]
  · cases made
  · cases made
    exact isAdmitted_memberTemplate h d _ _
  · next op operand _ =>
    cases made
    have blank : d.Admits " " := by cases d <;> decide
    simp [shown, blank, op.admits_spelling]

end FieldCondition

namespace Condition

/-- A condition on a field; a raw one is text of the caller. -/
def IsOwn : Condition → Prop
  | field _ => True
  | raw _ _ => False

theorem isAdmitted_conjunction? {d : Dialect} {marker : List Chr} {cs : List Condition}
    {t? : Option Template}
    (h : ∀ c ∈ cs, ∃ fc : FieldCondition, c = .field fc ∧ fc.field.IsNameLike)
    (made : conjunction? d marker cs = .ok t?) : ∀ t ∈ t?, t.IsAdmitted d := by
  obtain ⟨ts, templates, rfl⟩ := conjunction?_eq_ok.1 made
  have each : ∀ t ∈ ts, t.IsAdmitted d := by
    intro t mem
    obtain ⟨c, inConditions, written⟩ := exists_of_mem_templates templates mem
    obtain ⟨fc, rfl, name⟩ := h c inConditions
    exact FieldCondition.isAdmitted_template? name (Except.ok.inj written)
  intro t mem
  obtain rfl := eq_join_of_mem_joined? mem
  exact Template.isAdmitted_join _ (by cases d <;> decide) each

theorem WellNamed.exists_field {c : Condition} (h : c.WellNamed) (own : c.IsOwn) :
    ∃ fc : FieldCondition, c = .field fc ∧ fc.field.IsNameLike := by
  cases c with
  | field fc => exact ⟨fc, rfl, Text.isNameLike_of_isQualified h⟩
  | raw fragment values => exact own.elim

end Condition

theorem isAdmitted_conditionClause (keyword : Str) (h : Dialect.relational.Admits keyword)
    {t? : Option Template} (each : ∀ t ∈ t?, t.IsAdmitted .relational) :
    (conditionClause keyword t?).IsAdmitted .relational := by
  cases t? with
  | none => simp [conditionClause]
  | some t => simp [conditionClause, h, each t rfl]

theorem isAdmitted_returningClause {fields : List Text} (h : ∀ t ∈ fields, IsReturned t) :
    (returningClause fields).IsAdmitted .relational := by
  cases fields with
  | nil => simp [returningClause]
  | cons t rest =>
    have keyword : Dialect.relational.Admits " RETURNING " := by decide
    have listed := Dialect.admits_spellings (d := .relational) fun t mem =>
      Text.isNameLike_of_isReturned (h t mem)
    simpa [returningClause, keyword, commaSeparated] using listed

/-! ## Selections -/

/-- A selection of everything, without joins and raw conditions. -/
structure Select.IsOwn (s : Select) : Prop where
  fields : s.fields = [.str "*"]
  joins : s.joins = []
  conditions : ∀ c ∈ s.conditions, c.IsOwn

namespace Select

variable {s : Select}

theorem admits_groupText {fields : List Text}
    (h : ∀ field ∈ fields, Name.isQualified field.chars = true) :
    Dialect.relational.Admits (groupText fields) := by
  unfold groupText
  split
  · simp
  · have keyword : Dialect.relational.Admits " GROUP BY " := by decide
    have listed := Dialect.admits_spellings (d := .relational) fun t mem =>
      Text.isNameLike_of_isQualified (h t mem)
    exact Dialect.admits_append.2 ⟨keyword, listed⟩

theorem admits_sortText {sorts : List SortKey}
    (h : ∀ k ∈ sorts, Name.isQualified k.field.chars = true) :
    Dialect.relational.Admits (sortText sorts) := by
  unfold sortText
  split
  · simp
  · have keyword : Dialect.relational.Admits " ORDER BY " := by decide
    have blank : Dialect.relational.Admits " " := by decide
    refine Dialect.admits_append.2 ⟨keyword, Dialect.admits_intercalate (by decide) ?_⟩
    intro text mem
    obtain ⟨k, inSorts, rfl⟩ := List.mem_map.1 mem
    have field := (Text.isNameLike_of_isQualified (h k inSorts)).admits_shown .relational
    simp [field, blank, k.direction.admits_spelling]

theorem isAdmitted_countClause (keyword : Str) (h : Dialect.relational.Admits keyword)
    (count : Option Int) : (countClause keyword count).IsAdmitted .relational := by
  cases count with
  | none => simp [countClause]
  | some n => simpa [countClause] using h

theorem isAdmitted_body (named : s.WellNamed) (own : s.IsOwn) {body : Template}
    (made : s.body = .ok body) : body.IsAdmitted .relational := by
  obtain ⟨conditions, read, made⟩ := Result.bind_eq_ok.1 made
  obtain ⟨having, readHaving, same⟩ := Result.bind_eq_ok.1 made
  cases same
  have keyword : Dialect.relational.Admits " FROM " := by decide
  have table := (Text.isNameLike_of_isQualified named.table).admits_shown .relational
  have filtered : ∀ t ∈ conditions, t.IsAdmitted .relational :=
    Condition.isAdmitted_conjunction?
      (fun c mem => (named.conditions c mem).exists_field (own.conditions c mem)) read
  have grouped : ∀ t ∈ having, t.IsAdmitted .relational := by
    refine Condition.isAdmitted_conjunction? (fun c mem => ?_) readHaving
    obtain ⟨fc, inHaving, rfl⟩ := List.mem_map.1 mem
    exact ⟨fc, rfl, Text.isNameLike_of_isExpression (named.having fc inHaving)⟩
  have restriction := isAdmitted_conditionClause " WHERE " (by decide) filtered
  have condition := isAdmitted_conditionClause " HAVING " (by decide) grouped
  simp [own.joins, keyword, table, restriction, admits_groupText named.groups, condition]

theorem isAdmitted_tail (named : s.WellNamed) : s.tail.IsAdmitted .relational := by
  have limit := isAdmitted_countClause " LIMIT " (by decide) s.limit
  have offset := isAdmitted_countClause " OFFSET " (by decide) s.offset
  simp [tail, admits_sortText named.sorts, limit, offset]

end Select

/-! ## Insertions, updates and deletions -/

theorem Insert.isAdmitted_template {s : Insert} (named : s.WellNamed) :
    s.template.IsAdmitted .relational := by
  have table := (Text.isNameLike_of_isQualified named.table).admits_shown .relational
  have columns := Dialect.admits_spellings (d := .relational) fun t mem =>
    Text.isNameLike_of_isPlain (named.columns t mem)
  have row : ∀ t ∈ s.rows.map rowTemplate, t.IsAdmitted .relational := by
    intro t mem
    obtain ⟨row, _, rfl⟩ := List.mem_map.1 mem
    have slots := Template.isAdmitted_slots (d := .relational) ", " (by decide) row
    have opening : Dialect.relational.Admits "(" := by decide
    have closing : Dialect.relational.Admits ")" := by decide
    simp [rowTemplate, opening, slots, closing]
  have rows := Template.isAdmitted_join ", " (by decide) row
  have keyword : Dialect.relational.Admits "INSERT INTO " := by decide
  have opening : Dialect.relational.Admits " (" := by decide
  have closing : Dialect.relational.Admits ") VALUES " := by decide
  simp [template, keyword, table, opening, columns, closing, rows,
    isAdmitted_returningClause named.returning]

namespace Modify

def IsOwn (s : Modify) : Prop :=
  ∀ c ∈ s.conditions, c.IsOwn

theorem isAdmitted_head {s : Modify} (named : s.WellNamed) : s.head.IsAdmitted .relational := by
  have table := (Text.isNameLike_of_isQualified named.table).admits_shown .relational
  unfold head
  split
  · next assignments same =>
    have update : Dialect.relational.Admits "UPDATE " := by decide
    have set : Dialect.relational.Admits " SET " := by decide
    have equal : Dialect.relational.Admits " = " := by decide
    have each : ∀ t ∈ assignments.map assignmentTemplate, t.IsAdmitted .relational := by
      intro t mem
      obtain ⟨a, inAssignments, rfl⟩ := List.mem_map.1 mem
      have column := Text.isNameLike_of_isPlain (named.assignments _ same a inAssignments)
      simp [assignmentTemplate, column.admits_shown, equal]
    have listed := Template.isAdmitted_join ", " (by decide) each
    simp [table, update, set, listed]
  · have keyword : Dialect.relational.Admits "DELETE FROM " := by decide
    simp [table, keyword]

theorem isAdmitted_template {s : Modify} (named : s.WellNamed) (own : s.IsOwn) {t : Template}
    (made : s.template = .ok t) : t.IsAdmitted .relational := by
  obtain ⟨conditions, read, same⟩ := Result.bind_eq_ok.1 made
  cases same
  have filtered : ∀ t ∈ conditions, t.IsAdmitted .relational :=
    Condition.isAdmitted_conjunction?
      (fun c mem => (named.conditions c mem).exists_field (own c mem)) read
  have restriction := isAdmitted_conditionClause " WHERE " (by decide) filtered
  simp [isAdmitted_head named, restriction, isAdmitted_returningClause named.returning]

end Modify

/-! ## Statements of any kind -/

namespace Statement

/-- A statement that holds no text of the caller: no select list, join or raw condition. -/
def IsOwn : Statement → Prop
  | select s => s.IsOwn
  | insert _ => True
  | modify s => s.IsOwn

variable {st : Statement} {outcome : Outcome}

theorem Writes.isAdmitted {t : Template} (h : st.Writes outcome t) (named : st.WellNamed)
    (own : st.IsOwn) : t.IsAdmitted .relational := by
  cases h with
  | @select s fields body listed made =>
    have star : fields = [("*" : Str)] := by
      rw [own.fields] at listed
      exact (Except.ok.inj listed).symm
    have head : Dialect.relational.Admits (commaSeparated fields) := by
      rw [star]
      decide
    have keyword : Dialect.relational.Admits "SELECT " := by decide
    simp [Select.head, keyword, head, Select.isAdmitted_body named own made,
      Select.isAdmitted_tail named]
  | count made =>
    have head : Dialect.relational.Admits ("SELECT " ++ "COUNT(*) AS total") := by decide
    exact Template.isAdmitted_text.2 ⟨head, Select.isAdmitted_body named own made⟩
  | insert s => exact Insert.isAdmitted_template named
  | modify made => exact Modify.isAdmitted_template named own made

theorem Builds.admits {q : SqlQuery} (h : Builds st outcome q) (named : st.WellNamed)
    (own : st.IsOwn) : Dialect.relational.Admits q.text := by
  obtain ⟨t, writes, rfl⟩ := h.exists_writes
  exact SqlQuery.admits_ofTemplate (writes.isAdmitted named own)

end Statement
end BoundQuery
