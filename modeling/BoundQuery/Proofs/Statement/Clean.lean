import BoundQuery.Proofs.Condition.Clean
import BoundQuery.Proofs.Name.Listed
import BoundQuery.Proofs.Statement.Reached

/-!
# Clean statements

A statement is written from a template, clause after clause. When its names have passed their gates
and the texts of the caller hold no dollar sign, nothing in it but a slot can be taken for a
placeholder, and no text runs on from a slot.

## Main definitions

* `Statement.CallerTextIsClean` — what is asked of select lists, join conditions and raw fragments.
* `Statement.Writes` — the templates that a statement is written from.

## Main statements

* `Statement.Writes.isClean` — these templates are clean.
-/

namespace BoundQuery

/-! ## Clauses -/

namespace Template

/-- A clean template that can follow a slot. -/
structure IsClause (d : Dialect) (t : Template) : Prop where
  isClean : t.IsClean d
  opens : t.Opens d

variable {d : Dialect}

theorem isClause_nil : IsClause d [] :=
  ⟨trivial, opens_nil⟩

theorem IsClause.append {s t : Template} (left : IsClause d s) (right : IsClause d t) :
    IsClause d (s ++ t) :=
  ⟨left.isClean.append right.isClean right.opens, left.opens.append right.opens⟩

theorem isClause_text {s : Str} (dollar : .scalar '$' ∉ s.toList)
    (head : ∀ c ∈ s.toList.head?, d.isWordChar c = false) : IsClause d [.text s] :=
  ⟨⟨dollar, trivial⟩, Opens.text head opens_nil⟩

theorem isClause_conditionClause {keyword : Str} (h : IsSeparator d keyword)
    {t? : Option Template}
    (clean : ∀ t ∈ t?, t.IsClean d) : IsClause d (conditionClause keyword t?) := by
  cases t? with
  | none => exact isClause_nil
  | some t => exact ⟨⟨h.dollar_notMem, clean t rfl⟩, h.opens t⟩

theorem isSeparator_where (d : Dialect) : IsSeparator d " WHERE " where
  dollar_notMem := by decide
  head := ⟨' ', by decide, by cases d <;> decide⟩

theorem isSeparator_having (d : Dialect) : IsSeparator d " HAVING " where
  dollar_notMem := by decide
  head := ⟨' ', by decide, by cases d <;> decide⟩

end Template

theorem IsReturned.dollar_notMem {t : Text} (h : IsReturned t) : .scalar '$' ∉ t.chars := by
  rcases h with star | name
  · simp [Text.chars, star]
  · exact Name.dollar_notMem_of_isQualified name

theorem isClause_returningClause {d : Dialect} {fields : List Text}
    (h : ∀ t ∈ fields, IsReturned t) :
    Template.IsClause d (returningClause fields) := by
  cases fields with
  | nil => exact Template.isClause_nil
  | cons t rest =>
    have dollar := dollar_notMem_spellings fun t mem => (h t mem).dollar_notMem
    refine Template.isClause_text (by simpa [commaSeparated] using dollar) fun c mem => ?_
    have blank : c = ' ' := by simpa using mem.symm
    rw [blank]
    cases d <;> decide

theorem values_returningClause (fields : List Text) : (returningClause fields).values = [] := by
  cases fields <;> rfl

theorem Condition.WellNamed.isClean {c : Condition} (h : c.WellNamed) {d : Dialect}
    {marker : List Chr} (text : c.CallerTextIsClean d marker) : c.IsClean d marker := by
  cases c with
  | field c => exact Name.dollar_notMem_of_isQualified h
  | raw fragment values => exact text

/-! ## Selections -/

/-- The texts of the caller in a selection hold no dollar sign, and no marker in a raw fragment has
a digit right after it. -/
structure Select.CallerTextIsClean (s : Select) : Prop where
  fields : ∀ v ∈ s.fields, v.IsDollarFree
  joins : ∀ j ∈ s.joins, .scalar '$' ∉ j.condition.chars
  conditions : ∀ c ∈ s.conditions, c.CallerTextIsClean .relational s.config.marker

namespace Select

variable {s : Select}

theorem dollar_notMem_joinText {j : Join} (table : Name.isQualified j.table.chars = true)
    (condition : .scalar '$' ∉ j.condition.chars) : .scalar '$' ∉ (joinText j).toList := by
  have kind : .scalar '$' ∉ j.type.spelling.toList := by cases j.type <;> decide
  have table := Text.dollar_notMem_shown (Name.dollar_notMem_of_isQualified table)
  have condition := Text.dollar_notMem_shown condition
  simp [joinText, kind, table, condition]

theorem isClause_joins {joins : List Join}
    (table : ∀ j ∈ joins, Name.isQualified j.table.chars = true)
    (condition : ∀ j ∈ joins, .scalar '$' ∉ j.condition.chars) :
    Template.IsClause .relational (joins.map fun j => .text (joinText j)) := by
  induction joins with
  | nil => exact Template.isClause_nil
  | cons j joins ih =>
    have first :=
      dollar_notMem_joinText (table j List.mem_cons_self) (condition j List.mem_cons_self)
    have rest := ih (fun j mem => table j (List.mem_cons_of_mem _ mem))
      fun j mem => condition j (List.mem_cons_of_mem _ mem)
    refine Template.IsClause.append (s := [.text (joinText j)]) ?_ rest
    refine Template.isClause_text first fun c mem => ?_
    have blank : c = ' ' := by simpa [joinText] using mem.symm
    rw [blank]
    decide

theorem isClause_groups (h : ∀ field ∈ s.groups, Name.isQualified field.chars = true) :
    Template.IsClause .relational [.text (groupText s.groups)] := by
  unfold groupText
  split
  · exact Template.isClause_text (by simp) (by simp)
  · next fields _ =>
    have dollar := dollar_notMem_spellings fun t mem => Name.dollar_notMem_of_isQualified (h t mem)
    exact Template.isClause_text (by simpa using dollar) (by simp; decide)

theorem isClause_sorts (h : ∀ k ∈ s.sorts, Name.isQualified k.field.chars = true) :
    Template.IsClause .relational [.text (sortText s.sorts)] := by
  unfold sortText
  split
  · exact Template.isClause_text (by simp) (by simp)
  · next sorts _ =>
    have dollar : .scalar '$' ∉ (commaSeparated (s.sorts.map fun k =>
        k.field.shown ++ " " ++ k.direction.spelling)).toList := by
      refine dollar_notMem_intercalate (by decide) fun text mem => ?_
      obtain ⟨k, inSorts, rfl⟩ := List.mem_map.1 mem
      have field := Text.dollar_notMem_shown (Name.dollar_notMem_of_isQualified (h k inSorts))
      have direction : .scalar '$' ∉ k.direction.spelling.toList := by cases k.direction <;> decide
      simp [field, direction]
    exact Template.isClause_text (by simpa using dollar) (by simp; decide)

theorem isClause_countClause {keyword : Str} (h : Template.IsSeparator .relational keyword)
    (count : Option Int) : Template.IsClause .relational (countClause keyword count) := by
  cases count with
  | none => exact Template.isClause_nil
  | some n => exact ⟨⟨h.dollar_notMem, Template.opens_nil, trivial⟩, h.opens _⟩

theorem isClause_body (named : s.WellNamed) (clean : s.CallerTextIsClean) {body : Template}
    (made : s.body = .ok body) : Template.IsClause .relational body := by
  obtain ⟨conditions, read, made⟩ := Result.bind_eq_ok.1 made
  obtain ⟨having, readHaving, same⟩ := Result.bind_eq_ok.1 made
  cases same
  have table := Text.dollar_notMem_shown (Name.dollar_notMem_of_isQualified named.table)
  have source : Template.IsClause .relational [.text (" FROM " ++ s.table.shown)] :=
    Template.isClause_text (by simpa using table) (by simp; decide)
  have filtered : ∀ t ∈ conditions, t.IsClean .relational := by
    refine Condition.isClean_conjunction? (fun c mem => ?_) read
    exact (named.conditions c mem).isClean (clean.conditions c mem)
  have grouped : ∀ t ∈ having, t.IsClean .relational := by
    refine Condition.isClean_conjunction? (fun c mem => ?_) readHaving
    obtain ⟨fc, inHaving, rfl⟩ := List.mem_map.1 mem
    exact Name.dollar_notMem_of_isExpression (named.having fc inHaving)
  exact (((source.append (isClause_joins named.joins clean.joins)).append
    (Template.isClause_conditionClause (Template.isSeparator_where _) filtered)).append
    (isClause_groups named.groups)).append
    (Template.isClause_conditionClause (Template.isSeparator_having _) grouped)

theorem isClause_tail (named : s.WellNamed) : Template.IsClause .relational s.tail :=
  ((isClause_sorts named.sorts).append
    (isClause_countClause ⟨by decide, ' ', by decide, by decide⟩ s.limit)).append
    (isClause_countClause ⟨by decide, ' ', by decide, by decide⟩ s.offset)

end Select

/-! ## Insertions, updates and deletions -/

namespace Insert

theorem isClean_template {s : Insert} (named : s.WellNamed) : s.template.IsClean .relational := by
  have table := Text.dollar_notMem_shown (Name.dollar_notMem_of_isQualified named.table)
  have columns := dollar_notMem_spellings fun t mem =>
    Name.dollar_notMem_of_isPlain (named.columns t mem)
  have rows : (Template.join ", " (s.rows.map rowTemplate)).IsClean .relational := by
    refine Template.isClean_join (Template.isSeparator_comma _) fun t mem => ?_
    obtain ⟨row, _, rfl⟩ := List.mem_map.1 mem
    have slots := Template.isClean_slots (Template.isSeparator_comma .relational) row
    refine ⟨by decide, slots.append ⟨by decide, trivial⟩ ?_⟩
    exact Template.opens_text_of_head (c := ')') rfl (by decide) []
  have returning := isClause_returningClause (d := .relational) named.returning
  refine ⟨by simp [table, columns], rows.append returning.isClean returning.opens⟩

end Insert

namespace Modify

def CallerTextIsClean (s : Modify) : Prop :=
  ∀ c ∈ s.conditions, c.CallerTextIsClean .relational s.config.marker

theorem isClean_head {s : Modify} (named : s.WellNamed) : s.head.IsClean .relational := by
  have table := Text.dollar_notMem_shown (Name.dollar_notMem_of_isQualified named.table)
  unfold head
  split
  · next assignments same =>
    refine ⟨by simp [table], Template.isClean_join (Template.isSeparator_comma _) fun t mem => ?_⟩
    obtain ⟨a, inAssignments, rfl⟩ := List.mem_map.1 mem
    have column := Text.dollar_notMem_shown
      (Name.dollar_notMem_of_isPlain (named.assignments _ same a inAssignments))
    exact ⟨by simp [column], Template.opens_nil, trivial⟩
  · exact ⟨by simp [table], trivial⟩

theorem isClean_template {s : Modify} (named : s.WellNamed) (clean : s.CallerTextIsClean)
    {t : Template} (made : s.template = .ok t) : t.IsClean .relational := by
  obtain ⟨conditions, read, same⟩ := Result.bind_eq_ok.1 made
  cases same
  have filtered : ∀ t ∈ conditions, t.IsClean .relational := by
    refine Condition.isClean_conjunction? (fun c mem => ?_) read
    exact (named.conditions c mem).isClean (clean c mem)
  have restriction := Template.isClause_conditionClause (Template.isSeparator_where _) filtered
  have returning := isClause_returningClause (d := .relational) named.returning
  exact ((isClean_head named).append restriction.isClean restriction.opens).append
    returning.isClean returning.opens

end Modify

/-! ## Statements of any kind -/

namespace Statement

/-- The texts of the caller that a statement holds cannot be taken for placeholders. -/
def CallerTextIsClean : Statement → Prop
  | select s => s.CallerTextIsClean
  | insert _ => True
  | modify s => s.CallerTextIsClean

/-- The templates that a statement is written from. -/
inductive Writes : Statement → Outcome → Template → Prop
  | select {s : Select} {fields : List Str} {body : Template}
      (listed : spellings 0 s.fields = .ok fields) (made : s.body = .ok body) :
      Writes (.select s) .whole (Select.head (commaSeparated fields) :: body ++ s.tail)
  | count {s : Select} {body : Template} (made : s.body = .ok body) :
      Writes (.select s) .count (Select.head "COUNT(*) AS total" :: body)
  | insert (s : Insert) : Writes (.insert s) .whole s.template
  | modify {s : Modify} {t : Template} (made : s.template = .ok t) : Writes (.modify s) .whole t

theorem Builds.exists_writes {st : Statement} {outcome : Outcome} {q : SqlQuery}
    (h : st.Builds outcome q) : ∃ t, st.Writes outcome t ∧ q = .ofTemplate t := by
  cases h with
  | select built =>
    obtain ⟨fields, listed, built⟩ := Result.bind_eq_ok.1 built
    obtain ⟨body, made, same⟩ := Result.bind_eq_ok.1 built
    exact ⟨_, .select listed made, (Except.ok.inj same).symm⟩
  | count built =>
    obtain ⟨body, made, same⟩ := Result.bind_eq_ok.1 built
    exact ⟨_, .count made, (Except.ok.inj same).symm⟩
  | insert s => exact ⟨_, .insert s, rfl⟩
  | modify built =>
    obtain ⟨t, made, same⟩ := Result.bind_eq_ok.1 built
    exact ⟨t, .modify made, (Except.ok.inj same).symm⟩

theorem Writes.isClean {st : Statement} {outcome : Outcome} {t : Template}
    (h : st.Writes outcome t) (named : st.WellNamed) (clean : st.CallerTextIsClean) :
    t.IsClean .relational := by
  cases h with
  | @select _ fields _ listed made =>
    have fields : .scalar '$' ∉ (commaSeparated fields).toList :=
      dollar_notMem_intercalate (by decide) (dollar_notMem_of_spellings listed clean.fields)
    have rest := (Select.isClause_body named clean made).append (Select.isClause_tail named)
    exact ⟨by simpa using fields, rest.isClean⟩
  | count made => exact ⟨by decide, (Select.isClause_body named clean made).isClean⟩
  | insert s => exact Insert.isClean_template named
  | modify made => exact Modify.isClean_template named clean made

end Statement
end BoundQuery
