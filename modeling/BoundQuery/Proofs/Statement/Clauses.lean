import BoundQuery.Proofs.Condition.Idle
import BoundQuery.Proofs.Statement.Count
import BoundQuery.Proofs.Statement.RawFragment
import BoundQuery.Proofs.Statement.Rows

/-!
# The clauses of the conditions

A statement is written clause by clause. The clause of some conditions stands when one of them says
something; when all of them ask for membership in an empty list its keyword is left out too.

## Main definitions

* `Condition.Heads` — the clause of some conditions, which may be left out.
* `Select.IsWritten`, `Modify.IsWritten` — a statement with its clauses in their order.

## Main statements

* `Select.exists_isWritten_of_build`, `Select.isWritten_of_buildCount`,
  `Modify.isWritten_of_build` — what is built consists of these clauses.
-/

namespace BoundQuery

/-- The text of the clause of some conditions: it stands, after its keyword, when one of them says
something, and only then. -/
structure Condition.Heads (keyword : Str) (cs : List Condition) (text : Str) : Prop where
  absent : (∀ c ∈ cs, c.isIdle = true) → text = ""
  present : (∃ c ∈ cs, c.isIdle = false) → ∃ t, text = keyword ++ t

theorem Condition.heads_conditionClause {d : Dialect} {marker : List Chr} {cs : List Condition}
    {t? : Option Template} (h : conjunction? d marker cs = .ok t?) (keyword : Str) (n : Nat) :
    Heads keyword cs ((conditionClause keyword t?).inscribe "" n).written := by
  have none := eq_none_iff_of_conjunction? h
  constructor
  · intro idle
    rw [none.2 idle]
    rfl
  · rintro ⟨c, mem, speaks⟩
    cases t? with
    | none =>
      rw [none.1 rfl c mem] at speaks
      cases speaks
    | some t => exact ⟨_, Inscription.written_text _ _⟩

/-- Only texts have spellings. -/
theorem exists_texts_of_spellings {vs : List Value} {index : Nat} {texts : List Str}
    (h : spellings index vs = .ok texts) : ∃ names : List Text, vs = names.map .text := by
  induction vs generalizing index texts with
  | nil => exact ⟨[], rfl⟩
  | cons v vs ih =>
    cases v with
    | text t =>
      obtain ⟨rest, read, _⟩ := Result.map_eq_ok.1 h
      obtain ⟨names, rfl⟩ := ih read
      exact ⟨t :: names, rfl⟩
    | _ => cases h

namespace Select

/-- A selection behind its select list: the tables, the conditions on the rows, the groups and the
conditions on these, and what comes last. -/
def IsWritten (s : Select) (head last text : Str) : Prop :=
  ∃ wheres havings,
    text = head ++ " FROM " ++ s.table.shown ++ Str.join (s.joins.map joinText) ++ wheres ++
      groupText s.groups ++ havings ++ last ∧
    Condition.Heads " WHERE " s.conditions wheres ∧
    Condition.Heads " HAVING " (s.having.map .field) havings

theorem written_joins (joins : List Join) (n : Nat) :
    (Template.inscribe "" n (joins.map fun j => .text (joinText j))).written =
      Str.join (joins.map joinText) := by
  induction joins with
  | nil => rfl
  | cons j joins ih => simp [Template.inscribe, ih]

theorem isWritten_of_body {s : Select} {body : Template} (made : s.body = .ok body)
    (head last : Str) : s.IsWritten head last (head ++ (body.inscribe "" 0).written ++ last) := by
  obtain ⟨conditions, restricted, h⟩ := Result.bind_eq_ok.1 made
  obtain ⟨having, grouped, same⟩ := Result.bind_eq_ok.1 h
  cases same
  refine ⟨_, _, ?_, Condition.heads_conditionClause restricted " WHERE " 0,
    Condition.heads_conditionClause grouped " HAVING "
      (conditionClause " WHERE " conditions).values.length⟩
  simp [Template.inscribe, Template.inscribe_append, written_joins, values_joins,
    Str.append_assoc]

theorem exists_isWritten_of_build {s : Select} {q : SqlQuery} (built : s.build = .ok q) :
    ∃ (names : List Text) (bound : Nat), s.fields = names.map .text ∧
      s.IsWritten ("SELECT " ++ commaSeparated (names.map Text.spelling)) (s.tailText bound)
        q.text := by
  obtain ⟨fields, spelled, h⟩ := Result.bind_eq_ok.1 built
  obtain ⟨body, made, _⟩ := Result.bind_eq_ok.1 h
  obtain ⟨names, texts⟩ := exists_texts_of_spellings spelled
  rw [build_of_body texts made] at built
  cases built
  exact ⟨names, _, texts, isWritten_of_body made _ _⟩

theorem isWritten_of_buildCount {s : Select} {q : SqlQuery} (built : s.buildCount = .ok q) :
    s.IsWritten "SELECT COUNT(*) AS total" "" q.text := by
  obtain ⟨body, made, _⟩ := Result.bind_eq_ok.1 built
  rw [buildCount_of_body made] at built
  cases built
  simpa using isWritten_of_body made "SELECT COUNT(*) AS total" ""

end Select

namespace Modify

/-- What an update or a deletion says before its conditions. -/
def headText (s : Modify) : Str :=
  (s.head.inscribe "" 0).written

/-- An update or a deletion: the rows to change, the conditions on them, and what is returned. -/
def IsWritten (s : Modify) (text : Str) : Prop :=
  ∃ wheres, text = s.headText ++ wheres ++ returningText s.returning ∧
    Condition.Heads " WHERE " s.conditions wheres

theorem isWritten_of_build {s : Modify} {q : SqlQuery} (built : s.build = .ok q) :
    s.IsWritten q.text := by
  obtain ⟨t, made, same⟩ := Result.bind_eq_ok.1 built
  cases same
  obtain ⟨conditions, restricted, same⟩ := Result.bind_eq_ok.1 made
  cases same
  refine ⟨_, ?_, Condition.heads_conditionClause restricted " WHERE " s.head.values.length⟩
  simp [SqlQuery.text_ofTemplate, headText, Template.inscribe_append,
    Insert.written_returningClause, Str.append_assoc]

end Modify
end BoundQuery
