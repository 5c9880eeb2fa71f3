import BoundQuery.Proofs.Call
import BoundQuery.Proofs.Condition.Named
import BoundQuery.Proofs.Statement.Window
import BoundQuery.Statement.Insert
import BoundQuery.Statement.Modify

/-!
# Statements that calls can reach

A relational statement is made once and then changed by any calls, of which some may be turned down
and leave what they did before their fault. Whatever the calls are, each name that is written into
the statement is in the language of its gate.

## Main definitions

* `Statement.Reached` — the statements that some calls lead to.
* `Statement.Builds` — what a statement can be built into.
* `Statement.WellNamed` — all names of a statement have passed their gates.
-/

namespace BoundQuery

/-- A relational statement as it stands between two calls. -/
inductive Statement where
  | select (s : Select)
  | insert (s : Insert)
  | modify (s : Modify)

namespace Statement

/-- A statement that has been made from some data and then called any number of times. The data of
a selection are its fields; a deletion has none. -/
inductive Reached : Value → Statement → Prop
  | select {config : Config} {table fields : Value} {s : Select}
      (made : Select.make config table fields = .ok s) : Reached fields (.select s)
  | insert {table data : Value} {s : Insert} (made : Insert.make table data = .ok s) :
      Reached data (.insert s)
  | update {config : Config} {table data : Value} {s : Modify}
      (made : Modify.makeUpdate config table data = .ok s) : Reached data (.modify s)
  | delete {config : Config} {table : Value} {s : Modify}
      (made : Modify.makeDelete config table = .ok s) : Reached .null (.modify s)
  | selectCall {data : Value} {s : Select} (before : Reached data (.select s))
      (call : Select.Call) : Reached data (.select (s.step call).1)
  | insertCall {data : Value} {s : Insert} (before : Reached data (.insert s))
      (call : Insert.Call) : Reached data (.insert (s.step call).1)
  | modifyCall {data : Value} {s : Modify} (before : Reached data (.modify s))
      (call : Modify.Call) : Reached data (.modify (s.step call).1)

/-- What a statement is built into: a selection can also be built into the statement that counts
its rows. -/
inductive Outcome where
  | whole
  | count

inductive Builds : Statement → Outcome → SqlQuery → Prop
  | select {s : Select} {q : SqlQuery} (built : s.build = .ok q) : Builds (.select s) .whole q
  | count {s : Select} {q : SqlQuery} (built : s.buildCount = .ok q) : Builds (.select s) .count q
  | insert (s : Insert) : Builds (.insert s) .whole s.build
  | modify {s : Modify} {q : SqlQuery} (built : s.build = .ok q) : Builds (.modify s) .whole q

end Statement

theorem forall_mem_concat {α : Type} {P : α → Prop} {xs : List α} {x : α} (before : ∀ y ∈ xs, P y)
    (last : P x) : ∀ y ∈ xs ++ [x], P y :=
  List.forall_mem_append.2 ⟨before, List.forall_mem_singleton.2 last⟩

/-! ## Names of selections -/

/-- A field to return, or the star. -/
def IsReturned (t : Text) : Prop :=
  t.spelling = "*" ∨ Name.isQualified t.chars = true

structure Select.WellNamed (s : Select) : Prop where
  table : Name.isQualified s.table.chars = true
  conditions : ∀ c ∈ s.conditions, c.WellNamed
  joins : ∀ j ∈ s.joins, Name.isQualified j.table.chars = true
  groups : ∀ field ∈ s.groups, Name.isQualified field.chars = true
  having : ∀ c ∈ s.having, Name.isExpression c.field.chars = true
  sorts : ∀ k ∈ s.sorts, Name.isQualified k.field.chars = true

namespace Select

/-- The names that an edit adds have passed their gates. -/
def Edit.WellNamed : Edit → Prop
  | condition c => c.WellNamed
  | join j => Name.isQualified j.table.chars = true
  | group field => Name.isQualified field.chars = true
  | having c => Name.isExpression c.field.chars = true
  | sort k => Name.isQualified k.field.chars = true
  | limit _ | offset _ => True

theorem wellNamed_of_make {config : Config} {table fields : Value} {s : Select}
    (h : make config table fields = .ok s) : s.WellNamed := by
  obtain ⟨name, gate, h⟩ := Result.bind_eq_ok.1 h
  have table := (Name.gate_eq_ok gate).2
  dsimp only at h
  split at h <;>
  · obtain ⟨texts, _, same⟩ := Result.bind_eq_ok.1 h
    cases same
    constructor <;> simp [table]

theorem WellNamed.apply {s : Select} (h : s.WellNamed) {e : Edit} (he : e.WellNamed) :
    (s.apply e).WellNamed := by
  cases e with
  | condition c => exact { h with conditions := forall_mem_concat h.conditions he }
  | join j => exact { h with joins := forall_mem_concat h.joins he }
  | group field => exact { h with groups := forall_mem_concat h.groups he }
  | having c => exact { h with having := forall_mem_concat h.having he }
  | sort k => exact { h with sorts := forall_mem_concat h.sorts he }
  | limit _ | offset _ => exact { h with }

theorem isQualified_of_makeJoin {table type condition : Value} {j : Join}
    (h : makeJoin table type condition = .ok j) : Name.isQualified j.table.chars = true := by
  obtain ⟨kind, _, h⟩ := Result.bind_eq_ok.1 h
  obtain ⟨text, _, h⟩ := Result.bind_eq_ok.1 h
  obtain ⟨name, gate, same⟩ := Result.bind_eq_ok.1 h
  cases same
  exact (Name.gate_eq_ok gate).2

theorem isQualified_of_makeSort {field direction : Value} {k : SortKey}
    (h : makeSort field direction = .ok k) : Name.isQualified k.field.chars = true := by
  obtain ⟨name, gate, h⟩ := Result.bind_eq_ok.1 h
  obtain ⟨d, _, same⟩ := Result.bind_eq_ok.1 h
  cases same
  exact (Name.gate_eq_ok gate).2

theorem wellNamed_of_mem_effect (config : Config) (call : Call) :
    ∀ e ∈ (call.effect config).edits, e.WellNamed := by
  cases call with
  | restrict r =>
    refine Effect.forall_edits_ofResult fun edits made e mem => ?_
    obtain ⟨cs, found, rfl⟩ := Result.map_eq_ok.1 made
    obtain ⟨c, inFound, rfl⟩ := List.mem_map.1 mem
    exact Restriction.wellNamed_of_conditions found c inFound
  | join table type condition =>
    refine Effect.forall_edits_ofSingle fun e made => ?_
    obtain ⟨j, found, rfl⟩ := Result.map_eq_ok.1 made
    exact isQualified_of_makeJoin found
  | groupBy fields =>
    refine Effect.forall_edits_upToFaultOf (fun x e made => ?_) fields.asList
    obtain ⟨name, gate, rfl⟩ := Result.map_eq_ok.1 made
    exact (Name.gate_eq_ok gate).2
  | having expression operator operand =>
    refine Effect.forall_edits_ofSingle fun e made => ?_
    obtain ⟨c, found, rfl⟩ := Result.map_eq_ok.1 made
    exact FieldCondition.isExpression_of_makeAggregate found
  | orderBy field direction =>
    refine Effect.forall_edits_ofSingle fun e made => ?_
    obtain ⟨k, found, rfl⟩ := Result.map_eq_ok.1 made
    exact isQualified_of_makeSort found
  | limit count | offset count =>
    refine Effect.forall_edits_ofSingle fun e made => ?_
    obtain ⟨n, _, rfl⟩ := Result.map_eq_ok.1 made
    trivial
  | paginate page size =>
    rw [effect_paginate]
    refine Effect.forall_edits_ofResult fun edits made e mem => ?_
    obtain ⟨window, _, rfl⟩ := Result.map_eq_ok.1 made
    rcases List.mem_pair.1 mem with rfl | rfl <;> trivial

theorem WellNamed.step {s : Select} (h : s.WellNamed) (call : Call) : (s.step call).1.WellNamed :=
  List.foldlRecOn _ _ h fun _ before _ mem =>
    before.apply (wellNamed_of_mem_effect s.config call _ mem)

end Select

/-! ## Names of insertions -/

structure Insert.WellNamed (s : Insert) : Prop where
  table : Name.isQualified s.table.chars = true
  columns : ∀ column ∈ s.columns, Name.isPlain column.chars = true
  returning : ∀ field ∈ s.returning, IsReturned field

namespace Insert

theorem wellNamed_of_make {table data : Value} {s : Insert} (h : make table data = .ok s) :
    s.WellNamed := by
  obtain ⟨name, gate, h⟩ := Result.bind_eq_ok.1 h
  obtain ⟨rows, _, h⟩ := Result.bind_eq_ok.1 h
  split at h
  · cases h
  · obtain ⟨entries, _, h⟩ := Result.bind_eq_ok.1 h
    obtain ⟨columns, read, h⟩ := Result.bind_eq_ok.1 h
    dsimp only at h
    split at h
    · cases h
    · obtain ⟨later, _, same⟩ := Result.bind_eq_ok.1 h
      cases same
      refine ⟨(Name.gate_eq_ok gate).2, fun column mem => ?_, by simp⟩
      obtain ⟨entry, _, passed⟩ := Result.exists_of_mem_mapM read mem
      exact (Name.gate_eq_ok passed).2

theorem WellNamed.step {s : Insert} (h : s.WellNamed) (call : Call) :
    (s.step call).1.WellNamed := by
  cases call with
  | returning fields =>
    have added := Effect.forall_edits_upToFaultOf (f := returningItem) (P := IsReturned)
      (fun _ _ passed => isQualified_of_returningItem passed) fields.asList
    exact { h with returning := List.forall_mem_append.2 ⟨h.returning, added⟩ }

end Insert

/-! ## Names of updates and deletions -/

structure Modify.WellNamed (s : Modify) : Prop where
  table : Name.isQualified s.table.chars = true
  assignments : ∀ assignments, s.modification = .update assignments →
    ∀ a ∈ assignments, Name.isPlain a.1.chars = true
  conditions : ∀ c ∈ s.conditions, c.WellNamed
  returning : ∀ field ∈ s.returning, IsReturned field

namespace Modify

def Edit.WellNamed : Edit → Prop
  | condition c => c.WellNamed
  | returning field => IsReturned field

theorem wellNamed_of_makeUpdate {config : Config} {table data : Value} {s : Modify}
    (h : makeUpdate config table data = .ok s) : s.WellNamed := by
  obtain ⟨name, gate, h⟩ := Result.bind_eq_ok.1 h
  dsimp only at h
  split at h
  · cases h
  · obtain ⟨entries, _, h⟩ := Result.bind_eq_ok.1 h
    obtain ⟨assignments, read, same⟩ := Result.bind_eq_ok.1 h
    cases same
    refine ⟨(Name.gate_eq_ok gate).2, fun found eq a mem => ?_, by simp, by simp⟩
    cases eq
    obtain ⟨entry, _, passed⟩ := Result.exists_of_mem_mapM read mem
    obtain ⟨column, gated, same⟩ := Result.bind_eq_ok.1 passed
    cases same
    exact (Name.gate_eq_ok gated).2

theorem wellNamed_of_makeDelete {config : Config} {table : Value} {s : Modify}
    (h : makeDelete config table = .ok s) : s.WellNamed := by
  obtain ⟨name, gate, same⟩ := Result.bind_eq_ok.1 h
  cases same
  exact ⟨(Name.gate_eq_ok gate).2, by simp, by simp, by simp⟩

theorem WellNamed.apply {s : Modify} (h : s.WellNamed) {e : Edit} (he : e.WellNamed) :
    (s.apply e).WellNamed := by
  cases e with
  | condition c => exact { h with conditions := forall_mem_concat h.conditions he }
  | returning field => exact { h with returning := forall_mem_concat h.returning he }

theorem wellNamed_of_mem_effect (call : Call) : ∀ e ∈ call.effect.edits, e.WellNamed := by
  cases call with
  | restrict r =>
    refine Effect.forall_edits_ofResult fun edits made e mem => ?_
    obtain ⟨cs, found, rfl⟩ := Result.map_eq_ok.1 made
    obtain ⟨c, inFound, rfl⟩ := List.mem_map.1 mem
    exact Restriction.wellNamed_of_conditions found c inFound
  | returning fields =>
    refine Effect.forall_edits_upToFaultOf (fun x e made => ?_) fields.asList
    obtain ⟨field, passed, rfl⟩ := Result.map_eq_ok.1 made
    exact isQualified_of_returningItem passed

theorem WellNamed.step {s : Modify} (h : s.WellNamed) (call : Call) : (s.step call).1.WellNamed :=
  List.foldlRecOn _ _ h fun _ before _ mem => before.apply (wellNamed_of_mem_effect call _ mem)

end Modify

namespace Statement

/-- All names of a statement have passed their gates. -/
def WellNamed : Statement → Prop
  | select s => s.WellNamed
  | insert s => s.WellNamed
  | modify s => s.WellNamed

theorem Reached.wellNamed {data : Value} {st : Statement} (h : st.Reached data) : st.WellNamed := by
  induction h with
  | select made => exact Select.wellNamed_of_make made
  | insert made => exact Insert.wellNamed_of_make made
  | update made => exact Modify.wellNamed_of_makeUpdate made
  | delete made => exact Modify.wellNamed_of_makeDelete made
  | selectCall _ call ih => exact Select.WellNamed.step ih call
  | insertCall _ call ih => exact Insert.WellNamed.step ih call
  | modifyCall _ call ih => exact Modify.WellNamed.step ih call

end Statement
end BoundQuery
