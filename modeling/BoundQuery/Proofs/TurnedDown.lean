import BoundQuery.Proofs.Call
import BoundQuery.Proofs.GraphQuery.Atomic
import BoundQuery.Proofs.Statement.Reached

/-!
# Calls that are turned down

A call that is turned down leaves everything as it was: the buckets, the slots, and the counter of
names. Only a call that takes a list of names keeps those that stand before the first bad one, in
the one bucket that it adds to.

## Main statements

* `step_of_turnedDown` — what a call that is turned down leaves, for builders of every kind.
-/

namespace BoundQuery

open Effect

theorem text_of_returningItem {v : Value} {t : Text} (h : returningItem v = .ok t) :
    v = .text t := by
  unfold returningItem at h
  split at h
  · split at h
    · cases h
      rfl
    · exact (Name.gate_eq_ok h).1
  · exact (Name.gate_eq_ok h).1

theorem edits_ofSingle_of_fault {ε : Type} {r : Result ε} {fault : Fault}
    (h : (ofSingle r).fault = some fault) : (ofSingle r).edits = [] :=
  edits_ofResult_of_fault h

/-! ## Selections -/

namespace Select

theorem foldl_apply_group (fields : List Text) (s : Select) :
    (fields.map Edit.group).foldl apply s = { s with groups := s.groups ++ fields } := by
  induction fields generalizing s with
  | nil => simp
  | cons field fields ih => simp [ih, apply]

/-- What a selection is after a call that is turned down with `fault`. -/
def After (s : Select) (fault : Fault) : Call → Select → Prop
  | .groupBy fields, s' => ∃ taken,
    CutShort (Name.qualified "group by field") fault fields.asList taken ∧
      s' = { s with groups := s.groups ++ taken }
  | _, s' => s' = s

theorem step_fault {s : Select} {call : Call} {fault : Fault}
    (h : (s.step call).2 = some fault) : s.After fault call (s.step call).1 := by
  have unchanged (none : (call.effect s.config).edits = []) : (s.step call).1 = s := by
    rw [step, none]
    rfl
  cases call with
  | groupBy fields =>
    obtain ⟨taken, cut, edits⟩ := exists_cutShort_of Edit.group
      (fun _ _ passed => (Name.gate_eq_ok passed).1) (fun _ => rfl) h
    refine ⟨taken, cut, ?_⟩
    rw [← foldl_apply_group, ← edits]
    rfl
  | restrict r => exact unchanged (edits_ofResult_of_fault h)
  | join _ _ _ | having _ _ _ | orderBy _ _ | limit _ | offset _ =>
    exact unchanged (edits_ofSingle_of_fault h)
  | paginate page size =>
    refine unchanged ?_
    have turned : ((Call.paginate page size).effect s.config).fault = some fault := h
    rw [effect_paginate] at turned ⊢
    exact edits_ofResult_of_fault turned

end Select

/-! ## Insertions, updates and deletions -/

namespace Insert

def After (s : Insert) (fault : Fault) : Call → Insert → Prop
  | .returning fields, s' => ∃ taken, CutShort returningItem fault fields.asList taken ∧
    s' = { s with returning := s.returning ++ taken }

theorem step_fault {s : Insert} {call : Call} {fault : Fault}
    (h : (s.step call).2 = some fault) : s.After fault call (s.step call).1 := by
  cases call with
  | returning fields =>
    have same : ∀ v, returningItem v = (returningItem v).map id := by
      intro v
      cases returningItem v <;> rfl
    obtain ⟨taken, cut, edits⟩ := exists_cutShort_of id
      (fun _ _ passed => text_of_returningItem passed) same h
    refine ⟨taken, cut, ?_⟩
    rw [List.map_id] at edits
    rw [← edits]
    rfl

end Insert

namespace Modify

theorem foldl_apply_returning (fields : List Text) (s : Modify) :
    (fields.map Edit.returning).foldl apply s = { s with returning := s.returning ++ fields } := by
  induction fields generalizing s with
  | nil => simp
  | cons field fields ih => simp [ih, apply]

def After (s : Modify) (fault : Fault) : Call → Modify → Prop
  | .returning fields, s' => ∃ taken, CutShort returningItem fault fields.asList taken ∧
    s' = { s with returning := s.returning ++ taken }
  | .restrict _, s' => s' = s

theorem step_fault {s : Modify} {call : Call} {fault : Fault}
    (h : (s.step call).2 = some fault) : s.After fault call (s.step call).1 := by
  cases call with
  | returning fields =>
    obtain ⟨taken, cut, edits⟩ := exists_cutShort_of Edit.returning
      (fun _ _ passed => text_of_returningItem passed) (fun _ => rfl) h
    refine ⟨taken, cut, ?_⟩
    rw [← foldl_apply_returning, ← edits]
    rfl
  | restrict r =>
    have none : (Call.restrict r).effect.edits = [] := edits_ofResult_of_fault h
    change (s.step (.restrict r)).1 = s
    rw [step, none]
    rfl

end Modify

/-! ## Graph queries -/

namespace GraphQuery

/-- What a graph query is after a call that is turned down; its counter is among what stays. -/
def After (q : GraphQuery) (fault : Fault) : Call → GraphQuery → Prop
  | .delete targets, q' => ∃ taken, CutShort Call.deleteTarget fault (.ok targets) taken ∧
    q' = { q with deletes := q.deletes ++ taken }
  | .detachDelete targets, q' => ∃ taken, CutShort Call.deleteTarget fault (.ok targets) taken ∧
    q' = { q with detachDeletes := q.detachDeletes ++ taken }
  | _, q' => q' = q

theorem foldl_apply_delete (targets : List Text) (q : GraphQuery) :
    (targets.map Edit.delete).foldl apply q = { q with deletes := q.deletes ++ targets } := by
  induction targets generalizing q with
  | nil => simp
  | cons target targets ih => simp [ih, apply]

theorem foldl_apply_detachDelete (targets : List Text) (q : GraphQuery) :
    (targets.map Edit.detachDelete).foldl apply q =
      { q with detachDeletes := q.detachDeletes ++ targets } := by
  induction targets generalizing q with
  | nil => simp
  | cons target targets ih => simp [ih, apply]

/-- A call that edits all or nothing takes no number when it is turned down. -/
theorem step_of_edited {q : GraphQuery} {call : Call} {fault : Fault}
    (same : call.effect q.config.marker q.counter = call.edited q.config.marker q.counter)
    (h : (q.step call).2 = some fault) : (q.step call).1 = q := by
  rw [step, same] at h ⊢
  cases run : (call.edits q.config.marker).run q.counter with
  | ok x =>
    rw [Call.edited_of_ok run] at h
    cases h
  | error fault' =>
    rw [Call.edited_of_error run]
    rfl

theorem step_fault {q : GraphQuery} {call : Call} {fault : Fault}
    (h : (q.step call).2 = some fault) : q.After fault call (q.step call).1 := by
  cases call with
  | delete targets =>
    obtain ⟨taken, cut, edits⟩ := exists_cutShort Edit.delete
      (fun _ _ passed => (Name.gate_eq_ok passed).1) (fun _ => rfl) h
    refine ⟨taken, cut, ?_⟩
    rw [← foldl_apply_delete, ← edits]
    rfl
  | detachDelete targets =>
    obtain ⟨taken, cut, edits⟩ := exists_cutShort Edit.detachDelete
      (fun _ _ passed => (Name.gate_eq_ok passed).1) (fun _ => rfl) h
    refine ⟨taken, cut, ?_⟩
    rw [← foldl_apply_detachDelete, ← edits]
    rfl
  | _ => exact step_of_edited rfl h

theorem make_fault {q : GraphQuery} {making : Making} {fault : Fault}
    (h : (q.make making).1 = .error fault) : (q.make making).2 = q := by
  have counter := making.isAtomic_run q.counter fault h
  change { q with counter := (making.run.outcome q.counter).2 } = q
  rw [counter]

end GraphQuery

/-- A call that is turned down leaves a builder as it was, but for a call that takes a list of
names: it keeps those before the first bad one. -/
theorem step_of_turnedDown (fault : Fault) :
    (∀ (s : Select) (call : Select.Call),
      (s.step call).2 = some fault → s.After fault call (s.step call).1) ∧
    (∀ (s : Insert) (call : Insert.Call),
      (s.step call).2 = some fault → s.After fault call (s.step call).1) ∧
    (∀ (s : Modify) (call : Modify.Call),
      (s.step call).2 = some fault → s.After fault call (s.step call).1) ∧
    (∀ (q : GraphQuery) (call : GraphQuery.Call),
      (q.step call).2 = some fault → q.After fault call (q.step call).1) ∧
    (∀ (q : GraphQuery) (making : GraphQuery.Making),
      (q.make making).1 = .error fault → (q.make making).2 = q) :=
  ⟨fun _ _ => Select.step_fault, fun _ _ => Insert.step_fault, fun _ _ => Modify.step_fault,
    fun _ _ => GraphQuery.step_fault, fun _ _ => GraphQuery.make_fault⟩

def selection : Select where
  config := .standard
  table := .plain "users"
  fields := [.str "role"]

/-- A graph query whose calls have taken three numbers. -/
def numbered : GraphQuery where
  config := .standard
  counter := 3

def badName (context : Str) : Fault :=
  .identifier (.str "no name") context

/-- Of two groups the first stays. A fragment with a marker too many takes no number, and neither
does a node with properties and a bad label. -/
theorem step_of_turnedDown_numbered :
    selection.After (badName "group by field") (.groupBy (.list [.str "role", .str "no name"]))
      { selection with groups := [.plain "role"] } ∧
    (numbered.step (.condition (.str "n.age > ? OR n.age < ?") (.list [.int 60]))).1 = numbered ∧
    (numbered.make (.node .null (.str "no name") (.map [(.str "age", .int 60)]))).2 = numbered := by
  refine ⟨?_, ?_, ?_⟩
  · exact (step_of_turnedDown (badName "group by field")).1 selection
      (.groupBy (.list [.str "role", .str "no name"])) rfl
  · exact (step_of_turnedDown (.refusal (.markerCount (.str "n.age > ? OR n.age < ?") 2 1))).2.2.2.1
      numbered (.condition (.str "n.age > ? OR n.age < ?") (.list [.int 60])) rfl
  · exact (step_of_turnedDown (badName "label")).2.2.2.2 numbered
      (.node .null (.str "no name") (.map [(.str "age", .int 60)])) rfl

end BoundQuery
