import BoundQuery.Proofs.Run
import BoundQuery.Proofs.Statement.Reached

/-!
# Calls on statements in another order

Each call on a selection, an update or a deletion edits one bucket of it and looks at nothing but
its own arguments and the configuration. So whatever the order in which the clauses are asked for,
the statement that is built is the same, and the same calls are turned down.

## Main statements

* `Select.independent`, `Modify.independent` — calls for different buckets are independent.
* `Statement.build_of_reordered` — what is built after calls in another order.
-/

namespace BoundQuery

/-! ## Selections -/

namespace Select

/-- What a selection collects. The limit and the offset go together, for a page sets both. -/
inductive Bucket where
  | conditions | joins | groups | having | sorts | page
  deriving DecidableEq

def Edit.bucket : Edit → Bucket
  | condition _ => .conditions
  | join _ => .joins
  | group _ => .groups
  | having _ => .having
  | sort _ => .sorts
  | limit _ | offset _ => .page

def Call.bucket : Call → Bucket
  | restrict _ => .conditions
  | join _ _ _ => .joins
  | groupBy _ => .groups
  | having _ _ _ => .having
  | orderBy _ _ => .sorts
  | limit _ | offset _ | paginate _ _ => .page

theorem apply_comm (s : Select) (e e' : Edit) (apart : e.bucket ≠ e'.bucket) :
    (s.apply e).apply e' = (s.apply e').apply e := by
  cases e <;> cases e' <;> first | rfl | exact absurd rfl apart

theorem bucket_of_mem_effect (config : Config) (call : Call) :
    ∀ e ∈ (call.effect config).edits, e.bucket = call.bucket := by
  cases call with
  | restrict r =>
    refine Effect.forall_edits_ofResult fun edits made e mem => ?_
    obtain ⟨cs, _, rfl⟩ := Result.map_eq_ok.1 made
    obtain ⟨c, _, rfl⟩ := List.mem_map.1 mem
    rfl
  | groupBy fields =>
    refine Effect.forall_edits_upToFaultOf (fun x e made => ?_) fields.asList
    obtain ⟨name, _, rfl⟩ := Result.map_eq_ok.1 made
    rfl
  | join _ _ _ | having _ _ _ | orderBy _ _ | limit _ | offset _ =>
    refine Effect.forall_edits_ofSingle fun e made => ?_
    obtain ⟨made, _, rfl⟩ := Result.map_eq_ok.1 made
    rfl
  | paginate page size =>
    rw [effect_paginate]
    refine Effect.forall_edits_ofResult fun edits made e mem => ?_
    obtain ⟨window, _, rfl⟩ := Result.map_eq_ok.1 made
    rcases List.mem_pair.1 mem with rfl | rfl <;> rfl

theorem config_foldl_apply (edits : List Edit) (s : Select) :
    (edits.foldl apply s).config = s.config := by
  induction edits generalizing s with
  | nil => rfl
  | cons e edits ih =>
    rw [List.foldl_cons, ih]
    cases e <;> rfl

theorem independent : Run.Independent step Call.bucket where
  comm s x y apart := by
    simp only [step, config_foldl_apply]
    exact foldl_foldl_comm apply_comm apart (bucket_of_mem_effect s.config x)
      (bucket_of_mem_effect s.config y) s
  verdict s x y := by simp only [step, config_foldl_apply]

end Select

/-! ## Updates and deletions -/

namespace Modify

inductive Bucket where
  | conditions | returning
  deriving DecidableEq

def Edit.bucket : Edit → Bucket
  | condition _ => .conditions
  | returning _ => .returning

def Call.bucket : Call → Bucket
  | restrict _ => .conditions
  | returning _ => .returning

theorem apply_comm (s : Modify) (e e' : Edit) (apart : e.bucket ≠ e'.bucket) :
    (s.apply e).apply e' = (s.apply e').apply e := by
  cases e <;> cases e' <;> first | rfl | exact absurd rfl apart

theorem bucket_of_mem_effect (call : Call) : ∀ e ∈ call.effect.edits, e.bucket = call.bucket := by
  cases call with
  | restrict r =>
    refine Effect.forall_edits_ofResult fun edits made e mem => ?_
    obtain ⟨cs, _, rfl⟩ := Result.map_eq_ok.1 made
    obtain ⟨c, _, rfl⟩ := List.mem_map.1 mem
    rfl
  | returning fields =>
    refine Effect.forall_edits_upToFaultOf (fun x e made => ?_) fields.asList
    obtain ⟨field, _, rfl⟩ := Result.map_eq_ok.1 made
    rfl

theorem independent : Run.Independent step Call.bucket where
  comm s x y apart :=
    foldl_foldl_comm apply_comm apart (bucket_of_mem_effect x) (bucket_of_mem_effect y) s
  verdict _ _ _ := rfl

end Modify

/-! ## Statements of any kind -/

namespace Statement

open Run

/-- Calls on a selection, an update or a deletion in another order, with those for one bucket in the
same order: the same calls are turned down for the same reasons, and the same statement is built or
refused for the same reason. -/
theorem build_of_reordered :
    (∀ (s : Select) (calls calls' : List Select.Call),
      Reordered Select.Call.bucket calls calls' →
      Reordered (·.1.bucket) (log Select.step s calls) (log Select.step s calls') ∧
      (after Select.step s calls).build = (after Select.step s calls').build ∧
      (after Select.step s calls).buildCount = (after Select.step s calls').buildCount) ∧
    (∀ (s : Modify) (calls calls' : List Modify.Call),
      Reordered Modify.Call.bucket calls calls' →
      Reordered (·.1.bucket) (log Modify.step s calls) (log Modify.step s calls') ∧
      (after Modify.step s calls).build = (after Modify.step s calls').build) := by
  constructor
  · intro s calls calls' same
    have state := Select.independent.after_eq same s
    exact ⟨Select.independent.log_reordered same s, by rw [state], by rw [state]⟩
  · intro s calls calls' same
    have state := Modify.independent.after_eq same s
    exact ⟨Modify.independent.log_reordered same s, by rw [state]⟩

/-- A list of groups with a bad name in it, and a page that there is not, between other calls. -/
def mixed : List Select.Call :=
  [.groupBy (.list [.str "role", .str "no name"]),
    .restrict (.equals (.str "age") (.int 60)),
    .limit (.int 5),
    .paginate (.int 0) .null,
    .restrict (.null (.str "note")),
    .having (.str "COUNT(*)") (.str ">") (.int 1)]

/-- The same calls in the order of the clauses, but for the page. -/
def sorted : List Select.Call :=
  [.limit (.int 5),
    .restrict (.equals (.str "age") (.int 60)),
    .restrict (.null (.str "note")),
    .groupBy (.list [.str "role", .str "no name"]),
    .having (.str "COUNT(*)") (.str ">") (.int 1),
    .paginate (.int 0) .null]

def bare : Select where
  config := .standard
  table := .plain "users"
  fields := [.str "role"]

/-- The group before the bad name stays, and the limit that was set before the page. -/
theorem build_of_reordered_mixed :
    Reordered Select.Call.bucket mixed sorted ∧
    (after Select.step bare mixed).build = (after Select.step bare sorted).build ∧
    (after Select.step bare sorted).build = .ok
      { text := "SELECT role FROM users WHERE age = $1 AND note IS NULL GROUP BY role " ++
          "HAVING COUNT(*) > $2 LIMIT $3"
        params := [.int 60, .int 1, .int 5] } ∧
    (log Select.step bare mixed).map (·.2.isSome) = [true, false, false, true, false, false] := by
  have same : Reordered Select.Call.bucket mixed sorted := by
    intro b
    cases b <;> rfl
  exact ⟨same, (build_of_reordered.1 bare mixed sorted same).2.1, by rfl, by rfl⟩

end Statement
end BoundQuery
