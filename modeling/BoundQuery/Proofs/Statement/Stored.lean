import BoundQuery.Proofs.Restricting
import BoundQuery.Proofs.Statement.Reordering

/-!
# The conditions that a run leaves

A statement keeps the conditions of the calls that have not been turned down, in the order of the
calls. The other calls, and those that are turned down, leave the conditions alone, and no call
changes what the statement was made with.

## Main definitions

* `Restriction.given` — the conditions that a call gives.

## Main statements

* `Select.conditions_after`, `Modify.conditions_after` — the conditions after a run.
-/

namespace BoundQuery

/-- The conditions that a call gives, which are none when it is turned down. -/
def Restriction.given (r : Restriction) : List Condition :=
  (r.conditions .relational).toOption.getD []

/-- What an answer adds is what it gives. -/
theorem Run.added_fst {σ κ : Type} {add : σ → κ → σ} {s : σ} (r : Result (List κ)) :
    (added add s r).1 = (r.toOption.getD []).foldl add s := by
  cases r <;> rfl

namespace Select

def Call.conditions : Call → List Condition
  | restrict r => r.given
  | _ => []

theorem foldl_restricted (cs : List Condition) (s : Select) :
    cs.foldl restricted s = { s with conditions := s.conditions ++ cs } := by
  induction cs generalizing s with
  | nil => simp
  | cons c cs ih => simp [ih, restricted, apply]

theorem conditions_foldl_apply {edits : List Edit} (others : ∀ e ∈ edits, e.bucket ≠ .conditions)
    (s : Select) : (edits.foldl apply s).conditions = s.conditions := by
  induction edits generalizing s with
  | nil => rfl
  | cons e edits ih =>
    obtain ⟨first, rest⟩ := List.forall_mem_cons.1 others
    rw [List.foldl_cons, ih rest]
    cases e <;> first | rfl | exact absurd rfl first

theorem conditions_step (s : Select) (call : Call) :
    (s.step call).1.conditions = s.conditions ++ call.conditions := by
  cases call with
  | restrict r =>
    rw [restricts s r, Run.added_fst, foldl_restricted]
    rfl
  | join _ _ _ | groupBy _ | having _ _ _ | orderBy _ _ | limit _ | offset _ | paginate _ _ =>
    refine (conditions_foldl_apply (fun e mem => ?_) s).trans (List.append_nil _).symm
    rw [bucket_of_mem_effect s.config _ e mem]
    exact Bucket.noConfusion

theorem fields_foldl_apply (edits : List Edit) (s : Select) :
    (edits.foldl apply s).fields = s.fields := by
  induction edits generalizing s with
  | nil => rfl
  | cons e edits ih =>
    rw [List.foldl_cons, ih]
    cases e <;> rfl

/-- A run keeps the configuration and the select list, and adds the conditions of its calls. -/
theorem conditions_after (s : Select) (calls : List Call) :
    (Run.after step s calls).conditions = s.conditions ++ calls.flatMap Call.conditions ∧
      (Run.after step s calls).config = s.config ∧ (Run.after step s calls).fields = s.fields := by
  induction calls generalizing s with
  | nil => simp [Run.after]
  | cons call calls ih =>
    obtain ⟨conditions, config, fields⟩ := ih (s.step call).1
    refine ⟨?_, config.trans (config_foldl_apply _ s), fields.trans (fields_foldl_apply _ s)⟩
    rw [List.flatMap_cons, ← List.append_assoc, ← conditions_step]
    exact conditions

end Select

namespace Modify

def Call.conditions : Call → List Condition
  | restrict r => r.given
  | returning _ => []

theorem foldl_restricted (cs : List Condition) (s : Modify) :
    cs.foldl restricted s = { s with conditions := s.conditions ++ cs } := by
  induction cs generalizing s with
  | nil => simp
  | cons c cs ih => simp [ih, restricted, apply]

theorem conditions_foldl_apply {edits : List Edit} (others : ∀ e ∈ edits, e.bucket ≠ .conditions)
    (s : Modify) : (edits.foldl apply s).conditions = s.conditions := by
  induction edits generalizing s with
  | nil => rfl
  | cons e edits ih =>
    obtain ⟨first, rest⟩ := List.forall_mem_cons.1 others
    rw [List.foldl_cons, ih rest]
    cases e <;> first | rfl | exact absurd rfl first

theorem conditions_step (s : Modify) (call : Call) :
    (s.step call).1.conditions = s.conditions ++ call.conditions := by
  cases call with
  | restrict r =>
    rw [restricts s r, Run.added_fst, foldl_restricted]
    rfl
  | returning fields =>
    refine (conditions_foldl_apply (fun e mem => ?_) s).trans (List.append_nil _).symm
    rw [bucket_of_mem_effect _ e mem]
    exact Bucket.noConfusion

theorem config_foldl_apply (edits : List Edit) (s : Modify) :
    (edits.foldl apply s).config = s.config := by
  induction edits generalizing s with
  | nil => rfl
  | cons e edits ih =>
    rw [List.foldl_cons, ih]
    cases e <;> rfl

theorem conditions_after (s : Modify) (calls : List Call) :
    (Run.after step s calls).conditions = s.conditions ++ calls.flatMap Call.conditions ∧
      (Run.after step s calls).config = s.config := by
  induction calls generalizing s with
  | nil => simp [Run.after]
  | cons call calls ih =>
    obtain ⟨conditions, config⟩ := ih (s.step call).1
    refine ⟨?_, config.trans (config_foldl_apply _ s)⟩
    rw [List.flatMap_cons, ← List.append_assoc, ← conditions_step]
    exact conditions

end Modify
end BoundQuery
