import BoundQuery.Proofs.GraphQuery.Bucket
import BoundQuery.Proofs.GraphQuery.Sketch
import Mathlib.Logic.Relation

/-!
# The counter of a query

Whatever is called on a query, and whether it is answered or turned down, the counter stands where
it stood or further on. A name that has been taken is therefore never taken again by what is called
later.

## Main definitions

* `Minting.Grows` — work that does not set the counter back.
* `GraphQuery.LeadsTo` — a query and what calls make of it.

## Main statements

* `GraphQuery.LeadsTo.counter_le` — no calls set the counter back.
-/

namespace BoundQuery

namespace Minting

variable {α β : Type} {m : Minting α} {f : α → Minting β}

/-- Work after which the counter stands where it stood or further on. -/
def Grows (m : Minting α) : Prop :=
  ∀ n, n ≤ (m.outcome n).2

theorem grows_pure (a : α) : Grows (pure a) :=
  fun n => Nat.le_refl n

theorem grows_throw (fault : Fault) : Grows (throw fault : Minting α) :=
  fun n => Nat.le_refl n

theorem Grows.bind (h : m.Grows) (rest : ∀ a, (f a).Grows) : (m >>= f).Grows := by
  intro n
  have first := h n
  rw [outcome_bind]
  generalize m.outcome n = ended at first ⊢
  obtain ⟨answer, k⟩ := ended
  cases answer with
  | error fault => exact first
  | ok a => exact Nat.le_trans first (rest a k)

theorem grows_bind_lift {r : Result α} (rest : ∀ a, (f a).Grows) :
    (liftM r >>= f : Minting β).Grows :=
  Grows.bind (fun n => Nat.le_refl n) rest

theorem grows_name (stem : Str) : Grows (name stem) :=
  fun n => n.le_succ

theorem grows_fill (t : Template) : Grows (fill t) := by
  intro n
  rw [run_eq_ok.1 (draws_fill t n)]
  exact Nat.le_add_right n _

end Minting

open Minting

namespace Pattern

theorem grows_bound (stem before : Str) (v : Value) (after : Str) :
    (bound stem before v after).Grows :=
  (grows_name stem).bind fun _ => grows_pure _

theorem grows_properties (stem : Str) (v : Value) : (properties stem v).Grows := by
  unfold properties
  split
  · simp only [mapM_lift]
    exact grows_bind_lift fun xs => grows_bind_lift fun keys => grows_bind_lift fun mapping =>
      (grows_name stem).bind fun _ => grows_pure _
  · exact grows_pure _

end Pattern

namespace GraphQuery

theorem Making.grows_run (m : Making) : m.run.Grows := by
  cases m with
  | node identifier labels properties =>
    unfold run Pattern.node
    simp only [mapM_lift]
    exact grows_bind_lift fun _ => grows_bind_lift fun _ => grows_bind_lift fun _ =>
      (Pattern.grows_properties "props" properties).bind fun _ => grows_pure _
  | relationship identifier type properties direction =>
    exact grows_bind_lift fun _ => grows_bind_lift fun _ => grows_bind_lift fun _ =>
      (Pattern.grows_properties "relProps" properties).bind fun _ => grows_pure _
  | path patterns => exact fun n => Nat.le_refl n

/-! ## Parts of calls -/

theorem grows_rawPattern (marker : List Chr) (fragment values : Value) :
    (rawPattern marker fragment values).Grows := by
  unfold rawPattern
  split
  · dsimp only
    split
    · exact grows_throw _
    · exact grows_bind_lift fun _ => grows_bind_lift fun t => grows_fill t
  · exact grows_throw _

theorem grows_conditionEdits (cs : List FieldCondition) : (conditionEdits cs).Grows := by
  induction cs with
  | nil => exact grows_pure _
  | cons c rest ih =>
    unfold conditionEdits
    split
    · exact ih
    · next t _ => exact (grows_fill t).bind fun _ => ih.bind fun _ => grows_pure _

theorem grows_comparison (identifier property operator operand : Value) :
    (comparison identifier property operator operand).Grows :=
  grows_bind_lift fun _ => grows_bind_lift fun c => grows_conditionEdits [c]

theorem grows_unwound (items identifier : Value) : (unwound items identifier).Grows := by
  refine grows_bind_lift fun name => ?_
  split
  · exact grows_pure _
  · exact grows_bind_lift fun xs => Pattern.grows_bound _ _ _ _

theorem grows_assignedProperties (identifier properties : Value) :
    (assignedProperties identifier properties).Grows := by
  unfold assignedProperties
  simp only [mapM_lift]
  exact grows_bind_lift fun _ => grows_bind_lift fun _ => grows_bind_lift fun _ =>
    grows_bind_lift fun _ => Pattern.grows_bound _ _ _ _

theorem grows_placed (clause : PatternClause) {make : Minting Pattern} (h : make.Grows) :
    (placed clause make).Grows :=
  h.bind fun _ => grows_pure _

/-! ## Calls -/

theorem Call.grows_edits (marker : List Chr) (c : Call) : (c.edits marker).Grows := by
  cases c with
  | matching pattern | optionalMatching pattern | create pattern | merge pattern =>
    exact grows_placed _ fun n => Nat.le_refl n
  | unwind items identifier => exact grows_placed _ (grows_unwound items identifier)
  | condition fragment values | assign fragment values =>
    exact grows_placed _ (grows_rawPattern marker fragment values)
  | compare identifier property operator operand => exact grows_comparison _ _ _ _
  | shorthand s identifier property operand =>
    cases s <;> exact grows_bind_lift fun _ => grows_comparison _ _ _ _
  | null identifier property | notNull identifier property => exact grows_comparison _ _ _ _
  | filters identifier mapping =>
    unfold edits
    simp only [mapM_lift]
    exact grows_bind_lift fun _ => grows_bind_lift fun _ => grows_bind_lift fun _ =>
      grows_bind_lift fun cs => grows_conditionEdits cs
  | setProperty identifier property value =>
    exact grows_placed _ (grows_bind_lift fun _ => Pattern.grows_bound _ _ _ _)
  | setProperties identifier properties =>
    exact grows_placed _ (grows_assignedProperties identifier properties)
  | withItems items | returnItems items | delete targets | detachDelete targets =>
    exact grows_pure _
  | orderBy item direction => exact grows_bind_lift fun _ => grows_pure _
  | skip count | limit count =>
    exact (grows_bind_lift fun _ => Pattern.grows_bound _ _ _ _).bind fun _ => grows_pure _

variable {q q' : GraphQuery}

theorem counter_le_make (q : GraphQuery) (m : Making) : q.counter ≤ (q.make m).2.counter :=
  m.grows_run q.counter

theorem counter_le_step (q : GraphQuery) (c : Call) : q.counter ≤ (q.step c).1.counter := by
  have kept : (q.step c).1.counter = (c.effect q.config.marker q.counter).2 :=
    (foldl_apply_fixed _ _).1
  have grows := c.grows_edits q.config.marker q.counter
  rw [kept]
  cases c with
  | delete targets | detachDelete targets => exact Nat.le_refl _
  | _ => exact grows

/-- What one call makes of a query. -/
inductive Next (q : GraphQuery) : GraphQuery → Prop
  | make (m : Making) : Next q (q.make m).2
  | step (c : Call) : Next q (q.step c).1

/-- A query, and what some calls make of it one after the other. -/
def LeadsTo : GraphQuery → GraphQuery → Prop :=
  Relation.ReflTransGen Next

theorem Next.counter_le (h : q.Next q') : q.counter ≤ q'.counter := by
  cases h with
  | make m => exact q.counter_le_make m
  | step c => exact q.counter_le_step c

/-- No calls set the counter back. -/
theorem LeadsTo.counter_le (h : q.LeadsTo q') : q.counter ≤ q'.counter := by
  induction h with
  | refl => exact Nat.le_refl _
  | tail _ next ih => exact Nat.le_trans ih next.counter_le

end GraphQuery
end BoundQuery
