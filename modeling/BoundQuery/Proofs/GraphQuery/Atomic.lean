import BoundQuery.GraphQuery.Basic
import BoundQuery.Proofs.GraphQuery.Minting

/-!
# Checks before numbers

A call on a graph query makes all its checks before it takes its first number, and so does the
making of a pattern. So one that is turned down leaves the counter where it was, and no later name
depends on it.

## Main statements

* `GraphQuery.Making.isAtomic_run` — making a pattern is atomic.
* `GraphQuery.Call.isAtomic_edits` — a call is atomic.
-/

namespace BoundQuery

open Minting

namespace Pattern

theorem isTotal_bound (stem before : Str) (v : Value) (after : Str) :
    (bound stem before v after).IsTotal :=
  (isTotal_name stem).bind fun _ => isTotal_pure _

theorem isAtomic_properties (stem : Str) (v : Value) : (properties stem v).IsAtomic := by
  unfold properties
  split
  · refine isAtomic_bind_lift fun xs _ => ?_
    rw [mapM_lift]
    refine isAtomic_bind_lift fun keys _ => isAtomic_bind_lift fun mapping _ => ?_
    exact ((isTotal_name stem).bind fun _ => isTotal_pure _).isAtomic
  · exact (isTotal_pure _).isAtomic

theorem isAtomic_node (identifier labels properties : Value) :
    (node identifier labels properties).IsAtomic := by
  refine isAtomic_bind_lift fun name _ => isAtomic_bind_lift fun found _ => ?_
  rw [mapM_lift]
  refine isAtomic_bind_lift fun texts _ => ?_
  exact (isAtomic_properties "props" properties).bind_total fun _ => isTotal_pure _

theorem isAtomic_relationship (identifier type properties direction : Value) :
    (relationship identifier type properties direction).IsAtomic := by
  refine isAtomic_bind_lift fun arrow _ => isAtomic_bind_lift fun name _ =>
    isAtomic_bind_lift fun kind _ => ?_
  exact (isAtomic_properties "relProps" properties).bind_total fun _ => isTotal_pure _

end Pattern

namespace GraphQuery

theorem Making.isAtomic_run (m : Making) : m.run.IsAtomic := by
  cases m with
  | node identifier labels properties => exact Pattern.isAtomic_node identifier labels properties
  | relationship identifier type properties direction =>
    exact Pattern.isAtomic_relationship identifier type properties direction
  | path patterns => exact isAtomic_lift _

/-! ## Parts of calls -/

theorem isAtomic_rawPattern (marker : List Chr) (fragment values : Value) :
    (rawPattern marker fragment values).IsAtomic := by
  unfold rawPattern
  split
  · dsimp only
    split
    · exact isAtomic_throw _
    · refine isAtomic_bind_lift fun xs _ => isAtomic_bind_lift fun t _ => ?_
      exact (isTotal_fill t).isAtomic
  · exact isAtomic_throw _

/-- Conditions that have been made can all be written. -/
theorem isTotal_conditionEdits (cs : List FieldCondition) : (conditionEdits cs).IsTotal := by
  induction cs with
  | nil => exact isTotal_pure _
  | cons c rest ih =>
    unfold conditionEdits
    split
    · exact ih
    · next t _ => exact (isTotal_fill t).bind fun _ => ih.bind fun _ => isTotal_pure _

theorem isAtomic_comparison (identifier property operator operand : Value) :
    (comparison identifier property operator operand).IsAtomic := by
  refine isAtomic_bind_lift fun field _ => isAtomic_bind_lift fun c _ => ?_
  exact (isTotal_conditionEdits [c]).isAtomic

theorem isAtomic_unwound (items identifier : Value) : (unwound items identifier).IsAtomic := by
  refine isAtomic_bind_lift fun name _ => ?_
  split
  · exact (isTotal_pure _).isAtomic
  · exact isAtomic_bind_lift fun xs _ => (Pattern.isTotal_bound _ _ _ _).isAtomic

theorem isAtomic_assignedProperties (identifier properties : Value) :
    (assignedProperties identifier properties).IsAtomic := by
  unfold assignedProperties
  simp only [mapM_lift]
  refine isAtomic_bind_lift fun xs _ => isAtomic_bind_lift fun keys _ =>
    isAtomic_bind_lift fun name _ => isAtomic_bind_lift fun mapping _ => ?_
  exact (Pattern.isTotal_bound _ _ _ _).isAtomic

theorem isAtomic_counted (what keyword : Str) (count : Value) :
    (counted what keyword count).IsAtomic :=
  isAtomic_bind_lift fun _ _ => (Pattern.isTotal_bound _ _ _ _).isAtomic

theorem isAtomic_placed (clause : PatternClause) {make : Minting Pattern} (h : make.IsAtomic) :
    (placed clause make).IsAtomic :=
  h.bind_total fun _ => isTotal_pure _

/-! ## Calls -/

namespace Call

theorem isAtomic_edits (marker : List Chr) (c : Call) : (c.edits marker).IsAtomic := by
  cases c with
  | matching pattern | optionalMatching pattern | create pattern | merge pattern =>
    exact isAtomic_placed _ (isAtomic_lift _)
  | unwind items identifier => exact isAtomic_placed _ (isAtomic_unwound items identifier)
  | condition fragment values | assign fragment values =>
    exact isAtomic_placed _ (isAtomic_rawPattern marker fragment values)
  | compare identifier property operator operand => exact isAtomic_comparison _ _ _ _
  | shorthand s identifier property operand =>
    cases s <;> exact isAtomic_bind_lift fun _ _ => isAtomic_comparison _ _ _ _
  | null identifier property | notNull identifier property => exact isAtomic_comparison _ _ _ _
  | filters identifier mapping =>
    unfold edits
    simp only [mapM_lift]
    refine isAtomic_bind_lift fun name _ => isAtomic_bind_lift fun entries _ =>
      isAtomic_bind_lift fun qualified _ => isAtomic_bind_lift fun cs _ => ?_
    exact (isTotal_conditionEdits cs).isAtomic
  | setProperty identifier property value =>
    refine isAtomic_placed _ (isAtomic_bind_lift fun ref _ => ?_)
    exact (Pattern.isTotal_bound _ _ _ _).isAtomic
  | setProperties identifier properties =>
    exact isAtomic_placed _ (isAtomic_assignedProperties identifier properties)
  | withItems items | returnItems items | delete targets | detachDelete targets =>
    exact (isTotal_pure _).isAtomic
  | orderBy item direction =>
    exact isAtomic_bind_lift fun text _ => (isTotal_pure _).isAtomic
  | skip count | limit count =>
    exact (isAtomic_counted _ _ count).bind_total fun _ => isTotal_pure _

/-- What a call comes to that edits all or nothing. -/
def edited (marker : List Chr) (n : Nat) (c : Call) : Effect Edit × Nat :=
  (.ofResult ((c.edits marker).outcome n).1, ((c.edits marker).outcome n).2)

variable {marker : List Chr} {c : Call} {n : Nat}

theorem edited_of_ok {k : Nat} {edits : List Edit} (run : (c.edits marker).run n = .ok (edits, k)) :
    c.edited marker n = ({ edits }, k) := by
  rw [edited, run_eq_ok.1 run]
  rfl

theorem edited_of_error {fault : Fault} (run : (c.edits marker).run n = .error fault) :
    c.edited marker n = ({ edits := [], fault := some fault }, n) := by
  rw [edited, (isAtomic_edits marker c).outcome_of_error run]
  rfl

end Call
end GraphQuery
end BoundQuery
