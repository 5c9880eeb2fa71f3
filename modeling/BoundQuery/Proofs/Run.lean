import BoundQuery.Error.Basic
import Mathlib.Data.List.Basic

/-!
# Runs of calls

A caller makes one call after the other and goes on when one of them is turned down. When each call
writes to a bucket of its own kind and nothing that it does depends on the others, only the order of
the calls for one bucket matters.

## Main definitions

* `Run.after`, `Run.log` — where calls lead, and which of them are turned down for what.
* `Run.verdicts` — which calls are turned down.
* `Reordered` — calls in another order, with those for one bucket in the same order.
* `Run.Independent` — calls for different buckets do not get in each other's way.

## Main statements

* `Run.Independent.after_eq`, `Run.Independent.log_reordered` — calls in another order lead to the
  same state, and the same calls are turned down.
* `Run.after_insert` — a call that changes nothing of what can be seen.
* `Run.related` — two runs of calls that are related one by one.
-/

namespace BoundQuery

variable {σ γ β : Type}

/-! ## Calls in another order -/

/-- The same calls, with those for one bucket in the same order. -/
def Reordered [DecidableEq β] (bucket : γ → β) (calls calls' : List γ) : Prop :=
  ∀ b, calls.filter (bucket · = b) = calls'.filter (bucket · = b)

/-- A step for one bucket can be made before those for others. -/
theorem foldl_append_cons {bucket : γ → β} {f : σ → γ → σ}
    (comm : ∀ s x y, bucket x ≠ bucket y → f (f s x) y = f (f s y) x)
    {x : γ} {before : List γ} (others : ∀ y ∈ before, bucket y ≠ bucket x) (after : List γ)
    (s : σ) : (before ++ x :: after).foldl f s = (before ++ after).foldl f (f s x) := by
  induction before generalizing s with
  | nil => rfl
  | cons y before ih =>
    have first := others y List.mem_cons_self
    have rest := ih (fun z mem => others z (List.mem_cons_of_mem _ mem)) (f s y)
    rw [List.cons_append, List.foldl_cons, rest, comm s y x first]
    rfl

/-- What can be seen of a state after some steps depends on what can be seen before them, if that is
so of each step. -/
theorem foldl_view {ω : Type} {view : σ → ω} {f : σ → γ → σ}
    (each : ∀ s s' x, view s = view s' → view (f s x) = view (f s' x)) {s s' : σ}
    (same : view s = view s') (xs : List γ) : view (xs.foldl f s) = view (xs.foldl f s') := by
  induction xs generalizing s s' with
  | nil => exact same
  | cons x xs ih => exact ih (each s s' x same)

section
variable [DecidableEq β] {bucket : γ → β} {xs ys : List γ} {x : γ}

/-- The first call stands in the other order too, after calls for other buckets only. -/
theorem Reordered.exists_of_cons (h : Reordered bucket (x :: xs) ys) :
    ∃ before after, ys = before ++ x :: after ∧ (∀ y ∈ before, bucket y ≠ bucket x) ∧
      Reordered bucket xs (before ++ after) := by
  have here := h (bucket x)
  rw [List.filter_cons_of_pos (by simp)] at here
  obtain ⟨before, after, rfl, others, _, rest⟩ := List.filter_eq_cons_iff.1 here.symm
  have others : ∀ y ∈ before, bucket y ≠ bucket x := by simpa using others
  refine ⟨before, after, rfl, others, ?_⟩
  intro b
  by_cases same : bucket x = b
  · subst same
    have none : before.filter (bucket · = bucket x) = [] := by simpa using others
    rw [List.filter_append, none, List.nil_append, rest]
  · simpa [List.filter_append, List.filter_cons, same] using h b

theorem Reordered.map {δ : Type} {f : γ → δ} {bucket' : δ → β} (h : Reordered bucket xs ys)
    (same : ∀ x, bucket' (f x) = bucket x) : Reordered bucket' (xs.map f) (ys.map f) := by
  intro b
  have kept : (fun y => decide (bucket' y = b)) ∘ f = fun x => decide (bucket x = b) := by
    funext x
    simp [same]
  rw [List.filter_map, List.filter_map, kept, h b]

theorem Reordered.foldl_eq {f : σ → γ → σ}
    (comm : ∀ s x y, bucket x ≠ bucket y → f (f s x) y = f (f s y) x)
    (h : Reordered bucket xs ys) (s : σ) : xs.foldl f s = ys.foldl f s := by
  induction xs generalizing ys s with
  | nil =>
    cases ys with
    | nil => rfl
    | cons y ys => simpa using h (bucket y)
  | cons x xs ih =>
    obtain ⟨before, after, rfl, others, rest⟩ := h.exists_of_cons
    rw [List.foldl_cons, ih rest, foldl_append_cons comm others]

/-- Steps for one bucket and steps for another can be made in either order. -/
theorem foldl_foldl_comm {f : σ → γ → σ}
    (comm : ∀ s x y, bucket x ≠ bucket y → f (f s x) y = f (f s y) x) {b c : β} (apart : b ≠ c)
    (left : ∀ x ∈ xs, bucket x = b) (right : ∀ y ∈ ys, bucket y = c) (s : σ) :
    ys.foldl f (xs.foldl f s) = xs.foldl f (ys.foldl f s) := by
  rw [← List.foldl_append, ← List.foldl_append]
  have swapped : Reordered bucket (xs ++ ys) (ys ++ xs) := by
    intro d
    rw [List.filter_append, List.filter_append]
    by_cases other : d = b
    · have none : ys.filter (bucket · = d) = [] := by
        simp only [List.filter_eq_nil_iff, decide_eq_true_eq]
        intro y mem same
        exact apart (other.symm.trans (same.symm.trans (right y mem)))
      simp [none]
    · have none : xs.filter (bucket · = d) = [] := by
        simp only [List.filter_eq_nil_iff, decide_eq_true_eq]
        intro x mem same
        exact other (same.symm.trans (left x mem))
      simp [none]
  exact swapped.foldl_eq comm s

end

/-! ## Runs -/

namespace Run

variable (step : σ → γ → σ × Option Fault)

/-- The state after some calls; one that is turned down does not end the run. -/
def after (s : σ) (calls : List γ) : σ :=
  calls.foldl (fun s call => (step s call).1) s

/-- The calls of a run, each with why it was turned down if it was. -/
def log : σ → List γ → List (γ × Option Fault)
  | _, [] => []
  | s, call :: rest => (call, (step s call).2) :: log (step s call).1 rest

/-- Calls for different buckets lead to the same state in either order, and no call decides whether
another is turned down. -/
structure Independent (bucket : γ → β) : Prop where
  comm : ∀ s x y, bucket x ≠ bucket y → (step (step s x).1 y).1 = (step (step s y).1 x).1
  verdict : ∀ s x y, (step (step s x).1 y).2 = (step s y).2

variable {step} {bucket : γ → β} {calls calls' : List γ}

theorem Independent.log_eq (h : Independent step bucket) (s : σ) (calls : List γ) :
    log step s calls = calls.map fun call => (call, (step s call).2) := by
  induction calls generalizing s with
  | nil => rfl
  | cons call rest ih => simp [log, ih, h.verdict]

variable [DecidableEq β]

theorem Independent.after_eq (h : Independent step bucket) (same : Reordered bucket calls calls')
    (s : σ) : after step s calls = after step s calls' :=
  same.foldl_eq h.comm s

theorem Independent.log_reordered (h : Independent step bucket)
    (same : Reordered bucket calls calls') (s : σ) :
    Reordered (fun entry => bucket entry.1) (log step s calls) (log step s calls') := by
  rw [h.log_eq, h.log_eq]
  exact same.map fun _ => rfl

/-- A call that changes nothing of what can be seen can be made anywhere in a run. -/
theorem after_insert {ω : Type} {view : σ → ω} {call : γ}
    (each : ∀ s s' call, view s = view s' → view (step s call).1 = view (step s' call).1)
    (unseen : ∀ s, view (step s call).1 = view s) (s : σ) (earlier later : List γ) :
    view (after step s (earlier ++ call :: later)) = view (after step s (earlier ++ later)) := by
  rw [after, after, List.foldl_append, List.foldl_append, List.foldl_cons]
  exact foldl_view each (unseen _) later

/-! ## Two runs -/

/-- Which calls of a run are turned down. -/
def verdicts (step : σ → γ → σ × Option Fault) (s : σ) (calls : List γ) : List Bool :=
  (log step s calls).map (·.2.isSome)

/-- When related calls on related states lead to related states and are turned down together, so are
the runs. -/
theorem related {σ' γ' : Type} {step : σ → γ → σ × Option Fault}
    {step' : σ' → γ' → σ' × Option Fault} {S : σ → σ' → Prop} {C : γ → γ' → Prop}
    (each : ∀ s s' c c', S s s' → C c c' →
      S (step s c).1 (step' s' c').1 ∧ (step s c).2.isSome = (step' s' c').2.isSome)
    {calls : List γ} {calls' : List γ'} (same : List.Forall₂ C calls calls') {s : σ} {s' : σ'}
    (start : S s s') :
    S (after step s calls) (after step' s' calls') ∧
      verdicts step s calls = verdicts step' s' calls' := by
  induction same generalizing s s' with
  | nil => exact ⟨start, rfl⟩
  | cons call _ ih =>
    obtain ⟨next, verdict⟩ := each _ _ _ _ start call
    obtain ⟨last, verdicts⟩ := ih next
    exact ⟨last, List.cons_eq_cons.2 ⟨verdict, verdicts⟩⟩

end Run
end BoundQuery
