import BoundQuery.Call
import BoundQuery.Error.Report
import BoundQuery.Name
import BoundQuery.Proofs.Result
import BoundQuery.Validation

/-!
# Requests that are answered or refused

A request is answered or refused when it can be turned down with a refusal of its input only: no
value that it meets is of a kind that it cannot handle. What is made of such requests is answered or
refused too.

## Main definitions

* `Result.Answers` — a request that is answered by something with a property, or refused.
* `Effect.Answers` — an effect whose edits have a property, cut short by a refusal at most.
* `Result.Keeps` — steps that are answered or refused as long as an invariant holds, and keep it.
-/

namespace BoundQuery

namespace Result

variable {α β : Type}

/-- Answered by something with the property `P`, or turned down with a refusal of the input. -/
inductive Answers (P : α → Prop) : Result α → Prop
  | ok {a : α} (h : P a) : Answers P (.ok a)
  | refused {r : Refusal} (input : r.problem.category = .input) : Answers P (.error (.refusal r))

section
variable {P P' : α → Prop} {Q : β → Prop} {r : Result α} {f : α → Result β}

theorem Answers.imp (h : r.Answers P) (le : ∀ a, P a → P' a) : r.Answers P' := by
  cases h with
  | ok h => exact .ok (le _ h)
  | refused input => exact .refused input

theorem Answers.answered (h : r.Answers P) : r.Answers fun a => r = .ok a ∧ P a := by
  cases h with
  | ok h => exact .ok ⟨rfl, h⟩
  | refused input => exact .refused input

theorem Answers.bind (h : r.Answers P) (rest : ∀ a, P a → (f a).Answers Q) :
    (r >>= f).Answers Q := by
  cases h with
  | ok h => exact rest _ h
  | refused input => exact .refused input

theorem Answers.map {g : α → β} (h : r.Answers P) (rest : ∀ a, P a → Q (g a)) :
    Answers Q (r.map g) := by
  cases h with
  | ok h => exact .ok (rest _ h)
  | refused input => exact .refused input

theorem answers_mapM {xs : List α} (each : ∀ x ∈ xs, (f x).Answers Q) :
    (xs.mapM f).Answers fun ys => ∀ y ∈ ys, Q y := by
  induction xs with
  | nil => exact .ok (by simp)
  | cons x xs ih =>
    obtain ⟨first, others⟩ := List.forall_mem_cons.1 each
    rw [List.mapM_cons]
    refine first.bind fun y head => (ih others).bind fun ys tail => .ok ?_
    exact List.forall_mem_cons.2 ⟨head, tail⟩

theorem Answers.cases (h : r.Answers P) :
    (∃ a, r = .ok a ∧ P a) ∨
      ∃ refusal, r = .error (.refusal refusal) ∧ refusal.problem.category = .input := by
  cases h with
  | ok h => exact .inl ⟨_, rfl, h⟩
  | refused input => exact .inr ⟨_, rfl, input⟩

end
end Result

/-! ## Checks -/

open Result

theorem Name.answers_gate (language : List Chr → Bool) (context : Str) (name : Value) :
    (gate language context name).Answers fun _ => True := by
  unfold gate
  split
  · split
    · exact .ok trivial
    · exact .refused rfl
  · exact .refused rfl

theorem answers_checkCount (what : Str) (v : Value) :
    (checkCount what v).Answers fun _ => True := by
  unfold checkCount
  split
  · split
    · exact .refused rfl
    · exact .ok trivial
  · exact .refused rfl

theorem answers_checkDirection (v : Value) : (checkDirection v).Answers fun _ => True := by
  unfold checkDirection
  split
  · exact .ok trivial
  · exact .refused rfl

theorem answers_checkJoinType (v : Value) : (checkJoinType v).Answers fun _ => True := by
  unfold checkJoinType
  split
  · exact .ok trivial
  · exact .refused rfl

theorem answers_checkRelDirection (v : Value) : (checkRelDirection v).Answers fun _ => True := by
  unfold checkRelDirection
  split
  · exact .ok trivial
  · exact .refused rfl

/-! ## Effects -/

namespace Effect

variable {α ε : Type} {P : ε → Prop}

/-- All edits have the property `P`, and only a refusal of the input has cut them short. -/
structure Answers (P : ε → Prop) (e : Effect ε) : Prop where
  edits : ∀ edit ∈ e.edits, P edit
  fault : ∀ fault ∈ e.fault, ∃ r, fault = .refusal r ∧ r.problem.category = .input

theorem answers_ofResult {r : Result (List ε)} (h : r.Answers fun edits => ∀ e ∈ edits, P e) :
    (ofResult r).Answers P := by
  cases h with
  | ok h => exact ⟨h, by simp [ofResult]⟩
  | refused input => exact ⟨by simp [ofResult], by simpa [ofResult] using input⟩

theorem answers_ofSingle {r : Result ε} (h : r.Answers P) : (ofSingle r).Answers P :=
  answers_ofResult (h.map fun e holds => by simpa using holds)

theorem answers_upToFault {f : α → Result ε} {xs : List α} (each : ∀ x ∈ xs, (f x).Answers P) :
    (upToFault f xs).Answers P := by
  induction xs with
  | nil => exact ⟨by simp [upToFault], by simp [upToFault]⟩
  | cons x xs ih =>
    obtain ⟨first, others⟩ := List.forall_mem_cons.1 each
    rw [upToFault]
    rcases first.cases with ⟨e, made, holds⟩ | ⟨r, refused, input⟩
    · rw [made]
      exact ⟨List.forall_mem_cons.2 ⟨holds, (ih others).edits⟩, (ih others).fault⟩
    · rw [refused]
      exact ⟨by simp, by simpa using input⟩

theorem answers_upToFaultOf {f : α → Result ε} {r : Result (List α)}
    (h : r.Answers fun xs => ∀ x ∈ xs, (f x).Answers P) : (upToFaultOf f r).Answers P := by
  cases h with
  | ok each => exact answers_upToFault each
  | refused input => exact ⟨by simp [upToFaultOf], by simpa [upToFaultOf] using input⟩

variable {σ : Type} {I : σ → Prop} {Q : α → Prop} {apply : σ → ε → σ}

/-- Edits that keep an invariant, one after the other. -/
theorem Answers.foldl {e : Effect ε} (h : e.Answers P) {s : σ} (start : I s)
    (keeps : ∀ s, I s → ∀ edit, P edit → I (apply s edit)) : I (e.edits.foldl apply s) :=
  List.foldlRecOn e.edits apply start fun s holds edit mem =>
    keeps s holds edit (h.edits edit mem)

/-- What comes of an effect, unless it has been cut short. -/
theorem Answers.settle {e : Effect ε} {r : Result α} {a : α} (h : e.Answers P)
    (cut : ∀ f, e.fault = some f → r = .error f) (whole : e.fault = none → r = .ok a)
    (good : Q a) : r.Answers Q := by
  cases fault : e.fault with
  | none =>
    rw [whole fault]
    exact .ok good
  | some f =>
    obtain ⟨refusal, rfl, input⟩ := h.fault f fault
    rw [cut _ fault]
    exact .refused input

end Effect

/-! ## Steps that keep an invariant -/

namespace Result

variable {σ α β : Type} {I : σ → Prop} {P : α → Prop} {Q : β → Prop}

/-- From a state with `I` the steps are answered, with `P` and to a state with `I` again, or
refused. -/
def Keeps (I : σ → Prop) (m : StateT σ Result α) (P : α → Prop) : Prop :=
  ∀ s, I s → (m.run s).Answers fun out => P out.1 ∧ I out.2

theorem keeps_pure {a : α} (h : P a) : Keeps I (pure a) P :=
  fun _ holds => .ok ⟨h, holds⟩

theorem Keeps.bind {m : StateT σ Result α} {f : α → StateT σ Result β} (h : Keeps I m P)
    (rest : ∀ a, P a → Keeps I (f a) Q) : Keeps I (m >>= f) Q := by
  intro s holds
  exact (h s holds).bind fun out kept => rest out.1 kept.1 out.2 kept.2

theorem keeps_lift {r : Result α} (h : r.Answers P) : Keeps I (liftM r) P := by
  intro s holds
  cases h with
  | ok h => exact .ok ⟨h, holds⟩
  | refused input => exact .refused input

theorem keeps_mapM {xs : List α} {f : α → StateT σ Result β} (each : ∀ x ∈ xs, Keeps I (f x) Q) :
    Keeps I (xs.mapM f) fun ys => ∀ y ∈ ys, Q y := by
  induction xs with
  | nil => exact keeps_pure (by simp)
  | cons x xs ih =>
    obtain ⟨first, others⟩ := List.forall_mem_cons.1 each
    rw [List.mapM_cons]
    refine first.bind fun y head => (ih others).bind fun ys tail => keeps_pure ?_
    exact List.forall_mem_cons.2 ⟨head, tail⟩

theorem keeps_forM {xs : List α} {f : α → StateT σ Result PUnit}
    (each : ∀ x ∈ xs, Keeps I (f x) fun _ => True) : Keeps I (xs.forM f) fun _ => True := by
  induction xs with
  | nil => exact keeps_pure trivial
  | cons x xs ih =>
    obtain ⟨first, others⟩ := List.forall_mem_cons.1 each
    exact first.bind fun _ _ => ih others

end Result
end BoundQuery
