import BoundQuery.Proofs.GraphQuery.Session
import BoundQuery.Proofs.Placeholder.Word
import Mathlib.Data.List.Induction

/-!
# Events of a session

An event is a step with all the steps before it. The counter never goes back, so the numbers that
one event takes are taken by no other: a number tells which event it comes from.

## Main definitions

* `Event.IsIn` — an event of a session.
* `Event.Takes` — an event takes a number for one of its values.
* `Event.Mints` — an event binds a value to a name.

## Main statements

* `Event.Takes.unique`, `Event.Mints.unique` — a number and a name are taken once.
-/

namespace BoundQuery.GraphQuery

namespace Session

variable {s : Session} {width label : Nat} {edits : List Edit} {p : Pattern}

theorem pattern?_edited (x : Nat) : (s.edited width edits).pattern? x = s.pattern? x := rfl

theorem counter_edited : (s.edited width edits).query.counter = s.query.counter + width :=
  (foldl_apply_fixed edits _).1

theorem collected_edited_of_ne {b : Bucket} (h : ∀ e ∈ edits, e.bucket ≠ b) :
    (s.edited width edits).query.collected b = s.query.collected b := by
  have moved := collected_foldl_of_ne (q := { s.query with counter := s.query.counter + width }) h
  rw [edited, moved]
  cases b <;> rfl

theorem collected_edited_of_eq {b : Bucket} (h : ∀ e ∈ edits, e.bucket = b) :
    (s.edited width edits).query.collected b = edits.foldl b.put (s.query.collected b) := by
  have moved := collected_foldl_of_eq (q := { s.query with counter := s.query.counter + width }) h
  rw [edited, moved]
  cases b <;> rfl

theorem mem_collected_edited {b : Bucket} {e : Edit}
    (h : e ∈ (s.edited width edits).query.collected b) :
    e ∈ s.query.collected b ∨ e ∈ edits ∧ e.bucket = b := by
  have found := mem_collected_foldl h
  cases b <;> exact found

/-- An edit that goes into a slot takes the place of what was there. -/
theorem collected_edited_of_isSlot {b : Bucket} {e : Edit} (slot : b.isSlot = true)
    (same : e.bucket = b) : (s.edited width [e]).query.collected b = [e] := by
  rw [collected_edited_of_eq (by simpa using same)]
  simp [Bucket.put, slot]

theorem pattern?_kept (x : Nat) :
    (s.kept width label p).pattern? x = (s.pattern? x).or (if x = label then some p else none) := by
  unfold pattern? kept
  rw [List.lookup_append, List.lookup_cons]
  by_cases same : x = label
  · simp [same]
  · simp [same, beq_false_of_ne same]

theorem pattern?_kept_self (fresh : s.pattern? label = none) :
    (s.kept width label p).pattern? label = some p := by
  simp [pattern?_kept, fresh]

theorem collected_kept (b : Bucket) :
    (s.kept width label p).query.collected b = s.query.collected b := by
  cases b <;> rfl

theorem exists_kept {marker : List Chr} {recipe : Recipe}
    (clean : (Step.make label recipe).IsClean marker)
    (h : (s.step (.make label recipe)).2 = none) :
    ∃ width p, (s.step (.make label recipe)).1 = s.kept width label p := by
  cases recipe with
  | plain m =>
    obtain ⟨k, _, _, stepped⟩ := exists_of_make clean h
    exact ⟨_, _, stepped s⟩
  | path listing elements =>
    obtain ⟨ps, _, stepped⟩ := exists_of_path clean h
    exact ⟨_, _, stepped⟩

/-! ## What no step changes -/

theorem config_step (s : Session) (st : Step) : (s.step st).1.query.config = s.query.config := by
  cases st with
  | make label recipe =>
    rw [step, GraphQuery.make]
    rcases (s.making recipe).run.outcome s.query.counter with ⟨answer, counter⟩
    cases answer <;> rfl
  | place placing label => exact (foldl_apply_fixed _ _).2
  | call c => exact (foldl_apply_fixed _ _).2

theorem config_run (config : Config) (steps : List Step) :
    (run config steps).query.config = config := by
  induction steps using List.reverseRecOn with
  | nil => rfl
  | append_singleton steps st ih => rw [run_concat, config_step, ih]

theorem marker_run (config : Config) (steps : List Step) :
    (run config steps).query.config.marker = config.marker := by
  rw [config_run]

/-! ## The counter -/

variable {marker : List Chr} {st : Step}

theorem counter_step_of_ok (same : s.query.config.marker = marker) (clean : st.IsClean marker)
    (h : (s.step st).2 = none) :
    (s.step st).1.query.counter = s.query.counter + st.values.length := by
  cases st with
  | make label recipe =>
    cases recipe with
    | plain m =>
      obtain ⟨k, _, _, stepped⟩ := exists_of_make clean h
      rw [stepped]
      rfl
    | path listing elements =>
      obtain ⟨ps, _, stepped⟩ := exists_of_path clean h
      rw [stepped]
      rfl
  | place placing label =>
    obtain ⟨p, _, stepped⟩ := exists_of_place h
    rw [stepped, counter_edited]
    rfl
  | call c =>
    obtain ⟨drafts, _, accepted⟩ := isAccepted_of_call same clean h
    rw [step_call_of_accepted same accepted, counter_edited]
    rfl

/-- A step that is not turned down leaves the buckets alone that it does not add to. -/
theorem collected_step_of_ne (same : s.query.config.marker = marker) (clean : st.IsClean marker)
    (h : (s.step st).2 = none) {b : Bucket} (other : st.target ≠ .bucket b) :
    (s.step st).1.query.collected b = s.query.collected b := by
  cases st with
  | make label recipe =>
    obtain ⟨width, p, stepped⟩ := exists_kept clean h
    rw [stepped, collected_kept]
  | place placing label =>
    obtain ⟨p, _, stepped⟩ := exists_of_place h
    rw [stepped, collected_edited_of_ne]
    intro e mem here
    rw [List.mem_singleton.1 mem] at here
    exact other (congrArg Target.bucket here)
  | call c =>
    obtain ⟨drafts, isFor, accepted⟩ := isAccepted_of_call same clean h
    rw [step_call_of_accepted same accepted, collected_edited_of_ne]
    intro e mem here
    obtain ⟨d, inDrafts, rfl⟩ := List.mem_map.1 mem
    rw [Draft.bucket_edit, (isFor d inDrafts).1] at here
    exact other (congrArg Target.bucket here)

theorem counter_le_step (same : s.query.config.marker = marker) (clean : st.IsClean marker) :
    s.query.counter ≤ (s.step st).1.query.counter := by
  cases h : (s.step st).2 with
  | none =>
    rw [counter_step_of_ok same clean h]
    exact Nat.le_add_right _ _
  | some fault =>
    obtain ⟨edits, _, stepped⟩ := step_turnedDown same clean h
    rw [stepped, counter_edited]
    exact Nat.le_refl _

theorem counter_le_run (config : Config) {before steps : List Step}
    (clean : ∀ st ∈ steps, st.IsClean config.marker) (h : before <+: steps) :
    (run config before).query.counter ≤ (run config steps).query.counter := by
  induction steps using List.reverseRecOn with
  | nil => rw [List.prefix_nil.1 h]
  | append_singleton steps st ih =>
    rcases List.prefix_concat_iff.1 h with rfl | earlier
    · exact Nat.le_refl _
    · have rest := ih (fun st mem => clean st (List.mem_append_left _ mem)) earlier
      rw [run_concat]
      exact rest.trans (counter_le_step (marker_run config steps) (clean st (by simp)))

end Session

/-! ## Events -/

/-- A step and all the steps before it. -/
structure Event where
  before : List Step
  step : Step

namespace Event

variable {config : Config} {e e' : Event} {steps steps' : List Step} {st : Step}

def IsIn (e : Event) (steps : List Step) : Prop :=
  e.before ++ [e.step] <+: steps

/-- The session in which the step is made. -/
def session (config : Config) (e : Event) : Session :=
  Session.run config e.before

/-- The step is not turned down. -/
def Succeeds (config : Config) (e : Event) : Prop :=
  ((e.session config).step e.step).2 = none

/-- The step binds a value under a stem and a number. -/
structure Takes (config : Config) (e : Event) (stem : Str) (number : Nat) (v : Value) :
    Prop where
  succeeds : e.Succeeds config
  stem : stem = e.step.stem
  number : ∃ i, number = (e.session config).query.counter + i + 1 ∧ e.step.values[i]? = some v

/-! ## Events and lists of steps -/

theorem isIn_concat : e.IsIn (steps ++ [st]) ↔ e = ⟨steps, st⟩ ∨ e.IsIn steps := by
  obtain ⟨before, step⟩ := e
  rw [IsIn, List.prefix_concat_iff, List.append_singleton_inj, Event.mk.injEq]
  rfl

theorem isIn_last (steps : List Step) (st : Step) : IsIn ⟨steps, st⟩ (steps ++ [st]) :=
  List.prefix_rfl

theorem IsIn.mono (h : e.IsIn steps) (later : steps <+: steps') : e.IsIn steps' :=
  List.IsPrefix.trans h later

theorem IsIn.concat (h : e.IsIn steps) (st : Step) : e.IsIn (steps ++ [st]) :=
  h.mono (List.prefix_append _ _)

theorem IsIn.before_prefix (h : e.IsIn steps) : e.before <+: steps :=
  (List.prefix_append _ _).trans h

theorem IsIn.length_lt (h : e.IsIn steps) : e.before.length < steps.length := by
  have bound := List.IsPrefix.length_le h
  rwa [List.length_append] at bound

theorem IsIn.mem (h : e.IsIn steps) : e.step ∈ steps :=
  List.IsPrefix.subset h (by simp)

theorem exists_isIn_of_mem (h : st ∈ steps) : ∃ e : Event, e.IsIn steps ∧ e.step = st := by
  obtain ⟨before, after, rfl⟩ := List.append_of_mem h
  exact ⟨⟨before, st⟩, ⟨after, by simp⟩, rfl⟩

/-- Nothing comes after the last event. -/
theorem IsIn.not_after_last (h : e.IsIn (steps ++ [st])) : ¬ IsIn ⟨steps, st⟩ e.before := by
  intro after
  have bound := h.length_lt
  have bound' := after.length_lt
  simp only [List.length_append, List.length_singleton] at bound bound'
  omega

/-- Of two events, one comes before the other. -/
theorem IsIn.trichotomy (h : e.IsIn steps) (h' : e'.IsIn steps) :
    e = e' ∨ e.IsIn e'.before ∨ e'.IsIn e.before := by
  rcases List.prefix_or_prefix_of_prefix h h' with first | second
  · exact (isIn_concat.1 first).imp id Or.inl
  · exact (isIn_concat.1 second).imp Eq.symm Or.inr

/-! ## Numbers -/

theorem Takes.bounds {stem : Str} {n : Nat} {v : Value} (clean : e.step.IsClean config.marker)
    (h : e.Takes config stem n v) :
    (e.session config).query.counter < n ∧
      n ≤ (Session.run config (e.before ++ [e.step])).query.counter := by
  obtain ⟨i, rfl, found⟩ := h.number
  have inside : i < e.step.values.length := (List.getElem?_eq_some_iff.1 found).1
  have last := Session.counter_step_of_ok (Session.marker_run config e.before) clean h.succeeds
  rw [Session.run_concat, last, session]
  omega

/-- A number is taken by one event, for one value. -/
theorem Takes.unique {stem stem' : Str} {n : Nat} {v v' : Value}
    (clean : ∀ st ∈ steps, st.IsClean config.marker) (inRun : e.IsIn steps)
    (inRun' : e'.IsIn steps) (taken : e.Takes config stem n v)
    (taken' : e'.Takes config stem' n v') : e = e' ∧ stem = stem' ∧ v = v' := by
  have bounds := taken.bounds (clean _ inRun.mem)
  have bounds' := taken'.bounds (clean _ inRun'.mem)
  have same : e = e' := by
    rcases inRun.trichotomy inRun' with same | first | second
    · exact same
    · have order := Session.counter_le_run config
        (fun st mem => clean st (inRun'.before_prefix.subset mem)) first
      exact absurd (bounds.2.trans order) (Nat.not_le.2 bounds'.1)
    · have order := Session.counter_le_run config
        (fun st mem => clean st (inRun.before_prefix.subset mem)) second
      exact absurd (bounds'.2.trans order) (Nat.not_le.2 bounds.1)
  subst same
  refine ⟨rfl, taken.stem.trans taken'.stem.symm, ?_⟩
  obtain ⟨i, number, found⟩ := taken.number
  obtain ⟨j, number', found'⟩ := taken'.number
  have place : i = j := by omega
  subst place
  exact Option.some.inj (found.symm.trans found')

theorem isDigitless_of_mem_stems : ∀ stem ∈ Step.stems, Mark.IsDigitless stem := by
  decide

theorem Takes.isDigitless {stem : Str} {n : Nat} {v : Value} (h : e.Takes config stem n v) :
    Mark.IsDigitless stem := by
  rw [h.stem]
  exact isDigitless_of_mem_stems _ e.step.stem_mem_stems

/-- The step binds a value to a name. -/
def Mints (config : Config) (e : Event) (name : Str) (v : Value) : Prop :=
  ∃ stem n, e.Takes config stem n v ∧ name = Mark.word stem n

/-- A name is taken by one event, for one value. -/
theorem Mints.unique {name : Str} {v v' : Value}
    (clean : ∀ st ∈ steps, st.IsClean config.marker) (inRun : e.IsIn steps)
    (inRun' : e'.IsIn steps) (minted : e.Mints config name v) (minted' : e'.Mints config name v') :
    e = e' ∧ v = v' := by
  obtain ⟨stem, n, taken, rfl⟩ := minted
  obtain ⟨stem', n', taken', same⟩ := minted'
  obtain ⟨rfl, rfl⟩ := Mark.word_inj taken.isDigitless taken'.isDigitless same
  have only := taken.unique clean inRun inRun' taken'
  exact ⟨only.1, only.2.2⟩

end Event

/-- No step is turned down. -/
def AllSucceed (config : Config) (steps : List Step) : Prop :=
  ∀ e : Event, e.IsIn steps → e.Succeeds config

/-- Whether none of these steps is turned down in a session. -/
def Session.accepts (s : Session) : List Step → Bool
  | [] => true
  | st :: rest => (s.step st).2.isNone && accepts (s.step st).1 rest

theorem Session.accepts_iff {s : Session} {steps : List Step} :
    s.accepts steps = true ↔ ∀ e : Event, e.IsIn steps →
      ((e.before.foldl (fun s st => (s.step st).1) s).step e.step).2 = none := by
  induction steps generalizing s with
  | nil => simp [accepts, Event.IsIn]
  | cons st rest ih =>
    rw [accepts, Bool.and_eq_true, Option.isNone_iff_eq_none, ih]
    constructor
    · rintro ⟨first, others⟩ ⟨before, last⟩ inRun
      cases before with
      | nil =>
        obtain ⟨rfl, _⟩ := List.cons_prefix_cons.1 inRun
        exact first
      | cons st' before =>
        obtain ⟨rfl, inRest⟩ := List.cons_prefix_cons.1 inRun
        exact others ⟨before, last⟩ inRest
    · intro all
      refine ⟨all ⟨[], st⟩ (by simp [Event.IsIn]), fun e inRest => ?_⟩
      exact all ⟨st :: e.before, e.step⟩ (List.cons_prefix_cons.2 ⟨rfl, inRest⟩)

instance (config : Config) (steps : List Step) : Decidable (AllSucceed config steps) :=
  decidable_of_iff (({ query := { config } } : Session).accepts steps = true) Session.accepts_iff

end BoundQuery.GraphQuery
