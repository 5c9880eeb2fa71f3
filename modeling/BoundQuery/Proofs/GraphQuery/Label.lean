import BoundQuery.Proofs.GraphQuery.Event

/-!
# Labels in a session

A label gets its pattern from the first step that makes one for it, and keeps it. When no step is
turned down this step is the first one for the label, so that the order of the steps for one label
says which pattern it stands for.

## Main definitions

* `Event.rank` — how many steps with the same target come before.
* `Event.IsFirst` — the event that gives a label its pattern.

## Main statements

* `Session.exists_isFirst` — every label that stands for a pattern has got it in some event.
* `Event.IsFirst.rank` — this event comes before all others for its label.
-/

namespace BoundQuery.GraphQuery

namespace Session

variable {marker : List Chr} {s : Session} {st : Step} {config : Config} {steps : List Step}

/-- A step leaves the pattern of a label as it is, or gives a label without a pattern its first. -/
theorem pattern?_step (same : s.query.config.marker = marker) (clean : st.IsClean marker)
    (x : Nat) :
    (s.step st).1.pattern? x = s.pattern? x ∨
    s.pattern? x = none ∧ (∃ recipe, st = .make x recipe) ∧ (s.step st).2 = none := by
  cases h : (s.step st).2 with
  | some fault =>
    obtain ⟨edits, _, stepped⟩ := step_turnedDown same clean h
    exact Or.inl (by rw [stepped, pattern?_edited])
  | none =>
    cases st with
    | make label recipe =>
      obtain ⟨width, p, stepped⟩ := exists_kept clean h
      rw [stepped, pattern?_kept]
      by_cases here : x = label
      · subst here
        cases found : s.pattern? x with
        | none => exact Or.inr ⟨rfl, ⟨recipe, rfl⟩, rfl⟩
        | some q => exact Or.inl rfl
      · rw [if_neg here, Option.or_none]
        exact Or.inl rfl
    | place placing label =>
      obtain ⟨p, _, stepped⟩ := exists_of_place h
      exact Or.inl (by rw [stepped, pattern?_edited])
    | call c =>
      obtain ⟨drafts, _, accepted⟩ := isAccepted_of_call same clean h
      exact Or.inl (by rw [step_call_of_accepted same accepted, pattern?_edited])

theorem pattern?_of_prefix {before : List Step} {x : Nat} {p : Pattern}
    (clean : ∀ st ∈ steps, st.IsClean config.marker) (earlier : before <+: steps)
    (found : (run config before).pattern? x = some p) : (run config steps).pattern? x = some p := by
  induction steps using List.reverseRecOn with
  | nil => rwa [List.prefix_nil.1 earlier] at found
  | append_singleton steps st ih =>
    rcases List.prefix_concat_iff.1 earlier with rfl | earlier
    · exact found
    · have kept := ih (fun st mem => clean st (List.mem_append_left _ mem)) earlier
      rw [run_concat]
      rcases pattern?_step (marker_run config steps) (clean st (by simp)) x with same | ⟨none, _⟩
      · rw [same, kept]
      · rw [none] at kept
        cases kept

end Session

namespace Event

variable {config : Config} {steps : List Step} {e e' : Event} {x : Nat} {p : Pattern}

/-- How many steps with the same target come before. -/
def rank (e : Event) : Nat :=
  (e.before.filter (·.target = e.step.target)).length

/-- The event that gives a label its pattern. -/
structure IsFirst (config : Config) (steps : List Step) (x : Nat) (e : Event) : Prop where
  inRun : e.IsIn steps
  step : ∃ recipe, e.step = .make x recipe
  fresh : (e.session config).pattern? x = none
  succeeds : e.Succeeds config

theorem rank_lt (after : e.IsIn e'.before) (same : e.step.target = e'.step.target) :
    e.rank < e'.rank := by
  obtain ⟨rest, split⟩ := after
  rw [rank, rank, ← split, ← same]
  simp

/-- An event is determined by its step and its rank. -/
theorem eq_of_rank (inRun : e.IsIn steps) (inRun' : e'.IsIn steps) (step : e.step = e'.step)
    (rank : e.rank = e'.rank) : e = e' := by
  have target := congrArg Step.target step
  rcases inRun.trichotomy inRun' with same | first | second
  · exact same
  · have order := rank_lt first target
    omega
  · have order := rank_lt second target.symm
    omega

theorem getElem?_filter (inRun : e.IsIn steps) :
    (steps.filter (·.target = e.step.target))[e.rank]? = some e.step := by
  obtain ⟨rest, rfl⟩ := inRun
  simp [rank]

/-- When the steps with one target are the same in two lists, events of the same rank are events of
the same step. -/
theorem step_eq_of_rank {steps' : List Step} (inRun : e.IsIn steps) (inRun' : e'.IsIn steps')
    (target : e.step.target = e'.step.target) (rank : e.rank = e'.rank)
    (same : steps.filter (·.target = e.step.target) = steps'.filter (·.target = e.step.target)) :
    e.step = e'.step := by
  have found := getElem?_filter inRun
  have found' := getElem?_filter inRun'
  rw [same, target, rank] at found
  exact Option.some.inj (found.symm.trans found')

end Event

namespace Event.IsFirst

variable {config : Config} {steps : List Step} {e : Event} {x : Nat} {p : Pattern}

theorem target (h : e.IsFirst config steps x) : e.step.target = .label x := by
  obtain ⟨recipe, made⟩ := h.step
  rw [made, Step.target]

theorem exists_pattern (clean : ∀ st ∈ steps, st.IsClean config.marker)
    (h : e.IsFirst config steps x) :
    ∃ p, (Session.run config (e.before ++ [e.step])).pattern? x = some p := by
  obtain ⟨recipe, made⟩ := h.step
  have cleanStep := clean _ h.inRun.mem
  have succeeds := h.succeeds
  unfold Event.Succeeds at succeeds
  rw [made] at cleanStep succeeds
  obtain ⟨width, p, stepped⟩ := Session.exists_kept cleanStep succeeds
  refine ⟨p, ?_⟩
  have fresh : (Session.run config e.before).pattern? x = none := h.fresh
  rw [Session.run_concat, made]
  rw [Event.session] at stepped
  rw [stepped, Session.pattern?_kept_self fresh]

theorem none_before (clean : ∀ st ∈ steps, st.IsClean config.marker) (h : e.IsFirst config steps x)
    {earlier : List Step} (le : earlier <+: e.before) :
    (Session.run config earlier).pattern? x = none := by
  cases found : (Session.run config earlier).pattern? x with
  | none => rfl
  | some p =>
    have kept := Session.pattern?_of_prefix
      (fun st mem => clean st (h.inRun.before_prefix.subset mem)) le found
    exact absurd (kept.symm.trans h.fresh) (by simp)

/-- The pattern that the label stands for at the end is the one that this event has made. -/
theorem pattern? (clean : ∀ st ∈ steps, st.IsClean config.marker) (h : e.IsFirst config steps x)
    (found : (Session.run config steps).pattern? x = some p) :
    (Session.run config (e.before ++ [e.step])).pattern? x = some p := by
  obtain ⟨q, made⟩ := h.exists_pattern clean
  have kept := Session.pattern?_of_prefix clean h.inRun made
  rw [made, ← kept, found]

/-- When no step is turned down, this event comes before all others for its label. -/
theorem rank (clean : ∀ st ∈ steps, st.IsClean config.marker) (succeed : AllSucceed config steps)
    (h : e.IsFirst config steps x) : e.rank = 0 := by
  rw [Event.rank, List.length_eq_zero_iff, List.filter_eq_nil_iff]
  intro st mem target
  rw [decide_eq_true_eq, h.target] at target
  obtain ⟨d, inBefore, rfl⟩ := exists_isIn_of_mem mem
  have inRun := inBefore.mono h.inRun.before_prefix
  cases made : d.step with
  | make y recipe =>
    rw [made] at target
    cases target
    have fresh : (d.session config).pattern? x = none := h.none_before clean inBefore.before_prefix
    have isFirst : d.IsFirst config steps x := ⟨inRun, ⟨recipe, made⟩, fresh, succeed d inRun⟩
    obtain ⟨p, found⟩ := isFirst.exists_pattern clean
    rw [h.none_before clean inBefore] at found
    cases found
  | place placing y =>
    rw [made] at target
    cases target
  | call c =>
    rw [made] at target
    cases target

end Event.IsFirst

theorem Session.exists_isFirst {config : Config} {steps : List Step} {x : Nat} {p : Pattern}
    (clean : ∀ st ∈ steps, st.IsClean config.marker)
    (found : (run config steps).pattern? x = some p) : ∃ e : Event, e.IsFirst config steps x := by
  induction steps using List.reverseRecOn with
  | nil => cases found
  | append_singleton steps st ih =>
    rw [run_concat] at found
    rcases pattern?_step (marker_run config steps) (clean st (by simp)) x with same | first
    · rw [same] at found
      obtain ⟨e, isFirst⟩ := ih (fun st mem => clean st (List.mem_append_left _ mem)) found
      exact ⟨e, { isFirst with inRun := isFirst.inRun.concat st }⟩
    · obtain ⟨fresh, step, succeeds⟩ := first
      exact ⟨⟨steps, st⟩, Event.isIn_last steps st, step, fresh, succeeds⟩

end BoundQuery.GraphQuery
