import BoundQuery.GraphQuery.Build
import BoundQuery.Proofs.GraphQuery.Draft

/-!
# Sessions

A caller makes patterns, keeps them under labels of its own and places them in clauses, as often as
it likes, or puts them into paths. A session is the query so far with the patterns that have been
made; a step of it is one call, which may be turned down.

## Main definitions

* `Session.step`, `Session.run` — one call of the caller, and many.
* `Step.IsClean` — the texts of the caller are clean, and all patterns have been made in the
  session.

## Main statements

* `Session.step_turnedDown` — what a step does that is turned down.
* `Session.isAccepted_of_call`, `Session.exists_of_place`, `Session.exists_of_make`,
  `Session.exists_of_path` — what each kind of step does otherwise.
-/

namespace BoundQuery.GraphQuery

/-! ## Steps -/

/-- An element of a path: a pattern by its label, or any other value. -/
inductive Source where
  | made (label : Nat)
  | given (v : Value)

/-- How the elements of a path are handed over. -/
inductive Listing where
  | list
  | tuple

def Listing.value : Listing → List Value → Value
  | list => .list
  | tuple => .tuple

theorem Listing.elements_value (listing : Listing) (vs : List Value) :
    (listing.value vs).elements = .ok vs := by
  cases listing <;> rfl

/-- How a pattern is made: from values alone, or as a path of patterns made before. -/
inductive Recipe where
  | plain (m : Making)
  | path (listing : Listing) (elements : List Source)

/-- The clauses that take patterns which have been made before. -/
inductive Placing where
  | matching | optionalMatching | create | merge

def Placing.call : Placing → Value → Call
  | matching => .matching
  | optionalMatching => .optionalMatching
  | create => .create
  | merge => .merge

def Placing.clause : Placing → PatternClause
  | matching => .matching
  | optionalMatching => .optional
  | create => .create
  | merge => .merge

inductive Step where
  | make (label : Nat) (recipe : Recipe)
  | place (placing : Placing) (label : Nat)
  | call (c : Call)

/-- The query so far and the patterns that have been made. -/
structure Session where
  query : GraphQuery
  made : List (Nat × Pattern) := []

namespace Session

/-- The pattern under a label; a label that is taken keeps its pattern. -/
def pattern? (s : Session) (label : Nat) : Option Pattern :=
  s.made.lookup label

/-- What the caller hands over for an element of a path. -/
def value (s : Session) : Source → Value
  | .made label => (s.pattern? label).elim .null Pattern.toValue
  | .given v => v

def making (s : Session) : Recipe → Making
  | .plain m => m
  | .path listing elements => .path (listing.value (elements.map s.value))

/-- Makes one step: the session after it, and why it was turned down if it was. -/
def step (s : Session) : Step → Session × Option Fault
  | .make label recipe =>
    match s.query.make (s.making recipe) with
    | (.ok p, query) => ({ query, made := s.made ++ [(label, p)] }, none)
    | (.error fault, query) => ({ s with query }, some fault)
  | .place placing label =>
    let (query, fault?) := s.query.step (placing.call (s.value (.made label)))
    ({ s with query }, fault?)
  | .call c =>
    let (query, fault?) := s.query.step c
    ({ s with query }, fault?)

/-- The session after some steps on a new query; a step that is turned down does not end it. -/
def run (config : Config) (steps : List Step) : Session :=
  steps.foldl (fun s st => (s.step st).1) { query := { config } }

theorem run_concat (config : Config) (steps : List Step) (st : Step) :
    run config (steps ++ [st]) = ((run config steps).step st).1 := by
  simp [run]

end Session

/-! ## What a step takes and where it goes -/

namespace Making

/-- The values that are bound for a pattern. -/
def values : Making → List Value
  | node _ _ properties | relationship _ _ properties _ => properties.mappings
  | path _ => []

/-- The stem of the names that a pattern mints. -/
def stem : Making → Str
  | node _ _ _ => "props"
  | relationship _ _ _ _ => "relProps"
  | path _ => Named.defaultStem

end Making

/-- Where a step adds what it makes: a bucket of the query, or a label of the caller. -/
inductive Target where
  | bucket (b : Bucket)
  | label (x : Nat)
  deriving DecidableEq

namespace Step

/-- The values that a step binds when it is not turned down, in the order of their numbers. -/
def values : Step → List Value
  | make _ (.plain m) => m.values
  | make _ (.path _ _) | place _ _ => []
  | call c => c.values

/-- The stem of the names that a step mints. -/
def stem : Step → Str
  | make _ (.plain m) => m.stem
  | make _ (.path _ _) | place _ _ => Named.defaultStem
  | call c => c.stem

/-- The stems of all names. -/
def stems : List Str :=
  ["param", "props", "relProps", "skip", "limit"]

theorem stem_mem_stems (st : Step) : st.stem ∈ stems := by
  cases st with
  | make label recipe =>
    cases recipe with
    | plain m => cases m <;> simp [stem, Making.stem, stems, Named.defaultStem]
    | path listing elements => simp [stem, stems, Named.defaultStem]
  | place placing label => simp [stem, stems, Named.defaultStem]
  | call c => cases c <;> simp [stem, Call.stem, stems, Named.defaultStem]

def target : Step → Target
  | make label _ => .label label
  | place placing _ => .bucket (.patterns placing.clause)
  | call c => .bucket c.bucket

/-- The texts of the caller are clean, and no pattern comes from elsewhere than the session. -/
def IsClean (marker : List Chr) : Step → Prop
  | make _ (.plain (.path v)) => ∀ xs, v.elements = .ok xs → ∀ p : Pattern, p.toValue ∉ xs
  | make _ (.plain _) | place _ _ => True
  | make _ (.path _ elements) => ∀ p : Pattern, .given p.toValue ∉ elements
  | call c => c.CallerTextIsClean marker

end Step

/-! ## Patterns that are made -/

namespace Making

theorem exists_of_run_path {v : Value} {n : Nat} {x : Pattern × Nat}
    (h : (path v).run.run n = .ok x) :
    ∃ ps : List Pattern, v.elements = .ok (ps.map Pattern.toValue) ∧
      ∀ k, (path v).run.run k = .ok (Pattern.concat ps, k) := by
  obtain ⟨p, last⟩ := x
  have found := (Minting.lift_eq_ok h).1
  obtain ⟨xs, listed, found⟩ := Result.bind_eq_ok.1 found
  obtain ⟨ps, read, _⟩ := Result.bind_eq_ok.1 found
  have same : xs = ps.map Pattern.toValue := by
    have each := (Result.mapM_eq_ok.1 read).imp fun _ _ => Pattern.ofPathElement_eq_ok.1
    rw [← List.forall₂_eq_eq_eq, List.forall₂_map_right_iff]
    exact each
  subst same
  refine ⟨ps, listed, fun k => Minting.run_lift_of_ok ?_⟩
  exact Result.bind_eq_ok.2 ⟨_, listed, Result.bind_eq_ok.2 ⟨ps, read, rfl⟩⟩

/-- A pattern that is made from values alone comes down to a sketch. -/
theorem exists_draws {m : Making} {n : Nat} {x : Pattern × Nat} {label : Nat} {marker : List Chr}
    (clean : (Step.make label (.plain m)).IsClean marker) (h : m.run.run n = .ok x) :
    ∃ s : Sketch, s.IsFor m.stem m.values ∧ Pattern.IsSegment s.inscription ∧
      m.run.Draws s m.values.length := by
  cases m with
  | node identifier labels properties => exact Pattern.exists_draws_node h
  | relationship identifier type properties direction =>
    exact Pattern.exists_draws_relationship h
  | path v =>
    obtain ⟨ps, listed, drawn⟩ := exists_of_run_path h
    cases ps with
    | nil =>
      exact ⟨⟨[], []⟩, ⟨trivial, Inscription.all_nil⟩, Pattern.isSegment_nil, drawn⟩
    | cons p ps => exact absurd (by simp) (clean _ listed p)

end Making

/-! ## What a step does -/

namespace Session

variable {marker : List Chr} {s : Session}

/-- The session after edits of its query that took `width` numbers. -/
def edited (s : Session) (width : Nat) (edits : List Edit) : Session :=
  { s with query := edits.foldl apply { s.query with counter := s.query.counter + width } }

/-- The session after a pattern that took `width` numbers. -/
def kept (s : Session) (width : Nat) (label : Nat) (p : Pattern) : Session where
  query := { s.query with counter := s.query.counter + width }
  made := s.made ++ [(label, p)]

theorem step_call_of_accepted {c : Call} {drafts : List Draft}
    (same : s.query.config.marker = marker)
    (accepted : ∀ n, c.effect marker n =
      ({ edits := drafts.map (·.edit n) }, n + c.values.length)) :
    s.step (.call c) =
      (s.edited c.values.length (drafts.map (·.edit s.query.counter)), none) := by
  rw [step, GraphQuery.step, same, accepted]
  rfl

theorem step_call_of_turnedDown {c : Call} (same : s.query.config.marker = marker)
    (turned : c.IsTurnedDown marker s.query.counter) :
    ∃ edits fault, (∀ e ∈ edits, e.bucket = c.bucket ∧ e.IsPlain) ∧
      s.step (.call c) = (s.edited 0 edits, some fault) := by
  obtain ⟨edits, fault, plain, effect⟩ := turned
  refine ⟨edits, fault, plain, ?_⟩
  rw [step, GraphQuery.step, same, effect]
  rfl

theorem isAccepted_of_call {c : Call} (same : s.query.config.marker = marker)
    (clean : c.CallerTextIsClean marker) (h : (s.step (.call c)).2 = none) :
    c.IsAccepted marker := by
  rcases c.effect_cases clean s.query.counter with accepted | turned
  · exact accepted
  · obtain ⟨edits, fault, _, stepped⟩ := step_call_of_turnedDown same turned
    rw [stepped] at h
    cases h

theorem effect_placing (placing : Placing) (v : Value) (marker : List Chr) (n : Nat) :
    (placing.call v).effect marker n =
      match Pattern.ofValue v with
      | .ok p => ({ edits := [.place placing.clause p] }, n)
      | .error fault => ({ edits := [], fault := some fault }, n) := by
  cases placing <;> cases found : Pattern.ofValue v <;>
    simp only [Placing.call, Call.effect, Call.edits, found] <;> rfl

theorem step_place (s : Session) (placing : Placing) (label : Nat) :
    (∃ p, s.pattern? label = some p ∧
      s.step (.place placing label) = (s.edited 0 [.place placing.clause p], none)) ∨
    ∃ fault, s.step (.place placing label) = (s.edited 0 [], some fault) := by
  have effect := effect_placing placing (s.value (.made label)) s.query.config.marker
    s.query.counter
  have stepped : s.step (.place placing label) =
      let called := s.query.step (placing.call (s.value (.made label)))
      ({ s with query := called.1 }, called.2) := rfl
  rw [stepped, GraphQuery.step, effect, value]
  cases found : s.pattern? label with
  | none => exact Or.inr ⟨_, rfl⟩
  | some p =>
    rw [Option.elim_some, Pattern.toValue, Pattern.ofValue]
    by_cases blank : Chars.isAllBlank p.text = true
    · rw [if_pos blank]
      exact Or.inr ⟨_, rfl⟩
    · rw [if_neg blank]
      exact Or.inl ⟨p, rfl, rfl⟩

theorem exists_of_place {placing : Placing} {label : Nat}
    (h : (s.step (.place placing label)).2 = none) :
    ∃ p, s.pattern? label = some p ∧
      (s.step (.place placing label)).1 = s.edited 0 [.place placing.clause p] := by
  rcases s.step_place placing label with ⟨p, found, stepped⟩ | ⟨fault, stepped⟩
  · exact ⟨p, found, by rw [stepped]⟩
  · rw [stepped] at h
    cases h

theorem step_make_of_ok {label : Nat} {recipe : Recipe} {p : Pattern} {width : Nat}
    (h : (s.making recipe).run.run s.query.counter = .ok (p, s.query.counter + width)) :
    s.step (.make label recipe) = (s.kept width label p, none) := by
  rw [step, GraphQuery.make, Minting.run_eq_ok.1 h]
  rfl

theorem step_make_of_error {label : Nat} {recipe : Recipe} {fault : Fault}
    (h : (s.making recipe).run.run s.query.counter = .error fault) :
    s.step (.make label recipe) = (s.edited 0 [], some fault) := by
  rw [step, GraphQuery.make, (Making.isAtomic_run _).outcome_of_error h]
  rfl

theorem exists_run_of_make {label : Nat} {recipe : Recipe}
    (h : (s.step (.make label recipe)).2 = none) :
    ∃ x, (s.making recipe).run.run s.query.counter = .ok x := by
  cases run : (s.making recipe).run.run s.query.counter with
  | ok x => exact ⟨x, rfl⟩
  | error fault =>
    rw [step_make_of_error run] at h
    cases h

theorem exists_of_make {label : Nat} {m : Making}
    (clean : (Step.make label (.plain m)).IsClean marker)
    (h : (s.step (.make label (.plain m))).2 = none) :
    ∃ k : Sketch, k.IsFor m.stem m.values ∧ Pattern.IsSegment k.inscription ∧
      ∀ t : Session, (t.step (.make label (.plain m))).1 =
        t.kept m.values.length label (k.pattern t.query.counter) := by
  obtain ⟨x, run⟩ := exists_run_of_make h
  obtain ⟨k, isFor, segment, draws⟩ := Making.exists_draws clean run
  refine ⟨k, isFor, segment, fun t => ?_⟩
  have stepped : t.step (.make label (.plain m)) =
    (t.kept m.values.length label (k.pattern t.query.counter), none) :=
    step_make_of_ok (draws t.query.counter)
  rw [stepped]

/-- An element of a path and the pattern that it stands for. -/
def Finds (s : Session) (e : Source) (p : Pattern) : Prop :=
  ∃ label, e = .made label ∧ s.pattern? label = some p

theorem finds_of_value {e : Source} {p : Pattern} (own : e ≠ .given p.toValue)
    (h : s.value e = p.toValue) : s.Finds e p := by
  cases e with
  | given v => exact absurd (congrArg Source.given h) own
  | made label =>
    refine ⟨label, rfl, ?_⟩
    rw [value] at h
    cases found : s.pattern? label with
    | none =>
      rw [found] at h
      cases h
    | some q =>
      rw [found] at h
      rw [Pattern.toValue_injective h]

theorem exists_of_path {label : Nat} {listing : Listing} {elements : List Source}
    (clean : (Step.make label (.path listing elements)).IsClean marker)
    (h : (s.step (.make label (.path listing elements))).2 = none) :
    ∃ ps, List.Forall₂ s.Finds elements ps ∧
      (s.step (.make label (.path listing elements))).1 = s.kept 0 label (Pattern.concat ps) := by
  obtain ⟨x, run⟩ := exists_run_of_make h
  obtain ⟨ps, listed, drawn⟩ := Making.exists_of_run_path run
  have stepped : s.step (.make label (.path listing elements)) =
    (s.kept 0 label (Pattern.concat ps), none) := step_make_of_ok (drawn s.query.counter)
  refine ⟨ps, ?_, by rw [stepped]⟩
  have same : elements.map s.value = ps.map Pattern.toValue := by
    rw [listing.elements_value] at listed
    exact Except.ok.inj listed
  rw [← List.forall₂_eq_eq_eq, List.forall₂_map_left_iff, List.forall₂_map_right_iff] at same
  have own : ∀ e ∈ elements, ∀ p : Pattern, e ≠ .given p.toValue := by
    rintro e mem p rfl
    exact clean p mem
  clear h run listed drawn clean stepped
  induction same with
  | nil => exact .nil
  | cons first _ ih =>
    exact .cons (finds_of_value (own _ List.mem_cons_self _) first)
      (ih fun e mem => own e (List.mem_cons_of_mem _ mem))

theorem step_turnedDown {st : Step} {fault : Fault} (same : s.query.config.marker = marker)
    (clean : st.IsClean marker) (h : (s.step st).2 = some fault) :
    ∃ edits, (∀ e ∈ edits, st.target = .bucket e.bucket ∧ e.IsPlain) ∧
      (s.step st).1 = s.edited 0 edits := by
  cases st with
  | make label recipe =>
    cases run : (s.making recipe).run.run s.query.counter with
    | ok x =>
      rw [step, GraphQuery.make, Minting.run_eq_ok.1 run] at h
      cases h
    | error fault => exact ⟨[], by simp, by rw [step_make_of_error run]⟩
  | place placing label =>
    rcases s.step_place placing label with ⟨p, _, stepped⟩ | ⟨fault, stepped⟩
    · rw [stepped] at h
      cases h
    · exact ⟨[], by simp, by rw [stepped]⟩
  | call c =>
    rcases c.effect_cases clean s.query.counter with ⟨drafts, _, accepted⟩ | turned
    · rw [step_call_of_accepted same accepted] at h
      cases h
    · obtain ⟨edits, fault, plain, stepped⟩ := step_call_of_turnedDown same turned
      refine ⟨edits, fun e mem => ⟨?_, (plain e mem).2⟩, by rw [stepped]⟩
      rw [Step.target, (plain e mem).1]

end Session
end BoundQuery.GraphQuery
