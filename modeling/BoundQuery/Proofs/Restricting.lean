import BoundQuery.Proofs.GraphQuery.Atomic
import BoundQuery.Proofs.Name.Gates
import BoundQuery.Proofs.Run
import BoundQuery.Statement.Modify
import BoundQuery.Statement.Select

/-!
# Calls that add conditions

A call that restricts a builder makes all its conditions first and adds them afterwards: those of a
relational statement to its list, those of a graph query as patterns with the next names of the
counter. So it adds all of them or none, and many calls of which each adds one condition come to
what one call does that adds them all.

## Main definitions

* `Run.added` — the state to which all conditions of an answer are added, or none.
* `Run.Restricts` — the calls of a relational builder by which it gets its conditions.
* `Select.restricted`, `Modify.restricted`, `GraphQuery.restricted` — builders with one more
  condition.
* `GraphQuery.compared`, `GraphQuery.filtered` — the conditions that are asked of a graph query.

## Main statements

* `Run.after_of_added` — calls one by one, each of which adds one condition.
* `Select.restricts`, `Modify.restricts`, `GraphQuery.step_compare`, `GraphQuery.step_filters` —
  what the calls of each builder come to.
-/

namespace BoundQuery

namespace Run

variable {σ γ κ : Type} {add : σ → κ → σ} {s : σ}

/-- A state to which everything in an answer is added; when the request is turned down the state
stays, and so does the reason. -/
def added (add : σ → κ → σ) (s : σ) : Result (List κ) → σ × Option Fault
  | .ok cs => (cs.foldl add s, none)
  | .error fault => (s, some fault)

theorem isSome_added {r : Result (List κ)} : (added add s r).2.isSome = true ↔ r.IsRefused := by
  cases r with
  | error fault => simp [added, Result.IsRefused]
  | ok cs => simp [added, Result.IsRefused]

theorem added_of_isRefused {r : Result (List κ)} (h : r.IsRefused) : (added add s r).1 = s := by
  obtain ⟨fault, rfl⟩ := h
  rfl

/-- Nothing is seen of what is added when nothing is seen of each of it. -/
theorem view_added {ω : Type} {view : σ → ω} {cs : List κ}
    (unseen : ∀ s, ∀ c ∈ cs, view (add s c) = view s) (s : σ) :
    view (added add s (.ok cs)).1 = view s := by
  change view (cs.foldl add s) = view s
  induction cs generalizing s with
  | nil => rfl
  | cons c cs ih =>
    have rest := ih (fun s c mem => unseen s c (List.mem_cons_of_mem _ mem)) (add s c)
    exact rest.trans (unseen s c List.mem_cons_self)

/-- An effect of all edits or none adds them all or none. -/
theorem added_ofResult (r : Result (List κ)) :
    ((Effect.ofResult r).edits.foldl add s, (Effect.ofResult r).fault) = added add s r := by
  cases r with
  | error fault => rfl
  | ok cs => rfl

theorem added_map {ι : Type} (g : ι → κ) (r : Result (List ι)) :
    added add s (r.map (·.map g)) = added (fun s x => add s (g x)) s r := by
  cases r with
  | error fault => rfl
  | ok cs => simp [added, Except.map, List.foldl_map]

/-- Calls of which each adds what it asks for come to adding all of it, and none is turned down. -/
theorem after_of_added {π : Type} {step : σ → γ → σ × Option Fault} {call : π → γ}
    {make : π → Result κ} (each : ∀ s p, step s (call p) = added add s ((make p).map ([·])))
    {ps : List π} {cs : List κ} (made : ps.mapM make = .ok cs) (s : σ) :
    after step s (ps.map call) = cs.foldl add s ∧
      ∀ refused ∈ verdicts step s (ps.map call), refused = false := by
  induction Result.mapM_eq_ok.1 made generalizing s with
  | nil => exact ⟨rfl, by simp [verdicts, log]⟩
  | @cons p c ps cs first rest ih =>
    have here : step s (call p) = (add s c, none) := by rw [each, first]; rfl
    obtain ⟨last, accepted⟩ := ih (Result.mapM_eq_ok.2 rest) (add s c)
    constructor
    · rw [List.map_cons, after, List.foldl_cons, here]
      exact last
    · simpa [verdicts, log, here] using accepted

end Run

/-! ## Relational statements -/

/-- Calls on a relational builder that restrict it: each adds the conditions that it gives. -/
def Run.Restricts {σ γ : Type} (step : σ → γ → σ × Option Fault) (call : Restriction → γ)
    (add : σ → Condition → σ) : Prop :=
  ∀ s r, step s (call r) = Run.added add s (r.conditions .relational)

/-- The conditions of a filter are those of its reading, one by one. -/
theorem Restriction.conditions_filters (d : Dialect) (entries : List (Value × Value)) :
    (Restriction.filters (.map entries)).conditions d =
      (Filter.conditionsOfEntries d entries).map (·.map .field) := by
  change (Filter.conditionsOfEntries d entries >>= fun cs => .ok (cs.map Condition.field)) = _
  cases Filter.conditionsOfEntries d entries <;> rfl

theorem Restriction.conditions_compare (d : Dialect) (field operator operand : Value) :
    (Restriction.compare field operator operand).conditions d =
      ((FieldCondition.make d field operator operand).map ([·])).map (·.map .field) := by
  change (FieldCondition.make d field operator operand >>= fun c => .ok [Condition.field c]) = _
  cases FieldCondition.make d field operator operand <;> rfl

namespace Select

/-- A selection with one more condition. -/
def restricted (s : Select) (c : Condition) : Select :=
  s.apply (.condition c)

theorem restricts : Run.Restricts step Call.restrict restricted := by
  intro s r
  exact (Run.added_ofResult _).trans (Run.added_map Edit.condition _)

end Select

namespace Modify

/-- An update or a deletion with one more condition. -/
def restricted (s : Modify) (c : Condition) : Modify :=
  s.apply (.condition c)

theorem restricts : Run.Restricts step Call.restrict restricted := by
  intro s r
  exact (Run.added_ofResult _).trans (Run.added_map Edit.condition _)

end Modify

/-! ## Graph queries -/

namespace GraphQuery

/-- A graph query with the pattern of one more condition, if that writes anything, and with the
counter after the names of the pattern. -/
def restricted (q : GraphQuery) (c : FieldCondition) : GraphQuery :=
  match c.template? .graph with
  | none => q
  | some t =>
    let (text, store) := Named.fill t { counter := q.counter }
    { q with counter := store.counter }.apply (.place .condition { text, params := store.values })

/-- The condition that a comparison of one property asks for. -/
def compared (identifier property operator operand : Value) : Result FieldCondition := do
  let field ← propertyRef identifier property
  FieldCondition.make .graph (.str field) operator operand

/-- The conditions that a filter asks of one identifier. -/
def filtered (identifier mapping : Value) : Result (List FieldCondition) := do
  let name ← Name.plain "identifier" identifier
  let entries ← (← mapping.items).mapM (qualifiedEntry name)
  Filter.conditionsOfEntries .graph entries

/-- The field that a comparison of one property is on. -/
def propertyField (identifier property : Value) : Result Text := do
  Name.qualified "condition field" (.str (← propertyRef identifier property))

theorem compared_eq (identifier property operator operand : Value) :
    compared identifier property operator operand =
      propertyField identifier property >>= fun field =>
        FieldCondition.onField .graph field operator operand := by
  unfold compared propertyField
  cases propertyRef identifier property <;> rfl

/-- A plain name of a property behind a plain name is a field, however both are written. -/
theorem exists_propertyField_iff {identifier property : Value} :
    (∃ field, propertyField identifier property = .ok field) ↔
      Name.isValid identifier = true ∧ Name.isValid property = true := by
  rw [Name.isValid_eq_isIn, Name.isValid_eq_isIn]
  constructor
  · rintro ⟨field, made⟩
    obtain ⟨ref, found, _⟩ := Result.bind_eq_ok.1 made
    obtain ⟨t, first, rest⟩ := Result.bind_eq_ok.1 found
    obtain ⟨u, second, _⟩ := Result.bind_eq_ok.1 rest
    exact ⟨Name.exists_gate_iff.1 ⟨t, first⟩, Name.exists_gate_iff.1 ⟨u, second⟩⟩
  · rintro ⟨first, second⟩
    obtain ⟨t, first⟩ : ∃ t, Name.gate Name.isPlain "identifier" identifier = .ok t :=
      Name.exists_gate_iff.2 first
    obtain ⟨u, second⟩ : ∃ u, Name.gate Name.isPlain "property" property = .ok u :=
      Name.exists_gate_iff.2 second
    have found : propertyRef identifier property = .ok (t.shown ++ "." ++ u.shown) := by
      simp only [propertyRef, Name.plain, first, second]
      rfl
    have qualified : Name.isQualified (t.shown ++ "." ++ u.shown).toList = true := by
      have joined : (t.shown ++ "." ++ u.shown).toList =
          t.shown.toList ++ .scalar '.' :: u.shown.toList := by
        simp
      rw [joined, Name.isQualified_append_dot, Name.isQualified_shown (Name.gate_eq_ok first).2,
        Name.isQualified_shown (Name.gate_eq_ok second).2]
      rfl
    refine ⟨.plain (t.shown ++ "." ++ u.shown), ?_⟩
    rw [propertyField, found]
    exact Name.gate_eq_ok_iff.2 ⟨rfl, qualified⟩

/-- Patterns that are made one after the other, and then placed, are those that are placed as they
are made. -/
theorem exists_conditionEdits (q : GraphQuery) (cs : List FieldCondition) :
    ∃ edits k, (conditionEdits cs).outcome q.counter = (.ok edits, k) ∧
      edits.foldl apply { q with counter := k } = cs.foldl restricted q := by
  induction cs generalizing q with
  | nil => exact ⟨[], q.counter, rfl, rfl⟩
  | cons c rest ih =>
    cases written : c.template? .graph with
    | none =>
      have same : q.restricted c = q := by simp [restricted, written]
      obtain ⟨edits, k, made, placed⟩ := ih q
      refine ⟨edits, k, ?_, ?_⟩
      · rw [conditionEdits, written]
        exact made
      · rw [List.foldl_cons, same, placed]
    | some t =>
      obtain ⟨edits, k, made, placed⟩ := ih (q.restricted c)
      have p : ∃ p n, (Minting.fill t).outcome q.counter = (.ok p, n) ∧
          q.restricted c = { q with counter := n }.apply (.place .condition p) := by
        refine ⟨_, _, rfl, ?_⟩
        simp only [restricted, written]
        rfl
      obtain ⟨p, n, filled, here⟩ := p
      rw [here] at made placed
      refine ⟨.place .condition p :: edits, k, ?_, ?_⟩
      · have counter : ({ q with counter := n }.apply (.place .condition p)).counter = n := rfl
        rw [counter] at made
        simp only [conditionEdits, written, Minting.outcome_bind, filled, made]
        rfl
      · rw [List.foldl_cons, List.foldl_cons, here]
        exact placed

/-- A call that makes its conditions before it takes its first number. -/
theorem step_of_edits {q : GraphQuery} {call : Call} {r : Result (List FieldCondition)}
    (whole : call.effect q.config.marker q.counter = call.edited q.config.marker q.counter)
    (edits : call.edits q.config.marker = liftM r >>= conditionEdits) :
    q.step call = Run.added restricted q r := by
  rw [step, whole, Call.edited, edits, Minting.outcome_bind]
  cases r with
  | error fault => rfl
  | ok cs =>
    obtain ⟨edits, k, made, placed⟩ := exists_conditionEdits q cs
    have lifted : (liftM (Except.ok cs : Result _) : Minting _).outcome q.counter =
        (.ok cs, q.counter) := rfl
    simp only [lifted, made, Run.added, ← placed]
    rfl

theorem comparison_eq (identifier property operator operand : Value) :
    comparison identifier property operator operand =
      liftM ((compared identifier property operator operand).map ([·])) >>= conditionEdits := by
  unfold comparison compared
  cases propertyRef identifier property with
  | error fault => rfl
  | ok field =>
    change (liftM (FieldCondition.make .graph (.str field) operator operand) >>= fun c =>
        conditionEdits [c]) =
      liftM ((FieldCondition.make .graph (.str field) operator operand).map ([·])) >>=
        conditionEdits
    cases FieldCondition.make .graph (.str field) operator operand <;> rfl

theorem step_compare (q : GraphQuery) (identifier property operator operand : Value) :
    q.step (.compare identifier property operator operand) =
      Run.added restricted q ((compared identifier property operator operand).map ([·])) :=
  step_of_edits rfl (comparison_eq identifier property operator operand)

theorem step_filters (q : GraphQuery) (identifier mapping : Value) :
    q.step (.filters identifier mapping) =
      Run.added restricted q (filtered identifier mapping) := by
  refine step_of_edits rfl ?_
  simp only [Call.edits, filtered, Minting.mapM_lift]
  cases Name.plain "identifier" identifier with
  | error fault => rfl
  | ok name => cases mapping.items with
    | error fault => rfl
    | ok entries =>
      change (liftM (entries.mapM (qualifiedEntry name)) >>= fun es =>
          liftM (Filter.conditionsOfEntries .graph es) >>= conditionEdits) =
        liftM (entries.mapM (qualifiedEntry name) >>= Filter.conditionsOfEntries .graph) >>=
          conditionEdits
      cases entries.mapM (qualifiedEntry name) <;> rfl

end GraphQuery
end BoundQuery
