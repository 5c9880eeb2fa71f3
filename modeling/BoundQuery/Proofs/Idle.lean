import BoundQuery.Proofs.Condition.Idle
import BoundQuery.Proofs.Filters
import BoundQuery.Proofs.GraphQuery.Session
import BoundQuery.Proofs.Shorthand
import BoundQuery.Proofs.Statement.Clauses

/-!
# Calls for membership in an empty list

A call that asks for membership in an empty list changes nothing that is built, wherever in a run it
is made. A statement stores its condition but does not write it, and has no `WHERE` or `HAVING` when
there is no other; a graph query is left as it was, so that no later parameter is named differently.

## Main definitions

* `Restriction.IsIdle`, `Select.Call.IsIdle`, `Modify.Call.IsIdle`, `GraphQuery.Call.IsIdle` — calls
  that ask for nothing.
* `Select.active`, `Modify.active` — a statement without the conditions that say nothing.
* `Run.IsUnseen` — a call that can be made or left out.

## Main statements

* `Select.step_idle`, `Modify.step_idle`, `GraphQuery.step_idle` — what such a call does.
* `build_of_idle` — it can be made or left out, for builders of every kind.
-/

namespace BoundQuery

open Run (after)

/-! ## Restrictions -/

/-- Calls for membership of a field in an empty list. -/
inductive Restriction.IsIdle : Restriction → Prop
  | compare {field operator operand : Value} {op : Operator}
      (valid : Name.isIn Name.isQualified field = true)
      (parsed : Operator.ofValue? operator = some op) (membership : op.isMembership = true)
      (empty : operand.listed? = some []) : IsIdle (.compare field operator operand)
  | member {field values : Value} (valid : Name.isIn Name.isQualified field = true)
      (empty : values.elements = .ok []) : IsIdle (.member field values)
  | notMember {field values : Value} (valid : Name.isIn Name.isQualified field = true)
      (empty : values.elements = .ok []) : IsIdle (.notMember field values)
  | filters {entries : List (Value × Value)}
      (each : ∀ e ∈ entries, Name.isIn Name.isQualified e.1 = true ∧ e.2.AsksNothing) :
      IsIdle (.filters (.map entries))

theorem FieldCondition.exists_make_idle {field operator operand : Value} {op : Operator}
    (valid : Name.isIn Name.isQualified field = true)
    (parsed : Operator.ofValue? operator = some op) (membership : op.isMembership = true)
    (empty : operand.listed? = some []) (d : Dialect) :
    ∃ c, make d field operator operand = .ok c ∧ c.isIdle = true := by
  obtain ⟨name, gate⟩ : ∃ name, Name.qualified "condition field" field = .ok name :=
    Name.exists_gate_iff.2 valid
  obtain ⟨c, made, idle⟩ := exists_onField_idle parsed membership empty d name
  exact ⟨c, Result.bind_eq_ok.2 ⟨name, gate, made⟩, idle⟩

namespace Restriction

theorem exists_compare_idle {field operator operand : Value} {op : Operator}
    (valid : Name.isIn Name.isQualified field = true)
    (parsed : Operator.ofValue? operator = some op) (membership : op.isMembership = true)
    (empty : operand.listed? = some []) (d : Dialect) :
    ∃ cs, (Restriction.compare field operator operand).conditions d = .ok cs ∧
      ∀ c ∈ cs, c.isIdle = true := by
  obtain ⟨c, made, idle⟩ := FieldCondition.exists_make_idle valid parsed membership empty d
  refine ⟨[.field c], ?_, by simpa [Condition.isIdle] using idle⟩
  rw [conditions_compare, made]
  rfl

theorem IsIdle.exists_conditions {r : Restriction} (h : r.IsIdle) (d : Dialect) :
    ∃ cs, r.conditions d = .ok cs ∧ ∀ c ∈ cs, c.isIdle = true := by
  cases h with
  | compare valid parsed membership empty =>
    exact exists_compare_idle valid parsed membership empty d
  | @member field values valid empty =>
    rw [conditions, empty]
    exact exists_compare_idle valid rfl rfl rfl d
  | @notMember field values valid empty =>
    rw [conditions, empty]
    exact exists_compare_idle valid rfl rfl rfl d
  | @filters entries each =>
    have one (p : Value × Comparator) (valid : Name.isIn Name.isQualified p.1 = true)
        (nothing : p.2.IsIdle) : ∃ c, Filter.condition d p = .ok c ∧ c.isIdle = true :=
      FieldCondition.exists_make_idle valid rfl nothing.membership nothing.empty d
    obtain ⟨cs, all, idle⟩ :=
      Filter.exists_made_idle (P := fun v => Name.isIn Name.isQualified v = true) one each
    refine ⟨cs.map .field, ?_, by simpa [Condition.isIdle] using idle⟩
    rw [conditions_filters, Filter.conditionsOfEntries, all]
    rfl

end Restriction

/-! ## Statements without what says nothing -/

/-- On a builder that is restricted by calls, one that asks for nothing is not seen when no
condition is seen that says nothing. -/
theorem Run.Restricts.step_idle {σ γ ω : Type} {step : σ → γ → σ × Option Fault}
    {call : Restriction → γ} {add : σ → Condition → σ} (h : Run.Restricts step call add)
    {view : σ → ω} (unseen : ∀ s c, c.isIdle = true → view (add s c) = view s) {r : Restriction}
    (idle : r.IsIdle) (s : σ) : view (step s (call r)).1 = view s ∧ (step s (call r)).2 = none := by
  obtain ⟨cs, made, nothing⟩ := idle.exists_conditions .relational
  rw [h s r, made]
  exact ⟨Run.view_added (fun s c mem => unseen s c (nothing c mem)) s, rfl⟩

namespace Select

/-- A selection without the conditions that say nothing. -/
def active (s : Select) : Select :=
  { s with
    conditions := s.conditions.filter (!·.isIdle)
    having := s.having.filter (!·.isIdle) }

theorem body_active (s : Select) : s.active.body = s.body := by
  have having : (s.having.filter (!·.isIdle)).map Condition.field =
      (s.having.map Condition.field).filter (!·.isIdle) := by
    rw [List.filter_map]
    rfl
  simp only [body, active]
  rw [having, Condition.conjunction?_filter, Condition.conjunction?_filter]

theorem build_active (s : Select) : s.active.build = s.build := by
  rw [build, build, body_active]
  rfl

theorem buildCount_active (s : Select) : s.active.buildCount = s.buildCount := by
  rw [buildCount, buildCount, body_active]

theorem active_apply (s : Select) (e : Edit) : (s.apply e).active = (s.active.apply e).active := by
  cases e <;> simp [active, apply, List.filter_append, List.filter_filter]

theorem active_restricted (s : Select) (c : Condition) (idle : c.isIdle = true) :
    (s.restricted c).active = s.active := by
  simp [active, restricted, apply, idle]

/-- What a call does to the conditions that say something does not depend on the others. -/
theorem active_step (s s' : Select) (call : Call) (same : s.active = s'.active) :
    (s.step call).1.active = (s'.step call).1.active := by
  have config : s.active.config = s'.active.config := by rw [same]
  change s.config = s'.config at config
  rw [step, step, config]
  refine foldl_view (fun s s' e same => ?_) same _
  rw [active_apply, same, ← active_apply]

inductive Call.IsIdle : Call → Prop
  | restrict {r : Restriction} (idle : r.IsIdle) : IsIdle (.restrict r)
  | having {expression operator operand : Value} {op : Operator}
      (valid : Name.isIn Name.isExpression expression = true)
      (parsed : Operator.ofValue? operator = some op) (membership : op.isMembership = true)
      (empty : operand.listed? = some []) : IsIdle (.having expression operator operand)

theorem step_idle {call : Call} (h : call.IsIdle) (s : Select) :
    (s.step call).1.active = s.active ∧ (s.step call).2 = none := by
  cases h with
  | restrict idle => exact restricts.step_idle active_restricted idle s
  | @having expression operator operand op valid parsed membership empty =>
    obtain ⟨name, gate⟩ : ∃ name, Name.expression "condition field" expression = .ok name :=
      Name.exists_gate_iff.2 valid
    obtain ⟨c, made, idle⟩ :=
      FieldCondition.exists_onField_idle parsed membership empty .relational name
    have aggregate : FieldCondition.makeAggregate .relational expression operator operand = .ok c :=
      Result.bind_eq_ok.2 ⟨name, gate, made⟩
    simp [step, Call.effect, aggregate, Effect.ofSingle, Effect.ofResult, Except.map, apply, active,
      idle]

end Select

namespace Modify

/-- An update or a deletion without the conditions that say nothing. -/
def active (s : Modify) : Modify :=
  { s with conditions := s.conditions.filter (!·.isIdle) }

theorem build_active (s : Modify) : s.active.build = s.build := by
  simp only [build, template, active, Condition.conjunction?_filter]
  rfl

theorem active_apply (s : Modify) (e : Edit) : (s.apply e).active = (s.active.apply e).active := by
  cases e <;> simp [active, apply, List.filter_append, List.filter_filter]

theorem active_restricted (s : Modify) (c : Condition) (idle : c.isIdle = true) :
    (s.restricted c).active = s.active := by
  simp [active, restricted, apply, idle]

theorem active_step (s s' : Modify) (call : Call) (same : s.active = s'.active) :
    (s.step call).1.active = (s'.step call).1.active := by
  refine foldl_view (fun s s' e same => ?_) same _
  rw [active_apply, same, ← active_apply]

inductive Call.IsIdle : Call → Prop
  | restrict {r : Restriction} (idle : r.IsIdle) : IsIdle (.restrict r)

theorem step_idle {call : Call} (h : call.IsIdle) (s : Modify) :
    (s.step call).1.active = s.active ∧ (s.step call).2 = none := by
  cases h with
  | restrict idle => exact restricts.step_idle active_restricted idle s

end Modify

/-! ## Graph queries -/

namespace GraphQuery

/-- Calls for membership of a property in an empty list. -/
inductive Call.IsIdle : Call → Prop
  | compare {identifier property operator operand : Value} {op : Operator}
      (validIdentifier : Name.isValid identifier = true)
      (validProperty : Name.isValid property = true)
      (parsed : Operator.ofValue? operator = some op) (membership : op.isMembership = true)
      (empty : operand.listed? = some []) : IsIdle (.compare identifier property operator operand)
  | shorthand {s : Shorthand} {identifier property values : Value}
      (validIdentifier : Name.isValid identifier = true)
      (validProperty : Name.isValid property = true)
      (membership : s.operator.isMembership = true) (empty : values.elements = .ok []) :
      IsIdle (.shorthand s identifier property values)
  | filters {identifier : Value} {entries : List (Value × Value)}
      (validIdentifier : Name.isValid identifier = true)
      (each : ∀ e ∈ entries, Name.isValid e.1 = true ∧ e.2.AsksNothing) :
      IsIdle (.filters identifier (.map entries))

theorem restricted_idle {c : FieldCondition} (idle : c.isIdle = true) (q : GraphQuery) :
    q.restricted c = q := by
  rw [restricted, FieldCondition.template?_eq_none_iff.2 idle]

theorem added_idle {cs : List FieldCondition} (idle : ∀ c ∈ cs, c.isIdle = true)
    (q : GraphQuery) : Run.added restricted q (.ok cs) = (q, none) := by
  have kept : id (Run.added restricted q (.ok cs)).1 = id q :=
    Run.view_added (fun q c mem => restricted_idle (idle c mem) q) q
  exact Prod.ext kept rfl

theorem exists_compared_idle {identifier property operator operand : Value} {op : Operator}
    (validIdentifier : Name.isValid identifier = true)
    (validProperty : Name.isValid property = true) (parsed : Operator.ofValue? operator = some op)
    (membership : op.isMembership = true) (empty : operand.listed? = some []) :
    ∃ c, compared identifier property operator operand = .ok c ∧ c.isIdle = true := by
  obtain ⟨field, gate⟩ := exists_propertyField_iff.2 ⟨validIdentifier, validProperty⟩
  obtain ⟨c, made, idle⟩ :=
    FieldCondition.exists_onField_idle parsed membership empty .graph field
  exact ⟨c, by rw [compared_eq]; exact Result.bind_eq_ok.2 ⟨field, gate, made⟩, idle⟩

/-- The query stays as it was, and so does the counter of its names. -/
theorem step_idle {call : Call} (h : call.IsIdle) (q : GraphQuery) : q.step call = (q, none) := by
  cases h with
  | compare validIdentifier validProperty parsed membership empty =>
    obtain ⟨c, made, idle⟩ :=
      exists_compared_idle validIdentifier validProperty parsed membership empty
    rw [step_compare, made]
    exact added_idle (by simpa using idle) q
  | @shorthand s identifier property values validIdentifier validProperty membership empty =>
    obtain ⟨c, made, idle⟩ : ∃ c, compared identifier property (operatorValue s.operator)
        (.list []) = .ok c ∧ c.isIdle = true :=
      exists_compared_idle validIdentifier validProperty rfl membership rfl
    rw [compared_eq] at made
    have asked : shorthandAsked .graph (propertyField identifier property) s.operator values =
        .ok c := (shorthandAsked_of_elements membership empty).trans made
    rw [step_shorthand, asked]
    exact added_idle (by simpa using idle) q
  | @filters identifier entries validIdentifier each =>
    have one (p : Value × Comparator) (valid : Name.isValid p.1 = true) (nothing : p.2.IsIdle) :
        ∃ c, comparedAs identifier p = .ok c ∧ c.isIdle = true :=
      exists_compared_idle validIdentifier valid rfl nothing.membership nothing.empty
    obtain ⟨cs, all, idle⟩ := Filter.exists_made_idle (P := fun v => Name.isValid v = true) one each
    rw [Name.isValid_eq_isIn, ← Name.exists_gate_iff] at validIdentifier
    obtain ⟨name, plain⟩ := validIdentifier
    rw [step_filters, (filtered_eq_ok_iff plain entries cs).2 all]
    exact added_idle idle q

theorem Session.step_idle {call : Call} (h : call.IsIdle) (s : Session) :
    s.step (.call call) = (s, none) := by
  rw [step, GraphQuery.step_idle h]

end GraphQuery

/-! ## Builders of every kind -/

/-- A call that is accepted, and of which nothing is seen after a run, wherever it is made. -/
structure Run.IsUnseen {σ γ ω : Type} (step : σ → γ → σ × Option Fault) (view : σ → ω) (call : γ) :
    Prop where
  accepted : ∀ s, (step s call).2 = none
  unseen : ∀ s earlier later,
    view (after step s (earlier ++ call :: later)) = view (after step s (earlier ++ later))

theorem Select.isUnseen_of_isIdle {call : Call} (h : call.IsIdle) :
    Run.IsUnseen step (fun s => (s.build, s.buildCount)) call where
  accepted s := (step_idle h s).2
  unseen s earlier later := by
    have same := Run.after_insert active_step (fun s => (step_idle h s).1) s earlier later
    rw [← build_active, ← buildCount_active, same, build_active, buildCount_active]

theorem Modify.isUnseen_of_isIdle {call : Call} (h : call.IsIdle) :
    Run.IsUnseen step build call where
  accepted s := (step_idle h s).2
  unseen s earlier later := by
    have same := Run.after_insert active_step (fun s => (step_idle h s).1) s earlier later
    rw [← build_active, same, build_active]

theorem GraphQuery.isUnseen_of_isIdle {call : Call} (h : call.IsIdle) :
    Run.IsUnseen Session.step id (.call call) where
  accepted s := congrArg Prod.snd (Session.step_idle h s)
  unseen s earlier later := by
    have each : ∀ s s' st, id s = id s' → id (Session.step s st).1 = id (Session.step s' st).1 := by
      intro s s' st same
      exact congrArg (fun s => (Session.step s st).1) same
    exact Run.after_insert each (fun s => congrArg Prod.fst (Session.step_idle h s)) s earlier later

/-- A call for membership in an empty list can be made or left out anywhere in a run. Nothing that
is built of a statement is any different, and a graph query is the same, with the counter of its
names. So a statement has a clause of conditions when one of those stored asks for something else,
and only then. -/
theorem build_of_idle :
    (∀ call : Select.Call, call.IsIdle →
      Run.IsUnseen Select.step (fun s => (s.build, s.buildCount)) call) ∧
    (∀ call : Modify.Call, call.IsIdle → Run.IsUnseen Modify.step Modify.build call) ∧
    (∀ call : GraphQuery.Call, call.IsIdle →
      Run.IsUnseen GraphQuery.Session.step id (.call call)) ∧
    (∀ (s : Select) (q : SqlQuery), s.build = .ok q →
      ∃ (names : List Text) (bound : Nat), s.fields = names.map .text ∧
        s.IsWritten ("SELECT " ++ commaSeparated (names.map Text.spelling)) (s.tailText bound)
          q.text) ∧
    (∀ (s : Select) (q : SqlQuery), s.buildCount = .ok q →
      s.IsWritten "SELECT COUNT(*) AS total" "" q.text) ∧
    ∀ (s : Modify) (q : SqlQuery), s.build = .ok q → s.IsWritten q.text :=
  ⟨fun _ => Select.isUnseen_of_isIdle, fun _ => Modify.isUnseen_of_isIdle,
    fun _ => GraphQuery.isUnseen_of_isIdle, fun _ _ => Select.exists_isWritten_of_build,
    fun _ _ => Select.isWritten_of_buildCount, fun _ _ => Modify.isWritten_of_build⟩

/-- A filter for the roles and the ages of empty lists. -/
def noneWanted : List (Value × Value) :=
  [(.str "role", .list []), (.str "age", .map [(.str "$in", .tuple []), (.str "$nin", .set [])])]

theorem isIdle_noneWanted : (Restriction.filters (.map noneWanted)).IsIdle := by
  refine .filters fun e mem => ?_
  rcases List.mem_pair.1 mem with rfl | rfl
  · exact ⟨by decide, .list rfl⟩
  · refine ⟨by decide, .named (List.cons_ne_nil _ _) fun e mem => ?_⟩
    rcases List.mem_pair.1 mem with rfl | rfl
    · exact ⟨_, rfl, .inl rfl, rfl⟩
    · exact ⟨_, rfl, .inr rfl, rfl⟩

/-- A run of two comparisons. -/
def aged : List GraphQuery.Step :=
  [.call (.compare (.str "n") (.str "age") (.str "<") (.int 60)),
    .call (.compare (.str "n") (.str "age") (.str "<>") (.int 18))]

/-- A deletion of everything. -/
def emptied : Modify where
  config := .standard
  table := .plain "users"
  modification := .delete

/-- Behind a filter for empty lists a deletion has the `WHERE` of its other condition, and without
one it has none. In a graph query the names stay `param1` and `param2`. -/
theorem build_of_idle_noneWanted :
    (Select.Call.restrict (.filters (.map noneWanted))).IsIdle ∧
    (after Select.step Statement.bare
      [.restrict (.null (.str "note")), .restrict (.filters (.map noneWanted)),
        .limit (.int 5)]).build =
      (after Select.step Statement.bare
        [.restrict (.null (.str "note")), .limit (.int 5)]).build ∧
    (after Select.step Statement.bare
      [.restrict (.filters (.map noneWanted))]).IsWritten "SELECT COUNT(*) AS total" ""
        "SELECT COUNT(*) AS total FROM users" ∧
    (Modify.Call.restrict (.filters (.map noneWanted))).IsIdle ∧
    (after Modify.step emptied
      [.restrict (.filters (.map noneWanted)), .restrict (.null (.str "note"))]).build =
      .ok { text := "DELETE FROM users WHERE note IS NULL", params := [] } ∧
    (after Modify.step emptied [.restrict (.filters (.map noneWanted))]).IsWritten
      "DELETE FROM users" ∧
    (GraphQuery.Call.shorthand .notMember (.str "n") (.str "id") (.list [])).IsIdle ∧
    (after GraphQuery.Session.step { query := { config := .standard } }
      (.call (.shorthand .notMember (.str "n") (.str "id") (.list [])) :: aged)).query.build =
      .ok
        { query := "WHERE n.age < $param1 AND n.age <> $param2"
          params := [("param1", .int 60), ("param2", .int 18)] } := by
  have select : (Select.Call.restrict (.filters (.map noneWanted))).IsIdle :=
    .restrict isIdle_noneWanted
  have modify : (Modify.Call.restrict (.filters (.map noneWanted))).IsIdle :=
    .restrict isIdle_noneWanted
  have graph : (GraphQuery.Call.shorthand .notMember (.str "n") (.str "id") (.list [])).IsIdle :=
    .shorthand (by decide) (by decide) rfl rfl
  obtain ⟨ofSelect, ofModify, ofGraph, _, counted, written⟩ := build_of_idle
  refine ⟨select, ?_, ?_, modify, ?_, ?_, graph, ?_⟩
  · exact congrArg Prod.fst ((ofSelect _ select).unseen Statement.bare
      [.restrict (.null (.str "note"))] [.limit (.int 5)])
  · exact counted _ { text := "SELECT COUNT(*) AS total FROM users", params := [] } (by rfl)
  · exact ((ofModify _ modify).unseen emptied [] [.restrict (.null (.str "note"))]).trans (by rfl)
  · exact written _ { text := "DELETE FROM users", params := [] } (by rfl)
  · have same := (ofGraph _ graph).unseen { query := { config := .standard } } [] aged
    exact (congrArg (fun s : GraphQuery.Session => s.query.build) same).trans (by rfl)

end BoundQuery
