import BoundQuery.Proofs.Condition.Reading
import BoundQuery.Proofs.Restricting
import BoundQuery.Proofs.TurnedDown

/-!
# Filters spelled out

A filter is read, all its conditions are made, and then they are added. The same comparisons can be
called for one by one, in the order in which they are read. Whichever way is taken, the builder ends
up the same, a graph query down to the names of its parameters; only when something is turned down
does the filter add nothing where the single calls add what stands before the fault.

## Main definitions

* `Run.SpelledOut` — a call that stands for a list of others.
* `Filter.restriction`, `Filter.graphCall` — the call for one comparison that has been read.

## Main statements

* `spelledOut_filters` — a filter stands for the calls that its reading gives, on builders of every
  kind.
-/

namespace BoundQuery

open Result (Agree IsRefused)

/-! ## Calls that stand for others -/

/-- A call that stands for a list of others, which has to be found out first. It is turned down when
they cannot be found out or one of them is turned down, and leaves the state then; otherwise it
leads where they lead one by one. -/
structure Run.SpelledOut {σ γ : Type} (step : σ → γ → σ × Option Fault) (s : σ) (call : γ)
    (unreadable : Prop) (calls : Result (List γ)) : Prop where
  turnedDown_iff : (step s call).2.isSome = true ↔
    unreadable ∨ ∃ cs, calls = .ok cs ∧ ∃ c ∈ cs, (step s c).2.isSome = true
  kept : (step s call).2.isSome = true → (step s call).1 = s
  accepted : (step s call).2 = none → ∃ cs, calls = .ok cs ∧
    (step s call).1 = Run.after step s cs ∧ ∀ refused ∈ Run.verdicts step s cs, refused = false

section
variable {σ γ κ π : Type} {step : σ → γ → σ × Option Fault} {add : σ → κ → σ} {s : σ} {whole : γ}
variable {r : Result (List κ)} {reading : Result (List π)} {make : π → Result κ} {call : π → γ}

/-- A call that adds what is made of its reading stands for calls that each add one of that. -/
theorem Run.spelledOut_of_added {unreadable : Prop} (here : step s whole = added add s r)
    (each : ∀ s p, step s (call p) = added add s ((make p).map ([·])))
    (made : ∀ cs, r = .ok cs ↔ (reading >>= (·.mapM make)) = .ok cs)
    (read : reading.IsRefused ↔ unreadable) :
    SpelledOut step s whole unreadable (reading.map (·.map call)) := by
  have refused : r.IsRefused ↔ (reading >>= (·.mapM make)).IsRefused := by
    rw [← not_iff_not, Result.not_isRefused_iff, Result.not_isRefused_iff]
    exact exists_congr made
  constructor
  · rw [here, isSome_added, refused, Result.isRefused_bind_iff, read]
    refine or_congr_right ?_
    constructor
    · rintro ⟨ps, found, turned⟩
      obtain ⟨p, mem, turned⟩ := Result.isRefused_mapM_iff.1 turned
      refine ⟨ps.map call, Result.map_eq_ok.2 ⟨ps, found, rfl⟩, call p, List.mem_map_of_mem mem, ?_⟩
      rw [each, isSome_added]
      exact Result.isRefused_map_iff.2 turned
    · rintro ⟨_, listed, c, mem, turned⟩
      obtain ⟨ps, found, rfl⟩ := Result.map_eq_ok.1 listed
      obtain ⟨p, inside, rfl⟩ := List.mem_map.1 mem
      rw [each, isSome_added] at turned
      exact ⟨ps, found, Result.isRefused_mapM_iff.2 ⟨p, inside, Result.isRefused_map_iff.1 turned⟩⟩
  · intro turned
    rw [here, isSome_added] at turned
    rw [here, added_of_isRefused turned]
  · intro passed
    rw [here] at passed
    cases answered : r with
    | error fault =>
      rw [answered] at passed
      cases passed
    | ok cs =>
      obtain ⟨ps, found, each'⟩ := Result.bind_eq_ok.1 ((made cs).1 answered)
      obtain ⟨same, accepted⟩ := after_of_added each each' s
      refine ⟨ps.map call, Result.map_eq_ok.2 ⟨ps, found, rfl⟩, ?_, accepted⟩
      rw [here, answered, same]
      rfl

end

namespace Filter

/-- A comparison that has been read, as a call on a relational statement. -/
def restriction (p : Value × Comparator) : Restriction :=
  .compare p.1 p.2.comparison.operator.toValue p.2.operand

/-- A comparison that has been read, as a call on a graph query. -/
def graphCall (identifier : Value) (p : Value × Comparator) : GraphQuery.Call :=
  .compare identifier p.1 (GraphQuery.operatorValue p.2.comparison.operator) p.2.operand

end Filter

/-! ## Properties of one identifier -/

namespace GraphQuery

/-- The condition of a comparison that has been read, on a property of an identifier. -/
def comparedAs (identifier : Value) (p : Value × Comparator) : Result FieldCondition :=
  compared identifier p.1 (operatorValue p.2.comparison.operator) p.2.operand

variable {identifier : Value} {name : Text}

theorem comparedAs_of_property (plain : Name.plain "identifier" identifier = .ok name)
    {key : Value} {property : Text} (gate : Name.plain "property" key = .ok property)
    (c : Comparator) :
    comparedAs identifier (key, c) =
      Filter.condition .graph (.str (name.shown ++ "." ++ property.shown), c) := by
  simp only [comparedAs, compared, propertyRef, plain, gate]
  rfl

theorem isRefused_comparedAs (plain : Name.plain "identifier" identifier = .ok name)
    {key : Value} {fault : Fault} (gate : Name.plain "property" key = .error fault)
    (c : Comparator) : comparedAs identifier (key, c) = .error fault := by
  simp only [comparedAs, compared, propertyRef, plain, gate]
  rfl

/-- Each entry of a filter asks of its property what the comparisons ask that are read of it. There
is at least one of them, so that a bad name is found out by them too. -/
theorem madeOf_qualifiedEntry (plain : Name.plain "identifier" identifier = .ok name)
    (e : Value × Value) (cs : List FieldCondition) :
    (qualifiedEntry name e >>= Filter.madeOf (Filter.condition .graph)) = .ok cs ↔
      Filter.madeOf (comparedAs identifier) e = .ok cs := by
  unfold qualifiedEntry Filter.madeOf
  cases gate : Name.plain "property" e.1 with
  | ok property => simp only [comparedAs_of_property plain gate]; rfl
  | error fault =>
    refine iff_of_false (fun h => by cases h) ?_
    intro h
    obtain ⟨comparators, read, each⟩ := Result.bind_eq_ok.1 h
    obtain ⟨c, rest, rfl⟩ := List.exists_cons_of_ne_nil (Comparator.ne_nil_of_ofSpec read)
    rw [List.mapM_cons, isRefused_comparedAs plain gate] at each
    cases each

theorem filtered_eq_ok_iff (plain : Name.plain "identifier" identifier = .ok name)
    (entries : List (Value × Value)) (cs : List FieldCondition) :
    filtered identifier (.map entries) = .ok cs ↔
      (Filter.ofEntries entries >>= (·.mapM (comparedAs identifier))) = .ok cs := by
  have read (make : Value × Comparator → Result FieldCondition) (es : List (Value × Value)) :
      (Filter.ofEntries es >>= (·.mapM make)) = .ok cs ↔
        ∃ groups, es.mapM (Filter.madeOf make) = .ok groups ∧ groups.flatten = cs := by
    rw [Result.agree_eq_iff.1 (Filter.agree_ofEntries_mapM make es), Result.map_eq_ok]
  have opened : filtered identifier (.map entries) =
      entries.mapM (qualifiedEntry name) >>= fun es =>
        Filter.ofEntries es >>= (·.mapM (Filter.condition .graph)) := by
    rw [filtered, plain]
    rfl
  rw [opened, Result.bind_eq_ok, read]
  simp only [read, ← Result.mapM_mapM_eq_ok (madeOf_qualifiedEntry plain), Result.bind_eq_ok]
  constructor
  · rintro ⟨es, qualified, groups, each, joined⟩
    exact ⟨groups, ⟨es, qualified, each⟩, joined⟩
  · rintro ⟨groups, ⟨es, qualified, each⟩, joined⟩
    exact ⟨es, qualified, groups, each, joined⟩

end GraphQuery

/-! ## Builders of every kind -/

theorem Run.Restricts.spelledOut {σ γ : Type} {step : σ → γ → σ × Option Fault}
    {call : Restriction → γ} {add : σ → Condition → σ} (h : Run.Restricts step call add) (s : σ)
    (entries : List (Value × Value)) :
    SpelledOut step s (call (.filters (.map entries)))
      (∃ e ∈ entries, Comparator.HasUnknownKey e.2)
      ((Filter.parse (.map entries)).map (·.map fun p => call (Filter.restriction p))) := by
  have whole : step s (call (.filters (.map entries))) =
      added (fun s c => add s (.field c)) s (Filter.conditionsOfEntries .relational entries) := by
    rw [h, Restriction.conditions_filters, added_map]
  have each : ∀ s p, step s (call (Filter.restriction p)) =
      added (fun s c => add s (.field c)) s ((Filter.condition .relational p).map ([·])) := by
    intro s p
    rw [h, Filter.restriction, Restriction.conditions_compare, added_map]
    rfl
  exact spelledOut_of_added whole each (fun _ => Iff.rfl) Filter.isRefused_ofEntries_iff

/-- A filter stands for the comparisons that are read of it, in their order: it is turned down when
a `$` key has no meaning or one of the comparisons would be, and then the builder stays as it is,
with the counter of its names; otherwise the builder is the one that the single calls lead to. -/
theorem spelledOut_filters :
    (∀ (s : Select) (entries : List (Value × Value)),
      Run.SpelledOut Select.step s (.restrict (.filters (.map entries)))
        (∃ e ∈ entries, Comparator.HasUnknownKey e.2)
        ((Filter.parse (.map entries)).map (·.map fun p => .restrict (Filter.restriction p)))) ∧
    (∀ (s : Modify) (entries : List (Value × Value)),
      Run.SpelledOut Modify.step s (.restrict (.filters (.map entries)))
        (∃ e ∈ entries, Comparator.HasUnknownKey e.2)
        ((Filter.parse (.map entries)).map (·.map fun p => .restrict (Filter.restriction p)))) ∧
    ∀ (q : GraphQuery) (identifier : Value) (entries : List (Value × Value)),
      Name.isValid identifier = true →
      Run.SpelledOut GraphQuery.step q (.filters identifier (.map entries))
        (∃ e ∈ entries, Comparator.HasUnknownKey e.2)
        ((Filter.parse (.map entries)).map (·.map (Filter.graphCall identifier))) := by
  refine ⟨Select.restricts.spelledOut, Modify.restricts.spelledOut, ?_⟩
  intro q identifier entries valid
  rw [Name.isValid_eq_isIn, ← Name.exists_gate_iff] at valid
  obtain ⟨name, plain⟩ := valid
  exact Run.spelledOut_of_added (GraphQuery.step_filters q identifier (.map entries))
    (fun q p => q.step_compare identifier p.1 _ _) (GraphQuery.filtered_eq_ok_iff plain entries)
    Filter.isRefused_ofEntries_iff

namespace GraphQuery

/-- Elders of one of two kinds, whose names are known. -/
def searchedFor : List (Value × Value) :=
  [(.str "age", .map [(.str "$gte", .int 60), (.str "$lt", .int 100)]),
    (.str "role", .list [.str "admin", .str "editor"]),
    (.str "name", .map [(.str "$null", .bool false)])]

/-- The comparisons take the names from `param4` to `param7`, whichever way they are asked for, and
a `$` key without a meaning takes none. -/
theorem spelledOut_filters_searched :
    Name.isValid (.str "n") = true ∧
    (numbered.step (.filters (.str "n") (.map searchedFor))).1 =
      Run.after step numbered
        [.compare (.str "n") (.str "age") (operatorValue .gte) (.int 60),
          .compare (.str "n") (.str "age") (operatorValue .lt) (.int 100),
          .compare (.str "n") (.str "role") (operatorValue .oneOf)
            (.list [.str "admin", .str "editor"]),
          .compare (.str "n") (.str "name") (operatorValue .isNotNull) .null] ∧
    (numbered.step (.filters (.str "n") (.map
      (searchedFor ++ [(.str "id", .map [(.str "$below", .int 7)])])))).1 = numbered := by
  refine ⟨by decide, ?_, ?_⟩
  · obtain ⟨calls, read, same, _⟩ :=
      (spelledOut_filters.2.2 numbered (.str "n") searchedFor (by decide)).accepted (by rfl)
    cases read
    exact same
  · exact (spelledOut_filters.2.2 numbered (.str "n") _ (by decide)).kept (by rfl)

end GraphQuery
end BoundQuery
