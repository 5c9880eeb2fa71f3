import BoundQuery.Condition.Render
import BoundQuery.Proofs.Reported.Basic

/-!
# Conditions that can be reported on

What a condition is turned down for can be reported: of its operand at most the kind is told, and
the field is told as a text once it has passed its gate.

## Main statements

* `FieldCondition.reports_make` — one comparison on a field that is data.
* `Filter.reports_conditionsOfEntries` — a whole filter.
* `Condition.reports_conjunction?` — conditions that are written.
-/

namespace BoundQuery

open Result

/-! ## Comparisons -/

theorem ConditionFault.isTold_details {f : ConditionFault}
    (own : ∀ message details, f ≠ .custom message details) :
    ∀ detail ∈ f.details, detail.2.IsTold := by
  cases f with
  | custom message details => exact absurd rfl (own message details)
  | _ => simp [details, fieldAndOperator, Value.isTold_text]

theorem reports_condition {α : Type} {f : ConditionFault}
    (own : ∀ message details, f ≠ .custom message details) :
    Reports (.error (.condition f) : Result α) :=
  reports_error (Fault.isReported_condition (ConditionFault.isTold_details own))

namespace FieldCondition

theorem reports_ofNull (field : Text) (op : Operator) : (Test.ofNull field op).Reports := by
  unfold Test.ofNull
  split <;> first | exact reports_ok _ | exact reports_condition nofun

theorem reports_ofGiven (field : Text) (op : Operator) (operand : Value) :
    (Test.ofGiven field op operand).Reports := by
  have listed (negated : Bool) : (Test.ofList field op negated operand).Reports := by
    unfold Test.ofList
    split <;> first | exact reports_ok _ | exact reports_condition nofun
  unfold Test.ofGiven
  split
  · exact reports_condition nofun
  · exact reports_condition nofun
  · exact listed false
  · exact listed true
  · exact reports_ok _

/-- A field that has passed its gate is text. -/
theorem reports_onField (d : Dialect) (field : Text) (operator operand : Value) :
    (onField d field operator operand).Reports := by
  unfold onField
  split
  · unfold ofOperator
    split
    · exact reports_condition nofun
    · split
      · exact (reports_ofNull field _).map
      · exact (reports_ofGiven field _ operand).map
  · exact reports_condition nofun

theorem reports_make (d : Dialect) {field : Value} (data : field.IsData)
    (operator operand : Value) : (make d field operator operand).Reports :=
  (Name.reports_gate _ _ data).bind fun name _ => reports_onField d name operator operand

theorem reports_makeAggregate (d : Dialect) {field : Value} (data : field.IsData)
    (operator operand : Value) : (makeAggregate d field operator operand).Reports :=
  (Name.reports_gate _ _ data).bind fun name _ => reports_onField d name operator operand

end FieldCondition

namespace Comparator

theorem reports_ofEntry (key : Text) (operand : Value) : (ofEntry key operand).Reports := by
  unfold ofEntry
  split
  · exact reports_ok _
  · split
    · exact reports_ok _
    · exact reports_condition nofun

theorem reports_ofSpec (spec : Value) : (ofSpec spec).Reports := by
  unfold ofSpec
  split
  case h_7 =>
    split
    · exact reports_mapM fun entry _ => reports_ofEntry entry.1 entry.2
    · exact reports_ok _
  all_goals exact reports_ok _

end Comparator

namespace Filter

theorem reports_ofEntries (entries : List (Value × Value)) : (ofEntries entries).Reports := by
  induction entries with
  | nil => exact reports_ok _
  | cons e entries ih =>
    exact (Comparator.reports_ofSpec e.2).bind fun _ _ => ih.bind fun _ _ => reports_ok _

theorem fst_mem_of_ofEntries {entries : List (Value × Value)} {pairs : List (Value × Comparator)}
    (h : ofEntries entries = .ok pairs) : ∀ pair ∈ pairs, ∃ e ∈ entries, pair.1 = e.1 := by
  induction entries generalizing pairs with
  | nil =>
    cases h
    simp
  | cons e entries ih =>
    obtain ⟨cs, _, h⟩ := bind_eq_ok.1 h
    obtain ⟨rest, others, same⟩ := bind_eq_ok.1 h
    cases same
    intro pair mem
    rcases List.mem_append.1 mem with here | there
    · obtain ⟨c, _, rfl⟩ := List.mem_map.1 here
      exact ⟨e, List.mem_cons_self, rfl⟩
    · obtain ⟨f, inside, same⟩ := ih others pair there
      exact ⟨f, List.mem_cons_of_mem e inside, same⟩

/-- Only the keys of a filter are told as they are. -/
theorem reports_conditionsOfEntries (d : Dialect) {entries : List (Value × Value)}
    (keys : ∀ e ∈ entries, e.1.IsData) : (conditionsOfEntries d entries).Reports := by
  refine (reports_ofEntries entries).bind fun pairs read => reports_mapM fun pair mem => ?_
  obtain ⟨e, inside, same⟩ := fst_mem_of_ofEntries read pair mem
  exact FieldCondition.reports_make d (same ▸ keys e inside) _ _

theorem reports_conditions (d : Dialect) {filters : Value} (data : filters.IsData) :
    (conditions d filters).Reports :=
  (filters.reports_entriesFor "items").bind fun _ found =>
    reports_conditionsOfEntries d fun e mem => (data.entries found e mem).1

end Filter

/-- A fragment is told as a text. -/
theorem Marker.reports_template (marker : List Chr) (fragment : Text) (values : List Value) :
    (template marker fragment values).Reports := by
  have cut : (split marker fragment.chars).Reports := by
    unfold split
    split
    · exact reports_error (Fault.isReported_argument (by simp [ArgumentFault.details]))
    · exact reports_ok _
  refine cut.bind fun pieces _ => ?_
  split
  · exact reports_ok _
  · refine reports_error ?_
    have told (i : Int) : (Value.int i).IsTold := Value.IsData.isTold (.int i)
    simp [Fault.IsReported, Refusal.problem, Value.isTold_text, told]

theorem Condition.reports_conjunction? (d : Dialect) (marker : List Chr) (cs : List Condition) :
    (conjunction? d marker cs).Reports := by
  have each : ∀ c ∈ cs, (template? d marker c).Reports := by
    intro c _
    cases c with
    | field c => exact reports_ok _
    | raw fragment values => exact (Marker.reports_template marker fragment values).map
  exact ((reports_mapM each).bind fun _ _ => reports_ok _).bind fun _ _ => reports_ok _

end BoundQuery
