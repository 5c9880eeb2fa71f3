import BoundQuery.GraphQuery.Build
import BoundQuery.Proofs.GraphQuery.Data
import BoundQuery.Proofs.Reported.Condition

/-!
# Graph queries that can be reported on

What a call on a graph query, or a pattern, is turned down for can be reported when the names that
it is given are data. Of patterns and of values that are only bound nothing is told.

## Main definitions

* `GraphQuery.Making.TakesData`, `GraphQuery.Call.TakesData` — patterns and calls of such names.

## Main statements

* `GraphQuery.reportsFrom_call`, `GraphQuery.reportsFrom_makePattern` — calls and patterns in a run.
* `GraphQuery.reports_build` — what is built.
-/

namespace BoundQuery

open Result

/-! ## Patterns -/

namespace Pattern

/-- Nothing is told of what is no pattern. -/
theorem reports_ofValue (v : Value) : (ofValue v).Reports := by
  have refused : (Fault.argument (.notPattern v)).IsReported :=
    Fault.isReported_argument (by simp [ArgumentFault.details])
  unfold ofValue
  split
  · split
    · exact reports_error refused
    · exact reports_ok _
  · split
    · exact reports_error refused
    · exact reports_ok _
  · exact reports_error refused

theorem reports_identifier? (context : Str) {v : Value} (data : v.IsData) :
    (identifier? context v).Reports := by
  unfold identifier?
  split
  · exact (Name.reports_gate _ _ data).map
  · exact reports_ok _

theorem reports_plain (context : Str) {xs : List Value} (data : ∀ x ∈ xs, x.IsData) :
    (xs.mapM fun x => Name.plain context x).Reports :=
  reports_mapM fun x mem => Name.reports_gate _ context (data x mem)

theorem reports_bound (stem before : Str) (v : Value) (after : Str) :
    (bound stem before v after).Reports :=
  (Minting.reports_name stem).bind fun _ => Minting.reports_pure _

theorem reports_properties (stem : Str) {v : Value} (data : v.IsData) :
    (properties stem v).Reports := by
  unfold properties
  split
  · simp only [Minting.mapM_lift]
    refine Minting.reports_bind_lift v.reports_elements fun xs listed => ?_
    refine Minting.reports_bind_lift (reports_plain _ (data.elements listed)) fun keys _ => ?_
    refine Minting.reports_bind_lift v.reports_toMapping fun mapping _ => ?_
    exact (Minting.reports_name stem).bind fun _ => Minting.reports_pure _
  · exact Minting.reports_pure _

theorem reports_labels (v : Value) : (labels v).Reports := by
  unfold labels
  split
  · exact reports_ok _
  · exact v.reports_asList

theorem isData_of_labels {v : Value} {xs : List Value} (data : v.IsData)
    (h : labels v = .ok xs) : ∀ x ∈ xs, x.IsData := by
  unfold labels at h
  split at h
  · cases h
    simp
  · exact data.asList h

theorem reports_node {identifier labels properties : Value} (named : identifier.IsData)
    (labelled : labels.IsData) (data : properties.IsData) :
    (node identifier labels properties).Reports := by
  unfold node
  refine Minting.reports_bind_lift (reports_identifier? _ named) fun name _ => ?_
  refine Minting.reports_bind_lift (reports_labels labels) fun xs listed => ?_
  rw [Minting.mapM_lift]
  refine Minting.reports_bind_lift (reports_plain _ (isData_of_labels labelled listed))
    fun texts _ => ?_
  exact (reports_properties _ data).bind fun _ => Minting.reports_pure _

theorem reports_relationship {identifier type properties direction : Value}
    (named : identifier.IsData) (kind : type.IsData) (data : properties.IsData)
    (directed : direction.IsData) :
    (relationship identifier type properties direction).Reports := by
  unfold relationship
  refine Minting.reports_bind_lift (reports_checkRelDirection directed) fun arrow _ => ?_
  refine Minting.reports_bind_lift (reports_identifier? _ named) fun name _ => ?_
  refine Minting.reports_bind_lift (reports_identifier? _ kind) fun text _ => ?_
  exact (reports_properties _ data).bind fun _ => Minting.reports_pure _

theorem reports_path (patterns : Value) : (path patterns).Reports := by
  refine patterns.reports_elements.bind fun xs _ => ?_
  refine (reports_mapM fun x _ => ?_).bind fun _ _ => reports_ok _
  unfold ofPathElement
  split
  · exact reports_ok _
  · exact reports_error trivial

end Pattern

namespace GraphQuery

/-- A pattern whose names and properties are data. -/
def Making.TakesData : Making → Prop
  | node identifier labels properties => identifier.IsData ∧ labels.IsData ∧ properties.IsData
  | relationship identifier type properties direction =>
    identifier.IsData ∧ type.IsData ∧ properties.IsData ∧ direction.IsData
  | path _ => True

theorem Making.reports_run {making : Making} (data : making.TakesData) : making.run.Reports := by
  cases making with
  | node identifier labels properties => exact Pattern.reports_node data.1 data.2.1 data.2.2
  | relationship identifier type properties direction =>
    exact Pattern.reports_relationship data.1 data.2.1 data.2.2.1 data.2.2.2
  | path patterns => exact Minting.reports_lift (Pattern.reports_path patterns)

/-! ## Calls -/

/-- A call of names that are data. -/
def Call.TakesData : Call → Prop
  | unwind _ identifier => identifier.IsData
  | compare identifier property _ _ | shorthand _ identifier property _
  | null identifier property | notNull identifier property | setProperty identifier property _ =>
    identifier.IsData ∧ property.IsData
  | filters identifier mapping | setProperties identifier mapping =>
    identifier.IsData ∧ mapping.IsData
  | delete targets | detachDelete targets => ∀ v ∈ targets, v.IsData
  | orderBy item direction => item.IsData ∧ direction.IsData
  | skip count | limit count => count.IsData
  | matching _ | optionalMatching _ | create _ | merge _ | condition _ _ | assign _ _
  | withItems _ | returnItems _ => True

theorem reports_placed (clause : PatternClause) {make : Minting Pattern} (h : make.Reports) :
    (placed clause make).Reports :=
  h.bind fun _ => Minting.reports_pure _

theorem reports_conditionEdits (cs : List FieldCondition) : (conditionEdits cs).Reports := by
  induction cs with
  | nil => exact Minting.reports_pure _
  | cons c rest ih =>
    unfold conditionEdits
    split
    · exact ih
    · exact (Minting.reports_fill _).bind fun _ => ih.bind fun _ => Minting.reports_pure _

theorem reports_rawPattern (marker : List Chr) (fragment values : Value) :
    (rawPattern marker fragment values).Reports := by
  have blank : Reports (.error (.condition .blankFragment) : Result Pattern) :=
    reports_error (Fault.isReported_condition nofun)
  unfold rawPattern
  split
  · split
    · exact Minting.reports_lift blank
    · refine Minting.reports_bind_lift values.reports_elementsOrNone fun xs _ => ?_
      exact Minting.reports_bind_lift (Marker.reports_template marker _ xs) fun t _ =>
        Minting.reports_fill t
  · exact Minting.reports_lift blank

theorem reports_propertyRef {identifier property : Value} (named : identifier.IsData)
    (owned : property.IsData) : (propertyRef identifier property).Reports :=
  (Name.reports_gate _ _ named).bind fun _ _ =>
    (Name.reports_gate _ _ owned).bind fun _ _ => reports_ok _

/-- A field that is made of names is text. -/
theorem reports_comparison {identifier property : Value} (named : identifier.IsData)
    (owned : property.IsData) (operator operand : Value) :
    (comparison identifier property operator operand).Reports := by
  refine Minting.reports_bind_lift (reports_propertyRef named owned) fun field _ => ?_
  refine Minting.reports_bind_lift (FieldCondition.reports_make _ (.str field) _ _) fun c _ => ?_
  exact reports_conditionEdits [c]

theorem reports_qualifiedEntry (identifier : Text) {entry : Value × Value}
    (data : entry.1.IsData) : (qualifiedEntry identifier entry).Reports :=
  (Name.reports_gate _ _ data).bind fun _ _ => reports_ok _

theorem isData_of_qualifiedEntry {identifier : Text} {entry field : Value × Value}
    (h : qualifiedEntry identifier entry = .ok field) : field.1.IsData := by
  obtain ⟨property, _, same⟩ := bind_eq_ok.1 h
  cases same
  exact .str _

theorem reports_unwound (items : Value) {identifier : Value} (named : identifier.IsData) :
    (unwound items identifier).Reports := by
  unfold unwound
  refine Minting.reports_bind_lift (Name.reports_gate _ _ named) fun name _ => ?_
  split
  · exact Minting.reports_pure _
  · exact Minting.reports_bind_lift (Value.reports_elements _) fun _ _ =>
      Pattern.reports_bound _ _ _ _

theorem reports_assignedProperties {identifier properties : Value} (named : identifier.IsData)
    (data : properties.IsData) : (assignedProperties identifier properties).Reports := by
  unfold assignedProperties
  simp only [Minting.mapM_lift]
  refine Minting.reports_bind_lift properties.reports_elements fun xs listed => ?_
  refine Minting.reports_bind_lift (Pattern.reports_plain _ (data.elements listed)) fun _ _ => ?_
  refine Minting.reports_bind_lift (Name.reports_gate _ _ named) fun name _ => ?_
  exact Minting.reports_bind_lift properties.reports_toMapping fun _ _ =>
    Pattern.reports_bound _ _ _ _

theorem reports_counted (what keyword : Str) {count : Value} (data : count.IsData) :
    (counted what keyword count).Reports :=
  Minting.reports_bind_lift (reports_checkCount data what) fun _ _ =>
    Pattern.reports_bound _ _ _ _

theorem reports_orderText {item direction : Value} (named : item.IsData)
    (directed : direction.IsData) : (orderText item direction).Reports :=
  (reports_checkDirection directed).bind fun _ _ =>
    (Name.reports_gate _ _ named).bind fun _ _ => reports_ok _

namespace Call

theorem reports_edits (marker : List Chr) {c : Call} (data : c.TakesData) :
    (c.edits marker).Reports := by
  cases c with
  | matching v | optionalMatching v | create v | merge v =>
    exact reports_placed _ (Minting.reports_lift (Pattern.reports_ofValue v))
  | unwind items identifier => exact reports_placed _ (reports_unwound items data)
  | condition fragment values | assign fragment values =>
    exact reports_placed _ (reports_rawPattern marker fragment values)
  | compare identifier property operator operand =>
    exact reports_comparison data.1 data.2 operator operand
  | shorthand s identifier property operand =>
    simp only [edits]
    split
    · refine Minting.reports_bind_lift operand.reports_elements.map fun listed _ => ?_
      exact reports_comparison data.1 data.2 _ listed
    · exact reports_comparison data.1 data.2 _ operand
  | null identifier property | notNull identifier property =>
    exact reports_comparison data.1 data.2 _ _
  | filters identifier mapping =>
    unfold edits
    simp only [Minting.mapM_lift]
    refine Minting.reports_bind_lift (Name.reports_gate _ _ data.1) fun name _ => ?_
    refine Minting.reports_bind_lift (mapping.reports_entriesFor _) fun entries found => ?_
    have keys := data.2.entries found
    refine Minting.reports_bind_lift
      (reports_mapM fun e mem => reports_qualifiedEntry name (keys e mem).1) fun fields made => ?_
    have qualified : ∀ f ∈ fields, f.1.IsData := by
      intro f mem
      obtain ⟨e, _, same⟩ := exists_of_mem_mapM made mem
      exact isData_of_qualifiedEntry same
    refine Minting.reports_bind_lift (Filter.reports_conditionsOfEntries _ qualified) fun cs _ => ?_
    exact reports_conditionEdits cs
  | setProperty identifier property v =>
    refine reports_placed _ (Minting.reports_bind_lift (reports_propertyRef data.1 data.2) ?_)
    exact fun _ _ => Pattern.reports_bound _ _ _ _
  | setProperties identifier properties =>
    exact reports_placed _ (reports_assignedProperties data.1 data.2)
  | withItems items | returnItems items => exact Minting.reports_pure _
  | delete targets | detachDelete targets => exact Minting.reports_pure _
  | orderBy item direction =>
    exact Minting.reports_bind_lift (reports_orderText data.1 data.2) fun _ _ =>
      Minting.reports_pure _
  | skip count | limit count =>
    exact (reports_counted _ _ data).bind fun _ => Minting.reports_pure _

theorem reports_effect (marker : List Chr) (n : Nat) {c : Call} (data : c.TakesData) :
    (c.effect marker n).1.Reports := by
  cases c with
  | delete targets | detachDelete targets =>
    exact Effect.reports_upToFault fun v mem => (Name.reports_gate _ _ (data v mem)).map
  | _ => exact Effect.reports_ofResult (reports_edits marker data n)

end Call

/-! ## Runs -/

/-- A call of data is made, or what turns it down can be reported. -/
theorem reportsFrom_call {c : Call} (data : c.TakesData) :
    ReportsFrom (fun _ => True) (Building.call c) where
  reports {q} _ := by
    have effect := Call.reports_effect q.config.marker q.counter data
    rw [run_call]
    have cause : (q.step c).2 = (c.effect q.config.marker q.counter).1.fault := rfl
    rw [Effect.Reports, ← cause] at effect
    generalize q.step c = stepped at effect ⊢
    obtain ⟨q', _ | fault⟩ := stepped
    · exact reports_ok _
    · exact reports_error (effect fault (Option.mem_some_self fault))
  kept _ _ := trivial

theorem reportsFrom_makePattern {making : Making} (data : making.TakesData) :
    ReportsFrom (fun _ => True) (Building.makePattern making) where
  reports {q} _ := by
    rw [run_makePattern]
    exact Reports.map (Making.reports_run data q.counter)
  kept _ _ := trivial

theorem reports_build (q : GraphQuery) : q.build.Reports := by
  have listed : q.clauses.Reports :=
    (reports_spellings _ _).bind fun _ _ => (reports_spellings _ _).bind fun _ _ => reports_ok _
  have separated : (separator q.config).Reports := by
    unfold separator
    split
    · exact reports_ok _
    · exact reports_error trivial
  exact listed.bind fun _ _ => separated.bind fun _ _ => reports_ok _

end GraphQuery
end BoundQuery
