import BoundQuery.Proofs.Document.Graph
import BoundQuery.Proofs.Reported.GraphQuery
import BoundQuery.Proofs.Reported.Relational

/-!
# Graph documents that can be reported on

Whatever a graph document of data looks like, what it is turned down for can be reported.

## Main statements

* `Document.Graph.reports_elementMaking`, `Document.Graph.reportsFrom_pattern` — patterns of
  documents.
* `Document.Graph.reports_render` — whole documents.
-/

namespace BoundQuery

open Result

namespace Document.Graph

open GraphQuery

variable {entries : Entries}

/-- The steps on a graph query, wherever it stands. -/
abbrev Steps {α : Type} (m : Building α) : Prop :=
  ReportsFrom (fun _ => True) m

/-! ## Patterns -/

/-- What is no pattern is told as a text. -/
theorem isReported_badPattern (v : Value) : (Fault.argument (.badPattern v)).IsReported :=
  Fault.isReported_argument (List.forall_mem_singleton.2 (Value.isTold_text _))

theorem reports_elementFields (element fields : Value) :
    (elementFields element fields).Reports := by
  unfold elementFields
  split
  · split
    · exact reports_ok _
    · exact reports_error (isReported_badPattern element)
  · exact reports_ok _

theorem isData_of_elementFields {element fields : Value} {given : Entries} (data : fields.IsData)
    (h : elementFields element fields = .ok given) : (Value.map given).IsData := by
  unfold elementFields at h
  split at h
  · split at h
    · cases h
      exact data
    · cases h
  · cases h
    exact .map (by simp) (by simp) (by simp)

theorem reports_elementMaking {element : Value} (data : element.IsData) :
    (elementMaking element).Reports := by
  cases data with
  | @map entries keys _ _ =>
    unfold elementMaking
    dsimp only
    split
    · exact (reports_elementFields _ _).bind fun _ _ => reports_ok _
    · exact (reports_elementFields _ _).bind fun _ _ => reports_ok _
    · have texts : ∀ x ∈ entries.map Prod.fst, ∃ s, x = Value.str s := by
        intro x mem
        obtain ⟨e, inside, rfl⟩ := List.mem_map.1 mem
        exact keys e inside
      have named : ∀ x ∈ entries.map Prod.fst, ∃ t, id x = Value.text t := by
        intro x mem
        obtain ⟨s, same⟩ := texts x mem
        exact ⟨.plain s, same⟩
      rw [Value.sortedBy_eq named]
      refine reports_error (Fault.isReported_argument (List.forall_mem_singleton.2 ?_))
      refine Value.IsData.isTold (.list fun x mem => ?_)
      obtain ⟨s, rfl⟩ := texts x ((List.mem_insertionSort _).1 mem)
      exact .str s
  | _ => exact reports_error (isReported_badPattern _)

theorem takesData_of_elementMaking {element : Value} {making : Making} (data : element.IsData)
    (h : elementMaking element = .ok making) : making.TakesData := by
  cases data with
  | @map entries keys distinct each =>
    have whole : (Value.map entries).IsData := .map keys distinct each
    unfold elementMaking at h
    dsimp only at h
    split at h
    · next node _ found =>
      obtain ⟨fields, given, same⟩ := bind_eq_ok.1 h
      cases same
      have held := isData_of_elementFields (whole.field? found) given
      exact ⟨held.field _, held.field _, held.field _⟩
    · next rel _ found =>
      obtain ⟨fields, given, same⟩ := bind_eq_ok.1 h
      cases same
      have held := isData_of_elementFields (whole.field? found) given
      exact ⟨held.field _, held.field _, held.field _, isData_fieldOr held _ (.str _)⟩
    · obtain ⟨_, _, refused⟩ := bind_eq_ok.1 h
      cases refused
  | _ => cases h

theorem reportsFrom_element {v : Value} (data : v.IsData) : Steps (element v) :=
  reportsFrom_bind_lift (reports_elementMaking data) fun _ made =>
    reportsFrom_makePattern (takesData_of_elementMaking data made)

theorem reportsFrom_pattern {spec : Value} (data : spec.IsData) : Steps (pattern spec) := by
  cases data with
  | str s => exact reportsFrom_pure _
  | @map entries keys distinct each =>
    exact (reportsFrom_element (.map keys distinct each)).bind fun _ => reportsFrom_pure _
  | @list elements each =>
    refine (reportsFrom_mapM fun e mem => reportsFrom_element (each e mem)).bind fun ps => ?_
    have path : Making.TakesData (.path (.list (ps.map Pattern.toValue))) := trivial
    exact (reportsFrom_makePattern path).bind fun _ => reportsFrom_pure _
  | null | bool _ | int _ | float _ =>
    exact reportsFrom_lift (reports_error (isReported_badPattern _))

/-! ## Calls -/

theorem reports_splitReference {reference : Value} (data : reference.IsData) :
    (splitReference reference).Reports := by
  unfold splitReference
  split
  · exact reports_ok _
  · exact reports_error (Fault.isReported_argument (List.forall_mem_singleton.2 data.isTold))

theorem isString_of_splitReference {reference identifier property : Value}
    (h : splitReference reference = .ok (identifier, property)) :
    identifier.IsString ∧ property.IsString := by
  unfold splitReference at h
  split at h
  · cases h
    exact ⟨⟨_, rfl⟩, ⟨_, rfl⟩⟩
  · cases h

theorem reports_unwindCall (v : Value) : (unwindCall v).Reports :=
  (reports_require _ _ _).bind fun _ _ => (reports_require _ _ _).bind fun _ _ => reports_ok _

theorem takesData_of_unwindCall {v : Value} {c : GraphQuery.Call} (data : v.IsData)
    (h : unwindCall v = .ok c) : c.TakesData := by
  obtain ⟨_, _, h⟩ := bind_eq_ok.1 h
  obtain ⟨_, named, same⟩ := bind_eq_ok.1 h
  cases same
  exact isData_of_require data named

theorem reports_filterCall {reference : Value} (data : reference.IsData) (spec : Value) :
    (filterCall reference spec).Reports :=
  (reports_splitReference data).bind fun _ _ => reports_ok _

theorem takesData_of_filterCall {reference spec : Value} {c : GraphQuery.Call}
    (data : spec.IsData) (h : filterCall reference spec = .ok c) : c.TakesData := by
  obtain ⟨⟨identifier, property⟩, apart, same⟩ := bind_eq_ok.1 h
  cases same
  obtain ⟨⟨i, rfl⟩, ⟨p, rfl⟩⟩ := isString_of_splitReference apart
  exact ⟨.str i, isData_singleton p data⟩

theorem reports_assignCall {reference : Value} (data : reference.IsData) (value : Value) :
    (assignCall reference value).Reports := by
  have asked : (namesProperty reference).Reports := by
    unfold namesProperty
    split
    · exact reports_ok _
    · exact reports_ok _
    · exact reports_error trivial
  refine asked.bind fun named _ => ?_
  split
  · exact (reports_splitReference data).bind fun _ _ => reports_ok _
  · exact reports_ok _

theorem takesData_of_assignCall {reference value : Value} {c : GraphQuery.Call}
    (data : reference.IsData) (isData : value.IsData) (h : assignCall reference value = .ok c) :
    c.TakesData := by
  obtain ⟨named, _, h⟩ := bind_eq_ok.1 h
  split at h
  · obtain ⟨⟨identifier, property⟩, apart, same⟩ := bind_eq_ok.1 h
    cases same
    obtain ⟨⟨i, rfl⟩, ⟨p, rfl⟩⟩ := isString_of_splitReference apart
    exact ⟨.str i, .str p⟩
  · cases h
    exact ⟨data, isData⟩

theorem reports_orderCall (entry : Value) : (orderCall entry).Reports :=
  (reports_sortEntry entry).bind fun _ _ => reports_ok _

theorem takesData_of_orderCall {entry : Value} {c : GraphQuery.Call} (data : entry.IsData)
    (h : orderCall entry = .ok c) : c.TakesData := by
  obtain ⟨⟨field, direction⟩, sorted, same⟩ := bind_eq_ok.1 h
  cases same
  exact isData_of_sortEntry data sorted

/-- A call that can be reported on is made, if it is one of data. -/
theorem reportsFrom_made {made : Result GraphQuery.Call} (h : made.Reports)
    (good : ∀ c, made = .ok c → c.TakesData) :
    Steps (liftM made >>= fun c => Building.call c) :=
  reportsFrom_bind_lift h fun c same => reportsFrom_call (good c same)

/-- A call that is made when its section is given, and the calls after it. -/
theorem reportsFrom_callBefore {v : Value} {made : Result GraphQuery.Call} {rest : Building Unit}
    (h : made.Reports) (good : ∀ c, made = .ok c → c.TakesData) (after : Steps rest) :
    Steps
      (if v.isTruthy then liftM made >>= fun c => Building.call c >>= fun _ => rest else rest) := by
  split
  · exact reportsFrom_bind_lift h fun c same => (reportsFrom_call (good c same)).bind fun _ => after
  · exact after

/-! ## Sections -/

section
variable (data : (Value.map entries).IsData) (key : Str)
include data

theorem reportsFrom_callEach {toCall : Value → Building GraphQuery.Call}
    (each : ∀ v, v.IsData → Steps (toCall v >>= fun c => Building.call c)) :
    Steps (callEach entries key toCall) := by
  refine reportsFrom_bind_lift (Value.reports_elementsOrNone _) fun xs listed => ?_
  exact reportsFrom_forM fun v mem => each v ((data.field key).elementsOrNone listed v mem)

theorem reportsFrom_patterns (toCall : Value → GraphQuery.Call)
    (good : ∀ v, (toCall v).TakesData) :
    Steps (callEach entries key fun spec => return toCall (← pattern spec)) := by
  refine reportsFrom_callEach data key fun spec isData => ?_
  rw [bind_assoc]
  exact (reportsFrom_pattern isData).bind fun v => by
    rw [pure_bind]
    exact reportsFrom_call (good v)

theorem reportsFrom_callIfTruthy (toCall : List Value → GraphQuery.Call)
    (good : ∀ xs, (∀ x ∈ xs, x.IsData) → (toCall xs).TakesData) :
    Steps (callIfTruthy entries key toCall) := by
  unfold callIfTruthy
  dsimp only
  split
  · refine reportsFrom_bind_lift (Value.reports_elements _) fun xs listed => ?_
    exact reportsFrom_call (good xs ((data.field key).elements listed))
  · exact reportsFrom_pure _

theorem reportsFrom_callIfGiven (toCall : Value → GraphQuery.Call)
    (good : ∀ v, v.IsData → (toCall v).TakesData) :
    Steps (callIfGiven entries key toCall) := by
  unfold callIfGiven
  dsimp only
  split
  · exact reportsFrom_call (good _ (data.field key))
  · exact reportsFrom_pure _

theorem reportsFrom_callEachEntry {toCall : Value → Value → Result GraphQuery.Call}
    (made : ∀ k v, k.IsData → (toCall k v).Reports)
    (good : ∀ k v c, k.IsData → v.IsData → toCall k v = .ok c → c.TakesData) :
    Steps (callEachEntry entries key toCall) := by
  unfold callEachEntry
  dsimp only
  split
  · refine reportsFrom_bind_lift (Value.reports_entriesFor _ _) fun found same => ?_
    have held := (data.field key).entries same
    refine reportsFrom_forM fun entry mem => ?_
    obtain ⟨named, valued⟩ := held entry mem
    exact reportsFrom_made (made _ _ named) fun c => good _ _ c named valued
  · exact reportsFrom_pure _

theorem reportsFrom_building : Steps (building entries) := by
  refine (reportsFrom_patterns data "match" .matching fun _ => trivial).bind fun _ => ?_
  refine (reportsFrom_patterns data "optional_match" .optionalMatching fun _ => trivial).bind
    fun _ => ?_
  refine reportsFrom_callBefore (reports_unwindCall _)
    (fun _ => takesData_of_unwindCall (data.field "unwind")) ?_
  refine (reportsFrom_callEachEntry data "where" (fun _ v named => reports_filterCall named v)
    fun _ _ _ _ valued => takesData_of_filterCall valued).bind fun _ => ?_
  refine (reportsFrom_callIfTruthy data "with" .withItems fun _ _ => trivial).bind fun _ => ?_
  refine (reportsFrom_patterns data "create" .create fun _ => trivial).bind fun _ => ?_
  refine (reportsFrom_patterns data "merge" .merge fun _ => trivial).bind fun _ => ?_
  refine (reportsFrom_callEachEntry data "set" (fun _ v named => reports_assignCall named v)
    fun _ _ _ => takesData_of_assignCall).bind fun _ => ?_
  refine (reportsFrom_callIfTruthy data "detach_delete" .detachDelete fun _ => id).bind fun _ => ?_
  refine (reportsFrom_callIfTruthy data "delete" .delete fun _ => id).bind fun _ => ?_
  refine (reportsFrom_callIfTruthy data "return" .returnItems fun _ _ => trivial).bind fun _ => ?_
  refine (reportsFrom_callEach data "order_by" fun entry isData =>
    reportsFrom_made (reports_orderCall entry) fun _ => takesData_of_orderCall isData).bind
    fun _ => ?_
  exact (reportsFrom_callIfGiven data "skip" .skip fun _ => id).bind fun _ =>
    reportsFrom_callIfGiven data "limit" .limit fun _ => id

/-- What a graph document of data is turned down for can be reported. -/
theorem reports_render (config : Config) : (render config entries).Reports :=
  ((reportsFrom_building data).reports trivial).bind fun out _ => GraphQuery.reports_build out.2

end

end Document.Graph
end BoundQuery
