import BoundQuery.Document.Graph
import BoundQuery.Proofs.GraphQuery.Data

/-!
# Graph documents of a shape

A document whose sections have the shapes that their uses expect is rendered or refused, whatever
stands in its sections, and the parameters of what is rendered are data.

## Main definitions

* `Document.Graph.IsShapedElement`, `Document.Graph.IsShapedSpec` — the shapes of nodes and
  relationships, and of what patterns are made of.
* `Document.Graph.IsWellShaped` — the shapes of the sections.

## Main statements

* `Document.Graph.answers_render` — such a document is rendered or refused.
-/

namespace BoundQuery

open Result

namespace Document.Graph

open GraphQuery

/-- The fields of a node or relationship, where a mapping gives them. -/
structure IsShapedElement (element : Value) : Prop where
  labels : ∀ entries fields, element = .map entries →
    Value.field? entries "node" = some (.map fields) →
    Pattern.HasLabels (Value.field fields "labels")
  properties : ∀ entries fields, element = .map entries →
    Value.field? entries "node" = some (.map fields) ∨
      Value.field? entries "rel" = some (.map fields) →
    IfGiven Value.IsMapping (Value.field fields "properties")

/-- Any value, in which the nodes and relationships have the shape of such. -/
def IsShapedSpec (spec : Value) : Prop :=
  IsShapedElement spec ∧ ∀ elements, spec = .list elements → ∀ e ∈ elements, IsShapedElement e

/-- Properties by their references, and mappings by the names that are assigned as a whole. -/
def IsAssignment (entry : Value × Value) : Prop :=
  ∀ key, entry.1 = .str key → .scalar '.' ∉ key.toList → entry.2.IsMapping

/-- What the sections of a document look like, each of which may be missing. All other sections may
hold any data. -/
structure IsWellShaped (entries : Entries) : Prop where
  patterns : ∀ key ∈ (["match", "optional_match", "create", "merge"] : List Str),
    IfGiven (Value.IsListOf IsShapedSpec) (Value.field entries key)
  unwind : ∀ fields items, Value.field entries "unwind" = .map fields →
    Value.field? fields "items" = some items → items.IsString ∨ items.IsList
  filters : IfGiven Value.IsMapping (Value.field entries "where")
  assignments : IfGiven (Value.IsMappingOf IsAssignment) (Value.field entries "set")
  texts : ∀ key ∈ (["with", "return"] : List Str),
    IfGiven (Value.IsListOf Value.IsString) (Value.field entries key)
  deletions : ∀ key ∈ (["delete", "detach_delete"] : List Str),
    IfGiven (fun v => v.IsString ∨ v.IsList ∨ v.IsMapping) (Value.field entries key)
  sorts : IfGiven Value.IsList (Value.field entries "order_by")

variable {entries : Entries}

/-! ## Patterns -/

theorem answers_elementFields (element : Value) {fields : Value} :
    (elementFields element fields).Answers fun given =>
      given = [] ∨ fields = .map given := by
  unfold elementFields
  split
  · split
    · exact .ok (.inr rfl)
    · exact .refused rfl
  · exact .ok (.inl rfl)

/-- A node or relationship of a document, made of data, can be made. -/
theorem answers_elementMaking {element : Value} (data : element.IsData)
    (shaped : IsShapedElement element) :
    (elementMaking element).Answers fun making => making.run.Answers Pattern.HoldsData := by
  cases data with
  | @map entries keys distinct each =>
    have whole : (Value.map entries).IsData := .map keys distinct each
    unfold elementMaking
    dsimp only
    split
    · next node rel found =>
      refine (answers_elementFields _).bind fun fields given => .ok ?_
      rcases given with rfl | rfl
      · exact Pattern.answers_node _ (.inl rfl) .null (.inl rfl)
      · exact Pattern.answers_node _ (shaped.labels entries fields rfl found)
          ((whole.field? found).field _) (shaped.properties entries fields rfl (.inl found))
    · next rel _ found =>
      refine (answers_elementFields _).bind fun fields given => .ok ?_
      rcases given with rfl | rfl
      · exact Pattern.answers_relationship _ _ _ .null (.inl rfl)
      · exact Pattern.answers_relationship _ _ _ ((whole.field? found).field _)
          (shaped.properties entries fields rfl (.inr found))
    · have named : ∀ x ∈ entries.map Prod.fst, ∃ t, id x = Value.text t := by
        intro x mem
        obtain ⟨e, inside, rfl⟩ := List.mem_map.1 mem
        obtain ⟨s, key⟩ := keys e inside
        exact ⟨.plain s, key⟩
      rw [Value.sortedBy_eq named]
      exact .refused rfl
  | _ => exact .refused rfl

theorem keeps_element {v : Value} (data : v.IsData) (shaped : IsShapedElement v) :
    Keeps HoldsData (element v) Pattern.HoldsData :=
  (keeps_lift (answers_elementMaking data shaped)).bind fun _ made => keeps_makePattern made

theorem keeps_pattern {spec : Value} (data : spec.IsData) (shaped : IsShapedSpec spec) :
    Keeps HoldsData (pattern spec) Pattern.IsPlaceable := by
  have placeable : ∀ p : Pattern, p.HoldsData → Pattern.IsPlaceable p.toValue :=
    fun p holds => .inr ⟨p, rfl, holds⟩
  cases data with
  | str s => exact keeps_pure (.inl ⟨s, rfl⟩)
  | @map entries keys distinct each =>
    refine (keeps_element (.map keys distinct each) shaped.1).bind fun p holds => ?_
    exact keeps_pure (placeable p holds)
  | @list elements each =>
    refine (keeps_mapM fun e mem => keeps_element (each e mem) (shaped.2 elements rfl e mem)).bind
      fun ps holds => ?_
    have path : (Making.path (.list (ps.map Pattern.toValue))).run.Answers Pattern.HoldsData :=
      Minting.answers_lift (Pattern.answers_path holds)
    exact (keeps_makePattern path).bind fun p good => keeps_pure (placeable p good)
  | null | bool _ | int _ | float _ => exact keeps_lift (.refused rfl)

/-! ## Calls -/

theorem answers_splitReference (reference : Value) :
    (splitReference reference).Answers fun parts => parts.2.IsString := by
  unfold splitReference
  split
  · exact .ok ⟨_, rfl⟩
  · exact .refused rfl

theorem isData_singleton (key : Str) {v : Value} (data : v.IsData) :
    (Value.map [(.str key, v)]).IsData :=
  .map (by simp) (by simp) (by simpa using data)

theorem answers_filterCall (reference : Value) {spec : Value} (data : spec.IsData) :
    (filterCall reference spec).Answers Call.HoldsData := by
  refine (answers_splitReference reference).bind ?_
  rintro ⟨identifier, _⟩ ⟨property, rfl⟩
  exact .ok ⟨isData_singleton property data, _, rfl⟩

theorem answers_assignCall {key : Str} {value : Value} (data : value.IsData)
    (shape : .scalar '.' ∉ key.toList → value.IsMapping) :
    (assignCall (.str key) value).Answers Call.HoldsData := by
  unfold assignCall
  change Answers _ (if key.toList.contains '.' = true then _ else _)
  split
  · exact (answers_splitReference _).bind fun _ _ => .ok data
  · next undotted => exact .ok ⟨data, shape (by simpa using undotted)⟩

theorem answers_assignEntry {entry : Value × Value}
    (h : entry.1.IsString ∧ entry.2.IsData ∧ IsAssignment entry) :
    (assignCall entry.1 entry.2).Answers Call.HoldsData := by
  obtain ⟨⟨key, same⟩, data, mapping⟩ := h
  rw [same]
  exact answers_assignCall data (mapping key same)

theorem answers_orderCall {entry : Value} (data : entry.IsData) :
    (orderCall entry).Answers Call.HoldsData :=
  (answers_sortEntry data).bind fun _ _ => .ok trivial

theorem answers_unwindCall {v : Value} (data : v.IsData)
    (shape : ∀ fields items, v = .map fields → Value.field? fields "items" = some items →
      items.IsString ∨ items.IsList) : (unwindCall v).Answers Call.HoldsData := by
  cases v with
  | map fields =>
    refine (answers_require_map fields "items" _).bind fun items found => ?_
    refine (answers_require data "as" _).bind fun _ _ => ?_
    exact .ok ⟨data.field? found, shape fields items rfl found⟩
  | _ => exact .refused rfl

/-! ## Sections -/

theorem keeps_callEach {key : Str} {toCall : Value → Building GraphQuery.Call}
    {P : Value → Prop} (shape : IfGiven (Value.IsListOf P) (Value.field entries key))
    (each : ∀ v, P v → Keeps HoldsData (toCall v) Call.HoldsData) :
    Keeps HoldsData (callEach entries key toCall) fun _ => True := by
  refine (keeps_lift (answers_elementsOrNone shape)).bind fun xs holds => keeps_forM fun v mem => ?_
  exact (each v (holds v mem)).bind fun c good => keeps_call good

theorem keeps_patterns {key : Str} {toCall : Value → GraphQuery.Call}
    (data : (Value.map entries).IsData)
    (shape : IfGiven (Value.IsListOf IsShapedSpec) (Value.field entries key))
    (good : ∀ v, Pattern.IsPlaceable v → (toCall v).HoldsData) :
    Keeps HoldsData (callEach entries key fun spec => return toCall (← pattern spec))
      fun _ => True := by
  refine keeps_callEach (ifGiven_of_isListOf (data.field key) shape) fun spec holds => ?_
  exact (keeps_pattern holds.1 holds.2).bind fun v placed => keeps_pure (good v placed)

theorem keeps_callIfTruthy {key : Str} (toCall : List Value → GraphQuery.Call)
    {P : List Value → Prop}
    (elements : (Value.field entries key).isTruthy = true →
      (Value.field entries key).elements.Answers P)
    (good : ∀ xs, P xs → (toCall xs).HoldsData) :
    Keeps HoldsData (callIfTruthy entries key toCall) fun _ => True := by
  unfold callIfTruthy
  dsimp only
  split
  · next given =>
    exact (keeps_lift (elements given)).bind fun xs holds => keeps_call (good xs holds)
  · exact keeps_pure trivial

theorem keeps_callIfGiven {key : Str} (toCall : Value → GraphQuery.Call)
    (good : ∀ v, (toCall v).HoldsData) :
    Keeps HoldsData (callIfGiven entries key toCall) fun _ => True := by
  unfold callIfGiven
  dsimp only
  split
  · exact keeps_call (good _)
  · exact keeps_pure trivial

theorem keeps_callEachEntry {key : Str} {toCall : Value → Value → Result GraphQuery.Call}
    {P : Value × Value → Prop} (shape : IfGiven (Value.IsMappingOf P) (Value.field entries key))
    (each : ∀ entry, P entry → (toCall entry.1 entry.2).Answers Call.HoldsData) :
    Keeps HoldsData (callEachEntry entries key toCall) fun _ => True := by
  unfold callEachEntry
  dsimp only
  split
  · next given =>
    obtain ⟨mapping, same, holds⟩ := shape.shape given
    rw [same]
    refine (keeps_lift (P := fun found => found = mapping) (.ok rfl)).bind ?_
    rintro _ rfl
    refine keeps_forM fun entry mem => ?_
    exact (keeps_lift (each entry (holds entry mem))).bind fun c good => keeps_call good
  · exact keeps_pure trivial

/-- A call that is made when its section is given, and the calls after it. -/
theorem keeps_callBefore {v : Value} {made : Result GraphQuery.Call} {rest : Building Unit}
    (good : made.Answers Call.HoldsData) (after : Keeps HoldsData rest fun _ => True) :
    Keeps HoldsData
      (if v.isTruthy then liftM made >>= fun c => Building.call c >>= fun _ => rest else rest)
      fun _ => True := by
  split
  · exact (keeps_lift good).bind fun c holds => (keeps_call holds).bind fun _ _ => after
  · exact after

section
variable (data : (Value.map entries).IsData) (shaped : IsWellShaped entries) {key : Str}
include shaped

theorem IsWellShaped.answers_texts (listed : key ∈ (["with", "return"] : List Str))
    (given : (Value.field entries key).isTruthy = true) :
    (Value.field entries key).elements.Answers fun xs => ∀ x ∈ xs, x.IsString := by
  obtain ⟨xs, same, strings⟩ := (shaped.texts key listed).shape given
  rw [same]
  exact .ok strings

include data

theorem IsWellShaped.answers_targets (listed : key ∈ (["delete", "detach_delete"] : List Str))
    (given : (Value.field entries key).isTruthy = true) :
    (Value.field entries key).elements.Answers fun _ => True :=
  ((data.field key).answers_elements ((shaped.deletions key listed).shape given)).imp
    fun _ _ => trivial

theorem keeps_building : Keeps HoldsData (building entries) fun _ => True := by
  refine (keeps_patterns data (shaped.patterns "match" (by simp)) fun _ => id).bind fun _ _ => ?_
  refine (keeps_patterns data (shaped.patterns "optional_match" (by simp)) fun _ => id).bind
    fun _ _ => ?_
  refine keeps_callBefore (answers_unwindCall (data.field "unwind") shaped.unwind) ?_
  refine (keeps_callEachEntry (ifGiven_of_isMapping (data.field "where") shaped.filters)
    fun entry => answers_filterCall entry.1).bind fun _ _ => ?_
  refine (keeps_callIfTruthy .withItems (shaped.answers_texts (by simp)) fun _ => id).bind
    fun _ _ => ?_
  refine (keeps_patterns data (shaped.patterns "create" (by simp)) fun _ => id).bind fun _ _ => ?_
  refine (keeps_patterns data (shaped.patterns "merge" (by simp)) fun _ => id).bind fun _ _ => ?_
  refine (keeps_callEachEntry (ifGiven_of_isMappingOf (data.field "set") shaped.assignments)
    fun _ => answers_assignEntry).bind fun _ _ => ?_
  refine (keeps_callIfTruthy .detachDelete (shaped.answers_targets data (by simp)) fun _ => id).bind
    fun _ _ => ?_
  refine (keeps_callIfTruthy .delete (shaped.answers_targets data (by simp)) fun _ => id).bind
    fun _ _ => ?_
  refine (keeps_callIfTruthy .returnItems (shaped.answers_texts (by simp)) fun _ => id).bind
    fun _ _ => ?_
  refine (keeps_callEach (ifGiven_of_isList (data.field "order_by") shaped.sorts)
    fun entry isData => keeps_lift (answers_orderCall isData)).bind fun _ _ => ?_
  exact (keeps_callIfGiven .skip fun _ => trivial).bind fun _ _ =>
    keeps_callIfGiven .limit fun _ => trivial

end

/-- A document of the shape is rendered or refused. -/
theorem answers_render (data : (Value.map entries).IsData) (shaped : IsWellShaped entries) :
    (render .standard entries).Answers fun query => (Value.record query.params).IsData :=
  (keeps_building data shaped _ holdsData_new).bind fun _ kept => kept.2.answers_build

end Document.Graph
end BoundQuery
