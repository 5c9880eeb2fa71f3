import BoundQuery.Document.Emit
import BoundQuery.Proofs.Document.Reordered
import BoundQuery.Proofs.Document.Section

/-!
# The order of keys does not matter

Whatever is emitted for a document is emitted for it with its keys in another order: the same text,
the same parameters under the same names and in the same order, and so the same fingerprint. For the
sections are read in a fixed order and, but for those that list columns, conditions or properties,
none of them is read in the order in which a mapping is written.

## Main statements

* `Document.Relational.agree_render`, `Document.Graph.agree_render` — the renderings of a document
  and of one with its keys in another order.
* `Document.emit_of_reordered` — what is emitted for them.
-/

namespace BoundQuery.Document

open Result

variable {entries entries' : Entries} {v w : Value}

/-! ## Relational documents -/

namespace Relational

theorem joinCall_eq (h : entryOrder v w) : joinCall v = joinCall w := by
  simp only [joinCall, require_eq h, fieldOr, field?_entriesOf_eq h]

theorem havingKey_eq (h : entryOrder v w) : havingKey v = havingKey w := by
  unfold havingKey hasKey
  dsimp only
  rw [field?_entriesOf_eq h]

theorem havingCall_eq (h : entryOrder v w) : havingCall v = havingCall w := by
  simp only [havingCall, havingKey_eq h, require_eq h, fieldOr, Value.field, field?_entriesOf_eq h]

theorem orderCall_eq (h : entryOrder v w) : orderCall v = orderCall w := by
  simp only [orderCall, sortEntry_eq h]

section
variable (h : Rearranged sectionOrder entries entries')
include h

theorem sameRuns_callEach {key : Str} (listed : sectionOrder key = Elementwise entryOrder)
    {toCall : Value → Result Select.Call} (each : ∀ v w, entryOrder v w → toCall v = toCall w) :
    SameRuns (callEach entries key toCall) (callEach entries' key toCall) := by
  have related := h.field key (sectionOrder_refl key)
  rw [listed] at related
  refine sameRuns_lift_bind (related.elementsOrNone .same) fun xs ys both => ?_
  refine sameRuns_forM both fun x y same => ?_
  rw [each x y same]
  exact sameRuns_self _

theorem sameRuns_selecting : SameRuns (selecting entries) (selecting entries') := by
  unfold selecting fieldOr hasKey
  rw [callIfTruthy_congr (h.field_eq "where" rfl), callIfTruthy_congr (h.field_eq "group_by" rfl),
    callIfGiven_congr (h.field_eq "limit" rfl), callIfGiven_congr (h.field_eq "offset" rfl),
    h.field?_eq "page" rfl, h.field?_eq "page_size" rfl,
    h.field_eq "page_size" rfl]
  refine (sameRuns_callEach h rfl fun _ _ => joinCall_eq).bind fun _ => ?_
  refine (sameRuns_self _).bind fun _ => (sameRuns_self _).bind fun _ => ?_
  refine (sameRuns_callEach h rfl fun _ _ => havingCall_eq).bind fun _ => ?_
  refine (sameRuns_callEach h rfl fun _ _ => orderCall_eq).bind fun _ => ?_
  exact sameRuns_self _

theorem agree_select (config : Config) (table : Value) :
    Agree Eq (select config entries table) (select config entries' table) := by
  unfold select
  rw [h.field_eq "fields" rfl, h.field_eq "count" rfl]
  refine agree_bind_same fun start => (sameRuns_selecting h start).bind ?_
  rintro out _ rfl
  exact agree_eq _

theorem require_map_eq (key : Str) (plain : sectionOrder key = Eq) (place : Str) :
    require (.map entries) key place = require (.map entries') key place := by
  simp only [require, h.field?_eq key plain]

theorem insert_eq (table : Value) (place : Str) :
    insert entries table place = insert entries' table place := by
  unfold insert
  rw [require_map_eq h "rows" rfl, h.field_eq "returning" rfl]

theorem modify_eq : modify entries = modify entries' := by
  unfold modify
  rw [h.field_eq "where" rfl, h.field_eq "returning" rfl]

theorem update_eq (config : Config) (table : Value) (place : Str) :
    update config entries table place = update config entries' table place := by
  unfold update
  rw [require_map_eq h "set" rfl, modify_eq h]

theorem delete_eq (config : Config) (table : Value) :
    delete config entries table = delete config entries' table := by
  unfold delete
  rw [modify_eq h]

theorem agree_render (config : Config) :
    Agree Eq (render config entries) (render config entries') := by
  have statement : statementOf entries = statementOf entries' := by
    unfold statementOf fieldOr
    rw [h.field?_eq "statement" rfl]
  unfold render
  rw [statement]
  dsimp only
  rw [require_map_eq h "table" rfl]
  refine agree_bind_same fun table => ?_
  rw [insert_eq h, update_eq h, delete_eq h]
  split
  · refine (agree_select h config table).bind ?_
    rintro query _ rfl
    exact agree_eq _
  all_goals exact agree_eq _

end
end Relational

/-! ## Graph documents -/

namespace Graph

open GraphQuery Building

theorem agree_elementFields {fields fields' : Value} (element element' : Value)
    (h : entryOrder fields fields') :
    Agree (fun given given' => Value.field? given = Value.field? given')
      (elementFields element fields) (elementFields element' fields') := by
  unfold elementFields
  rw [h.isTruthy_eq]
  split
  · cases h with
    | same =>
      split
      · exact .ok rfl
      · exact .error _ _
    | map rearranged => exact .ok (funext fun key => rearranged.field?_eq key rfl)
  · exact .ok rfl

theorem nodeMaking_eq {fields fields' : Entries} (h : Value.field? fields = Value.field? fields') :
    nodeMaking fields = nodeMaking fields' := by
  simp only [nodeMaking, Value.field, h]

theorem relationshipMaking_eq {fields fields' : Entries}
    (h : Value.field? fields = Value.field? fields') :
    relationshipMaking fields = relationshipMaking fields' := by
  simp only [relationshipMaking, Value.field, fieldOr, h]

theorem agree_elementMaking (h : elementOrder v w) :
    Agree Eq (elementMaking v) (elementMaking w) := by
  cases h with
  | same => exact agree_eq _
  | @map entries entries' rearranged =>
    have node : Option.Rel entryOrder _ _ := rearranged.field? "node"
    have rel : Option.Rel entryOrder _ _ := rearranged.field? "rel"
    unfold elementMaking
    dsimp only
    generalize Value.field? entries "node" = node?, Value.field? entries' "node" = node?'
      at node ⊢
    generalize Value.field? entries "rel" = rel?, Value.field? entries' "rel" = rel?' at rel ⊢
    cases node with
    | some related =>
      exact (agree_elementFields _ _ related).bind fun _ _ same => .ok (nodeMaking_eq same)
    | none =>
      cases rel with
      | some related =>
        exact (agree_elementFields _ _ related).bind fun _ _ same =>
          .ok (relationshipMaking_eq same)
      | none =>
        have refused (entries : Entries) : IsRefused (do
            throw (.argument (.badElement (← Value.sortedBy id (entries.map Prod.fst)))) :
              Result Making) := by
          cases Value.sortedBy id (entries.map Prod.fst) <;> exact isRefused_error _
        exact agree_of_isRefused (refused _) (refused _)

theorem sameRuns_element (h : elementOrder v w) : SameRuns (element v) (element w) := by
  refine sameRuns_lift_bind (agree_elementMaking h) ?_
  rintro making _ rfl
  exact sameRuns_self _

theorem sameRuns_pattern (h : PatternOrder v w) : SameRuns (pattern v) (pattern w) := by
  cases h with
  | element h =>
    cases h with
    | same => exact sameRuns_self _
    | map rearranged => exact (sameRuns_element (.map rearranged)).bind fun p => sameRuns_self _
  | path each =>
    exact (sameRuns_mapM each fun _ _ => sameRuns_element).bind fun made => sameRuns_self _

theorem unwindCall_eq (h : entryOrder v w) : unwindCall v = unwindCall w := by
  simp only [unwindCall, require_eq h]

theorem orderCall_eq (h : entryOrder v w) : orderCall v = orderCall w := by
  simp only [orderCall, sortEntry_eq h]

/-- A call that is made when its section is given, and the calls after it. -/
theorem sameRuns_callBefore {made : Result Call} {rest rest' : Building Unit}
    (after : SameRuns rest rest') :
    SameRuns
      (if v.isTruthy then liftM made >>= fun c => call c >>= fun _ => rest else rest)
      (if v.isTruthy then liftM made >>= fun c => call c >>= fun _ => rest' else rest') := by
  split
  · exact (sameRuns_self _).bind fun _ => (sameRuns_self _).bind fun _ => after
  · exact after

section
variable (h : Rearranged sectionOrder entries entries')
include h

theorem sameRuns_callEach {key : Str} {S : Value → Value → Prop}
    (listed : sectionOrder key = Elementwise S) (refl : ∀ v, S v v) {toCall : Value → Building Call}
    (each : ∀ v w, S v w → SameRuns (toCall v) (toCall w)) :
    SameRuns (callEach entries key toCall) (callEach entries' key toCall) := by
  have related := h.field key (sectionOrder_refl key)
  rw [listed] at related
  refine sameRuns_lift_bind (related.elementsOrNone refl) fun xs ys both => ?_
  exact sameRuns_forM both fun x y same => (each x y same).bind fun _ => sameRuns_self _

theorem sameRuns_patterns {key : Str} (listed : sectionOrder key = Elementwise PatternOrder)
    (toCall : Value → Call) :
    SameRuns (callEach entries key fun spec => return toCall (← pattern spec))
      (callEach entries' key fun spec => return toCall (← pattern spec)) :=
  sameRuns_callEach h listed (fun v => .element (.same v)) fun _ _ same =>
    (sameRuns_pattern same).bind fun _ => sameRuns_self _

theorem sameRuns_building : SameRuns (building entries) (building entries') := by
  have unwind : entryOrder (Value.field entries "unwind") (Value.field entries' "unwind") :=
    h.field "unwind" .same
  unfold building
  dsimp only
  rw [unwindCall_eq unwind, unwind.isTruthy_eq, callEachEntry_congr (h.field_eq "where" rfl),
    callIfTruthy_congr (h.field_eq "with" rfl), callEachEntry_congr (h.field_eq "set" rfl),
    callIfTruthy_congr (h.field_eq "detach_delete" rfl),
    callIfTruthy_congr (h.field_eq "delete" rfl), callIfTruthy_congr (h.field_eq "return" rfl),
    callIfGiven_congr (h.field_eq "skip" rfl), callIfGiven_congr (h.field_eq "limit" rfl)]
  refine (sameRuns_patterns h rfl _).bind fun _ => (sameRuns_patterns h rfl _).bind fun _ => ?_
  refine sameRuns_callBefore ?_
  refine (sameRuns_self _).bind fun _ => (sameRuns_self _).bind fun _ => ?_
  refine (sameRuns_patterns h rfl _).bind fun _ => (sameRuns_patterns h rfl _).bind fun _ => ?_
  refine (sameRuns_self _).bind fun _ => (sameRuns_self _).bind fun _ => ?_
  refine (sameRuns_self _).bind fun _ => (sameRuns_self _).bind fun _ => ?_
  refine (sameRuns_callEach h rfl .same fun _ _ same => ?_).bind fun _ => sameRuns_self _
  rw [orderCall_eq same]
  exact sameRuns_self _

theorem agree_render (config : Config) :
    Agree Eq (render config entries) (render config entries') := by
  refine (sameRuns_building h { config }).bind ?_
  rintro out _ rfl
  exact agree_eq _

end
end Graph

/-! ## What is emitted -/

theorem agree_renderAs (h : Rearranged sectionOrder entries entries') (config : Config)
    (family : Dialect) :
    Agree Eq (renderAs config (.map entries) family) (renderAs config (.map entries') family) := by
  cases family with
  | relational =>
    refine (Relational.agree_render h config).bind ?_
    rintro rendered _ rfl
    exact agree_eq _
  | graph =>
    refine (Graph.agree_render h config).bind ?_
    rintro query _ rfl
    exact agree_eq _

theorem agree_emit {document document' : Value} (h : Reordered sectionOrder document document')
    (config : Config) (dialect : Value) :
    Agree Eq (emit config document dialect) (emit config document' dialect) := by
  cases h with
  | same => exact agree_eq _
  | @map entries entries' rearranged =>
    have name : dialectName (.map entries) dialect = dialectName (.map entries') dialect := by
      simp only [dialectName, Value.entriesFor, Except.map,
        rearranged.field_eq "dialect" rfl]
    unfold emit
    rw [name]
    refine agree_bind_same fun name => agree_bind_same fun found => ?_
    split
    · refine (agree_renderAs rearranged config _).bind ?_
      rintro rendered _ rfl
      exact agree_eq _
    · exact .error _ _

/-- Whatever is emitted for a document is emitted for it with its keys in another order. -/
theorem emit_of_reordered {document document' : Value}
    (h : Reordered sectionOrder document document') (config : Config) (dialect : Value)
    (e : Emitted) : emit config document dialect = .ok e ↔ emit config document' dialect = .ok e :=
  agree_eq_iff.1 (agree_emit h config dialect) e

/-- The fields of a node. -/
def person : Entries :=
  [(.str "id", .str "a"), (.str "labels", .str "Person"),
    (.str "properties", .map [(.str "alive", .bool true)])]

def youngestFirst : Entries :=
  [(.str "field", .str "a.age"), (.str "direction", .str "DESC")]

/-- A query for a node that is read from the fields and the sort entry. -/
def youngest (fields sort : Entries) : Entries :=
  [(.str "match", .list [.map [(.str "node", .map fields)]]), (.str "return", .list [.str "a"]),
    (.str "order_by", .list [.map sort])]

theorem reordered_youngest : Reordered sectionOrder (.map (youngest person youngestFirst))
    (.map (youngest person.reverse youngestFirst.reverse).reverse) := by
  have fields : entryOrder (.map person) (.map person.reverse) :=
    .of_perm (fun _ _ => rfl) (by simp [person, Row.IsMapping, Row.sameKey_text, Value.isText,
      Text.spelling]) (List.reverse_perm _).symm
  have sort : entryOrder (.map youngestFirst) (.map youngestFirst.reverse) :=
    .of_perm (fun _ _ => rfl) (by simp [youngestFirst, Row.IsMapping, Row.sameKey_text,
      Value.isText, Text.spelling]) (List.reverse_perm _).symm
  have node : elementOrder (.map [(.str "node", .map person)])
      (.map [(.str "node", .map person.reverse)]) :=
    .map ⟨List.pairwise_singleton _ _, _, .refl _, .cons ⟨rfl, fields⟩ .nil⟩
  refine .map ⟨?_, _, (List.reverse_perm _).symm, ?_⟩
  · simp [youngest, Row.IsMapping, Row.sameKey_text, Value.isText, Text.spelling]
  · exact .cons ⟨rfl, .list (.cons sort .nil)⟩ (.cons ⟨rfl, rfl⟩
      (.cons ⟨rfl, .list (.cons (.element node) .nil)⟩ .nil))

theorem emit_of_reordered_youngest :
    ∃ e, emit .standard (.map (youngest person youngestFirst)) (.str "cypher") = .ok e ∧
      emit .standard (.map (youngest person.reverse youngestFirst.reverse).reverse)
        (.str "cypher") = .ok e := by
  have made : (emit .standard (.map (youngest person youngestFirst))
      (.str "cypher")).toOption.isSome = true := by decide +kernel
  cases emitted : emit .standard (.map (youngest person youngestFirst)) (.str "cypher") with
  | error fault =>
    rw [emitted] at made
    cases made
  | ok e =>
    exact ⟨e, rfl, (emit_of_reordered reordered_youngest .standard (.str "cypher") e).1 emitted⟩

end BoundQuery.Document
