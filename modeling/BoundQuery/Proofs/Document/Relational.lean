import BoundQuery.Proofs.Statement.Data

/-!
# Relational documents of a shape

A document whose sections have the shapes that their uses expect is rendered or refused, whatever
stands in its sections, and the parameters of what is rendered are data.

## Main definitions

* `Document.Relational.IsWellShaped` — the shapes of the sections.

## Main statements

* `Document.Relational.answers_render` — such a document is rendered or refused.
-/

namespace BoundQuery

open Result

namespace Document.Relational

open Select

/-- What the sections of a document look like, each of which may be missing. All other sections may
hold any data. -/
structure IsWellShaped (entries : Entries) : Prop where
  fields : IfGiven (fun v => v.IsString ∨ v.IsListOf Value.IsString) (Value.field entries "fields")
  filters : IfGiven Value.IsMapping (Value.field entries "where")
  joins : IfGiven Value.IsList (Value.field entries "joins")
  having : IfGiven Value.IsList (Value.field entries "having")
  sorts : IfGiven Value.IsList (Value.field entries "order_by")
  groups : IfGiven (fun v => v.IsString ∨ v.IsList) (Value.field entries "group_by")
  returning : IfGiven (fun v => v.IsString ∨ v.IsList) (Value.field entries "returning")
  rows : ∀ v, Value.field? entries "rows" = some v → v.IsMapping ∨ v.IsListOf Value.IsMapping
  assignments : IfGiven Value.IsMapping (Value.field entries "set")

variable {entries : Entries}

/-! ## Selections -/

theorem answers_joinCall {join : Value} (data : join.IsData) :
    (joinCall join).Answers Call.HoldsData :=
  (answers_require data _ _).bind fun _ _ =>
    (answers_require data _ _).bind fun _ _ => .ok trivial

theorem answers_havingCall {entry : Value} (data : entry.IsData) :
    (havingCall entry).Answers Call.HoldsData :=
  (answers_require data _ _).bind fun _ _ => .ok ((isData_entriesOf data).field "value")

theorem answers_orderCall {entry : Value} (data : entry.IsData) :
    (orderCall entry).Answers Call.HoldsData :=
  (answers_sortEntry data).bind fun _ _ => .ok trivial

theorem keeps_callEach {key : Str} {toCall : Value → Result Select.Call}
    (data : (Value.map entries).IsData) (shape : IfGiven Value.IsList (Value.field entries key))
    (each : ∀ v, v.IsData → (toCall v).Answers Call.HoldsData) :
    Keeps HoldsData (callEach entries key toCall) fun _ => True := by
  have elements := answers_elementsOrNone (ifGiven_of_isList (data.field key) shape)
  refine (keeps_lift elements).bind fun xs holds => keeps_forM fun v mem => ?_
  exact (keeps_lift (each v (holds v mem))).bind fun c good => keeps_call good

theorem keeps_callIfTruthy {key : Str} (toCall : Value → Select.Call)
    (good : (Value.field entries key).isTruthy = true →
      (toCall (Value.field entries key)).HoldsData) :
    Keeps HoldsData (callIfTruthy entries key toCall) fun _ => True := by
  unfold callIfTruthy
  dsimp only
  split
  · next given => exact keeps_call (good given)
  · exact keeps_pure trivial

theorem keeps_callIfGiven {key : Str} (toCall : Value → Select.Call)
    (good : ∀ v, (toCall v).HoldsData) :
    Keeps HoldsData (callIfGiven entries key toCall) fun _ => True := by
  unfold callIfGiven
  dsimp only
  split
  · exact keeps_pure trivial
  · exact keeps_call (good _)

theorem keeps_selecting (data : (Value.map entries).IsData) (shaped : IsWellShaped entries) :
    Keeps HoldsData (selecting entries) fun _ => True := by
  refine (keeps_callEach data shaped.joins fun v => answers_joinCall).bind fun _ _ => ?_
  refine (keeps_callIfTruthy (fun filters => .restrict (.filters filters))
    fun given => ?_).bind fun _ _ => ?_
  · obtain ⟨filters, same⟩ := shaped.filters.shape given
    exact ⟨filters, by rw [same], same ▸ data.field "where"⟩
  refine (keeps_callIfTruthy .groupBy fun given => shaped.groups.shape given).bind fun _ _ => ?_
  refine (keeps_callEach data shaped.having fun v => answers_havingCall).bind fun _ _ => ?_
  refine (keeps_callEach data shaped.sorts fun v => answers_orderCall).bind fun _ _ => ?_
  have counts : Keeps HoldsData (do callIfGiven entries "limit" .limit
                                    callIfGiven entries "offset" .offset) fun _ => True :=
    (keeps_callIfGiven .limit fun _ => trivial).bind fun _ _ =>
      keeps_callIfGiven .offset fun _ => trivial
  split
  · refine (keeps_call ?_).bind fun _ _ => counts
    exact trivial
  · exact counts

theorem answers_select (table : Value) (data : (Value.map entries).IsData)
    (shaped : IsWellShaped entries) :
    (select .standard entries table).Answers SqlQuery.HoldsData := by
  refine (Select.answers_make table shaped.fields).bind fun start good => ?_
  refine (keeps_selecting data shaped start good).bind fun out kept => ?_
  change Answers _
    (if (Value.field entries "count").isTruthy then out.2.buildCount else out.2.build)
  split
  · exact kept.2.answers_buildCount
  · exact kept.2.answers_build

/-! ## Changes of rows -/

theorem answers_insert (table : Value) (place : Str) (data : (Value.map entries).IsData)
    (shaped : IsWellShaped entries) :
    (insert entries table place).Answers SqlQuery.HoldsData := by
  refine (answers_require_map entries "rows" place).bind fun rows found => ?_
  refine (Insert.answers_make table (data.field? found) (shaped.rows rows found)).bind
    fun s holds => ?_
  dsimp only
  split
  · next given =>
    exact holds.answers_returning (shaped.returning.shape given)
  · exact .ok holds.build

theorem answers_modify {s : Modify} (data : (Value.map entries).IsData)
    (shaped : IsWellShaped entries) (holds : s.HoldsData) :
    (modify entries s).Answers SqlQuery.HoldsData := by
  have returned (t : Modify) (good : t.HoldsData) :
      (if (Value.field entries "returning").isTruthy = true then do
        let t ← modifyCall t (.returning (Value.field entries "returning"))
        t.build
      else t.build).Answers SqlQuery.HoldsData := by
    split
    · next given =>
      have effect := Modify.Call.answers_returning (shaped.returning.shape given)
      exact (Modify.answers_modifyCall good effect).bind fun u last => last.answers_build
    · exact good.answers_build
  unfold modify
  dsimp only
  split
  · next given =>
    obtain ⟨mapping, same⟩ := shaped.filters.shape given
    have isData := data.field "where"
    rw [same] at isData ⊢
    have effect := Modify.Call.answers_filters isData
    exact (Modify.answers_modifyCall holds effect).bind returned
  · exact returned s holds

theorem answers_update (table : Value) (place : Str) (data : (Value.map entries).IsData)
    (shaped : IsWellShaped entries) :
    (update .standard entries table place).Answers SqlQuery.HoldsData := by
  refine (answers_require_map entries "set" place).bind fun assigned found => ?_
  have shape := shaped.assignments
  rw [Value.field, found, Option.getD_some] at shape
  refine (Modify.answers_makeUpdate .standard table (data.field? found) shape).bind
    fun s holds => ?_
  exact answers_modify data shaped holds

theorem answers_delete (table : Value) (data : (Value.map entries).IsData)
    (shaped : IsWellShaped entries) :
    (delete .standard entries table).Answers SqlQuery.HoldsData :=
  (Modify.answers_makeDelete .standard table).bind fun _ holds =>
    answers_modify data shaped holds

/-- A document of the shape is rendered or refused. -/
theorem answers_render (data : (Value.map entries).IsData) (shaped : IsWellShaped entries) :
    (render .standard entries).Answers fun rendered => rendered.1.HoldsData := by
  refine (answers_require_map entries "table" _).bind fun table _ => ?_
  dsimp only
  split
  · exact (answers_select table data shaped).bind fun q holds => .ok holds
  · exact (answers_insert table _ data shaped).bind fun q holds => .ok holds
  · exact (answers_update table _ data shaped).bind fun q holds => .ok holds
  · exact (answers_delete table data shaped).bind fun q holds => .ok holds
  · exact .refused rfl

end Document.Relational
end BoundQuery
