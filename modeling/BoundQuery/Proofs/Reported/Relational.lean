import BoundQuery.Proofs.Document.Shape
import BoundQuery.Proofs.Reported.Statement

/-!
# Relational documents that can be reported on

Whatever a relational document of data looks like, what it is turned down for can be reported.

## Main statements

* `Document.reports_require`, `Document.reports_sortEntry` — sections of documents.
* `Document.Relational.reports_render` — whole documents.
-/

namespace BoundQuery

open Result

/-! ## Sections -/

namespace Document

/-- What is missing is told by its key and its place. -/
theorem reports_require (part : Value) (key place : Str) : (require part key place).Reports := by
  unfold require
  split
  · split
    · exact reports_ok _
    · refine reports_error (Fault.isReported_argument ?_)
      simp [ArgumentFault.details, Value.isTold_text]
  · refine reports_error (Fault.isReported_argument ?_)
    simp [ArgumentFault.details, Value.isTold_text]

theorem isData_of_require {part v : Value} {key place : Str} (data : part.IsData)
    (h : require part key place = .ok v) : v.IsData := by
  cases part with
  | map entries =>
    cases found : Value.field? entries key with
    | none =>
      rw [require, found] at h
      cases h
    | some w =>
      rw [require, found] at h
      cases h
      exact data.field? found
  | _ => cases h

theorem isData_fieldOr {entries : Entries} (data : (Value.map entries).IsData) (key : Str)
    {standard : Value} (isData : standard.IsData) : (fieldOr entries key standard).IsData := by
  unfold fieldOr
  cases found : Value.field? entries key with
  | none => exact isData
  | some v => exact data.field? found

theorem reports_sortEntry (entry : Value) : (sortEntry entry).Reports := by
  unfold sortEntry
  split
  · exact reports_ok _
  · exact (reports_require _ _ _).bind fun _ _ => reports_ok _

theorem isData_of_sortEntry {entry field direction : Value} (data : entry.IsData)
    (h : sortEntry entry = .ok (field, direction)) : field.IsData ∧ direction.IsData := by
  unfold sortEntry at h
  split at h
  · cases h
    exact ⟨data, .str _⟩
  · obtain ⟨_, found, h⟩ := bind_eq_ok.1 h
    cases h
    exact ⟨isData_of_require data found, isData_fieldOr (isData_entriesOf data) _ (.str _)⟩

namespace Relational

open Select

variable {config : Config} {entries : Entries}

/-! ## Selections of documents -/

theorem reports_joinCall (join : Value) : (joinCall join).Reports :=
  (reports_require _ _ _).bind fun _ _ => (reports_require _ _ _).bind fun _ _ => reports_ok _

theorem takesData_of_joinCall {join : Value} {c : Select.Call} (data : join.IsData)
    (h : joinCall join = .ok c) : c.TakesData := by
  obtain ⟨_, table, h⟩ := bind_eq_ok.1 h
  obtain ⟨_, _, same⟩ := bind_eq_ok.1 h
  cases same
  exact ⟨isData_of_require data table, isData_fieldOr (isData_entriesOf data) _ (.str _)⟩

theorem reports_havingCall (entry : Value) : (havingCall entry).Reports :=
  (reports_require _ _ _).bind fun _ _ => reports_ok _

theorem takesData_of_havingCall {entry : Value} {c : Select.Call} (data : entry.IsData)
    (h : havingCall entry = .ok c) : c.TakesData := by
  obtain ⟨_, expression, same⟩ := bind_eq_ok.1 h
  cases same
  exact isData_of_require data expression

theorem reports_orderCall (entry : Value) : (orderCall entry).Reports :=
  (reports_sortEntry entry).bind fun _ _ => reports_ok _

theorem takesData_of_orderCall {entry : Value} {c : Select.Call} (data : entry.IsData)
    (h : orderCall entry = .ok c) : c.TakesData := by
  obtain ⟨⟨field, direction⟩, sorted, same⟩ := bind_eq_ok.1 h
  cases same
  exact isData_of_sortEntry data sorted

/-- The steps on a selection with a configuration whose sizes can be told. -/
abbrev Steps (config : Config) (m : Selecting Unit) : Prop :=
  ReportsFrom (fun s : Select => s.config = config) m

variable (sizes : config.HasData) (data : (Value.map entries).IsData)
include sizes

theorem steps_callEach (data : (Value.map entries).IsData) (key : Str)
    {toCall : Value → Result Select.Call} (made : ∀ v, (toCall v).Reports)
    (good : ∀ v c, v.IsData → toCall v = .ok c → c.TakesData) :
    Steps config (callEach entries key toCall) := by
  refine reportsFrom_bind_lift (Value.reports_elementsOrNone _) fun xs listed => ?_
  refine reportsFrom_forM fun v mem => reportsFrom_bind_lift (made v) fun c same => ?_
  exact reportsFrom_call sizes (good v c ((data.field key).elementsOrNone listed v mem) same)

theorem steps_callIfTruthy (key : Str) (toCall : Value → Select.Call)
    (good : (toCall (Value.field entries key)).TakesData) :
    Steps config (callIfTruthy entries key toCall) := by
  unfold callIfTruthy
  dsimp only
  split
  · exact reportsFrom_call sizes good
  · exact reportsFrom_pure _

theorem steps_callIfGiven (key : Str) (toCall : Value → Select.Call)
    (good : (toCall (Value.field entries key)).TakesData) :
    Steps config (callIfGiven entries key toCall) := by
  unfold callIfGiven
  dsimp only
  split
  · exact reportsFrom_pure _
  · exact reportsFrom_call sizes good

include data

theorem steps_selecting : Steps config (selecting entries) := by
  refine (steps_callEach sizes data "joins" reports_joinCall
    fun _ _ => takesData_of_joinCall).bind fun _ => ?_
  refine (steps_callIfTruthy sizes "where" (fun filters => .restrict (.filters filters))
    (data.field "where")).bind fun _ => ?_
  refine (steps_callIfTruthy sizes "group_by" .groupBy (data.field "group_by")).bind fun _ => ?_
  refine (steps_callEach sizes data "having" reports_havingCall
    fun _ _ => takesData_of_havingCall).bind fun _ => ?_
  refine (steps_callEach sizes data "order_by" reports_orderCall
    fun _ _ => takesData_of_orderCall).bind fun _ => ?_
  have counts : Steps config (do
      callIfGiven entries "limit" .limit
      callIfGiven entries "offset" .offset) :=
    (steps_callIfGiven sizes "limit" .limit (data.field "limit")).bind fun _ =>
      steps_callIfGiven sizes "offset" .offset (data.field "offset")
  split
  · refine (reportsFrom_call sizes ?_).bind fun _ => counts
    exact ⟨isData_fieldOr data "page" (.int 1), data.field "page_size"⟩
  · exact counts

theorem reports_select {table : Value} (named : table.IsData) :
    (select config entries table).Reports := by
  refine (Select.reports_make named).bind fun start made => ?_
  refine ((steps_selecting sizes data).reports (config_of_make made)).bind fun out _ => ?_
  change Reports
    (if (Value.field entries "count").isTruthy then out.2.buildCount else out.2.build)
  split
  · exact out.2.reports_buildCount
  · exact out.2.reports_build

omit sizes

/-! ## Changes of rows -/

theorem reports_insert {table : Value} (named : table.IsData) (place : Str) :
    (insert entries table place).Reports := by
  refine (reports_require _ _ _).bind fun rows found => ?_
  refine (Insert.reports_make named (isData_of_require data found)).bind fun s _ => ?_
  dsimp only
  split
  · have effect := Insert.reports_effect (data.field "returning")
    unfold Insert.step
    dsimp only
    cases fault : (Insert.Call.returning (Value.field entries "returning")).effect.fault with
    | none => exact reports_ok _
    | some f => exact reports_error (effect f fault)
  · exact reports_ok _

theorem reports_modify (s : Modify) : (modify entries s).Reports := by
  have returned (t : Modify) :
      (if (Value.field entries "returning").isTruthy = true then do
        let t ← modifyCall t (.returning (Value.field entries "returning"))
        t.build
      else t.build).Reports := by
    split
    · have effect := t.reports_modifyCall (c := .returning _) (data.field "returning")
      exact effect.bind fun u _ => u.reports_build
    · exact t.reports_build
  unfold modify
  dsimp only
  split
  · have effect := s.reports_modifyCall (c := .restrict (.filters _)) (data.field "where")
    exact effect.bind fun t _ => returned t
  · exact returned s

include sizes

/-- What a relational document of data is turned down for can be reported. -/
theorem reports_render : (render config entries).Reports := by
  refine (reports_require _ _ _).bind fun table found => ?_
  have named := isData_of_require data found
  dsimp only
  split
  · exact (reports_select sizes data named).bind fun _ _ => reports_ok _
  · exact (reports_insert data named _).bind fun _ _ => reports_ok _
  · refine Reports.bind ?_ fun _ _ => reports_ok _
    refine (reports_require _ _ _).bind fun assigned given => ?_
    exact (Modify.reports_makeUpdate config named (isData_of_require data given)).bind fun s _ =>
      reports_modify data s
  · refine Reports.bind ?_ fun _ _ => reports_ok _
    exact (Modify.reports_makeDelete config named).bind fun s _ => reports_modify data s
  · refine reports_error (Fault.isReported_argument ?_)
    simp [ArgumentFault.details, Value.isTold_text]

end Relational
end Document
end BoundQuery
