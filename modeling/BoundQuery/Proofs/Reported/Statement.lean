import BoundQuery.Document.Relational
import BoundQuery.Proofs.Config.Normal
import BoundQuery.Proofs.Reported.Condition
import BoundQuery.Proofs.Statement.Reordering
import BoundQuery.Proofs.Statement.Window

/-!
# Relational statements that can be reported on

What a call on a statement is turned down for can be reported when its arguments are data, as far as
they are told. That a page has not the size it should have is told with the sizes of the
configuration, so these have to be data too.

## Main definitions

* `Config.HasData` — a configuration whose page sizes are data.
* `Select.Call.TakesData`, `Modify.Call.TakesData` — calls whose arguments are data.

## Main statements

* `Config.hasData_of_ofSettings` — configurations that have passed their check.
* `Select.reportsFrom_call`, `Modify.reports_modifyCall`, `Insert.reports_make` — calls of data.
-/

namespace BoundQuery

open Result

/-! ## Calls that restrict -/

namespace Restriction

/-- A restriction of fields that are data; of a fragment nothing is told. -/
def TakesData : Restriction → Prop
  | compare field _ _ | equals field _ | notEquals field _ | member field _ | notMember field _
  | like field _ | ilike field _ | null field | notNull field => field.IsData
  | raw _ _ => True
  | filters mapping => mapping.IsData

theorem reports_conditions (d : Dialect) {r : Restriction} (data : r.TakesData) :
    (r.conditions d).Reports := by
  have compared {field : Value} (named : field.IsData) (operator operand : Value) :
      (comparison d field operator operand).Reports :=
    (FieldCondition.reports_make d named operator operand).bind fun _ _ => reports_ok _
  cases r with
  | member field values | notMember field values =>
    exact values.reports_elements.bind fun _ _ => compared data _ _
  | raw fragment values =>
    refine Reports.bind ?_ fun _ _ => reports_ok _
    unfold Condition.makeRaw
    split
    · split
      · exact reports_condition nofun
      · exact values.reports_elementsOrNone.map
    · exact reports_condition nofun
  | filters mapping => exact (Filter.reports_conditions d data).bind fun _ _ => reports_ok _
  | _ => exact compared data _ _

end Restriction

theorem reports_returningItem {v : Value} (data : v.IsData) : (returningItem v).Reports := by
  unfold returningItem
  split
  · split
    · exact reports_ok _
    · exact Name.reports_gate _ _ data
  · exact Name.reports_gate _ _ data

/-! ## Selections -/

namespace Config

/-- Page sizes that can be told. -/
structure HasData (c : Config) : Prop where
  size : c.defaultPageSize.IsData
  most : c.maxPageSize.IsData

theorem isData_of_measured {v : Value} {m : Measure} (h : v.measure? = some m) : v.IsData := by
  cases v with
  | bool b => exact .bool b
  | int i => exact .int i
  | float x => exact .float trivial
  | _ => cases h

/-- Page sizes that have been compared are numbers. -/
theorem hasData_of_ofSettings {settings : Settings} {c : Config}
    (accepted : ofSettings settings = .ok c) : c.HasData := by
  obtain ⟨_, sized, bounded, _, _, size, most⟩ := ofSettings_eq_ok.1 accepted
  rw [checkDefaultPageSize] at sized
  obtain ⟨_, compared, _⟩ := bind_eq_ok.1 sized
  obtain ⟨_, _, measured, _⟩ := isBelow_eq_ok.1 compared
  refine ⟨size ▸ isData_of_measured measured, ?_⟩
  rcases measured_of_ofSettings accepted with unbounded | ⟨_, measured⟩
  · cases same : c.maxPageSize with
    | null => exact .null
    | _ =>
      rw [same] at unbounded
      cases unbounded
  · exact isData_of_measured measured

end Config

namespace Select

variable {config : Config}

/-- A call whose arguments are data, as far as they are told. -/
def Call.TakesData : Call → Prop
  | restrict r => r.TakesData
  | join table type _ => table.IsData ∧ type.IsData
  | groupBy fields => fields.IsData
  | having expression _ _ => expression.IsData
  | orderBy field direction => field.IsData ∧ direction.IsData
  | limit count | offset count => count.IsData
  | paginate page size => page.IsData ∧ size.IsData

theorem reports_makeJoin {table type : Value} (named : table.IsData) (kind : type.IsData)
    (condition : Value) : (makeJoin table type condition).Reports := by
  have checked : (checkJoinCondition condition).Reports := by
    have refused : (Fault.argument .emptyJoinCondition).IsReported :=
      Fault.isReported_argument (by simp [ArgumentFault.details])
    unfold checkJoinCondition
    split
    · split
      · exact reports_error refused
      · exact reports_ok _
    · exact reports_error refused
  exact (reports_checkJoinType kind).bind fun _ _ => checked.bind fun _ _ =>
    (Name.reports_gate _ _ named).bind fun _ _ => reports_ok _

theorem reports_makeSort {field direction : Value} (named : field.IsData)
    (ordered : direction.IsData) : (makeSort field direction).Reports :=
  (Name.reports_gate _ _ named).bind fun _ _ =>
    (reports_checkDirection ordered).bind fun _ _ => reports_ok _

/-- A page is turned down with its number or with its size, which may be the configured one. -/
theorem reports_window (sizes : config.HasData) {page size : Value} (number : page.IsData)
    (rows : size.IsData) : (window config page size).Reports := by
  have chosen : (if size.isNull then config.defaultPageSize else size).IsData := by
    split
    · exact sizes.size
    · exact rows
  unfold window
  dsimp only
  generalize (if size.isNull = true then config.defaultPageSize else size) = asked at chosen ⊢
  split
  · exact reports_error (Fault.isReported_argument (List.forall_mem_singleton.2 number.isTold))
  · split
    · exact reports_error (Fault.isReported_argument (List.forall_mem_singleton.2 chosen.isTold))
    · have compared : (exceedsMost config asked).Reports := by
        unfold exceedsMost Config.isBelow
        split
        · exact reports_ok _
        · split
          · exact reports_ok _
          · exact reports_error trivial
      refine compared.bind fun exceeds _ => ?_
      split
      · refine reports_error (Fault.isReported_argument ?_)
        exact List.forall_mem_cons.2
          ⟨Value.IsData.isTold (.int _), List.forall_mem_singleton.2 sizes.most.isTold⟩
      · exact reports_ok _

theorem Call.reports_effect (sizes : config.HasData) {c : Call} (data : c.TakesData) :
    (c.effect config).Reports := by
  cases c with
  | restrict r => exact Effect.reports_ofResult (Restriction.reports_conditions _ data).map
  | join table type condition =>
    exact Effect.reports_ofSingle (reports_makeJoin data.1 data.2 condition).map
  | groupBy fields =>
    refine Effect.reports_upToFaultOf fields.reports_asList fun xs listed x mem => ?_
    exact (Name.reports_gate _ _ (data.asList listed x mem)).map
  | having expression operator operand =>
    exact Effect.reports_ofSingle (FieldCondition.reports_makeAggregate _ data operator operand).map
  | orderBy field direction =>
    exact Effect.reports_ofSingle (reports_makeSort data.1 data.2).map
  | limit count | offset count => exact Effect.reports_ofSingle (reports_checkCount data _).map
  | paginate page size =>
    rw [effect_paginate]
    exact Effect.reports_ofResult (reports_window sizes data.1 data.2).map

theorem run_call (c : Call) (s : Select) :
    (Document.Relational.call c).run s =
      match s.step c with
      | (_, some fault) => .error fault
      | (s, none) => .ok ((), s) := by
  simp only [Document.Relational.call, StateT.run_bind, StateT.run_get, pure_bind]
  rcases s.step c with ⟨s', _ | fault⟩ <;> rfl

/-- A call on data keeps the configuration, or what turns it down can be reported. -/
theorem reportsFrom_call (sizes : config.HasData) {c : Call} (data : c.TakesData) :
    ReportsFrom (fun s : Select => s.config = config) (Document.Relational.call c) where
  reports {s} same := by
    have effect := Call.reports_effect sizes data
    rw [run_call, step, same]
    cases fault : (c.effect config).fault with
    | none => exact reports_ok _
    | some f => exact reports_error (effect f fault)
  kept {s s' a} same made := by
    rw [run_call, step] at made
    cases fault : (c.effect s.config).fault with
    | some f =>
      rw [fault] at made
      cases made
    | none =>
      rw [fault] at made
      cases made
      rw [config_foldl_apply, same]

theorem reports_body (s : Select) : s.body.Reports :=
  (Condition.reports_conjunction? _ _ _).bind fun _ _ =>
    (Condition.reports_conjunction? _ _ _).bind fun _ _ => reports_ok _

theorem reports_build (s : Select) : s.build.Reports :=
  (reports_spellings 0 s.fields).bind fun _ _ => s.reports_body.bind fun _ _ => reports_ok _

theorem reports_buildCount (s : Select) : s.buildCount.Reports :=
  s.reports_body.bind fun _ _ => reports_ok _

theorem reports_make {table fields : Value} (named : table.IsData) :
    (make config table fields).Reports := by
  refine (Name.reports_gate _ _ named).bind fun _ _ => ?_
  dsimp only
  split
  · exact fields.reports_asList.bind fun _ _ => reports_ok _
  · exact reports_ok _

theorem config_of_make {table fields : Value} {s : Select} (h : make config table fields = .ok s) :
    s.config = config := by
  obtain ⟨_, _, h⟩ := bind_eq_ok.1 h
  dsimp only at h
  split at h <;>
    · obtain ⟨_, _, h⟩ := bind_eq_ok.1 h
      cases h
      rfl

end Select

/-! ## Changes of rows -/

theorem reports_emptyInput {α : Type} (what statement : Str) :
    Reports (.error (.refusal (.emptyInput what statement)) : Result α) :=
  reports_error (by simp [Fault.IsReported, Refusal.problem, Value.isTold_text])

namespace Insert

theorem reports_laterRows (columns : List Text) (index : Nat) (rows : List Value) :
    (laterRows columns index rows).Reports := by
  induction rows generalizing index with
  | nil => exact reports_ok _
  | cons row rows ih =>
    refine (row.reports_entriesFor "keys").bind fun entries _ => ?_
    split
    · exact (ih _).bind fun _ _ => reports_ok _
    · refine reports_error (Fault.isReported_argument ?_)
      have told (i : Int) : (Value.int i).IsTold := Value.IsData.isTold (.int i)
      simp [ArgumentFault.details, Value.isTold_texts, Value.isTold_strings, told]

theorem reports_rowsOf (data : Value) : (rowsOf data).Reports := by
  unfold rowsOf
  split
  · exact reports_ok _
  · exact Value.reports_elements _

theorem isData_of_rowsOf {data : Value} {rows : List Value} (isData : data.IsData)
    (h : rowsOf data = .ok rows) : ∀ row ∈ rows, row.IsData := by
  unfold rowsOf at h
  split at h
  · cases h
    exact List.forall_mem_singleton.2 isData
  · exact isData.elements h

theorem reports_make {table data : Value} (named : table.IsData) (isData : data.IsData) :
    (make table data).Reports := by
  refine (Name.reports_gate _ _ named).bind fun _ _ => ?_
  refine (reports_rowsOf data).bind fun rows listed => ?_
  have each := isData_of_rowsOf isData listed
  split
  · exact reports_emptyInput _ _
  · next first rest =>
    refine (first.reports_entriesFor "keys").bind fun entries found => ?_
    have keys := (each first List.mem_cons_self).entries found
    refine (reports_mapM fun e mem => Name.reports_gate _ _ (keys e mem).1).bind fun columns _ => ?_
    split
    · exact reports_emptyInput _ _
    · exact (reports_laterRows columns 1 rest).bind fun _ _ => reports_ok _

theorem reports_effect {fields : Value} (data : fields.IsData) :
    (Call.returning fields).effect.Reports :=
  Effect.reports_upToFaultOf fields.reports_asList fun _ listed x mem =>
    reports_returningItem (data.asList listed x mem)

end Insert

namespace Modify

theorem reports_makeUpdate (config : Config) {table data : Value} (named : table.IsData)
    (isData : data.IsData) : (makeUpdate config table data).Reports := by
  refine (Name.reports_gate _ _ named).bind fun _ _ => ?_
  dsimp only
  split
  · exact reports_emptyInput _ _
  · refine (data.reports_entriesFor "items").bind fun entries found => ?_
    refine (reports_mapM fun e mem => ?_).bind fun _ _ => reports_ok _
    exact (Name.reports_gate _ _ (isData.entries found e mem).1).bind fun _ _ => reports_ok _

theorem reports_makeDelete (config : Config) {table : Value} (named : table.IsData) :
    (makeDelete config table).Reports :=
  (Name.reports_gate _ _ named).bind fun _ _ => reports_ok _

/-- A call whose arguments are data, as far as they are told. -/
def Call.TakesData : Call → Prop
  | restrict r => r.TakesData
  | returning fields => fields.IsData

theorem Call.reports_effect {c : Call} (data : c.TakesData) : c.effect.Reports := by
  cases c with
  | restrict r => exact Effect.reports_ofResult (Restriction.reports_conditions _ data).map
  | returning fields =>
    refine Effect.reports_upToFaultOf fields.reports_asList fun _ listed x mem => ?_
    exact (reports_returningItem (Value.IsData.asList data listed x mem)).map

theorem reports_modifyCall (s : Modify) {c : Call} (data : c.TakesData) :
    (Document.Relational.modifyCall s c).Reports := by
  have effect := Call.reports_effect data
  unfold Document.Relational.modifyCall step
  dsimp only
  cases fault : c.effect.fault with
  | none => exact reports_ok _
  | some f => exact reports_error (effect f fault)

theorem reports_build (s : Modify) : s.build.Reports :=
  ((Condition.reports_conjunction? _ _ _).bind fun _ _ => reports_ok _).bind fun _ _ => reports_ok _

end Modify

end BoundQuery
