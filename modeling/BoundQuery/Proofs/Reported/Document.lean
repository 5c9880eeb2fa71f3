import BoundQuery.CommandLine.Load
import BoundQuery.Document.Emit
import BoundQuery.Proofs.Json.Data
import BoundQuery.Proofs.Reported.Graph

/-!
# Documents and configurations of files

What is read from a file is data, and a configuration that is read has passed its check. So what
keeps a file from being read, or its document from being rendered, can be reported.

## Main statements

* `Json.reports_ofValue` — values that cannot be written.
* `Document.reports_emit` — documents of either family, and of none.
* `reports_loadConfig`, `reports_loadDocument` — files.
-/

namespace BoundQuery

open Result

/-! ## Writing -/

namespace Value

theorem reports_lessList {xs : List Value} (each : ∀ x ∈ xs, ∀ y, (less x y).Reports)
    (ys : List Value) : (lessList xs ys).Reports := by
  induction xs generalizing ys with
  | nil => cases ys <;> exact reports_ok _
  | cons x xs ih =>
    obtain ⟨first, others⟩ := List.forall_mem_cons.1 each
    cases ys with
    | nil => exact reports_ok _
    | cons y ys =>
      rw [lessList]
      split
      · exact ih others ys
      · exact first y

theorem reports_less (x y : Value) : (less x y).Reports := by
  unfold less
  split
  · exact reports_ok _
  · exact reports_lessList (fun x _ y => reports_less x y) _
  · split
    · exact reports_ok _
    · exact reports_error trivial

variable {α : Type} (key : α → Value)

theorem reports_insertSorted (x : α) (xs : List α) : (insertSorted key x xs).Reports := by
  induction xs with
  | nil => exact reports_ok _
  | cons y ys ih =>
    refine (reports_less _ _).bind fun below _ => ?_
    split
    · exact ih.bind fun _ _ => reports_ok _
    · exact reports_ok _

theorem reports_sortedBy (xs : List α) : (sortedBy key xs).Reports := by
  induction xs with
  | nil => exact reports_ok _
  | cons x xs ih => exact ih.bind fun _ _ => reports_insertSorted key x _

end Value

namespace Json

theorem reports_keyed (f : Value × Json) : (keyed f).Reports := by
  have named : (keyText f.1).Reports := by
    unfold keyText
    split <;> first | exact reports_ok _ | exact reports_error trivial
  exact named.bind fun _ _ => reports_ok _

mutual

theorem reports_ofValue (sorted : Bool) : ∀ v : Value, (ofValue sorted v).Reports
  | .list xs | .tuple xs => (reports_ofList sorted xs).map
  | .map entries => by
    refine (reports_ofEntries sorted entries).bind fun fields _ => ?_
    have written (fields : List (Value × Json)) :
        (fields.mapM keyed >>= fun texts => pure (obj texts)).Reports :=
      (reports_mapM fun f _ => reports_keyed f).bind fun _ _ => reports_ok _
    dsimp only
    split
    · exact (Value.reports_sortedBy _ _).bind fun fields _ => written fields
    · exact written fields
  | .null | .bool _ | .int _ | .float _ | .text _ | .set _ | .comparator _ _ | .pattern _ _ _ =>
    reports_ok _

theorem reports_ofList (sorted : Bool) : ∀ xs : List Value, (ofList sorted xs).Reports
  | [] => reports_ok _
  | x :: xs => (reports_ofValue sorted x).bind fun _ _ =>
      (reports_ofList sorted xs).bind fun _ _ => reports_ok _

theorem reports_ofEntries (sorted : Bool) :
    ∀ entries : List (Value × Value), (ofEntries sorted entries).Reports
  | [] => reports_ok _
  | (_, value) :: rest => (reports_ofValue sorted value).bind fun _ _ =>
      (reports_ofEntries sorted rest).bind fun _ _ => reports_ok _

end

theorem reports_canonicalBytes (v : Value) : (canonicalBytes v).Reports := by
  refine ((reports_ofValue _ _).bind fun _ _ => reports_ok _).bind fun s _ => ?_
  unfold bytes
  split
  · exact reports_ok _
  · exact reports_error trivial

end Json

/-! ## Documents -/

/-- A dialect that is not registered is told by its name. -/
theorem Registry.reports_get {name : Value} (data : name.IsData) (r : Registry) :
    (r.get name).Reports := by
  have keyed : (keyOf name).Reports := by
    unfold keyOf
    split
    · split
      · exact reports_ok _
      · exact reports_error trivial
    · exact reports_ok _
  refine keyed.bind fun key _ => ?_
  split
  · exact reports_ok _
  · refine reports_error ?_
    exact List.forall_mem_cons.2
      ⟨data.isTold, List.forall_mem_singleton.2 (Value.isTold_strings _)⟩

namespace Document

theorem reports_fingerprint (output : Value) : (fingerprint output).Reports := by
  refine output.reports_toMapping.bind fun mapping _ => ?_
  split
  · exact (Json.reports_canonicalBytes _).bind fun _ _ => reports_ok _
  · exact reports_error trivial

variable {document dialect : Value}

theorem reports_dialectName (document dialect : Value) :
    (dialectName document dialect).Reports := by
  have chosen (name : Value) :
      (if name.isTruthy then pure name else throw (.argument .missingDialect) :
        Result Value).Reports := by
    split
    · exact reports_ok _
    · exact reports_error (Fault.isReported_argument nofun)
  unfold dialectName
  dsimp only
  split
  · exact chosen dialect
  · exact (document.reports_entriesFor _).map.bind fun name _ => chosen name

section
variable (data : document.IsData)
include data

theorem isData_of_entriesFor {entries : Entries} {member : Str}
    (found : document.entriesFor member = .ok entries) : (Value.map entries).IsData := by
  unfold Value.entriesFor at found
  split at found
  · cases found
    exact data
  · cases found

theorem reports_renderAs {config : Config} (sizes : config.HasData) (family : Dialect) :
    (renderAs config document family).Reports := by
  cases family with
  | relational =>
    exact (document.reports_entriesFor _).bind fun entries found =>
      (Relational.reports_render sizes (isData_of_entriesFor data found)).bind fun _ _ =>
        reports_ok _
  | graph =>
    exact (document.reports_entriesFor _).bind fun entries found =>
      (Graph.reports_render (isData_of_entriesFor data found) config).bind fun _ _ =>
        reports_ok _

theorem isData_of_dialectName {name : Value} (asked : dialect.IsData)
    (h : dialectName document dialect = .ok name) : name.IsData := by
  have chosen {given : Value} (isData : given.IsData)
      (h : (if given.isTruthy then pure given else throw (.argument .missingDialect) :
        Result Value) = .ok name) : name.IsData := by
    split at h
    · cases h
      exact isData
    · cases h
  unfold dialectName at h
  dsimp only at h
  split at h
  · exact chosen asked h
  · obtain ⟨_, found, h⟩ := bind_eq_ok.1 h
    obtain ⟨entries, held, rfl⟩ := map_eq_ok.1 found
    exact chosen ((isData_of_entriesFor data held).field _) h

/-- Whatever a document holds and whatever dialect is asked for, what it is turned down for can be
reported. -/
theorem reports_emit {config : Config} (sizes : config.HasData) (asked : dialect.IsData) :
    (emit config document dialect).Reports := by
  refine (reports_dialectName document dialect).bind fun name named => ?_
  refine (Registry.reports_get (isData_of_dialectName data asked named) _).bind fun found _ => ?_
  split
  · exact (reports_renderAs data sizes _).bind fun rendered _ =>
      (reports_fingerprint _).bind fun _ _ => reports_ok _
  · exact reports_error trivial

end
end Document

/-! ## Configurations -/

namespace Config

theorem reports_toInteger (v : Value) : v.toInteger.Reports := by
  have ofText (t : Text) : (Value.integerOfText t).Reports := by
    unfold Value.integerOfText
    split
    · exact reports_error trivial
    · exact reports_ok _
  have ofFloat (x : Binary64) : (Value.integerOfFloat x).Reports := by
    unfold Value.integerOfFloat
    split <;> first | exact reports_ok _ | exact reports_error trivial
  cases v with
  | text t => exact ofText t
  | float x => exact ofFloat x
  | bool b | int i => exact reports_ok _
  | _ => exact reports_error trivial

theorem reports_settingsOf (settings : List (Value × Value)) : (settingsOf settings).Reports := by
  refine (reports_toInteger _).bind fun size _ => ?_
  dsimp only
  split
  · exact reports_ok _
  · exact (reports_toInteger _).map.bind fun _ _ => reports_ok _

theorem reports_ofSettings (s : Settings) : (ofSettings s).Reports := by
  have below (left right : Value) : (isBelow left right).Reports := by
    unfold isBelow
    split <;> first | exact reports_ok _ | exact reports_error trivial
  have marked : (checkMarker s.rawMarker).Reports := by
    unfold checkMarker
    split
    · split
      · exact reports_error trivial
      · split <;> first | exact reports_ok _ | exact reports_error trivial
    · exact reports_error trivial
  have sized : (checkDefaultPageSize s.defaultPageSize).Reports := by
    refine (below _ _).bind fun small _ => ?_
    split <;> first | exact reports_ok _ | exact reports_error trivial
  have bounded : (checkMaxPageSize s.maxPageSize s.defaultPageSize).Reports := by
    unfold checkMaxPageSize
    split
    · refine (below _ _).bind fun small _ => ?_
      split <;> first | exact reports_ok _ | exact reports_error trivial
    · exact reports_ok _
  have levelled : (checkLogLevel s.logLevel).Reports := by
    unfold checkLogLevel
    split
    · split <;> first | exact reports_ok _ | exact reports_error trivial
    · exact reports_error trivial
  exact marked.bind fun _ _ => sized.bind fun _ _ => bounded.bind fun _ _ =>
    levelled.bind fun _ _ => reports_ok _

theorem reports_ofValue (v : Value) : (ofValue v).Reports := by
  refine (v.reports_entriesFor _).bind fun entries _ => ?_
  have found : (section? entries).Reports := by
    unfold section?
    dsimp only
    split
    · exact reports_ok _
    · split <;> first | exact reports_ok _ | exact reports_error trivial
  exact found.bind fun settings _ => (reports_settingsOf settings).bind fun s _ =>
    reports_ofSettings s

theorem hasData_of_ofValue {v : Value} {c : Config} (read : ofValue v = .ok c) : c.HasData := by
  obtain ⟨_, _, h⟩ := bind_eq_ok.1 read
  obtain ⟨_, _, h⟩ := bind_eq_ok.1 h
  obtain ⟨_, _, accepted⟩ := bind_eq_ok.1 h
  exact hasData_of_ofSettings accepted

end Config

/-! ## Files -/

/-- What is said of a file names it, and what else is said is text. -/
theorem Fault.isReported_config {f : ConfigFault}
    (own : ∀ code message details advice, f ≠ .custom code message details advice) :
    (config f).IsReported := by
  cases f with
  | custom code message details advice => exact absurd rfl (own code message details advice)
  | _ => simp [IsReported, config, Refusal.problem, ConfigFault.problem, ConfigFault.report,
      Value.isTold_text]

theorem isReported_configFault (path : Str) {fault : Fault} (told : fault.IsReported) :
    (configFault path fault).IsReported := by
  unfold configFault
  split
  · exact Fault.isReported_config nofun
  · split
    · exact Fault.isReported_config nofun
    · trivial
  · exact told

/-- The files hold data: whatever is read from one of them is built from null, truth values,
numbers, strings, lists and mappings with distinct strings as keys. -/
def Reader.ReadsData (read : Reader) (files : Files) : Prop :=
  ∀ path s v, files.find path = .text s → read s = .ok v → v.IsData

theorem Reader.readsData_json (files : Files) : Reader.json.ReadsData files := by
  intro path s v _ known
  unfold Reader.json at known
  split at known
  · cases known
    exact Json.isData_toValue _
  · cases known

section
variable (read : Reader) (files : Files) (path : Str)

theorem reports_loadConfig : (loadConfig read files path).Reports := by
  unfold loadConfig
  split
  · exact reports_error (Fault.isReported_config nofun)
  · exact reports_error trivial
  · split
    · exact reports_error (Fault.isReported_config nofun)
    · exact reports_error trivial
    · next entries _ =>
      cases accepted : Config.ofValue (.map entries) with
      | ok c => exact reports_ok c
      | error fault =>
        exact reports_error (isReported_configFault path (Config.reports_ofValue _ _ accepted))
    · exact reports_error (Fault.isReported_config nofun)

theorem reports_loadDocument : (loadDocument read files path).Reports := by
  unfold loadDocument
  split
  · exact reports_error (Fault.isReported_config nofun)
  · exact reports_error trivial
  · split
    · exact reports_error (Fault.isReported_config nofun)
    · exact reports_error trivial
    · exact reports_ok _
    · exact reports_error (Fault.isReported_config nofun)

variable {read files path}

theorem hasData_of_loadConfig {c : Config} (loaded : loadConfig read files path = .ok c) :
    c.HasData := by
  unfold loadConfig at loaded
  split at loaded
  · cases loaded
  · cases loaded
  · split at loaded
    · cases loaded
    · cases loaded
    · next entries _ =>
      cases accepted : Config.ofValue (.map entries) with
      | ok c' =>
        rw [accepted] at loaded
        cases loaded
        exact Config.hasData_of_ofValue accepted
      | error fault =>
        rw [accepted] at loaded
        cases loaded
    · cases loaded

theorem isData_of_loadDocument (data : read.ReadsData files) {document : Value}
    (loaded : loadDocument read files path = .ok document) : document.IsData := by
  unfold loadDocument at loaded
  split at loaded
  · cases loaded
  · cases loaded
  · next found =>
    split at loaded
    · cases loaded
    · cases loaded
    · next known =>
      cases loaded
      exact data _ _ _ found known
    · cases loaded

end

end BoundQuery
