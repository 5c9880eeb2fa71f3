import BoundQuery.CommandLine.Run
import BoundQuery.Proofs.CommandLine.World
import BoundQuery.Proofs.Document.Fingerprint
import BoundQuery.Proofs.Json.Grammar
import BoundQuery.Proofs.Reported.Document

/-!
# What commands print and write

In the formats for programs a command prints one object that agrees with its status, whether it
succeeds or fails: what has been emitted has a fingerprint, which is taken of what can be written,
and a failure is printed with details that can be. The object is JSON when its numbers are finite;
numbers that are not are printed with the words for them. In the format for readers there may be
several lines to print, and an obstacle may stand before each.

An empty path names no file, so nothing is written there.

## Main definitions

* `CommandLine.Shows` — what is printed, when it is an object that agrees with a status.
* `CommandLine.Presents` — work that only prints, and in the formats for programs one such object.

## Main statements

* `Document.isWritable_of_emit` — what has been emitted can be written.
* `CommandLine.presents_printEmitted`, `CommandLine.presents_reportFailure` — what is printed of
  what has been emitted, and of a failure that can be reported.
* `CommandLine.outcome_writeOutput` — the file of an output.
-/

namespace BoundQuery

open Result

/-! ## What has been emitted -/

namespace Document

/-- The fingerprint has been taken of what can be written. -/
theorem isWritable_of_fingerprint {r : Rendered} {metadata : Value} {digest : Str}
    (hashed : fingerprint (r.output metadata) = .ok digest) :
    ∀ f ∈ r.fields, f.2.IsWritable := by
  rw [fingerprint_eq, r.hashedBytes_output] at hashed
  obtain ⟨_, bytes, _⟩ := map_eq_ok.1 hashed
  obtain ⟨_, canonical, _⟩ := bind_eq_ok.1 bytes
  obtain ⟨j, tree, _⟩ := bind_eq_ok.1 canonical
  exact Json.isWritable_record_iff.1 ⟨j, tree⟩

theorem isWritable_of_emit {config : Config} {document dialect : Value} {e : Emitted}
    (emitted : emit config document dialect = .ok e) : ∀ f ∈ e.fields, f.2.IsWritable := by
  have text (t : Text) : (Value.text t).IsWritable := ⟨_, rfl⟩
  have metadata : e.metadata.IsWritable := by
    refine Json.isWritable_record_iff.2 ?_
    cases rendered : e.rendered <;> simp [Emitted.statementField, rendered, text]
  have rendered := isWritable_of_fingerprint (fingerprint_of_emit emitted .null)
  intro f mem
  rcases List.mem_append.1 mem with inside | last
  · exact rendered f inside
  · rw [List.mem_singleton.1 last]
    exact metadata

theorem Emitted.nodup_keys (e : Emitted) :
    (((("ok" : Str), Value.bool true) :: e.fields).map Prod.fst).Nodup := by
  cases rendered : e.rendered <;>
    simp [Emitted.fields, Rendered.fields, Rendered.textKey, rendered]

end Document

/-! ## Failures -/

theorem Value.opened_record (fields : List (Str × Value)) :
    (record fields).opened = record (fields.map fun f => (f.1, f.2.opened)) := by
  rw [record, opened, openedEntries_eq, List.map_map, record, List.map_map]
  rfl

/-- A report can be written when its details can be told. -/
theorem Problem.isWritable_record {p : Problem} (told : ∀ detail ∈ p.details, detail.2.IsTold) :
    p.record.IsWritable := by
  have text (s : Str) : (Value.str s).IsWritable := ⟨_, rfl⟩
  have details : (Value.record p.details).opened.IsWritable := by
    rw [Value.opened_record]
    exact Json.isWritable_record_iff.2 (List.forall_mem_map.2 told)
  refine Json.isWritable_record_iff.2 ?_
  cases p.remediation <;> simp [text, details]

namespace CommandLine

theorem isWritable_failureRecord {fault : Fault} (told : fault.IsReported) :
    (failureRecord fault).IsWritable := by
  cases fault with
  | refusal r => exact Problem.isWritable_record told
  | _ => exact ⟨_, rfl⟩

theorem failureCode_mem (fault : Fault) : failureCode fault ∈ [10, 20, 50] := by
  cases fault with
  | refusal r =>
    change r.problem.category.exitCode ∈ _
    cases r.problem.category <;> simp [Category.exitCode]
  | _ => simp [failureCode, internalCode]

theorem failureCode_ne_ok (fault : Fault) : failureCode fault ≠ okCode := by
  intro same
  have listed := failureCode_mem fault
  rw [same] at listed
  revert listed
  decide

/-! ## Printing -/

open Running

/-- What is printed as one object, with one field for each key: it says whether all went well, and
repeats the status when it speaks of it. It is JSON if there is JSON for its numbers. -/
def Shows (layout : Json.Layout) (exitCode : Nat) (s : Str) : Prop :=
  ∃ fields : List (Str × Json), s = (Json.obj fields).text layout ∧
    ((Json.obj fields).IsFinite → (Json.obj fields).Spells s.toList) ∧
    (fields.map Prod.fst).Nodup ∧ (("ok" : Str), .bool (exitCode == okCode)) ∈ fields ∧
    ∀ j, (("exit_code" : Str), j) ∈ fields → j = .int exitCode

/-- Work that only prints. In a format for programs this is one line, which agrees with the status
that is given. -/
structure Presents (format : OutputFormat) (exitCode : Nat) (m : Running Nat) : Prop where
  prints : Prints m
  gives : ∀ world code, (m.outcome world).1 = .ok code → code = exitCode
  object : ∀ layout ∈ format.layout?, ∃ s, Shows layout exitCode s ∧
    m = (do printLine .out s; return exitCode)

section
variable {format : OutputFormat} {exitCode : Nat} {fields : List (Str × Value)}

theorem jsonText_eq (writable : ∀ f ∈ fields, f.2.IsWritable) (layout : Json.Layout) :
    jsonText layout (.record fields) = .ok ((Json.obj (Json.sortedFields fields)).text layout) := by
  rw [jsonText, Json.ofValue_record writable]
  rfl

theorem printObject_eq (writable : ∀ f ∈ fields, f.2.IsWritable) (layout : Json.Layout) :
    printObject layout fields =
      printLine .out ((Json.obj (Json.sortedFields fields)).text layout) := by
  rw [printObject, jsonText_eq writable]
  rfl

/-- Lines for readers, and then a status. -/
theorem presents_lines (text : format.layout? = none) {m : Running Unit} (lines : Prints m) :
    Presents format exitCode (do m; return exitCode) := by
  refine ⟨lines.bind fun _ => prints_pure _, fun world code given => ?_, fun layout asked => ?_⟩
  · rw [Work.outcome_bind] at given
    split at given
    · cases given
      rfl
    · cases given
  · rw [text] at asked
    cases asked

/-- An object whose fields can be written, one of which agrees with the status. -/
theorem presents_object {layout : Json.Layout} (asked : format.layout? = some layout)
    (writable : ∀ f ∈ fields, f.2.IsWritable) (distinct : (fields.map Prod.fst).Nodup)
    (agrees : (("ok" : Str), .bool (exitCode == okCode)) ∈ fields)
    (code : ∀ v, (("exit_code" : Str), v) ∈ fields → v = .int exitCode) :
    Presents format exitCode (do printObject layout fields; return exitCode) := by
  rw [printObject_eq writable]
  refine ⟨(prints_printLine _ _).bind fun _ => prints_pure _, fun world code given => ?_,
    fun layout' mem => ⟨_, ⟨_, rfl, Json.spells_text layout', Json.nodup_keys_sortedFields distinct,
      Json.mem_sortedFields.2 ⟨_, agrees, rfl⟩, fun j mem => ?_⟩, ?_⟩⟩
  · rw [Work.outcome_bind] at given
    split at given
    · cases given
      rfl
    · cases given
  · obtain ⟨⟨key, v⟩, inside, same⟩ := Json.mem_sortedFields.1 mem
    cases same
    rw [code v inside]
    rfl
  · obtain rfl : layout = layout' := Option.some.inj (asked.symm.trans mem)
    rfl

end

/-- A failure that can be reported is. -/
theorem presents_reportFailure (format : OutputFormat) {fault : Fault} (told : fault.IsReported) :
    Presents format (failureCode fault) (reportFailure format fault) := by
  have bad : (failureCode fault == okCode) = false := by
    simpa using failureCode_ne_ok fault
  have given : (("ok" : Str), Value.bool (failureCode fault == okCode)) ∈
      failureFields (failureRecord fault) (failureCode fault) := by
    rw [bad]
    exact List.mem_cons_self
  have writable : ∀ f ∈ failureFields (failureRecord fault) (failureCode fault),
      f.2.IsWritable := by
    simpa [failureFields] using ⟨⟨_, rfl⟩, isWritable_failureRecord told, ⟨_, rfl⟩⟩
  unfold reportFailure
  cases asked : format.layout? with
  | none => exact presents_lines asked (prints_printLines _ _)
  | some layout =>
    exact presents_object asked writable (by simp [failureFields]) given (by simp [failureFields])

/-- The status of a check of names says whether all are plain. -/
theorem presents_checkIdentifier (format : OutputFormat) (names : List Str) :
    ∃ code, (code = okCode ∨ code = inputCode) ∧
      Presents format code (checkIdentifier format names) := by
  have isBool (b : Bool) : (Value.bool b).IsWritable := ⟨_, rfl⟩
  obtain ⟨ok, whole⟩ : ∃ ok, ok = (verdicts names).all (·.2) := ⟨_, rfl⟩
  have agrees : ((if ok then okCode else inputCode) == okCode) = ok := by cases ok <;> rfl
  have table : (Value.record ((verdicts names).map fun v => (v.1, .bool v.2))).IsWritable :=
    Json.isWritable_record_iff.2 (List.forall_mem_map.2 fun _ _ => isBool _)
  refine ⟨if ok then okCode else inputCode, by cases ok <;> simp, ?_⟩
  unfold checkIdentifier
  dsimp only
  rw [← whole]
  cases asked : format.layout? with
  | none => exact presents_lines asked (prints_printLines _ _)
  | some layout =>
    exact presents_object asked
      (List.forall_mem_cons.2 ⟨isBool ok, List.forall_mem_singleton.2 table⟩) (by simp)
      (by simp [agrees]) (by simp)

theorem presents_dialects (format : OutputFormat) :
    Presents format okCode (dialects format) := by
  have table : (Value.record ((Registry.standard.available.map fun r => (r.1, r.2.paramstyle)).map
      fun r => (r.1, .str r.2))).IsWritable :=
    Json.isWritable_record_iff.2 (List.forall_mem_map.2 fun _ _ => ⟨_, rfl⟩)
  unfold dialects
  cases asked : format.layout? with
  | none => exact presents_lines asked (prints_printLines _ _)
  | some layout =>
    exact presents_object asked
      (List.forall_mem_cons.2 ⟨⟨_, rfl⟩, List.forall_mem_singleton.2 table⟩) (by simp) (by simp)
      (by simp)

/-! ## Output -/

section
variable {e : Document.Emitted} {world world' : World}

/-- What has been emitted can be printed in every format. -/
theorem presents_printEmitted (format : OutputFormat)
    (writable : ∀ f ∈ e.fields, f.2.IsWritable) :
    Presents format okCode (do printEmitted format e; return okCode) := by
  unfold printEmitted
  cases asked : format.layout? with
  | none =>
    obtain ⟨params, tree⟩ := Json.exists_unsorted
      (writable ("params", e.rendered.params) (by simp [Document.Emitted.fields,
        Document.Rendered.fields]))
    refine presents_lines asked ((prints_printLine _ _).bind fun _ => ?_)
    rw [tree]
    exact prints_printLine _ _
  | some layout =>
    refine presents_object asked (List.forall_mem_cons.2 ⟨⟨_, rfl⟩, writable⟩) e.nodup_keys
      List.mem_cons_self ?_
    cases rendered : e.rendered <;>
      simp [Document.Emitted.fields, Document.Rendered.fields, Document.Rendered.textKey, rendered]

/-- What is printed as an indented object. -/
theorem printEmitted_json (writable : ∀ f ∈ e.fields, f.2.IsWritable) :
    printEmitted .json e = printLine .out ((Json.obj ((Json.sortedFields e.fields).orderedInsert
      (fun f g => f.1 ≤ g.1) ("ok", .bool true))).text .indented) := by
  have printed : printEmitted .json e = printLine .out ((Json.obj
      (Json.sortedFields (("ok", .bool true) :: e.fields))).text .indented) :=
    printObject_eq (List.forall_mem_cons.2 ⟨⟨_, rfl⟩, writable⟩) _
  rw [Json.sortedFields_cons] at printed
  exact printed

/-- The path of the file that is asked for; an empty path names none. -/
def named? (out : Option Str) : Option Str :=
  out.filter fun path => !path.isEmpty

/-- The text of the file that is written, unless no file is named. -/
theorem outcome_writeOutput (writable : ∀ f ∈ e.fields, f.2.IsWritable) (out : Option Str)
    (world : World) :
    (writeOutput e out).outcome world =
      match named? out with
      | none => (.ok (), world)
      | some path => (writeFile path
          (line ((Json.obj (Json.sortedFields e.fields)).text .indented))).outcome world := by
  cases out with
  | none => rfl
  | some path =>
    rw [writeOutput, named?, Option.filter]
    cases path.isEmpty with
    | true => rfl
    | false =>
      simp only [jsonText_eq writable]
      rfl

end

theorem reports_makeWay (missing : Bool) (place steps : List Str) (files : Files) :
    Reports ((Files.makeWay missing place steps).outcome files).1 := by
  induction steps generalizing missing place files with
  | nil => exact reports_ok _
  | cons part rest ih =>
    rw [Files.outcome_makeWay_cons]
    split
    · exact reports_error trivial
    · split
      · exact ih _ _ _
      · exact ih _ _ _

theorem reports_prepare (path : Str) (files : Files) :
    Reports ((Files.prepare path).outcome files).1 := by
  have way := reports_makeWay false [] (Files.parts path).dropLast files
  rw [Files.outcome_prepare]
  generalize (Files.makeWay false [] (Files.parts path).dropLast).outcome files = made at way ⊢
  obtain ⟨answer, files'⟩ := made
  cases answer with
  | error fault => exact reports_error (way fault rfl)
  | ok folder =>
    dsimp only
    split
    · exact reports_error trivial
    · split
      · exact reports_error trivial
      · exact reports_ok _

end CommandLine
end BoundQuery
