import BoundQuery.Proofs.CommandLine.Printed

/-!
# Outcomes of runs

A run ends with one of four statuses, and all that it leaves behind agrees with its status: the
object that is printed in the formats for programs, and the file that a build writes. Two things a
run does not prevent. The file of a build is written before the result is printed, so a print that
is turned down leaves the file of a run that fails; and when the print of a failure is turned down
as well, the run ends without a status.

## Main definitions

* `CommandLine.HasWritten` — the file that a build has written.
* `CommandLine.Performed` — what a command leaves behind, before a failure is reported.
* `CommandLine.Report.Agrees` — what a run leaves behind, when it agrees with how it ended.

## Main statements

* `CommandLine.performed_of_perform` — what every command leaves behind.
* `CommandLine.run_agrees` — whole runs.
* `CommandLine.run_leaves_file` — a run that fails and leaves a file.
-/

namespace BoundQuery.CommandLine

open Result Running

/-! ## Commands -/

/-- The path of the file that a run writes, if it is to write one. -/
def Invocation.output? (i : Invocation) : Option Str :=
  match i.command with
  | .build _ _ _ out => named? out
  | _ => none

/-- The file holds what has been emitted, with its keys in order. In the format of indented objects
the same command, with no obstacles, prints that very object with one more field at its place in the
order. -/
def HasWritten (read : Reader) (standard : Config) (files : Files) (i : Invocation) (path : Str)
    (written : Files) : Prop :=
  ∃ query dialect config out e fields, i.command = .build query dialect config out ∧
    emitted read standard files i.command query dialect = .ok e ∧
    Json.ofValue true (.record e.fields) = .ok (.obj fields) ∧
    written.find path = .text (line ((Json.obj fields).text .indented)) ∧
    (perform read standard { i with format := .json }).outcome { files } =
      (.ok okCode, { files := written, stdout := line ((Json.obj (fields.orderedInsert
        (fun f g => f.1 ≤ g.1) ("ok", .bool true))).text .indented) })

/-- What a command leaves behind that has started in a world, with what it answers. -/
structure Performed (read : Reader) (standard : Config) (i : Invocation) (start : World)
    (answer : Result Nat) (world : World) : Prop where
  later : start.Later world
  told : ∀ fault, answer = .error fault → fault.IsReported
  code : ∀ code, answer = .ok code → code = okCode ∨ code = inputCode
  shows : ∀ layout ∈ i.format.layout?, ∀ code, answer = .ok code →
    ∃ s, world.stdout = start.stdout ++ line s ∧ Shows layout code s
  silent : i.format.layout?.isSome = true → ∀ fault, answer = .error fault →
    world.stdout = start.stdout
  idle : i.output? = none → world.files = start.files
  written : answer = .ok okCode → ∀ path, i.output? = some path →
    HasWritten read standard start.files i path world.files
  untouched : answer ≠ .ok okCode → world.files.texts = start.files.texts ∨
    ∃ path fault, i.output? = some path ∧ HasWritten read standard start.files i path world.files ∧
      answer = .error fault ∧ start.TurnsDown fault

theorem isReported_of_turnsDown {world : World} {fault : Fault} (h : world.TurnsDown fault) :
    fault.IsReported := by
  obtain ⟨text, rfl, _⟩ := h
  trivial

section
variable {format : OutputFormat} {exitCode : Nat} {m : Running Nat}

theorem Presents.shows (presents : Presents format exitCode m) (world : World)
    {layout : Json.Layout} (asked : layout ∈ format.layout?) {code : Nat}
    (given : (m.outcome world).1 = .ok code) :
    ∃ s, (m.outcome world).2.stdout = world.stdout ++ line s ∧ Shows layout code s := by
  obtain rfl := presents.gives world code given
  obtain ⟨s, shows, same⟩ := presents.object layout asked
  refine ⟨s, ?_, shows⟩
  rw [same, Work.outcome_bind, outcome_printLine] at given ⊢
  cases hindered : world.hindrance? with
  | none => rfl
  | some text =>
    rw [hindered] at given
    cases given

theorem Presents.silent (presents : Presents format exitCode m) (world : World)
    (asked : format.layout?.isSome = true) {fault : Fault}
    (failed : (m.outcome world).1 = .error fault) :
    (m.outcome world).2.stdout = world.stdout := by
  obtain ⟨layout, asked⟩ := Option.isSome_iff_exists.1 asked
  obtain ⟨s, _, same⟩ := presents.object layout asked
  rw [same, Work.outcome_bind, outcome_printLine] at failed ⊢
  cases hindered : world.hindrance? with
  | some text => rfl
  | none =>
    rw [hindered] at failed
    cases failed

end

section
variable {read : Reader} {standard : Config} {files files' : Files} {world world' : World}
variable {i : Invocation}

theorem output?_build {query dialect config out : Option Str}
    (command : i.command = .build query dialect config out) : i.output? = named? out := by
  rw [Invocation.output?, command]

theorem output?_eq_none
    (other : ∀ query dialect config out, i.command ≠ .build query dialect config out) :
    i.output? = none := by
  unfold Invocation.output?
  split
  · next command => exact absurd command (other _ _ _ _)
  · rfl

theorem isWritable_of_emitted {command : Command} {query dialect : Option Str}
    {e : Document.Emitted} (given : emitted read standard files command query dialect = .ok e) :
    ∀ f ∈ e.fields, f.2.IsWritable := by
  obtain ⟨_, _, given⟩ := bind_eq_ok.1 given
  obtain ⟨_, _, given⟩ := bind_eq_ok.1 given
  exact Document.isWritable_of_emit given

theorem outcome_build (format : OutputFormat) (command : Command)
    (query dialect out : Option Str) (world : World) :
    (build read standard format command query dialect out).outcome world =
      match emitted read standard world.files command query dialect with
      | .error fault => (.error fault, world)
      | .ok e =>
        match (writeOutput e out).outcome world with
        | (.error fault, world) => (.error fault, world)
        | (.ok (), world) =>
          (do printEmitted format e; return okCode : Running Nat).outcome world := by
  rw [build, Work.outcome_bind_get, Work.outcome_bind_lift]
  cases emitted read standard world.files command query dialect with
  | error fault => rfl
  | ok e =>
    dsimp only
    rw [Work.outcome_bind]
    rcases (writeOutput e out).outcome world with ⟨answer, world'⟩
    cases answer <;> rfl

/-- A level that is not known ends a command before it has begun. -/
theorem outcome_perform (read : Reader) (standard : Config) (i : Invocation) (world : World) :
    (perform read standard i).outcome world =
      match checkLevel read standard world.files i with
      | .error fault => (.error fault, world)
      | .ok () =>
        (match i.command with
          | .build query dialect _ out => build read standard i.format i.command query dialect out
          | .checkIdentifier names => checkIdentifier i.format names
          | .dialects => dialects i.format : Running Nat).outcome world := by
  rw [perform, Work.outcome_bind_get, Work.outcome_bind_lift]
  cases checkLevel read standard world.files i <;> rfl

/-- All commands but a build only print. -/
theorem exists_outcome_perform (read : Reader) (standard : Config) (world : World)
    (other : ∀ query dialect config out, i.command ≠ .build query dialect config out) :
    ∃ code m, (code = okCode ∨ code = inputCode) ∧ Presents i.format code m ∧
      (perform read standard i).outcome world =
        match checkLevel read standard world.files i with
        | .error fault => (.error fault, world)
        | .ok () => m.outcome world := by
  cases command : i.command with
  | build query dialect config out => exact absurd command (other query dialect config out)
  | checkIdentifier names =>
    obtain ⟨code, listed, presents⟩ := presents_checkIdentifier i.format names
    exact ⟨code, _, listed, presents, by rw [outcome_perform, command]⟩
  | dialects =>
    exact ⟨okCode, _, .inl rfl, presents_dialects i.format, by rw [outcome_perform, command]⟩

/-! ## Faults -/

theorem reports_configOf (read : Reader) (standard : Config) (files : Files) (command : Command) :
    (configOf read standard files command).Reports := by
  unfold configOf
  split
  · split
    · exact reports_ok _
    · exact reports_loadConfig _ _ _
  · exact reports_ok _

theorem reports_queried (read : Reader) (files : Files) (query : Option Str) :
    (queried read files query).Reports := by
  cases query with
  | none => exact reports_error trivial
  | some path => exact reports_loadDocument read files path

theorem reports_checkLevel (read : Reader) (standard : Config) (files : Files) (i : Invocation) :
    (checkLevel read standard files i).Reports := by
  have known (level : Str) :
      (if !knownLevels.contains (Chars.upper level) then
          throw (.setting (.unknownLevel (Chars.upper level)))
        else pure () : Result Unit).Reports := by
    split
    · exact reports_error trivial
    · exact reports_ok _
  unfold checkLevel
  dsimp only
  split
  · exact (reports_configOf _ _ _ _).map.bind fun level _ => known level
  · exact known _

section
variable {settings : Settings} (accepted : Config.ofSettings settings = .ok standard)
include accepted

theorem hasData_of_configOf {command : Command} {config : Config}
    (found : configOf read standard files command = .ok config) : config.HasData := by
  unfold configOf at found
  split at found
  · split at found
    · cases found
      exact Config.hasData_of_ofSettings accepted
    · exact hasData_of_loadConfig found
  · cases found
    exact Config.hasData_of_ofSettings accepted

variable (data : read.ReadsData files)
include data

theorem reports_emitted (command : Command) (query dialect : Option Str) :
    (emitted read standard files command query dialect).Reports := by
  refine (reports_configOf read standard files command).bind fun config found => ?_
  refine (reports_queried read files query).bind fun document queried => ?_
  have isData : document.IsData := by
    cases query with
    | none => cases queried
    | some path => exact isData_of_loadDocument data queried
  refine Document.reports_emit isData (hasData_of_configOf accepted found) ?_
  cases dialect with
  | none => exact .null
  | some name => exact .str name

end

/-! ## Output -/

/-- What writing the file of an output leaves behind. -/
structure Wrote (e : Document.Emitted) (out : Option Str) (start : World) (answer : Result Unit)
    (world : World) : Prop where
  later : start.Later world
  stdout : world.stdout = start.stdout
  told : ∀ fault, answer = .error fault → fault.IsReported
  texts : ∀ fault, answer = .error fault → world.files.texts = start.files.texts
  idle : named? out = none → world.files = start.files
  written : answer = .ok () → ∀ path, named? out = some path → ∃ place made,
    (Files.prepare path).outcome start.files = (.ok place, made) ∧ world.files =
      made.write place (line ((Json.obj (Json.sortedFields e.fields)).text .indented))

theorem wrote_of_writeOutput {e : Document.Emitted} (writable : ∀ f ∈ e.fields, f.2.IsWritable)
    {out : Option Str} {answer : Result Unit}
    (done : (writeOutput e out).outcome world = (answer, world')) :
    Wrote e out world answer world' := by
  rw [outcome_writeOutput writable] at done
  cases named : named? out with
  | none =>
    rw [named] at done
    cases done
    exact ⟨.refl _, rfl, nofun, nofun, fun _ => rfl, fun _ path some => by simp [named] at some⟩
  | some path =>
    have told := reports_prepare path world.files
    have texts := (Files.extends_prepare path world.files).texts
    have unnamed : named? out = none → world'.files = world.files := by simp [named]
    rw [named] at done
    dsimp only at done
    rw [outcome_writeFile] at done
    cases prepared : (Files.prepare path).outcome world.files with | mk place made =>
    rw [prepared] at done told texts
    cases place with
    | error fault =>
      cases done
      refine ⟨.refl _, rfl, fun fault' failed => ?_, fun _ _ => texts, unnamed, nofun⟩
      cases failed
      exact told fault rfl
    | ok place =>
      dsimp only at done
      cases hindered : world.hindrance? with
      | some text =>
        rw [hindered] at done
        cases done
        refine ⟨world.later_next, rfl, fun fault failed => ?_, fun _ _ => texts, unnamed, nofun⟩
        cases failed
        trivial
      | none =>
        rw [hindered] at done
        cases done
        refine ⟨world.later_next, rfl, nofun, nofun, unnamed, fun _ path' some => ?_⟩
        cases named.symm.trans some
        exact ⟨place, made, prepared, rfl⟩

/-- In the format of indented objects a build that meets no obstacles prints what it writes. -/
theorem hasWritten_of_wrote {query dialect config out : Option Str} {e : Document.Emitted}
    (command : i.command = .build query dialect config out)
    (checked : checkLevel read standard files i = .ok ())
    (given : emitted read standard files i.command query dialect = .ok e) {path : Str}
    (output : i.output? = some path) {place : List Str} {made : Files}
    (prepared : (Files.prepare path).outcome files = (.ok place, made)) :
    HasWritten read standard files i path
      (made.write place (line ((Json.obj (Json.sortedFields e.fields)).text .indented))) := by
  have writable := isWritable_of_emitted given
  have checked' : checkLevel read standard files { i with format := .json } = .ok () := checked
  refine ⟨query, dialect, config, out, e, _, command, given, Json.ofValue_record writable,
    Files.find_write prepared _, ?_⟩
  rw [output?_build command] at output
  rw [outcome_perform, checked']
  simp only [command]
  rw [outcome_build]
  simp only [← command, given]
  rw [outcome_writeOutput writable, output]
  dsimp only
  rw [outcome_writeFile, prepared]
  dsimp only [World.hindrance?, List.head?_nil, Option.join_none]
  rw [printEmitted_json writable, Work.outcome_bind, outcome_printLine]
  rfl

/-! ## What is left behind -/

section
variable {settings : Settings} (accepted : Config.ofSettings settings = .ok standard)
variable (data : read.ReadsData world.files)

/-- Nothing is left behind by what is turned down at once. -/
theorem Performed.at_once {fault : Fault} (told : fault.IsReported) :
    Performed read standard i world (.error fault) world where
  later := .refl world
  told _ failed := by cases failed; exact told
  code := nofun
  shows _ _ := nofun
  silent _ _ _ := rfl
  idle _ := rfl
  written := nofun
  untouched _ := .inl rfl

theorem performed_of_presents {code : Nat} {m : Running Nat}
    (listed : code = okCode ∨ code = inputCode) (presents : Presents i.format code m)
    (output : i.output? = none) :
    Performed read standard i world (m.outcome world).1 (m.outcome world).2 := by
  obtain ⟨files, later, turned⟩ := presents.prints world
  refine ⟨later, fun fault failed => isReported_of_turnsDown (turned fault failed),
    fun code' given => presents.gives world code' given ▸ listed,
    fun layout asked code' given => presents.shows world asked given,
    fun asked fault failed => presents.silent world asked failed, fun _ => files, ?_,
    fun _ => .inl (by rw [files])⟩
  intro _ path named
  rw [output] at named
  cases named

/-- The result is printed last: the file that has been written stays, though the print fails. -/
theorem Wrote.performed {e : Document.Emitted} {out : Option Str} {between : World}
    (stage : Wrote e out world (.ok ()) between) (output : i.output? = named? out)
    (file : ∀ path, i.output? = some path →
      HasWritten read standard world.files i path between.files)
    {m : Running Nat} (presents : Presents i.format okCode m) :
    Performed read standard i world (m.outcome between).1 (m.outcome between).2 := by
  obtain ⟨files, later, turned⟩ := presents.prints between
  have kept (path : Str) (named : i.output? = some path) :
      HasWritten read standard world.files i path (m.outcome between).2.files := by
    rw [files]
    exact file path named
  refine ⟨stage.later.trans later,
    fun fault failed => isReported_of_turnsDown (turned fault failed),
    fun code given => .inl (presents.gives between code given), fun layout asked code given => ?_,
    fun asked fault failed => (presents.silent between asked failed).trans stage.stdout,
    fun none => files.trans (stage.idle (output ▸ none)), fun _ => kept, fun bad => ?_⟩
  · rw [← stage.stdout]
    exact presents.shows between asked given
  · cases answer : (m.outcome between).1 with
    | ok code =>
      obtain rfl := presents.gives between code answer
      exact absurd answer bad
    | error fault =>
      cases named : i.output? with
      | none =>
        rw [files, stage.idle (output ▸ named)]
        exact .inl rfl
      | some path =>
        exact .inr ⟨path, fault, rfl, kept path named, rfl,
          (turned fault answer).of_later stage.later⟩

include accepted data

theorem performed_of_build {query dialect config out : Option Str}
    (command : i.command = .build query dialect config out)
    (checked : checkLevel read standard world.files i = .ok ()) {answer : Result Nat}
    (done : (build read standard i.format i.command query dialect out).outcome world =
      (answer, world')) : Performed read standard i world answer world' := by
  have output := output?_build command
  rw [outcome_build] at done
  cases given : emitted read standard world.files i.command query dialect with
  | error fault =>
    rw [given] at done
    cases done
    exact .at_once (reports_emitted accepted data _ _ _ fault given)
  | ok e =>
    have writable := isWritable_of_emitted given
    rw [given] at done
    dsimp only at done
    cases wrote : (writeOutput e out).outcome world with | mk written between =>
    have stage := wrote_of_writeOutput writable wrote
    rw [wrote] at done
    cases written with
    | error fault =>
      cases done
      exact ⟨stage.later, fun fault' failed => by cases failed; exact stage.told fault rfl, nofun,
        fun _ _ => nofun, fun _ _ _ => stage.stdout, fun none => stage.idle (output ▸ none), nofun,
        fun _ => .inl (stage.texts fault rfl)⟩
    | ok _ =>
      dsimp only at done
      have file (path : Str) (named : i.output? = some path) :
          HasWritten read standard world.files i path between.files := by
        obtain ⟨place, made, prepared, same⟩ := stage.written rfl path (output ▸ named)
        rw [same]
        exact hasWritten_of_wrote command checked given named prepared
      have performed : Performed read standard i world _ _ :=
        stage.performed output file (presents_printEmitted i.format writable)
      rw [done] at performed
      exact performed

/-- What every command leaves behind. -/
theorem performed_of_perform {answer : Result Nat}
    (done : (perform read standard i).outcome world = (answer, world')) :
    Performed read standard i world answer world' := by
  cases command : i.command with
  | build query dialect config out =>
    rw [outcome_perform] at done
    cases checked : checkLevel read standard world.files i with
    | error fault =>
      rw [checked] at done
      cases done
      exact .at_once (reports_checkLevel read standard world.files i fault checked)
    | ok _ =>
      simp only [checked, command] at done
      rw [← command] at done
      exact performed_of_build accepted data command checked done
  | checkIdentifier _ | dialects =>
    have other : ∀ query dialect config out, i.command ≠ .build query dialect config out := by
      simp [command]
    obtain ⟨code, m, listed, presents, opened⟩ :=
      exists_outcome_perform read standard world other
    rw [opened] at done
    cases checked : checkLevel read standard world.files i with
    | error fault =>
      rw [checked] at done
      cases done
      exact .at_once (reports_checkLevel read standard world.files i fault checked)
    | ok _ =>
      rw [checked] at done
      dsimp only at done
      have performed : Performed read standard i world _ _ :=
        performed_of_presents listed presents (output?_eq_none other)
      rw [done] at performed
      exact performed

end
end

/-! ## Runs -/

/-- What a run leaves behind agrees with how it ended: with a status, or without one when the print
of a failure has been turned down. -/
structure Report.Agrees (read : Reader) (standard : Config) (obstacles : List (Option Str))
    (files : Files) (i : Invocation) (report : Report) : Prop where
  code : ∀ code, report.ended = .ok code → code ∈ [0, 10, 20, 50]
  escaped : ∀ fault, report.ended = .error fault → ∃ failure world,
    (perform read standard i).outcome { files, obstacles } = (.error failure, world) ∧
      world.TurnsDown fault
  shows : ∀ layout ∈ i.format.layout?, ∀ code, report.ended = .ok code →
    ∃ s, report.world.stdout = line s ∧ Shows layout code s
  silent : i.format.layout?.isSome = true → ∀ fault, report.ended = .error fault →
    report.world.stdout = ""
  idle : i.output? = none → report.world.files = files
  written : report.ended = .ok okCode → ∀ path, i.output? = some path →
    HasWritten read standard files i path report.world.files
  untouched : report.ended ≠ .ok okCode → report.world.files.texts = files.texts ∨
    ∃ path failure world, i.output? = some path ∧
      HasWritten read standard files i path report.world.files ∧
      (perform read standard i).outcome { files, obstacles } = (.error failure, world) ∧
      World.TurnsDown { files, obstacles } failure

section
variable {read : Reader} {standard : Config} {obstacles : List (Option Str)} {files : Files}
variable {i : Invocation} {world : World}

theorem agrees_of_answered {code : Nat}
    (done : (perform read standard i).outcome { files, obstacles } = (.ok code, world))
    (performed : Performed read standard i { files, obstacles } (.ok code) world) :
    Report.Agrees read standard obstacles files i ⟨.ok code, world⟩ where
  code code' ended := by
    cases ended
    rcases performed.code code rfl with rfl | rfl <;> simp [okCode, inputCode]
  escaped := nofun
  shows layout asked code' ended := by
    obtain ⟨s, printed, shows⟩ := performed.shows layout asked code' ended
    exact ⟨s, by simpa using printed, shows⟩
  silent _ := nofun
  idle := performed.idle
  written := performed.written
  untouched bad := by
    rcases performed.untouched bad with texts | ⟨_, fault, _, _, failed, _⟩
    · exact .inl texts
    · cases failed

/-- A failure has its own status, and only its print is still to come. -/
theorem agrees_of_failed {fault : Fault}
    (done : (perform read standard i).outcome { files, obstacles } = (.error fault, world))
    (performed : Performed read standard i { files, obstacles } (.error fault) world) :
    Report.Agrees read standard obstacles files i
      ⟨((reportFailure i.format fault).outcome world).1,
        ((reportFailure i.format fault).outcome world).2⟩ := by
  have presents := presents_reportFailure i.format (performed.told fault rfl)
  obtain ⟨kept, later, turned⟩ := presents.prints world
  have bad (code : Nat) (ended : ((reportFailure i.format fault).outcome world).1 = .ok code) :
      code = failureCode fault := presents.gives world code ended
  refine ⟨fun code ended => ?_, fun fault' ended => ⟨fault, world, done, turned fault' ended⟩,
    fun layout asked code ended => ?_, fun asked fault' ended => ?_,
    fun none => kept.trans (performed.idle none), fun ended => ?_, fun _ => ?_⟩
  · rw [bad code ended]
    exact List.mem_cons_of_mem _ (failureCode_mem fault)
  · obtain ⟨s, printed, shows⟩ := presents.shows world asked ended
    rw [performed.silent (Option.isSome_of_mem asked) fault rfl] at printed
    exact ⟨s, by simpa using printed, shows⟩
  · exact (presents.silent world asked ended).trans (performed.silent asked fault rfl)
  · exact absurd (bad okCode ended).symm (failureCode_ne_ok fault)
  · have files : (Report.world ⟨((reportFailure i.format fault).outcome world).1,
        ((reportFailure i.format fault).outcome world).2⟩).files = world.files := kept
    rw [files]
    rcases performed.untouched nofun with texts | ⟨path, failure, named, file, same, obstacle⟩
    · exact .inl texts
    · cases same
      exact .inr ⟨path, fault, world, named, file, done, obstacle⟩

end

/-- Every run of a command agrees with how it ends, whatever obstacles its writes meet. -/
theorem run_agrees {settings : Settings} {standard : Config}
    (accepted : Config.ofSettings settings = .ok standard) {read : Reader} {files : Files}
    (data : read.ReadsData files) (obstacles : List (Option Str)) {args : List Str}
    {i : Invocation} (parsed : parse args = .ok i) :
    ∃ report, run read standard obstacles files args = .ran report ∧
      report.Agrees read standard obstacles files i := by
  rw [run, parsed]
  dsimp only
  refine ⟨_, rfl, ?_⟩
  rw [finish]
  cases done : (perform read standard i).outcome { files, obstacles } with | mk answer world =>
  have performed := performed_of_perform accepted data done
  cases answer with
  | ok code => exact agrees_of_answered done performed
  | error fault => exact agrees_of_failed done performed

section
variable {outcome : Outcome} {code : Nat} {p : World → Bool}

/-- Whether a run ends with the status and leaves a world with the property. -/
def Outcome.endsWith (code : Nat) (p : World → Bool) : Outcome → Bool
  | .ran ⟨.ok code', world⟩ => code' == code && p world
  | _ => false

/-- Whether a fault gets out of a run. -/
def Outcome.isCutOff : Outcome → Bool
  | .ran ⟨.error _, _⟩ => true
  | _ => false

theorem exists_of_endsWith (h : outcome.endsWith code p = true) :
    ∃ world, outcome = .ran ⟨.ok code, world⟩ ∧ p world = true := by
  rcases outcome with _ | ⟨_ | code', world⟩
  · cases h
  · cases h
  · obtain ⟨same, holds⟩ := Bool.and_eq_true_iff.1 h
    exact ⟨world, by rw [eq_of_beq same], holds⟩

theorem exists_of_isCutOff (h : outcome.isCutOff = true) :
    ∃ fault world, outcome = .ran ⟨.error fault, world⟩ := by
  rcases outcome with _ | ⟨fault | _, world⟩
  · cases h
  · exact ⟨fault, world, rfl⟩
  · cases h

end

/-- A document that selects all cities, and a run that builds it and writes the output. -/
def cities : Files :=
  .ofList [("cities.json",
    "\x7b\"dialect\": \"postgres\", \"statement\": \"select\", \"table\": \"city\"\x7d")]

def placing : List Str :=
  ["build", "--query", "cities.json", "--out=built/cities.json", "--format", "jsonl"]

def placed : Invocation :=
  ⟨none, .jsonl, .build (some "cities.json") none none (some "built/cities.json")⟩

theorem run_agrees_cities :
    ∃ report, run .json .standard [] cities placing = .ran report ∧ report.ended = .ok 0 ∧
      (∃ s, report.world.stdout = line s ∧ Shows .spaced 0 s) ∧
      HasWritten .json .standard cities placed "built/cities.json" report.world.files := by
  have parsed : parse placing = .ok placed := by decide +kernel
  have accepted : Config.ofSettings {} = .ok .standard := rfl
  obtain ⟨report, ran, agrees⟩ := run_agrees accepted (Reader.readsData_json cities) [] parsed
  have ends : (run .json .standard [] cities placing).endsWith 0 (fun _ => true) = true := by
    decide +kernel
  obtain ⟨world, ended, _⟩ := exists_of_endsWith ends
  cases ran.symm.trans ended
  exact ⟨_, ran, rfl, agrees.shows _ rfl 0 rfl, agrees.written rfl _ rfl⟩

/-! ## What runs do not prevent -/

def unwritable : Option Str :=
  some "BrokenPipeError(32, 'Broken pipe')"

/-- The file is there when its run fails because the result could not be printed. -/
theorem run_leaves_file : ∃ world,
    run .json .standard [none, unwritable] cities placing = .ran ⟨.ok 50, world⟩ ∧
      cities.find "built/cities.json" = .absent ∧
      world.files.find "built/cities.json" ≠ .absent := by
  have ends : (run .json .standard [none, unwritable] cities placing).endsWith 50
      (fun world => world.files.find "built/cities.json" ≠ .absent) = true := by
    decide +kernel
  obtain ⟨world, ended, found⟩ := exists_of_endsWith ends
  exact ⟨world, ended, by decide +kernel, of_decide_eq_true found⟩

/-- When the failure cannot be printed either, there is no status. -/
theorem run_has_no_status : ∃ fault world,
    run .json .standard [none, unwritable, unwritable] cities placing =
      .ran ⟨.error fault, world⟩ :=
  exists_of_isCutOff (by decide +kernel)

/-- A reader that finds a number too large to be finite. -/
def unbounded : Reader := fun _ =>
  .ok (.record [("dialect", .str "postgres"), ("table", .str "city"),
    ("where", .record [("size", .float ⟨0x7ff0000000000000⟩)])])

def printing : List Str :=
  ["build", "--query", "cities.json", "--format", "jsonl"]

def infiniteFields : List (Str × Json) :=
  [("metadata", .obj [("dialect", .str "postgres"),
      ("fingerprint", .str "9da207575e98ad0a9e9da2c662ca597733b8bb281ac9900b21d96584fe0166ba"),
      ("paramstyle", .str "numeric_dollar"), ("statement", .str "select")]),
    ("ok", .bool true), ("params", .arr [.float ⟨0x7ff0000000000000⟩]),
    ("text", .str "SELECT * FROM city WHERE size = $1")]

/-- The object holds a number that no JSON text spells. -/
theorem not_spells_infiniteFields (cs : List Chr) : ¬(Json.obj infiniteFields).Spells cs := by
  intro spells
  cases Json.isFinite_of_spells spells with | obj each =>
  cases each ("params", .arr [.float ⟨0x7ff0000000000000⟩]) (by simp [infiniteFields]) with
  | arr items =>
  cases items _ List.mem_cons_self with | float finite =>
  obtain ⟨negative, significand, exponent, known⟩ := finite
  have endless : Binary64.read ⟨0x7ff0000000000000⟩ = .infinite false := by decide
  cases endless.symm.trans known

/-- What is printed of such a number is not JSON. -/
theorem run_prints_no_json : ∃ world,
    run unbounded .standard [] cities printing = .ran ⟨.ok 0, world⟩ ∧
      world.stdout = line ((Json.obj infiniteFields).text .spaced) ∧
      ∀ cs, ¬(Json.obj infiniteFields).Spells cs := by
  have ends : (run unbounded .standard [] cities printing).endsWith 0
      (fun world => world.stdout = line ((Json.obj infiniteFields).text .spaced)) = true := by
    decide +kernel
  obtain ⟨world, ended, printed⟩ := exists_of_endsWith ends
  exact ⟨world, ended, of_decide_eq_true printed, not_spells_infiniteFields⟩

/-- A file that stays though the run fails, a run without a status, and an object that is not
JSON. -/
theorem run_disagrees :
    (∃ world, run .json .standard [none, unwritable] cities placing = .ran ⟨.ok 50, world⟩ ∧
      cities.find "built/cities.json" = .absent ∧
      world.files.find "built/cities.json" ≠ .absent) ∧
    (∃ fault world, run .json .standard [none, unwritable, unwritable] cities placing =
      .ran ⟨.error fault, world⟩) ∧
    ∃ world, run unbounded .standard [] cities printing = .ran ⟨.ok 0, world⟩ ∧
      world.stdout = line ((Json.obj infiniteFields).text .spaced) ∧
      ∀ cs, ¬(Json.obj infiniteFields).Spells cs :=
  ⟨run_leaves_file, run_has_no_status, run_prints_no_json⟩

end BoundQuery.CommandLine
