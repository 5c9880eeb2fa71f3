import BoundQuery.CommandLine.Arguments
import BoundQuery.CommandLine.Load
import BoundQuery.CommandLine.World
import BoundQuery.Document.Emit
import BoundQuery.Json.Text

/-!
# Running a command

A run takes its arguments, files and the obstacles to its writes, and ends with a status and all
that it has written. A command that fails is reported, in the JSON formats by an object and else by
lines for readers; a fault that arises while this is printed gets out of the run.
-/

namespace BoundQuery.CommandLine

/-- What a finished run leaves behind: the status, or the fault that got out, and the world. -/
structure Report where
  ended : Result Nat
  world : World

inductive Outcome where
  | usage (u : Usage)
  | ran (report : Report)

def okCode : Nat := 0

def inputCode : Nat := 20

def internalCode : Nat := 50

/-- The status of a program that a fault gets out of. -/
def crashCode : Nat := 1

def jsonText (layout : Json.Layout) (v : Value) : Result Str :=
  return (← Json.ofValue true v).text layout

/-- The layout of the object that a format prints; the format for readers prints none. -/
def OutputFormat.layout? : OutputFormat → Option Json.Layout
  | .text => none
  | .json => some .indented
  | .jsonl => some .spaced

def printObject (layout : Json.Layout) (fields : List (Str × Value)) : Running Unit := do
  printLine .out (← jsonText layout (.record fields))

/-- A path with all that lie above it, the shorter ones first. -/
def wayTo (path : Str) : List Str :=
  let steps := Files.parts path
  (List.range (steps.length + 1)).map fun n => Str.intercalate Files.root (steps.take n)

/-- The paths that a command looks at: those it reads and the one it writes, with all above them. -/
def lookedAt : Command → List Str
  | .build query _ config out => (query.toList ++ config.toList ++ out.toList).flatMap wayTo
  | _ => []

section
variable (read : Reader) (standard : Config)

def configOf (files : Files) : Command → Result Config
  | .build _ _ (some path) _ => if path.isEmpty then .ok standard else loadConfig read files path
  | _ => .ok standard

/-- The document of a query; one without a path cannot be looked for. -/
def queried (files : Files) : Option Str → Result Value
  | some path => loadDocument read files path
  | none => .error (.misuse (.notPath (.list [])))

/-- What is emitted for the document of a query. -/
def emitted (files : Files) (command : Command) (query dialect : Option Str) :
    Result Document.Emitted := do
  let config ← configOf read standard files command
  let document ← queried read files query
  Document.emit config document ((dialect.map Value.str).getD .null)

end

/-- Writes the file of an output; an empty path names none. -/
def writeOutput (e : Document.Emitted) : Option Str → Running Unit
  | none => return ()
  | some path =>
    if path.isEmpty then return ()
    else do writeFile path (line (← jsonText .indented (.record e.fields)))

def printEmitted (format : OutputFormat) (e : Document.Emitted) : Running Unit :=
  match format.layout? with
  | some layout => printObject layout (("ok", .bool true) :: e.fields)
  | none => do
    printLine .out e.rendered.text
    let params ← Json.ofValue false e.rendered.params
    printLine .out ("-- params: " ++ params.text .spaced)

/-- The output is written before anything is printed. -/
def build (read : Reader) (standard : Config) (format : OutputFormat) (command : Command)
    (query dialect out : Option Str) : Running Nat := do
  let e ← emitted read standard (← get).files command query dialect
  writeOutput e out
  printEmitted format e
  return okCode

/-- The names without repetition, each with whether it is a plain name. -/
def verdicts (names : List Str) : List (Str × Bool) :=
  names.eraseDups.map fun name => (name, Name.isValid (.str name))

def checkIdentifier (format : OutputFormat) (names : List Str) : Running Nat := do
  let verdicts := verdicts names
  let ok := verdicts.all (·.2)
  match format.layout? with
  | some layout =>
    let table := verdicts.map fun (name, valid) => (name, Value.bool valid)
    printObject layout [("ok", .bool ok), ("identifiers", .record table)]
  | none =>
    printLines .out (verdicts.map fun (name, valid) =>
      (if valid then "OK" else "INVALID") ++ ": " ++ name)
  return if ok then okCode else inputCode

def dialects (format : OutputFormat) : Running Nat := do
  let rows := Registry.standard.available.map fun (key, d) => (key, d.paramstyle)
  match format.layout? with
  | some layout =>
    let table := rows.map fun (key, style) => (key, Value.str style)
    printObject layout [("ok", .bool true), ("dialects", .record table)]
  | none => printLines .out (rows.map fun (key, style) => key ++ "\tparamstyle=" ++ style)
  return okCode

/-- Levels that the log can be set to. -/
def knownLevels : List Str :=
  ["CRITICAL", "FATAL", "ERROR", "WARN", "WARNING", "INFO", "DEBUG", "NOTSET"]

/-- The level asked for, or that of the configuration, must be known. -/
def checkLevel (read : Reader) (standard : Config) (files : Files) (i : Invocation) :
    Result Unit := do
  let given := i.logLevel.getD ""
  let level ← if given.isEmpty then
      (configOf read standard files i.command).map (·.logLevel.spelling)
    else pure given
  let level := Chars.upper level
  if !knownLevels.contains level then throw (.setting (.unknownLevel level))

def perform (read : Reader) (standard : Config) (i : Invocation) : Running Nat := do
  checkLevel read standard (← get).files i
  match i.command with
  | .build query dialect _ out => build read standard i.format i.command query dialect out
  | .checkIdentifier names => checkIdentifier i.format names
  | .dialects => dialects i.format

def failureFields (error : Value) (exitCode : Nat) : List (Str × Value) :=
  [("ok", .bool false), ("error", error), ("exit_code", .int exitCode)]

def refusalLines (p : Problem) : List Str :=
  ["ERROR[" ++ p.code ++ "]: " ++ p.message] ++
    (match p.remediation with
      | some advice => if advice.isEmpty then [] else ["REMEDIATION: " ++ advice]
      | none => []) ++
    ["DETAILS: " ++ (Value.record p.details).opened.quoted]

/-- A failure without a code of its own is internal. -/
def internalRecord (fault : Fault) : Value :=
  .record [("code", .str "QFORGE_INTERNAL_ERROR"), ("category", .str "internal"),
    ("message", .str fault.text), ("details", .record [])]

def failureCode : Fault → Nat
  | .refusal r => r.exitCode
  | _ => internalCode

def failureRecord : Fault → Value
  | .refusal r => r.problem.record
  | fault => internalRecord fault

def failureLines : Fault → List Str
  | .refusal r => refusalLines r.problem
  | fault => ["ERROR[QFORGE_INTERNAL_ERROR]: " ++ fault.text]

/-- Prints what a command has failed with, and gives the status for it. -/
def reportFailure (format : OutputFormat) (fault : Fault) : Running Nat := do
  match format.layout? with
  | some layout => printObject layout (failureFields (failureRecord fault) (failureCode fault))
  | none => printLines .err (failureLines fault)
  return failureCode fault

/-- Performs a command, and reports its failure if it fails. -/
def finish (read : Reader) (standard : Config) (i : Invocation) (world : World) : Report :=
  match (perform read standard i).outcome world with
  | (.ok code, world) => ⟨.ok code, world⟩
  | (.error fault, world) =>
    let (ended, world) := (reportFailure i.format fault).outcome world
    ⟨ended, world⟩

/-- Runs the command line with the given standard configuration. -/
def run (read : Reader) (standard : Config) (obstacles : List (Option Str)) (files : Files)
    (args : List Str) : Outcome :=
  match parse args with
  | .error u => .usage u
  | .ok i => .ran (finish read standard i { files, obstacles })

end BoundQuery.CommandLine
