import BoundQuery.Chars.Digit
import BoundQuery.Chars.Split

/-!
# Arguments of the command line

A command with its options, which may stand before or after the names it takes, be shortened to a
beginning that fits one option only, and be joined to their value by an equals sign. After two
dashes nothing is an option any more, and two dashes joined to an option are no value. An argument
list that fits no command, or that asks for help, is not run.
-/

namespace BoundQuery.CommandLine

/-- Why the arguments are not run: help was asked for, or they fit no command. -/
inductive Usage where
  | help
  | rejected
  deriving DecidableEq, Repr

def Usage.exitCode : Usage → Nat
  | help => 0
  | rejected => 2

inductive OutputFormat where
  | text
  | json
  | jsonl
  deriving DecidableEq, Repr

def OutputFormat.ofName? (name : Str) : Option OutputFormat :=
  match name.string? with
  | some "text" => some .text
  | some "json" => some .json
  | some "jsonl" => some .jsonl
  | _ => none

/-- A command; a query may be asked for without a value, which is found when it is looked for. -/
inductive Command where
  | build (query dialect config out : Option Str)
  | checkIdentifier (names : List Str)
  | dialects
  deriving DecidableEq, Repr

structure Invocation where
  logLevel : Option Str
  format : OutputFormat
  command : Command
  deriving DecidableEq, Repr

/-- An option: the help option takes no value, all others take one. -/
inductive Opt where
  | help
  | value (name : Str)
  deriving DecidableEq, Repr

/-- The spellings of options, and which of them are options of a list of named values. -/
def optionTable (names : List Str) : List (Str × Opt) :=
  ("-h", .help) :: ("--help", .help) :: names.map fun name => (name, .value name)

inductive Kind where
  | positional
  | separator
  | known (o : Opt) (short : Bool) (joined : Option Str)
  | unknown
  deriving DecidableEq, Repr

def isNumeral (cs : List Chr) : Bool :=
  !cs.isEmpty && cs.all fun c => (Chars.digitValue? c).isSome

def dropLineBreak (cs : List Chr) : List Chr :=
  if cs.getLast? == some (.scalar '\n') then cs.dropLast else cs

/-- A negative number, which is no option; a line break may end it. -/
def isNegativeNumber (arg : List Chr) : Bool :=
  match arg with
  | '-' :: cs =>
    let cs := dropLineBreak cs
    isNumeral cs ||
      match Chars.breakAt? '.' cs with
      | some (whole, fraction) => (whole.isEmpty || isNumeral whole) && isNumeral fraction
      | none => false
  | _ => false

/-- An argument cut at its first equals sign. -/
def cutValue (arg : Str) : Str × Option Str :=
  match Chars.breakAt? '=' arg.toList with
  | some (name, value) => (Str.ofList name, some (Str.ofList value))
  | none => (arg, none)

/-- The options that a shortened spelling may stand for. -/
def candidates (table : List (Str × Opt)) (arg : Str) : List Kind :=
  let (name, joined) := cutValue arg
  if arg.startsWith "--" then
    (table.filter fun (spelling, _) => spelling.startsWith name).map fun (_, o) =>
      .known o false joined
  else
    (table.filter fun (spelling, _) => spelling == Str.ofList (arg.toList.take 2)).map
      fun (_, o) => .known o true (some (Str.ofList (arg.toList.drop 2)))

/-- The option that an argument names before its equals sign. -/
def namedOption? (table : List (Str × Opt)) (arg : Str) : Option Kind :=
  let (name, joined) := cutValue arg
  (table.lookup name).map fun o => .known o (!name.startsWith "--") joined

def classifyOption (table : List (Str × Opt)) (arg : Str) : Except Usage Kind :=
  match namedOption? table arg, candidates table arg with
  | some kind, _ => .ok kind
  | none, [kind] => .ok kind
  | none, _ :: _ :: _ => .error .rejected
  | none, [] =>
    .ok (if isNegativeNumber arg.toList || arg.toList.contains ' ' then .positional else .unknown)

def classify (table : List (Str × Opt)) (arg : Str) : Except Usage Kind :=
  if arg == "--" then .ok .separator
  else if arg.startsWith "-" && arg != "-" then classifyOption table arg
  else .ok .positional

/-- Each argument with its kind; after the separator all are positional. -/
def classifyAll (table : List (Str × Opt)) : List Str → Except Usage (List (Str × Kind))
  | [] => .ok []
  | arg :: rest => do
    match ← classify table arg with
    | .separator => return (arg, .separator) :: rest.map fun other => (other, .positional)
    | kind => return (arg, kind) :: (← classifyAll table rest)

/-- What has been read of the arguments of a command; an option may be there without a value. -/
structure Seen where
  values : List (Str × Option Str) := []
  names : List Str := []
  extra : Bool := false

/-- What is joined to an option; two dashes are no value. -/
def joinedValue (s : Str) : Option Str :=
  if s == "--" then none else some s

/-- The value of an option is checked when it is read. -/
def Seen.give (seen : Seen) (name : Str) (value : Option Str) : Except Usage Seen :=
  if name == "--format" && value.any fun s => (OutputFormat.ofName? s).isNone then
    .error .rejected
  else .ok { seen with values := (name, value) :: seen.values }

/-- The value that was given last. -/
def Seen.value? (seen : Seen) (name : Str) : Option Str :=
  (seen.values.lookup name).join

/-- What is joined to a help option may only repeat its letter. -/
def helpUsage (short : Bool) (joined : Option Str) : Usage :=
  match joined with
  | none => .help
  | some s => if short && s != "" && s.toList.all (· == 'h') then .help else .rejected

def Kind.isPlain : Kind → Bool
  | positional | separator => true
  | _ => false

/-- Positional arguments that stand together: the first such group gives the names, if names are
wanted, and any other is too much. The separator is not a name. -/
def Seen.group (wantsNames : Bool) (seen : Seen) (args : List (Str × Kind)) : Seen :=
  if wantsNames && seen.names.isEmpty && args.any (·.2 == .positional) then
    { seen with names := (args.map Prod.fst).erase "--" }
  else { seen with extra := true }

/-- Reads classified arguments, `fuel` of them at most. -/
def scan (wantsNames : Bool) : Nat → Seen → List (Str × Kind) → Except Usage Seen
  | 0, seen, _ => .ok seen
  | _, seen, [] => .ok seen
  | fuel + 1, seen, (arg, kind) :: rest =>
    match kind, rest with
    | .unknown, rest => scan wantsNames fuel { seen with extra := true } rest
    | .known .help short joined, _ => .error (helpUsage short joined)
    | .known (.value name) _ (some value), rest => do
      scan wantsNames fuel (← seen.give name (joinedValue value)) rest
    | .known (.value name) _ none, (value, .positional) :: rest => do
      scan wantsNames fuel (← seen.give name (some value)) rest
    | .known (.value _) _ none, _ => .error .rejected
    | kind, rest =>
      let group := (arg, kind) :: rest.takeWhile (·.2.isPlain)
      scan wantsNames fuel (seen.group wantsNames group) (rest.dropWhile (·.2.isPlain))

def scanAll (names : List Str) (wantsNames : Bool) (args : List Str) :
    Except Usage Seen := do
  scan wantsNames (args.length + 1) {} (← classifyAll (optionTable names) args)

/-- The command that has been read, when nothing is missing. -/
def commandOf (name : Str) (seen : Seen) : Option Command :=
  match name.string? with
  | some "build" =>
    (List.lookup ("--query" : Str) seen.values).map fun query =>
      .build query (seen.value? "--dialect") (seen.value? "--config") (seen.value? "--out")
  | some "check-identifier" =>
    if seen.names.isEmpty then none else some (.checkIdentifier seen.names)
  | _ => some .dialects

def commandOptions (name : Str) : Option (List Str) :=
  match name.string? with
  | some "build" => some ["--query", "--dialect", "--config", "--out", "--format"]
  | some "check-identifier" | some "dialects" => some ["--format"]
  | _ => none

/-- What has been read before the command. -/
structure Leading where
  logLevel : Option Str := none
  extra : Bool := false

def commandArguments (leading : Leading) (name : Str) (args : List Str) :
    Except Usage Invocation := do
  let some options := commandOptions name | throw .rejected
  let seen ← scanAll options (name == "check-identifier") args
  let some command := commandOf name seen | throw .rejected
  if leading.extra || seen.extra then throw .rejected
  let format := ((seen.value? "--format").bind OutputFormat.ofName?).getD .text
  return { logLevel := leading.logLevel, format, command }

def scanLeading (leading : Leading) : List (Str × Kind) → Except Usage Invocation
  | [] => .error .rejected
  | (_, .unknown) :: rest => scanLeading { leading with extra := true } rest
  | (_, .known .help short joined) :: _ => .error (helpUsage short joined)
  | (_, .known (.value _) _ (some value)) :: rest =>
    scanLeading { leading with logLevel := joinedValue value } rest
  | (_, .known (.value _) _ none) :: (value, .positional) :: rest =>
    scanLeading { leading with logLevel := some value } rest
  | (_, .known (.value _) _ none) :: _ => .error .rejected
  | (_, .separator) :: _ => .error .rejected
  | (name, .positional) :: rest => commandArguments leading name (rest.map Prod.fst)

/-- Reads the arguments of a run. -/
def parse (args : List Str) : Except Usage Invocation := do
  scanLeading {} (← classifyAll (optionTable ["--log-level"]) args)

end BoundQuery.CommandLine
