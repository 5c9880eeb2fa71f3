import BoundQuery.CommandLine.Run

/-!
# The program

Looks at the files that the arguments name, runs the command, and writes what it has to show.
-/

namespace BoundQuery.CommandLine

/-- The string of a text that the system can be given. -/
def encoded (s : Str) : IO String :=
  match s.string? with
  | some t => return t
  | none => throw (IO.userError "surrogates not allowed")

/-- What the system answers when a directory is read as a file. -/
def directoryCode : UInt32 := 21

/-- What is found at a path; what cannot be read is taken for absent. -/
def look (path : Str) : IO Files.Found := do
  let some name := path.string? | return .absent
  try return .text (← IO.FS.readFile name)
  catch
    | .inappropriateType _ code _ => return if code == directoryCode then .directory else .absent
    | _ => return .absent

def readFile (files : Files) (path : Str) : IO Files := do
  match files.place? path with
  | none => return files
  | some place =>
    match ← look path with
    | .text s => return { files with texts := (place, s) :: files.texts }
    | .directory => return { files with directories := place :: files.directories }
    | .absent => return files

def readFiles (paths : List Str) : IO Files :=
  paths.foldlM readFile {}

def writeOut (files : Files) (out : Str) : IO Unit := do
  match files.find out with
  | .text s =>
    let above := (Files.parts out).dropLast
    if !above.isEmpty then IO.FS.createDirAll (← encoded (Str.intercalate "/" above))
    IO.FS.writeFile (← encoded out) (← encoded s)
  | _ => return ()

/-- Writes the file of a command that has one and was run to its end. -/
def writeFiles (command : Command) (report : Report) : IO Unit := do
  match command, report.ended with
  | .build _ _ _ (some out), .ok code =>
    if code == okCode && out != "" then writeOut report.world.files out
  | _, _ => return ()

def exitCode (report : Report) : Nat :=
  match report.ended with
  | .ok code => code
  | .error _ => crashCode

end BoundQuery.CommandLine

open BoundQuery CommandLine

def main (args : List String) : IO UInt32 := do
  let args := args.map Str.of
  match parse args with
  | .error u =>
    IO.println "usage: qforge [--log-level LEVEL] build|check-identifier|dialects ..."
    return UInt32.ofNat u.exitCode
  | .ok i =>
    match run Reader.json Config.standard [] (← readFiles (lookedAt i.command)) args with
    | .usage u => return UInt32.ofNat u.exitCode
    | .ran report =>
      writeFiles i.command report
      IO.print (← encoded report.world.stdout)
      IO.eprint (← encoded report.world.stderr)
      return UInt32.ofNat (exitCode report)
