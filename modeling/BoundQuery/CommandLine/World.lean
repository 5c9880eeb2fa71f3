import BoundQuery.CommandLine.Files

/-!
# The world of a run

What a run changes: files and what is printed. A write to a file or a print takes place as a whole
or is turned down, and then changes nothing. Which writes are turned down is not for the run to say,
so it is part of the world: a pipe may be closed, or a channel may have no bytes for a surrogate.
-/

namespace BoundQuery

/-- Where a line is printed. -/
inductive Channel where
  | out
  | err
  deriving DecidableEq, Repr

structure World where
  files : Files
  stdout : Str := ""
  stderr : Str := ""
  /-- For each write to come, what is said of it when it is turned down. The writes after these all
  take place. -/
  obstacles : List (Option Str) := []

namespace World

def print (channel : Channel) (s : Str) (world : World) : World :=
  match channel with
  | .out => { world with stdout := world.stdout ++ s }
  | .err => { world with stderr := world.stderr ++ s }

/-- What is said of the next write when it is turned down. -/
def hindrance? (world : World) : Option Str :=
  world.obstacles.head?.join

/-- The world once the next write has been tried. -/
def next (world : World) : World :=
  { world with obstacles := world.obstacles.tail }

end World

abbrev Running := Work World

namespace Running

/-- Work on the files alone. -/
def onFiles {α : Type} (m : Filing α) : Running α :=
  ExceptT.mk fun world =>
    let (answer, files) := m.outcome world.files
    (answer, { world with files })

/-- Goes on when the next write takes place. -/
def attempt : Running Unit := do
  let world ← get
  set world.next
  match world.hindrance? with
  | some text => throw (.outside text)
  | none => return ()

end Running

def line (s : Str) : Str :=
  s ++ "\n"

def printLine (channel : Channel) (s : Str) : Running Unit := do
  Running.attempt
  modify (World.print channel (line s))

def printLines (channel : Channel) : List Str → Running Unit
  | [] => return ()
  | s :: rest => do
    printLine channel s
    printLines channel rest

/-- Writes a file. The directories above it are made before, and stay when it is not written. -/
def writeFile (path s : Str) : Running Unit := do
  let place ← Running.onFiles (Files.prepare path)
  Running.attempt
  modify fun world => { world with files := world.files.write place s }

end BoundQuery
