import BoundQuery.Chars.Split
import BoundQuery.Error.Basic

/-!
# Files

The files that a run of the command line looks at, by their paths. A path is the list of its parts,
from the root on when it starts with a slash and from the current directory on otherwise; dots for
the current directory and doubled slashes do not count. Two dots step out of the directory before
them, which has to be there.
-/

namespace BoundQuery

/-- Texts and directories by their paths, in which two dots stand at most in front. -/
structure Files where
  texts : List (List Str × Str) := []
  /-- Directories that need not hold any of the files. -/
  directories : List (List Str) := []

namespace Files

inductive Found where
  | absent
  | directory
  | text (s : Str)
  deriving DecidableEq, Repr

def root : Str :=
  "/"

def parent : Str :=
  ".."

def parts (path : Str) : List Str :=
  (if path.startsWith root then [root] else []) ++
    ((Chars.pieces '/' path.toList).map Str.ofList).filter fun part : Str =>
      part != "" && part != "."

/-- The directory above; that of the root is the root. -/
def above (steps : List Str) : List Str :=
  if steps == [root] then steps
  else if steps.all (· == parent) then steps ++ [parent]
  else steps.dropLast

def step (place : List Str) (part : Str) : List Str :=
  if part == parent then above place else place ++ [part]

def textAt? (files : Files) (place : List Str) : Option Str :=
  files.texts.lookup place

/-- Whether a place is a directory: one that is known, or one above a file. The root and the current
directory are always there, and so are those above it. -/
def isDirectory (files : Files) (place : List Str) : Bool :=
  place.all (· == parent) || place == [root] || files.directories.contains place ||
    files.texts.any fun (path, _) => place.isPrefixOf path && place.length < path.length

/-- Where the parts of a path lead from a place on; two dots need a directory before them. -/
def walk? (files : Files) (place : List Str) : List Str → Option (List Str)
  | [] => some place
  | part :: rest =>
    if part == parent && !files.isDirectory place then none
    else walk? files (step place part) rest

def place? (files : Files) (path : Str) : Option (List Str) :=
  files.walk? [] (parts path)

def find (files : Files) (path : Str) : Found :=
  match files.place? path with
  | none => .absent
  | some place =>
    match files.textAt? place with
    | some s => .text s
    | none => if files.isDirectory place then .directory else .absent

def ofList (files : List (Str × Str)) : Files :=
  { texts := files.map fun (path, text) => (parts path, text) }

def put (place : List Str) (s : Str) :
    List (List Str × Str) → List (List Str × Str)
  | [] => [(place, s)]
  | (path, old) :: rest =>
    if path == place then (path, s) :: rest else (path, old) :: put place s rest

end Files

/-- Work on a state. What has been done to it stays done, also when the work is turned down later
on. -/
abbrev Work (State : Type) := ExceptT Fault (StateM State)

namespace Work

/-- The answer of some work, and the state after it. -/
def outcome {State α : Type} (m : Work State α) (state : State) : Result α × State :=
  StateT.run (ExceptT.run m) state

end Work

abbrev Filing := Work Files

namespace Files

/-- Makes the directories on a way that are missing, and gives the place it leads to. A file that
stands in the way is found by entering it, or by making it when it comes last or when directories
before it were `missing`. -/
def makeWay (missing : Bool) (place : List Str) : List Str → Filing (List Str)
  | [] => return place
  | part :: rest => do
    let files ← get
    let next := step place part
    if (files.textAt? next).isSome then
      throw (.file (if missing || rest.isEmpty then .alreadyExists else .notDirectory))
    else if files.isDirectory next then makeWay missing next rest
    else
      set { files with directories := next :: files.directories }
      makeWay true next rest

/-- The place at which a file can be written, with the directories above it made. -/
def prepare (path : Str) : Filing (List Str) := do
  let steps := parts path
  let folder ← makeWay false [] steps.dropLast
  match steps.getLast? with
  | none => throw (.file .isDirectory)
  | some name =>
    let place := step folder name
    if (← get).isDirectory place then throw (.file .isDirectory)
    return place

/-- The files with a text at a place. -/
def write (place : List Str) (s : Str) (files : Files) : Files :=
  { files with texts := put place s files.texts }

end Files
end BoundQuery
