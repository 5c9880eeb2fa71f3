import BoundQuery.CommandLine.Files
import BoundQuery.Config.Mapping
import BoundQuery.Error.Report
import BoundQuery.Json.Read

/-!
# Loading files

A configuration or a document is read from the text of a file, which must hold a mapping. How the
values of a text are read is left to a reader: it reads a text, or finds it malformed, or fails.
-/

namespace BoundQuery

/-- Why a reader has no value for a text. -/
inductive Unread where
  | malformed (cause : Str)
  | failed (text : Str)

abbrev Reader := Str → Except Unread Value

/-- The reader of files that hold JSON. Where a text is at fault is not reported. -/
def Reader.json : Reader := fun s =>
  match Json.read? s with
  | some j => .ok j.toValue
  | none => .error (.malformed "<yaml>")

/-- A setting that cannot be used is a fault of the file it is read from. -/
def configFault (path : Str) : Fault → Fault
  | .setting fault => .config (.badValue path fault.message)
  | .misuse misuse =>
    if misuse.kind = .argument then .config (.badValue path misuse.message) else .misuse misuse
  | fault => fault

def loadConfig (read : Reader) (files : Files) (path : Str) : Result Config :=
  match files.find path with
  | .absent => .error (.config (.notFound path))
  | .directory => .error (.file .isDirectory)
  | .text s =>
    match read s with
    | .error (.malformed cause) => .error (.config (.unreadable path cause))
    | .error (.failed text) => .error (.outside text)
    | .ok (.map entries) => (Config.ofValue (.map entries)).mapError (configFault path)
    | .ok v => .error (.config (.notMapping path v.typeName))

def loadDocument (read : Reader) (files : Files) (path : Str) : Result Value :=
  match files.find path with
  | .absent => .error (.config (.documentNotFound path))
  | .directory => .error (.file .isDirectory)
  | .text s =>
    match read s with
    | .error (.malformed cause) => .error (.config (.documentUnreadable path cause))
    | .error (.failed text) => .error (.outside text)
    | .ok (.map entries) => .ok (.map entries)
    | .ok v => .error (.config (.documentNotMapping path v.typeName))

end BoundQuery
