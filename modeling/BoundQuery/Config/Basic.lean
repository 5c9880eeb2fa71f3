import BoundQuery.Chars.Blank
import BoundQuery.Chars.Case
import BoundQuery.Error.Basic

/-!
# Configuration

The choices that all builders share: the marker of raw fragments, the text between the clauses of a
graph query, page sizes and the level of the log. A configuration is made by a check that looks at
one setting after the other.
-/

namespace BoundQuery

/-- Settings as they are given, each a value of any kind. -/
structure Settings where
  rawMarker : Value := .str "?"
  clauseSeparator : Value := .str "\n"
  defaultPageSize : Value := .int 10
  maxPageSize : Value := .null
  logLevel : Value := .str "WARNING"

/-- Settings that have passed the check. -/
structure Config where
  rawMarker : Text
  clauseSeparator : Value
  defaultPageSize : Value
  maxPageSize : Value
  logLevel : Text

namespace Config

def logLevels : List Str :=
  ["DEBUG", "INFO", "WARNING", "ERROR", "CRITICAL"]

/-- Whether a number is below another; only numbers can be compared. -/
def isBelow (left right : Value) : Result Bool :=
  match left.measure?, right.measure? with
  | some a, some b => .ok (a.lt b)
  | _, _ => .error (.misuse (.unordered left right))

/-- A marker says something and cannot be taken for a placeholder. -/
def checkMarker (marker : Value) : Result Text :=
  match marker with
  | .text t =>
    if t.isEmpty || Chars.isAllBlank t.spelling then .error (.setting .blankMarker)
    else if t.chars.contains '$' then .error (.setting .dollarMarker)
    else .ok t
  | _ => .error (.setting .blankMarker)

def checkDefaultPageSize (size : Value) : Result Unit := do
  if ← isBelow size (.int 1) then throw (.setting .defaultPageSize)

def checkMaxPageSize (most size : Value) : Result Unit := do
  if !most.isNull then
    if ← isBelow most size then throw (.setting .maxPageSize)

def checkLogLevel (level : Value) : Result Text :=
  match level with
  | .text t =>
    if logLevels.contains (Chars.upper t.spelling) then .ok t else .error (.setting .logLevel)
  | v => .error (.misuse (.noMember v "upper"))

def ofSettings (s : Settings) : Result Config := do
  let rawMarker ← checkMarker s.rawMarker
  checkDefaultPageSize s.defaultPageSize
  checkMaxPageSize s.maxPageSize s.defaultPageSize
  let logLevel ← checkLogLevel s.logLevel
  return { rawMarker, clauseSeparator := s.clauseSeparator, defaultPageSize := s.defaultPageSize
           maxPageSize := s.maxPageSize, logLevel }

def toSettings (c : Config) : Settings where
  rawMarker := .text c.rawMarker
  clauseSeparator := c.clauseSeparator
  defaultPageSize := c.defaultPageSize
  maxPageSize := c.maxPageSize
  logLevel := .text c.logLevel

/-- The configuration that is in force when none is given. -/
def standard : Config where
  rawMarker := .plain "?"
  clauseSeparator := .str "\n"
  defaultPageSize := .int 10
  maxPageSize := .null
  logLevel := .plain "WARNING"

def marker (c : Config) : List Chr :=
  c.rawMarker.chars

end Config
end BoundQuery
