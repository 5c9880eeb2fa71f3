import BoundQuery.Config.Basic
import BoundQuery.Value.Access
import BoundQuery.Value.Display
import BoundQuery.Value.Integer

/-!
# Configurations from mappings

A configuration is read from the `builder` section of a mapping. Each setting is brought to the
form it needs, texts by showing the value and sizes by taking it for an integer, and then checked.
-/

namespace BoundQuery.Config

def section? (entries : List (Value × Value)) : Result (List (Value × Value)) :=
  let found := Value.field entries "builder"
  match found with
  | .map settings => .ok settings
  | v => if v.isTruthy then .error (.setting .sectionNotMapping) else .ok []

def textSetting (settings : List (Value × Value)) (key standard : Str) : Str :=
  match Value.field? settings key with
  | some v => v.shown
  | none => standard

def settingsOf (settings : List (Value × Value)) : Result Settings := do
  let size ← ((Value.field? settings "default_page_size").getD (.int 10)).toInteger
  let most := Value.field settings "max_page_size"
  let maxPageSize ← if most.isNull then pure .null else most.toInteger.map .int
  return { rawMarker := .str (textSetting settings "raw_marker" "?")
           clauseSeparator := .str (textSetting settings "graph_clause_separator" "\n")
           defaultPageSize := .int size
           maxPageSize
           logLevel := .str (Chars.upper (textSetting settings "log_level" "WARNING")) }

/-- The configuration that a mapping describes. -/
def ofValue (v : Value) : Result Config := do
  let entries ← v.entriesFor "get"
  ofSettings (← settingsOf (← section? entries))

end BoundQuery.Config
