import BoundQuery.Chars.Case
import BoundQuery.Error.Basic
import BoundQuery.Value.Display

/-!
# Error reports

What each cause of failure says: a stable code, a category, a message, details and advice, and the
status with which the command line ends.
-/

namespace BoundQuery

inductive Category where
  | config
  | input
  deriving DecidableEq, Repr

def Category.name : Category → Str
  | config => "config"
  | input => "input"

/-- The status with which the command line ends. -/
def Category.exitCode : Category → Nat
  | config => 10
  | input => 20

structure Problem where
  code : Str
  category : Category
  message : Str
  details : List (Str × Value)
  remediation : Option Str

def Dialect.grammar : Dialect → Str
  | .relational => "SQL"
  | .graph => "Cypher"

namespace ConditionFault

def message : ConditionFault → Str
  | unknownFilter key => "Unknown filter operator: " ++ key.shown
  | unsupported _ operator => "Unsupported operator: " ++ operator.quoted
  | unavailable _ op dialect =>
    "Operator " ++ op.spelling ++ " is not available in " ++ dialect.grammar
  | comparesNull _ op => "Operator " ++ op.spelling ++ " cannot compare against NULL"
  | onlyNull _ op => "Operator " ++ op.spelling ++ " only accepts NULL"
  | needsList _ op _ => "Operator " ++ op.spelling ++ " requires a list of values"
  | blankCondition => "Raw condition must be a non-empty string"
  | blankFragment => "Raw fragment must be a non-empty string"
  | custom message _ => message

def fieldAndOperator (field : Text) (op : Operator) : List (Str × Value) :=
  [("field", .text field), ("operator", .str op.spelling)]

def details : ConditionFault → List (Str × Value)
  | unknownFilter key => [("operator", .text key)]
  | unsupported field operator => [("field", .text field), ("operator", .str operator.shown)]
  | unavailable field op _ | comparesNull field op | onlyNull field op => fieldAndOperator field op
  | needsList field op operand =>
    fieldAndOperator field op ++ [(("type" : Str), .str operand.typeName)]
  | blankCondition | blankFragment => []
  | custom _ details => details

def problem (f : ConditionFault) : Problem :=
  ⟨"QFORGE_INVALID_CONDITION", .input, f.message, f.details, none⟩

end ConditionFault

namespace ArgumentFault

def code : ArgumentFault → Str
  | emptyMarker => "QFORGE_EMPTY_MARKER"
  | notCount what _ => "QFORGE_INVALID_" ++ Chars.upper what
  | notDirection _ => "QFORGE_INVALID_SORT_DIRECTION"
  | notPage _ => "QFORGE_INVALID_PAGE"
  | notPageSize _ => "QFORGE_INVALID_PAGE_SIZE"
  | pageSizeTooLarge _ _ => "QFORGE_PAGE_SIZE_TOO_LARGE"
  | notJoinType _ => "QFORGE_INVALID_JOIN_TYPE"
  | emptyJoinCondition => "QFORGE_EMPTY_JOIN_CONDITION"
  | rowMismatch _ _ _ => "QFORGE_INSERT_ROW_MISMATCH"
  | notPattern _ => "QFORGE_INVALID_PATTERN"
  | notRelDirection _ => "QFORGE_INVALID_DIRECTION"
  | notMapping _ _ => "QFORGE_DOCUMENT_BAD_SECTION"
  | missingKey _ _ => "QFORGE_DOCUMENT_MISSING_KEY"
  | badPattern _ | badElement _ => "QFORGE_DOCUMENT_BAD_PATTERN"
  | badReference _ => "QFORGE_DOCUMENT_BAD_REFERENCE"
  | unknownStatement _ => "QFORGE_UNKNOWN_STATEMENT"
  | missingDialect => "QFORGE_DOCUMENT_MISSING_DIALECT"
  | custom code _ _ => code

def message : ArgumentFault → Str
  | emptyMarker => "Raw placeholder marker must be a non-empty string"
  | notCount what value => what ++ " must be a non-negative integer, got " ++ value.quoted
  | notDirection value => "Sort direction must be ASC or DESC, got " ++ value.quoted
  | notPage value => "page must be an integer >= 1, got " ++ value.quoted
  | notPageSize value => "page_size must be an integer >= 1, got " ++ value.quoted
  | pageSizeTooLarge size most =>
    "page_size " ++ Str.ofInt size ++ " exceeds the configured maximum " ++ most.shown
  | notJoinType value => "Join type must be INNER, LEFT or RIGHT, got " ++ value.quoted
  | emptyJoinCondition => "Join condition must be a non-empty string"
  | rowMismatch row _ _ => "Row " ++ Str.ofNat row ++ " has a different set of columns than row 0"
  | notPattern value => "Expected a Pattern or a non-empty string, got " ++ value.quoted
  | notRelDirection value =>
    "Relationship direction must be '->', '<-' or '-', got " ++ value.quoted
  | notMapping place value => place ++ " must be a mapping, got " ++ value.typeName
  | missingKey place key => place ++ " is missing required key '" ++ key ++ "'"
  | badPattern value =>
    "Expected a pattern string, a \x7bnode|rel\x7d mapping or a list of them, got " ++ value.quoted
  | badElement keys =>
    "Pattern elements must have a 'node' or 'rel' key, got " ++ (Value.list keys).quoted
  | badReference value => "Expected 'identifier.property', got " ++ value.quoted
  | unknownStatement statement =>
    "Unknown statement '" ++ statement ++ "'. Expected select, insert, update or delete"
  | missingDialect => "No dialect given and the document has no 'dialect' key"
  | custom _ message _ => message

def details : ArgumentFault → List (Str × Value)
  | emptyMarker | emptyJoinCondition | notPattern _ | missingDialect => []
  | notCount _ value => [("value", value)]
  | notDirection value | notRelDirection value => [("direction", value)]
  | notPage value => [("page", value)]
  | notPageSize value => [("page_size", value)]
  | pageSizeTooLarge size most => [("page_size", .int size), ("max_page_size", most)]
  | notJoinType value => [("type", value)]
  | rowMismatch row expected got =>
    [("row", .int row), ("expected", .list (expected.map .text)),
      ("got", .list (Value.strings got))]
  | notMapping place _ => [("section", .str place)]
  | missingKey place key => [("key", .str key), ("section", .str place)]
  | badPattern value => [("pattern", .str value.quoted)]
  | badElement keys => [("keys", .list keys)]
  | badReference value => [("reference", value)]
  | unknownStatement statement => [("statement", .str statement)]
  | custom _ _ details => details

def problem (f : ArgumentFault) : Problem :=
  ⟨f.code, .input, f.message, f.details, none⟩

end ArgumentFault

namespace ConfigFault

def report (code message : Str) (details : List (Str × Value)) (advice : Str) : Problem :=
  ⟨code, .config, message, details, some advice⟩

def verifyPath : Str :=
  "Verify the path is correct and the file exists."

def problem : ConfigFault → Problem
  | notFound path =>
    report "QFORGE_CONFIG_NOT_FOUND" ("Config not found: " ++ path) [("path", .str path)] verifyPath
  | unreadable path cause =>
    report "QFORGE_CONFIG_PARSE_ERROR" ("Failed to parse config: " ++ path)
      [("path", .str path), ("error", .str cause)]
      "Ensure the file is valid YAML or JSON encoded in UTF-8."
  | notMapping path type =>
    report "QFORGE_CONFIG_TOPLEVEL_NOT_OBJECT"
      ("Config file must be a YAML/JSON object, got " ++ type)
      [("path", .str path), ("type", .str type)]
      "Wrap the config in a mapping at the top-level."
  | badValue path cause =>
    report "QFORGE_CONFIG_INVALID_VALUE" ("Invalid builder config: " ++ cause)
      [("path", .str path)] "Fix the offending value under the 'builder' key."
  | documentNotFound path =>
    report "QFORGE_DOCUMENT_NOT_FOUND" ("Query document not found: " ++ path)
      [("path", .str path)] verifyPath
  | documentUnreadable path cause =>
    report "QFORGE_DOCUMENT_PARSE_ERROR" ("Failed to parse query document: " ++ path)
      [("path", .str path), ("error", .str cause)]
      "Ensure the file is valid YAML or JSON encoded in UTF-8."
  | documentNotMapping path type =>
    report "QFORGE_DOCUMENT_TOPLEVEL_NOT_OBJECT"
      ("Query document must be an object at top-level: " ++ path)
      [("path", .str path), ("type", .str type)]
      "Wrap the query document in a mapping at the top-level."
  | custom code message details advice => report code message details advice

end ConfigFault

namespace Refusal

/-- Drops every `s` at the end of a word. -/
def singular (what : Str) : Str :=
  Str.ofList (what.toList.reverse.dropWhile (· == ('s' : Chr))).reverse

def problem : Refusal → Problem
  | identifier name context =>
    ⟨"QFORGE_INVALID_IDENTIFIER", .input, "Invalid " ++ context ++ ": " ++ name.quoted,
      [("name", name), ("context", .str context)],
      some "Identifiers may only contain letters, digits and underscores."⟩
  | emptyInput what statement =>
    ⟨"QFORGE_EMPTY_INPUT", .input, "No " ++ what ++ " provided for " ++ statement,
      [("what", .str what), ("statement", .str statement)],
      some ("Pass at least one " ++ singular what ++ " to the " ++ statement ++ " builder.")⟩
  | condition fault => fault.problem
  | markerCount fragment markers values =>
    ⟨"QFORGE_PARAMETER_COUNT_MISMATCH", .input,
      "Raw fragment has " ++ Str.ofInt markers ++ " placeholder marker(s) but " ++
        Str.ofInt values ++ " value(s) were supplied",
      [("fragment", fragment), ("markers", .int markers), ("values", .int values)],
      some "Use one marker per bound value in raw fragments."⟩
  | argument fault => fault.problem
  | config fault => fault.problem
  | unknownDialect name available =>
    ⟨"QFORGE_UNKNOWN_DIALECT", .config,
      "Unknown dialect '" ++ name.shown ++ "'. Available: " ++ Str.intercalate ", " available,
      [("name", name), ("available", .list (Value.strings available))],
      some "Pick one of the registered dialects (`qforge dialects`)."⟩

def exitCode (r : Refusal) : Nat :=
  r.problem.category.exitCode

end Refusal

/-- The report as a record: the advice is left out when there is none. -/
def Problem.record (p : Problem) : Value :=
  .record (("code", .str p.code) :: ("category", .str p.category.name) ::
    ("message", .str p.message) :: ("details", (Value.record p.details).opened) ::
    match p.remediation with
    | some advice => [("remediation", .str advice)]
    | none => [])

namespace BadSetting

/-- At most two hundred characters of the text that is not a number are repeated. -/
def message : BadSetting → Str
  | blankMarker => "raw_marker must be a non-blank string"
  | dollarMarker => "raw_marker must not contain '$'"
  | defaultPageSize => "default_page_size must be >= 1"
  | maxPageSize => "max_page_size must be >= default_page_size"
  | logLevel => "log_level must be one of DEBUG, INFO, WARNING, ERROR, CRITICAL"
  | sectionNotMapping => "'builder' section must be a mapping"
  | integerText value =>
    "invalid literal for int() with base 10: " ++ Str.ofList (value.quoted.toList.take 200)
  | integerOfNaN => "cannot convert float NaN to integer"
  | pairLength index length =>
    "dictionary update sequence element #" ++ Str.ofNat index ++ " has length " ++
      Str.ofNat length ++ "; 2 is required"
  | unnamedDialect => "Dialect must define a non-empty .name"
  | unknownLevel level => "Unknown level: " ++ Chars.quoted level

end BadSetting

/-- What is wrong with a misuse: a value of the wrong kind is passed, a value is asked for what its
kind does not have or for an entry that it lacks, a number is out of range, or an operation has no
implementation. -/
inductive MisuseKind where
  | argument
  | member
  | entry
  | range
  | unimplemented
  deriving DecidableEq, Repr

def MisuseKind.name : MisuseKind → Str
  | argument => "TypeError"
  | member => "AttributeError"
  | entry => "KeyError"
  | range => "OverflowError"
  | unimplemented => "NotImplementedError"

namespace Misuse

def kind : Misuse → MisuseKind
  | noMember _ _ => .member
  | noEntry _ => .entry
  | integerOfInfinity => .range
  | abstractStore => .unimplemented
  | _ => .argument

def typeText (value : Value) : Str :=
  "'" ++ value.typeName ++ "'"

def message : Misuse → Str
  | notIterable value => typeText value ++ " object is not iterable"
  | noMember value member => typeText value ++ " object has no attribute '" ++ member ++ "'"
  | notText index value =>
    "sequence item " ++ Str.ofNat index ++ ": expected str instance, " ++ value.typeName ++ " found"
  | notInteger value =>
    "int() argument must be a string, a bytes-like object or a real number, not " ++ typeText value
  | notContainer value => "argument of type " ++ typeText value ++ " is not iterable"
  | unordered left right =>
    "'<' not supported between instances of " ++ typeText left ++ " and " ++ typeText right
  | unhashable value => "unhashable type: " ++ typeText value
  | notKey value => "keys must be str, int, float, bool or None, not " ++ value.typeName
  | notPath value => "expected str, bytes or os.PathLike object, not " ++ value.typeName
  | noEntry index => Str.ofNat index
  | arguments => "unexpected arguments"
  | integerOfInfinity => "cannot convert float infinity to integer"
  | abstractStore => ""

end Misuse

namespace FileFault

def text : FileFault → Str
  | isDirectory => "IsADirectoryError(21, 'Is a directory')"
  | alreadyExists => "FileExistsError(17, 'File exists')"
  | notDirectory => "NotADirectoryError(20, 'Not a directory')"

end FileFault

namespace Fault

/-- The failure of an encoding, which tells where the surrogates begin that it stops at and where
they end. -/
def encodingText (s : Str) : Str :=
  let start := (s.toList.takeWhile (·.char?.isSome)).length
  let run := ((s.toList.drop start).takeWhile (·.char?.isNone)).length
  "UnicodeEncodeError('utf-8', " ++ Chars.quoted s ++ ", " ++ Str.ofNat start ++ ", " ++
    Str.ofNat (start + run) ++ ", 'surrogates not allowed')"

/-- The kind of a failure and its message between quotes, for failures that have no code. -/
def text : Fault → Str
  | refusal r => r.problem.message
  | setting f => "ValueError(" ++ Chars.quoted f.message ++ ")"
  | misuse .abstractStore => MisuseKind.unimplemented.name ++ "()"
  | misuse m => m.kind.name ++ "(" ++ Chars.quoted m.message ++ ")"
  | file f => f.text
  | encoding s => encodingText s
  | outside text => text

end Fault
end BoundQuery
