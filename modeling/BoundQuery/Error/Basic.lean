import BoundQuery.Value.Basic

/-!
# Causes of failure

Why a request is turned down, cause by cause. A `Refusal` is reported with a code, details and
advice; a `BadSetting` with a sentence alone; a `Misuse` is a value of a kind on which the operation
asked for does not exist. What each says is in `BoundQuery.Error.Report`.
-/

namespace BoundQuery

inductive Dialect where
  | relational
  | graph
  deriving DecidableEq, Repr

inductive ConditionFault where
  | unknownFilter (key : Text)
  | unsupported (field : Text) (operator : Value)
  | unavailable (field : Text) (op : Operator) (dialect : Dialect)
  | comparesNull (field : Text) (op : Operator)
  | onlyNull (field : Text) (op : Operator)
  | needsList (field : Text) (op : Operator) (operand : Value)
  | blankCondition
  | blankFragment
  | custom (message : Str) (details : List (Str × Value))

inductive ArgumentFault where
  | emptyMarker
  | notCount (what : Str) (value : Value)
  | notDirection (value : Value)
  | notPage (value : Value)
  | notPageSize (value : Value)
  | pageSizeTooLarge (size : Int) (most : Value)
  | notJoinType (value : Value)
  | emptyJoinCondition
  | rowMismatch (row : Nat) (expected : List Text) (got : List Str)
  | notPattern (value : Value)
  | notRelDirection (value : Value)
  | notMapping (place : Str) (value : Value)
  | missingKey (place key : Str)
  | badPattern (value : Value)
  | badElement (keys : List Value)
  | badReference (value : Value)
  | unknownStatement (statement : Str)
  | missingDialect
  | custom (code message : Str) (details : List (Str × Value))

inductive ConfigFault where
  | notFound (path : Str)
  | unreadable (path cause : Str)
  | notMapping (path type : Str)
  | badValue (path cause : Str)
  | documentNotFound (path : Str)
  | documentUnreadable (path cause : Str)
  | documentNotMapping (path type : Str)
  | custom (code message : Str) (details : List (Str × Value)) (remediation : Str)

inductive Refusal where
  | identifier (name : Value) (context : Str)
  | emptyInput (what statement : Str)
  | condition (fault : ConditionFault)
  | markerCount (fragment : Value) (markers values : Int)
  | argument (fault : ArgumentFault)
  | config (fault : ConfigFault)
  | unknownDialect (name : Value) (available : List Str)

inductive BadSetting where
  | blankMarker
  | dollarMarker
  | defaultPageSize
  | maxPageSize
  | logLevel
  | sectionNotMapping
  | integerText (value : Value)
  | integerOfNaN
  | pairLength (index length : Nat)
  | unnamedDialect
  | unknownLevel (level : Str)

inductive Misuse where
  | notIterable (value : Value)
  | noMember (value : Value) (member : Str)
  | notText (index : Nat) (value : Value)
  | notInteger (value : Value)
  | notContainer (value : Value)
  | unordered (left right : Value)
  | unhashable (value : Value)
  | notKey (value : Value)
  | notPath (value : Value)
  | noEntry (index : Nat)
  | arguments
  | integerOfInfinity
  | abstractStore

/-- Why a file could not be read or written. -/
inductive FileFault where
  | isDirectory
  | alreadyExists
  | notDirectory

/-- A text with surrogates has no encoding. A fault that arises outside, when a text is read or a
write is turned down, comes with its own words. -/
inductive Fault where
  | refusal (refusal : Refusal)
  | setting (fault : BadSetting)
  | misuse (misuse : Misuse)
  | file (fault : FileFault)
  | encoding (text : Str)
  | outside (text : Str)

namespace Fault

def condition (fault : ConditionFault) : Fault :=
  .refusal (.condition fault)

def argument (fault : ArgumentFault) : Fault :=
  .refusal (.argument fault)

def config (fault : ConfigFault) : Fault :=
  .refusal (.config fault)

def identifier (name : Value) (context : Str) : Fault :=
  .refusal (.identifier name context)

end Fault

/-- The outcome of a request that may be turned down. -/
abbrev Result (α : Type) := Except Fault α

end BoundQuery
