import BoundQuery.Chars.Quoted
import BoundQuery.Number.Decimal
import BoundQuery.Value.Basic

/-!
# Display of values

How messages show a value: `quoted` writes texts between quotes at every depth, `shown` writes a
text that stands alone as it is.
-/

namespace BoundQuery

def boolText (b : Bool) : Str :=
  if b then "True" else "False"

/-- A single element is followed by a comma. -/
def tupleText : List Str → Str
  | [item] => "(" ++ item ++ ",)"
  | items => "(" ++ Str.intercalate ", " items ++ ")"

def braced (s : Str) : Str :=
  "\x7b" ++ s ++ "\x7d"

def setText : List Str → Str
  | [] => "set()"
  | items => braced (Str.intercalate ", " items)

def Text.quoted : Text → Str
  | .plain s => Chars.quoted s
  | .term t => "<" ++ t.shown ++ ": " ++ Chars.quoted t.spelling ++ ">"

namespace Value

mutual

def quoted : Value → Str
  | .null => "None"
  | .bool b => boolText b
  | .int i => Str.ofInt i
  | .float x => DecimalFormat.plain.text x
  | .text t => t.quoted
  | .list xs => "[" ++ Str.intercalate ", " (quotedList xs) ++ "]"
  | .tuple xs => tupleText (quotedList xs)
  | .set xs => setText (quotedList xs)
  | .map entries => braced (Str.intercalate ", " (quotedEntries entries))
  | .comparator c operand => c.name ++ "(value=" ++ quoted operand ++ ")"
  | .pattern written identifiers bindings =>
    "Pattern(text=" ++ Chars.quoted written ++
      ", identifiers=" ++ tupleText (identifiers.map Text.quoted) ++
      ", params=" ++ braced (Str.intercalate ", " (quotedBindings bindings)) ++ ")"

def quotedList : List Value → List Str
  | [] => []
  | x :: xs => quoted x :: quotedList xs

def quotedEntries : List (Value × Value) → List Str
  | [] => []
  | (key, value) :: rest => (quoted key ++ ": " ++ quoted value) :: quotedEntries rest

def quotedBindings : List (Str × Value) → List Str
  | [] => []
  | (name, value) :: rest => (Chars.quoted name ++ ": " ++ quoted value) :: quotedBindings rest

end

def shown : Value → Str
  | .text t => t.shown
  | v => v.quoted

mutual

/-- Opens comparators and patterns at every depth into mappings of their fields, as the details of
an error report hold them. -/
def opened : Value → Value
  | .list xs => .list (openedList xs)
  | .tuple xs => .tuple (openedList xs)
  | .map entries => .map (openedEntries entries)
  | .comparator _ operand => .record [("value", opened operand)]
  | .pattern written identifiers bindings =>
    .record [("text", .str written), ("identifiers", .tuple (identifiers.map .text)),
      ("params", .record (openedBindings bindings))]
  | v => v

def openedList : List Value → List Value
  | [] => []
  | x :: xs => opened x :: openedList xs

def openedEntries : List (Value × Value) → List (Value × Value)
  | [] => []
  | (key, value) :: rest => (opened key, opened value) :: openedEntries rest

def openedBindings : List (Str × Value) → List (Str × Value)
  | [] => []
  | (name, value) :: rest => (name, opened value) :: openedBindings rest

end

end Value
end BoundQuery
