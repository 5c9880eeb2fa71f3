import BoundQuery.Chars.Quoted
import BoundQuery.Json.Basic

/-!
# JSON text

A tree is written on one line, with or without spaces, or over several lines with each level
indented by two more columns. Only quotes, backslashes and control characters are escaped.
-/

namespace BoundQuery.Json

inductive Layout where
  | compact
  | spaced
  | indented
  deriving DecidableEq, Repr

def escapeChar (c : Chr) : List Chr :=
  if c == '"' then ['\\', '"']
  else if c == '\\' then ['\\', '\\']
  else if c == '\n' then ['\\', 'n']
  else if c == '\r' then ['\\', 'r']
  else if c == '\t' then ['\\', 't']
  else if c.toNat == 0x0c then ['\\', 'f']
  else if c.toNat == 0x08 then ['\\', 'b']
  else if c.toNat < 0x20 then '\\' :: 'u' :: Chars.hex 4 c.toNat
  else [c]

def stringText (s : Str) : Str :=
  "\"" ++ Str.ofList (s.toList.flatMap escapeChar) ++ "\""

namespace Layout

def colon : Layout → Str
  | compact => ":"
  | _ => ": "

def lineBreak (depth : Nat) : Str :=
  Str.ofList (.scalar '\n' :: List.replicate (2 * depth) ' ')

/-- Items between two brackets, which stand at `depth`. -/
def enclose (l : Layout) (left right : Str) (depth : Nat) (items : List Str) : Str :=
  if items.isEmpty then left ++ right
  else match l with
    | compact => left ++ Str.intercalate "," items ++ right
    | spaced => left ++ Str.intercalate ", " items ++ right
    | indented =>
      left ++ lineBreak (depth + 1) ++ Str.intercalate ("," ++ lineBreak (depth + 1)) items ++
        lineBreak depth ++ right

end Layout

mutual

def write (l : Layout) (depth : Nat) : Json → Str
  | .null => "null"
  | .bool b => if b then "true" else "false"
  | .int i => Str.ofInt i
  | .float x => DecimalFormat.json.text x
  | .str s => stringText s
  | .arr xs => l.enclose "[" "]" depth (writeList l (depth + 1) xs)
  | .obj fields => l.enclose "\x7b" "\x7d" depth (writeFields l (depth + 1) fields)

def writeList (l : Layout) (depth : Nat) : List Json → List Str
  | [] => []
  | x :: xs => write l depth x :: writeList l depth xs

def writeFields (l : Layout) (depth : Nat) : List (Str × Json) → List Str
  | [] => []
  | (key, x) :: rest =>
    (stringText key ++ l.colon ++ write l depth x) :: writeFields l depth rest

end

def text (l : Layout) (j : Json) : Str :=
  j.write l 0

/-- The one text of a value up to the order of keys: sorted, without spaces. -/
def canonical (v : Value) : Result Str :=
  return (← ofValue true v).text .compact

/-- The bytes of a text in UTF-8, which has none for surrogates. -/
def bytes (s : Str) : Result ByteArray :=
  match s.string? with
  | some t => .ok t.toUTF8
  | none => .error (.encoding s)

def canonicalBytes (v : Value) : Result ByteArray := do
  bytes (← canonical v)

end BoundQuery.Json
