import BoundQuery.Json.Basic
import BoundQuery.Number.Literal

/-!
# Reading JSON

A reader for JSON text. Every step into a list or a mapping uses up a character, so the length of
the text bounds the depth of the reading.
-/

namespace BoundQuery.Json

/-- Spaces and line breaks may stand between the parts of a text; tabs may not. -/
def isSpace (c : Chr) : Bool :=
  c == ' ' || c == '\n' || c == '\r'

def skipSpace (cs : List Chr) : List Chr :=
  cs.dropWhile isSpace

def hexDigit? (c : Chr) : Option Nat :=
  if c.isDigit then some (c.toNat - '0'.toNat)
  else if 'a' ≤ c && c ≤ 'f' then some (c.toNat - 'a'.toNat + 10)
  else if 'A' ≤ c && c ≤ 'F' then some (c.toNat - 'A'.toNat + 10)
  else none

def hexValue? (cs : List Chr) : Option Nat :=
  cs.foldl (fun n c => do return 16 * (← n) + (← hexDigit? c)) (some 0)

/-- The character of an escape of one letter. -/
def escape? : Chr → Option Chr
  | '"' => some '"'
  | '\\' => some '\\'
  | '/' => some '/'
  | 'n' => some '\n'
  | 'r' => some '\r'
  | 't' => some '\t'
  | 'b' => some (Chr.ofNat 0x08)
  | 'f' => some (Chr.ofNat 0x0c)
  | _ => none

/-- The rest of a string after its opening quote. Each escape of four digits is a code point of its
own, so that the surrogates of a pair stay two. -/
def readString : Nat → List Chr → Option (List Chr × List Chr)
  | 0, _ => none
  | _ + 1, '"' :: rest => some ([], rest)
  | fuel + 1, '\\' :: 'u' :: rest => do
    let n ← hexValue? (rest.take 4)
    let (cs, rest) ← readString fuel (rest.drop 4)
    return (Chr.ofNat n :: cs, rest)
  | fuel + 1, '\\' :: c :: rest => do
    let c ← escape? c
    let (cs, rest) ← readString fuel rest
    return (c :: cs, rest)
  | fuel + 1, c :: rest => do
    if c.toNat < 0x20 then none
    let (cs, rest) ← readString fuel rest
    return (c :: cs, rest)
  | _ + 1, [] => none

def readWord (word : Str) (j : Json) (cs : List Chr) : Option (Json × List Chr) :=
  if word.toList.isPrefixOf cs then some (j, cs.drop word.length) else none

def readNumber (cs : List Chr) : Option (Json × List Chr) := do
  let (l, rest) ← Literal.scan? cs
  return (if l.whole then .int l.integer else .float l.toBinary64, rest)

mutual

def readValue : Nat → List Chr → Option (Json × List Chr)
  | 0, _ => none
  | fuel + 1, cs =>
    match skipSpace cs with
    | '"' :: rest => do
      let (s, rest) ← readString (rest.length + 1) rest
      return (.str (Str.ofList s), rest)
    | '[' :: rest =>
      match skipSpace rest with
      | ']' :: rest => some (.arr [], rest)
      | rest => do
        let (xs, rest) ← readItems fuel rest
        return (.arr xs, rest)
    | '\x7b' :: rest =>
      match skipSpace rest with
      | '\x7d' :: rest => some (.obj [], rest)
      | rest => do
        let (fields, rest) ← readFields fuel rest
        return (.obj fields, rest)
    | 't' :: rest => readWord "true" (.bool true) (.scalar 't' :: rest)
    | 'f' :: rest => readWord "false" (.bool false) (.scalar 'f' :: rest)
    | 'n' :: rest => readWord "null" .null (.scalar 'n' :: rest)
    | cs => readNumber cs

/-- The items of a list up to its closing bracket. -/
def readItems : Nat → List Chr → Option (List Json × List Chr)
  | 0, _ => none
  | fuel + 1, cs => do
    let (x, rest) ← readValue fuel cs
    match skipSpace rest with
    | ',' :: rest =>
      let (xs, rest) ← readItems fuel rest
      return (x :: xs, rest)
    | ']' :: rest => return ([x], rest)
    | _ => none

/-- The fields of a mapping up to its closing bracket. -/
def readFields : Nat → List Chr → Option (List (Str × Json) × List Chr)
  | 0, _ => none
  | fuel + 1, cs =>
    match skipSpace cs with
    | '"' :: rest => do
      let (key, rest) ← readString (rest.length + 1) rest
      let ':' :: rest := skipSpace rest | none
      let (x, rest) ← readValue fuel rest
      match skipSpace rest with
      | ',' :: rest =>
        let (fields, rest) ← readFields fuel rest
        return ((Str.ofList key, x) :: fields, rest)
      | '\x7d' :: rest => return ([(Str.ofList key, x)], rest)
      | _ => none
    | _ => none

end

/-- The tree of a text; a text of spaces alone stands for null. -/
def read? (s : Str) : Option Json :=
  let cs := skipSpace s.toList
  if cs.isEmpty then some .null
  else do
    let (j, rest) ← readValue (cs.length + 1) cs
    if (skipSpace rest).isEmpty then some j else none

end BoundQuery.Json
