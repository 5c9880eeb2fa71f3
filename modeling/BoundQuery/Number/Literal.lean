import BoundQuery.Number.Binary64
import BoundQuery.Str

/-!
# Written decimals

A decimal as it is written, with an optional fraction and exponent, and the binary number nearest
to it.
-/

namespace BoundQuery

/-- The decimal `± mantissa · 10 ^ exponent`; `whole` when it is written without point and
exponent. -/
structure Literal where
  negative : Bool
  mantissa : Nat
  exponent : Int
  whole : Bool
  deriving DecidableEq, Repr

namespace Literal

def digitsValue (cs : List Chr) : Nat :=
  cs.foldl (fun n c => 10 * n + (c.toNat - '0'.toNat)) 0

/-- The digits at the start of a text, and what follows them. -/
def spanDigits (cs : List Chr) : List Chr × List Chr :=
  (cs.takeWhile Chr.isDigit, cs.dropWhile Chr.isDigit)

def scanSign : List Chr → Bool × List Chr
  | '-' :: rest => (true, rest)
  | '+' :: rest => (false, rest)
  | rest => (false, rest)

/-- A fraction after its point; the point needs a digit after it. -/
def scanFraction : List Chr → List Chr × List Chr
  | '.' :: rest =>
    match spanDigits rest with
    | ([], _) => ([], '.' :: rest)
    | (digits, rest) => (digits, rest)
  | rest => ([], rest)

def scanExponent (cs : List Chr) : Option Int × List Chr :=
  match cs with
  | c :: rest =>
    if c == 'e' || c == 'E' then
      let (negative, unsigned) := scanSign rest
      match spanDigits unsigned with
      | ([], _) => (none, cs)
      | (digits, rest) => (some (Binary64.signed negative (digitsValue digits)), rest)
    else (none, cs)
  | [] => (none, cs)

/-- The decimal at the start of a text, and what follows it. -/
def scan? (cs : List Chr) : Option (Literal × List Chr) :=
  let (negative, unsigned) := scanSign cs
  match spanDigits unsigned with
  | ([], _) => none
  | (digits, rest) =>
    let (fraction, rest) := scanFraction rest
    let (exponent, rest) := scanExponent rest
    some ({ negative, mantissa := digitsValue (digits ++ fraction)
            exponent := exponent.getD 0 - fraction.length
            whole := fraction.isEmpty && exponent.isNone }, rest)

def integer (l : Literal) : Int :=
  Binary64.signed l.negative l.mantissa

/-- The nearest binary number; the exponent is cut to the range in which it makes a difference. -/
def toBinary64 (l : Literal) : Binary64 :=
  let size := l.mantissa.log2 + 1100
  let e := max (-size : Int) (min l.exponent 400)
  let x := Float.ofScientific l.mantissa (e < 0) e.natAbs
  ⟨(if l.negative then -x else x).toBits⟩

end Literal

/-- Reads the text of a number that need not be whole or finite. -/
def Binary64.ofText? (s : Str) : Option Binary64 :=
  match s.string? with
  | some "nan" => some ⟨0x7ff8000000000000⟩
  | some "inf" => some ⟨0x7ff0000000000000⟩
  | some "-inf" => some ⟨0xfff0000000000000⟩
  | _ =>
    match Literal.scan? s.toList with
    | some (l, []) => some l.toBinary64
    | _ => none

end BoundQuery
