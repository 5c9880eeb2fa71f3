import BoundQuery.Chars.Blank
import BoundQuery.Chars.Digit
import BoundQuery.Error.Basic

/-!
# Integers from values

The integer that a value stands for: a truth value counts as one or zero, a fraction is cut off, and
a text is read as digits of any script with single underscores between them, a sign before them and
white space around them.
-/

namespace BoundQuery.Value

/-- One character of a written integer in ASCII; other scripts' digits and white space stand for
the ASCII ones. -/
def integerChar? (c : Chr) : Option Chr :=
  if c.toNat < 0x7f then some c
  else if Chars.isBlank c then some ' '
  else (Chars.digitValue? c).map fun n => Nat.digitChar n

/-- White space that may stand around an integer. -/
def isIntegerSpace (c : Chr) : Bool :=
  c == ' ' || (('\t' : Chr) ≤ c && c ≤ '\r')

/-- Digits with single underscores between them; `afterDigit` says whether an underscore may come
next. -/
def integerDigits? (afterDigit : Bool) : List Chr → Option (List Nat)
  | [] => if afterDigit then some [] else none
  | c :: rest =>
    if c.isDigit then (integerDigits? true rest).map ((c.toNat - '0'.toNat) :: ·)
    else if c == '_' && afterDigit then integerDigits? false rest
    else none

def integerSign : List Chr → Bool × List Chr
  | '-' :: rest => (true, rest)
  | '+' :: rest => (false, rest)
  | rest => (false, rest)

def trimInteger (cs : List Chr) : List Chr :=
  ((cs.dropWhile isIntegerSpace).reverse.dropWhile isIntegerSpace).reverse

/-- The sign and the digits of a written integer. -/
def writtenInteger? (cs : List Chr) : Option (Bool × List Nat) := do
  let ascii ← cs.mapM integerChar?
  let (negative, digits) := integerSign (trimInteger ascii)
  return (negative, ← integerDigits? false digits)

/-- The integer that a text spells, of however many digits. -/
def integerOfText (t : Text) : Result Int :=
  match writtenInteger? t.chars with
  | none => .error (.setting (.integerText (.text t)))
  | some (negative, digits) => .ok (Binary64.signed negative (digits.foldl (10 * · + ·) 0))

def integerOfFloat (x : Binary64) : Result Int :=
  match x.read with
  | .nan => .error (.setting .integerOfNaN)
  | .infinite _ => .error (.misuse .integerOfInfinity)
  | .finite negative significand exponent =>
    .ok (Binary64.cutFraction negative significand exponent)

def toInteger : Value → Result Int
  | .bool b => .ok b.toNat
  | .int i => .ok i
  | .float x => integerOfFloat x
  | .text t => integerOfText t
  | v => .error (.misuse (.notInteger v))

end BoundQuery.Value
