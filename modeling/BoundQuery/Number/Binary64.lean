/-!
# Binary floating-point numbers

A number of 64 bits is read as a sign, a significand and a power of two, so that comparing it with
an integer or cutting off its fraction is exact arithmetic on integers.
-/

namespace BoundQuery

structure Binary64 where
  bits : UInt64
  deriving DecidableEq, Repr

namespace Binary64

inductive Reading where
  | nan
  | infinite (negative : Bool)
  /-- The number `± significand · 2 ^ exponent`. -/
  | finite (negative : Bool) (significand : Nat) (exponent : Int)
  deriving DecidableEq, Repr

def isNegative (x : Binary64) : Bool :=
  Nat.pow 2 63 ≤ x.bits.toNat

def exponentField (x : Binary64) : Nat :=
  x.bits.toNat / Nat.pow 2 52 % Nat.pow 2 11

def fractionField (x : Binary64) : Nat :=
  x.bits.toNat % Nat.pow 2 52

def read (x : Binary64) : Reading :=
  if x.exponentField == 2047 then
    if x.fractionField == 0 then .infinite x.isNegative else .nan
  else if x.exponentField == 0 then
    .finite x.isNegative x.fractionField (-1074)
  else
    .finite x.isNegative (Nat.pow 2 52 + x.fractionField) (x.exponentField - 1075)

/-- Below a power of two the numbers lie twice as close as above it. -/
def isNarrowBelow (x : Binary64) : Bool :=
  x.fractionField == 0 && 1 < x.exponentField

def isZero (x : Binary64) : Bool :=
  match x.read with
  | .finite _ significand _ => significand == 0
  | _ => false

def signed (negative : Bool) (n : Nat) : Int :=
  if negative then -n else n

end Binary64

/-- Where a number lies: nowhere, at either end, or at `numerator · 2 ^ exponent`. -/
inductive Measure where
  | nowhere
  | bottom
  | top
  | dyadic (numerator exponent : Int)
  deriving DecidableEq, Repr

namespace Measure

/-- The order of numbers; a number that lies nowhere is not below any other. -/
def lt : Measure → Measure → Bool
  | .nowhere, _ | _, .nowhere => false
  | .bottom, .bottom => false
  | .bottom, _ => true
  | _, .bottom => false
  | .top, _ => false
  | _, .top => true
  | .dyadic a p, .dyadic b q =>
    decide (a * Int.pow 2 (p - min p q).toNat < b * Int.pow 2 (q - min p q).toNat)

def ofInt (i : Int) : Measure :=
  .dyadic i 0

@[simp] theorem lt_ofInt (i j : Int) : (ofInt i).lt (ofInt j) = decide (i < j) := by
  simp [ofInt, lt, Int.pow]

end Measure

def Binary64.measure (x : Binary64) : Measure :=
  match x.read with
  | .nan => .nowhere
  | .infinite true => .bottom
  | .infinite false => .top
  | .finite negative significand exponent => .dyadic (signed negative significand) exponent

/-- The integer that is left when the fraction of `significand · 2 ^ exponent` is cut off. -/
def Binary64.cutFraction (negative : Bool) (significand : Nat) (exponent : Int) : Int :=
  signed negative (significand * Nat.pow 2 exponent.toNat / Nat.pow 2 (-exponent).toNat)

end BoundQuery
