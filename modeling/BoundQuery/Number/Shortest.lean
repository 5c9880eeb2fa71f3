import BoundQuery.Number.Binary64

/-!
# Shortest decimals

The decimal with the fewest digits that reads back as a given binary number, and of those the one
nearest to it; of two that are equally near the one with an even last digit.

For 1, 2, … digits the two neighbours of the number on the grid of that many digits are tested in
exact arithmetic: if any point of a grid reads back, one of the two does. A decimal reads back when
it lies between the midpoints to the next binary numbers; the midpoints themselves count when the
significand is even.
-/

namespace BoundQuery.Binary64

/-- The positive fraction `numerator / denominator`. -/
structure Fraction where
  numerator : Nat
  denominator : Nat

/-- The number `numerator · base ^ exponent`. -/
def Fraction.scaled (base numerator : Nat) (exponent : Int) : Fraction :=
  ⟨numerator * base.pow exponent.toNat, base.pow (-exponent).toNat⟩

def Fraction.le (a b : Fraction) : Bool :=
  a.numerator * b.denominator ≤ b.numerator * a.denominator

/-- The numbers that read back: from `low` to `high`, with both ends or without. -/
structure Interval where
  low : Fraction
  high : Fraction
  closed : Bool

def Interval.contains (i : Interval) (x : Fraction) : Bool :=
  if i.closed then i.low.le x && x.le i.high
  else !x.le i.low && !i.high.le x

def readingInterval (significand : Nat) (exponent : Int) (narrowBelow : Bool) : Interval where
  low := .scaled 2 (4 * significand - if narrowBelow then 1 else 2) (exponent - 2)
  high := .scaled 2 (4 * significand + 2) (exponent - 2)
  closed := significand % 2 == 0

/-- The least `k` from `start` on with `x < 10 ^ k`, looked for in `fuel` steps. -/
def magnitudeFrom (x : Fraction) : Nat → Int → Int
  | 0, k => k
  | fuel + 1, k =>
    if (Fraction.scaled 10 1 k).le x then magnitudeFrom x fuel (k + 1) else k

/-- The power of ten just above a binary number; `2 ^ 10` is a little more than `10 ^ 3`, so the
search starts at most a few hundredths of the exponent below its end. -/
def magnitude (x : Fraction) : Int :=
  let bits : Int := (Nat.log2 x.numerator : Int) - Nat.log2 x.denominator
  magnitudeFrom x 40 (bits * 30103 / 100000 - 1)

/-- The neighbours of `x` on the grid of multiples of `10 ^ unit`, the nearer one first. -/
def gridNeighbours (x : Fraction) (unit : Int) : List Nat :=
  let step := Fraction.scaled 10 1 unit
  let count := x.numerator * step.denominator
  let size := x.denominator * step.numerator
  let below := count / size
  let rest := count % size
  if rest * 2 < size || (rest * 2 == size && below % 2 == 0) then [below, below + 1]
  else [below + 1, below]

/-- The nearest decimal of `unit`s that reads back. -/
def onGrid? (i : Interval) (x : Fraction) (unit : Int) : Option Nat :=
  (gridNeighbours x unit).find? fun n => n != 0 && i.contains (.scaled 10 n unit)

/-- The first unit with a decimal that reads back; seventeen digits are always enough. -/
def searchDigits (i : Interval) (x : Fraction) : Nat → Int → Nat × Int
  | 0, unit => (max 1 ((gridNeighbours x unit).headD 1), unit)
  | fuel + 1, unit =>
    match onGrid? i x unit with
    | some n => (n, unit)
    | none => searchDigits i x fuel (unit - 1)

/-- Moves the zeros at the end of `n` into the exponent. -/
def dropZeros : Nat → Nat → Int → Nat × Int
  | 0, n, e => (n, e)
  | fuel + 1, n, e =>
    if n % 10 == 0 && n != 0 then dropZeros fuel (n / 10) (e + 1) else (n, e)

/-- Digits and exponent of the shortest decimal for `significand · 2 ^ exponent`. -/
def shortest (significand : Nat) (exponent : Int) (narrowBelow : Bool) : Nat × Int :=
  let x := Fraction.scaled 2 significand exponent
  let i := readingInterval significand exponent narrowBelow
  let (n, e) := searchDigits i x 17 (magnitude x - 1)
  dropZeros 20 n e

end BoundQuery.Binary64
