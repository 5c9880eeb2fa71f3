import BoundQuery.Number.Shortest

/-!
# Decimal text of numbers

How a binary number is written: the digits of its shortest decimal, with a point from `10 ^ -4` up
to below `10 ^ 16` and with an exponent outside. A number without a fraction keeps `.0`.
-/

namespace BoundQuery

/-- The choices of a decimal format. -/
structure DecimalFormat where
  /-- Numbers with the point right after digit `leastPoint` to `mostPoint` are written without an
  exponent. -/
  leastPoint : Int
  mostPoint : Int
  exponentMark : String
  exponentDigits : Nat
  nan : String
  infinity : String

/-- Point notation from `0.0001` up to sixteen digits, and an exponent of two digits or more. -/
def DecimalFormat.plain : DecimalFormat where
  leastPoint := -3
  mostPoint := 16
  exponentMark := "e"
  exponentDigits := 2
  nan := "nan"
  infinity := "inf"

/-- The same digits, with the names that JSON readers accept beyond the standard. -/
def DecimalFormat.json : DecimalFormat :=
  { DecimalFormat.plain with nan := "NaN", infinity := "Infinity" }

namespace DecimalFormat

def zeros (n : Nat) : String :=
  String.ofList (List.replicate n '0')

/-- The digits with the point after the first `point` of them. -/
def pointed (digits : List Char) (point : Int) : String :=
  if point ≤ 0 then
    "0." ++ zeros (-point).toNat ++ String.ofList digits
  else if digits.length ≤ point.toNat then
    String.ofList digits ++ zeros (point.toNat - digits.length) ++ ".0"
  else
    String.ofList (digits.take point.toNat) ++ "." ++ String.ofList (digits.drop point.toNat)

def exponentText (f : DecimalFormat) (e : Int) : String :=
  let digits := toString e.natAbs
  let sign := if e < 0 then "-" else "+"
  f.exponentMark ++ sign ++ zeros (f.exponentDigits - digits.length) ++ digits

def scientific (f : DecimalFormat) (digits : List Char) (point : Int) : String :=
  match digits with
  | [] => ""
  | [d] => String.singleton d ++ f.exponentText (point - 1)
  | d :: rest => String.singleton d ++ "." ++ String.ofList rest ++ f.exponentText (point - 1)

def finite (f : DecimalFormat) (n : Nat) (e : Int) : String :=
  let digits := Nat.toDigits 10 n
  let point := e + digits.length
  if f.leastPoint ≤ point && point ≤ f.mostPoint then pointed digits point
  else f.scientific digits point

def sign (negative : Bool) : String :=
  if negative then "-" else ""

def text (f : DecimalFormat) (x : Binary64) : String :=
  match x.read with
  | .nan => f.nan
  | .infinite negative => sign negative ++ f.infinity
  | .finite negative 0 _ => sign negative ++ "0.0"
  | .finite negative significand exponent =>
    let (n, e) := Binary64.shortest significand exponent x.isNarrowBelow
    sign negative ++ f.finite n e

end DecimalFormat
end BoundQuery
