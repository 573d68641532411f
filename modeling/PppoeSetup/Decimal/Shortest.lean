import PppoeSetup.Decimal.Binary64

/-!
# Shortest decimal text

A binary number is written with the fewest digits that read back as the same number; of several
such texts the nearest, and of two equally near ones the larger. The notation is positional and
always has a point.
-/

namespace PppoeSetup.Decimal

/-- `digits * 10 ^ exponent`. -/
structure Scaled where
  digits : Nat
  exponent : Int
deriving DecidableEq

/-- The exponent of the leading decimal digit of the positive fraction `num / den`. -/
def leadingExponent (num den : Nat) : Int :=
  if den ≤ num then (digitCount (num / den) : Int) - 1
  else
    let shift := digitCount den - digitCount num
    if den ≤ num * Nat.pow 10 shift then -(shift : Int) else -(shift + 1 : Nat)

/-- The fraction `num / den` in units of `10 ^ exponent`. -/
def inPowersOfTen (num den : Nat) (exponent : Int) : Nat × Nat :=
  match exponent with
  | .ofNat e => (num, den * Nat.pow 10 e)
  | .negSucc e => (num * Nat.pow 10 (e + 1), den)

/-- A number between two bounds, all three over one denominator. The bounds themselves count if
`closed` is set. -/
structure Interval where
  low : Nat
  value : Nat
  high : Nat
  den : Nat
  closed : Bool

namespace Interval

/-- The numbers that round to `mantissa * 2 ^ exponent`. -/
def rounding (mantissa : Nat) (exponent : Int) : Interval :=
  let below := if mantissa = 1 <<< 52 ∧ Binary64.minExponent < exponent then 1 else 2
  let (scale, den) : Nat × Nat :=
    match exponent - 2 with
    | .ofNat e => (1 <<< e, 1)
    | .negSucc e => (1, 1 <<< (e + 1))
  { low := (4 * mantissa - below) * scale
    value := 4 * mantissa * scale
    high := (4 * mantissa + 2) * scale
    den
    closed := mantissa % 2 = 0 }

/-- Whether `digits * 10 ^ exponent` lies between the bounds. -/
def contains (i : Interval) (s : Scaled) : Bool :=
  let low := inPowersOfTen i.low i.den s.exponent
  let high := inPowersOfTen i.high i.den s.exponent
  if i.closed then low.1 ≤ s.digits * low.2 ∧ s.digits * high.2 ≤ high.1
  else low.1 < s.digits * low.2 ∧ s.digits * high.2 < high.1

/-- The neighbour of the value with `count` digits that lies between the bounds, the nearer one
if both do. -/
def neighbour? (i : Interval) (count : Nat) : Option Scaled :=
  let exponent := leadingExponent i.value i.den - (count : Int) + 1
  let units := inPowersOfTen i.value i.den exponent
  let down : Scaled := ⟨units.1 / units.2, exponent⟩
  let up : Scaled := ⟨units.1 / units.2 + 1, exponent⟩
  match i.contains down, i.contains up with
  | true, true => if 2 * (units.1 % units.2) < units.2 then some down else some up
  | true, false => some down
  | false, true => some up
  | false, false => none

/-- Seventeen digits always suffice. -/
def shortest (i : Interval) : Scaled :=
  ((List.range 17).findSome? fun n => i.neighbour? (n + 1)).getD ⟨0, 0⟩

end Interval

/-- Positional notation of `digits * 10 ^ exponent`, with at least one digit after the point. -/
def Scaled.positional (s : Scaled) : List Char :=
  let digits := Nat.toDigits 10 s.digits
  match s.exponent with
  | .ofNat e => digits ++ List.replicate e '0' ++ ['.', '0']
  | .negSucc e =>
    let places := e + 1
    let padded := List.replicate (places + 1 - digits.length) '0' ++ digits
    let whole := padded.take (padded.length - places)
    let fraction := (padded.drop (padded.length - places)).reverse.dropWhile (· = '0')
    whole ++ '.' :: (if fraction = [] then ['0'] else fraction.reverse)

def Binary64.text : Binary64 → String
  | notANumber => "NaN"
  | infinite negative => if negative then "-inf" else "inf"
  | finite negative mantissa exponent =>
    let digits :=
      if mantissa = 0 then ['0', '.', '0']
      else (Interval.rounding mantissa exponent).shortest.positional
    String.ofList (if negative then '-' :: digits else digits)

end PppoeSetup.Decimal
