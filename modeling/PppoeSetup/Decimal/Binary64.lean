/-!
# Binary floating-point numbers

Numbers `mantissa * 2 ^ exponent` with a mantissa of 53 bits. A decimal number is read as the
nearest of them; of two equally near ones the one with the even mantissa is taken.
-/

namespace PppoeSetup.Decimal

inductive Binary64
  | finite (negative : Bool) (mantissa : Nat) (exponent : Int)
  | infinite (negative : Bool)
  | notANumber
deriving DecidableEq

/-- The quotient rounded to the nearest natural number, ties to the even one. -/
def roundDiv (num den : Nat) : Nat :=
  let q := num / den
  let r := num % den
  if 2 * r < den then q
  else if den < 2 * r then q + 1
  else if q % 2 = 0 then q
  else q + 1

/-- The number of decimal digits of `n`. -/
def digitCount (n : Nat) : Nat := (Nat.toDigits 10 n).length

namespace Binary64

/-- The smallest exponent; below the numbers that it gives are only multiples of it. -/
def minExponent : Int := -1074

/-- The fraction `num / den` in units of `2 ^ exponent`. -/
def inUnits (num den : Nat) (exponent : Int) : Nat × Nat :=
  match exponent with
  | .ofNat e => (num, den <<< e)
  | .negSucc e => (num <<< (e + 1), den)

/-- The nearest number to the positive fraction `num / den`, or nothing if that is too large. -/
def ofFraction? (negative : Bool) (num den : Nat) : Option Binary64 :=
  let estimate : Int := (num.log2 : Int) - den.log2 - 53
  let units := inUnits num den estimate
  let normal := if units.1 < units.2 <<< 53 then estimate else estimate + 1
  let exponent := max normal minExponent
  let units := inUnits num den exponent
  let mantissa := roundDiv units.1 units.2
  let (mantissa, exponent) :=
    if mantissa = 1 <<< 53 then (1 <<< 52, exponent + 1) else (mantissa, exponent)
  if 971 < exponent then none else some (.finite negative mantissa exponent)

/-- The nearest number to `digits * 10 ^ exponent`, or nothing if that is too large. -/
def ofDecimal? (negative : Bool) (digits : Nat) (exponent : Int) : Option Binary64 :=
  if digits = 0 then some (.finite negative 0 minExponent)
  else if 310 < exponent + digitCount digits then none
  else if exponent + digitCount digits < -330 then some (.finite negative 0 minExponent)
  else
    match exponent with
    | .ofNat e => ofFraction? negative (digits * Nat.pow 10 e) 1
    | .negSucc e => ofFraction? negative digits (Nat.pow 10 (e + 1))

end Binary64

end PppoeSetup.Decimal
