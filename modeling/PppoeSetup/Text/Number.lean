/-!
# Decimal numbers in ASCII digits
-/

namespace PppoeSetup.Text

/-- The value of an ASCII decimal digit. -/
def digit? (c : Char) : Option Nat :=
  if '0' ≤ c ∧ c ≤ '9' then some (c.toNat - 48) else none

/-- Continues a decimal number that has the value `n` so far. -/
def decimalFrom (n : Nat) : List Char → Option Nat
  | [] => some n
  | c :: cs =>
    match digit? c with
    | some d => decimalFrom (10 * n + d) cs
    | none => none

/-- Reads one or more digits; leading zeros are allowed. -/
def decimal? : List Char → Option Nat
  | [] => none
  | cs => decimalFrom 0 cs

/-- Reads an unsigned number that a single `+` may precede. -/
def unsigned? : List Char → Option Nat
  | '+' :: cs => decimal? cs
  | cs => decimal? cs

end PppoeSetup.Text
