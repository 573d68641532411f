import PppoeSetup.Decimal.Binary64
import PppoeSetup.Text.Hex
import PppoeSetup.Text.Number
import PppoeSetup.Text.Pieces

/-!
# Numbers of TOML

Integers are decimal with an optional sign and without leading zeros, or hexadecimal, octal or
binary with a mark and without a sign. Floats have a fraction or an exponent, or are infinite, or
no number. A single underscore may stand between two digits.

A decimal integer with underscores is only looked at around them, where digits of base sixteen
will do. Such a text, and a mark without digits, counts as an integer even if it is no number.
-/

namespace PppoeSetup.Toml

open PppoeSetup.Text PppoeSetup.Decimal

/-- The digits of a run, without the underscores between them. -/
def ungroup (isDigit : Char → Bool) : List Char → Option (List Char)
  | [] => none
  | [d] => if isDigit d then some [d] else none
  | d :: '_' :: r => if isDigit d then (ungroup isDigit r).map (d :: ·) else none
  | d :: r => if isDigit d then (ungroup isDigit r).map (d :: ·) else none

/-- The number with the given digits. -/
def ofDigits (base : Nat) (digits : List Char) : Nat :=
  digits.foldl (fun n d => base * n + (hexDigit? d).getD 0) 0

def isDecimalDigit (c : Char) : Bool := (digit? c).isSome

def isExponentMark (c : Char) : Bool := c = 'e' || c = 'E'

def isDigitOf (base : Nat) (c : Char) : Bool := (hexDigit? c).any (· < base)

/-- A run of digits in the given base; an empty one is no number. -/
def marked? (base : Nat) (cs : List Char) : Option (Option Int) :=
  if cs = [] then some none
  else (ungroup (isDigitOf base) cs).map fun digits => some (ofDigits base digits)

/-- An optional sign, which is `true` for a minus, and what follows. -/
def signed : List Char → Option Bool × List Char
  | '+' :: r => (some false, r)
  | '-' :: r => (some true, r)
  | r => (none, r)

/-- A number with its sign. -/
def withSign (sign : Option Bool) (n : Nat) : Int :=
  if sign = some true then -(n : Int) else n

/-- Whether the texts between underscores are grouped digits: first decimal digits, and then texts
that begin, and unless they come last also end, with a digit of base sixteen. -/
def isGrouped : List (List Char) → Bool
  | [] => false
  | first :: others =>
    let isDigit (c : Char) := (hexDigit? c).isSome
    first ≠ [] && first.all isDecimalDigit && others.all (fun p => p.head?.any isDigit) &&
      others.dropLast.all fun p => p.getLast?.any isDigit

/-- A decimal integer after its sign. -/
def decimalInteger? (cs : List Char) : Option (Option Nat) :=
  if cs.head? = some '0' then if cs = ['0'] then some (some 0) else none
  else if cs.any fun c => isExponentMark c || c = '.' || c = ' ' then none
  else
    let parts := pieces '_' cs
    if isGrouped parts then some (decimal? parts.flatten) else none

/-- The inner option is empty for what counts as an integer and is no number. -/
def integer? : List Char → Option (Option Int)
  | '0' :: 'x' :: r => marked? 16 r
  | '0' :: 'o' :: r => marked? 8 r
  | '0' :: 'b' :: r => marked? 2 r
  | cs =>
    let (sign, r) := signed cs
    (decimalInteger? r).map (·.map (withSign sign))

/-- The digits of a whole part, which has no leading zeros. -/
def wholePart? (cs : List Char) : Option (List Char) :=
  match ungroup isDecimalDigit cs with
  | some ('0' :: _ :: _) => none
  | digits => digits

/-- The exponent of a float; there is none if nothing follows the whole part and fraction. -/
def exponent? : List Char → Option Int
  | [] => some 0
  | _ :: r => do
    let (sign, r) := signed r
    let digits ← ungroup isDecimalDigit r
    return withSign sign (ofDigits 10 digits)

/-- The digits of a fraction with its point; there are none if there is no point. -/
def fraction? : List Char → Option (List Char)
  | [] => some []
  | _ :: r => ungroup isDecimalDigit r

/-- The inner option is empty for a number that is too large. -/
def float? (cs : List Char) : Option (Option Binary64) :=
  let (sign, r) := signed cs
  let negative := sign = some true
  if r = ['i', 'n', 'f'] then some (some (.infinite negative))
  else if r = ['n', 'a', 'n'] then some (some .notANumber)
  else
    let significand := r.takeWhile (!isExponentMark ·)
    let exponent := r.dropWhile (!isExponentMark ·)
    let whole := significand.takeWhile (· ≠ '.')
    let fraction := significand.dropWhile (· ≠ '.')
    if exponent = [] ∧ fraction = [] then none
    else do
      let whole ← wholePart? whole
      let fraction ← fraction? fraction
      let exponent ← exponent? exponent
      return Binary64.ofDecimal? negative (ofDigits 10 (whole ++ fraction))
        (exponent - fraction.length)

end PppoeSetup.Toml
