import PppoeSetup.Text.Number

/-!
# Dates and times of TOML

A date, a time, or both with an optional offset. Days exist in their month, leap years included;
seconds may be left out, and a leap second is allowed.
-/

namespace PppoeSetup.Toml

open PppoeSetup.Text

/-- Two digits and what follows them. -/
def twoDigits : List Char → Option (Nat × List Char)
  | a :: b :: r => do
    let high ← digit? a
    let low ← digit? b
    return (10 * high + low, r)
  | _ => none

def isLeapYear (year : Nat) : Bool :=
  year % 4 = 0 && (year % 100 ≠ 0 || year % 400 = 0)

def daysIn (year month : Nat) : Nat :=
  if month = 2 then if isLeapYear year then 29 else 28
  else if month = 4 ∨ month = 6 ∨ month = 9 ∨ month = 11 then 30
  else 31

/-- What follows a date. -/
def afterDate (cs : List Char) : Option (List Char) := do
  let (century, r) ← twoDigits cs
  let (year, r) ← twoDigits r
  let '-' :: r := r | none
  let (month, r) ← twoDigits r
  let '-' :: r := r | none
  let (day, r) ← twoDigits r
  if 1 ≤ month ∧ month ≤ 12 ∧ 1 ≤ day ∧ day ≤ daysIn (100 * century + year) month then some r
  else none

/-- What follows the seconds of a time, with their fraction. -/
def afterSeconds (cs : List Char) : Option (List Char) := do
  let (second, r) ← twoDigits cs
  if 60 < second then none
  else
    match r with
    | '.' :: r =>
      let fraction := r.takeWhile fun c => (digit? c).isSome
      if fraction = [] then none else some (r.drop fraction.length)
    | r => some r

/-- What follows hours and minutes. -/
def afterMinutes (cs : List Char) : Option (List Char) := do
  let (hour, r) ← twoDigits cs
  let ':' :: r := r | none
  let (minute, r) ← twoDigits r
  if hour ≤ 23 ∧ minute ≤ 59 then some r else none

/-- What follows a time. -/
def afterTime (cs : List Char) : Option (List Char) := do
  match ← afterMinutes cs with
  | ':' :: r => afterSeconds r
  | r => some r

def isOffset : List Char → Bool
  | ['Z'] | ['z'] => true
  | '+' :: r | '-' :: r => afterMinutes r = some []
  | _ => false

/-- Whether a text is a date, a time, or a date and a time. -/
def isDateTime (cs : List Char) : Bool :=
  match afterDate cs with
  | none => afterTime cs = some []
  | some [] => true
  | some (c :: r) =>
    (c = 'T' || c = 't' || c = ' ') &&
      match afterTime r with
      | none => false
      | some rest => rest = [] || isOffset rest

end PppoeSetup.Toml
