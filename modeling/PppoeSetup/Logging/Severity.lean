import PppoeSetup.Text.Blank
import PppoeSetup.Text.Number

/-!
# Severities

Five severities, from error (1) to trace (5). A severity is written by its number or by its name
in any case. A threshold is a severity or nothing at all.
-/

namespace PppoeSetup.Logging

open Text

inductive Severity
  | error
  | warn
  | info
  | debug
  | trace
deriving DecidableEq

namespace Severity

def number : Severity → Nat
  | error => 1
  | warn => 2
  | info => 3
  | debug => 4
  | trace => 5

def name : Severity → String
  | error => "error"
  | warn => "warn"
  | info => "info"
  | debug => "debug"
  | trace => "trace"

/-- The upper-case name that stands in log lines. -/
def label : Severity → String
  | error => "ERROR"
  | warn => "WARN"
  | info => "INFO"
  | debug => "DEBUG"
  | trace => "TRACE"

/-- All severities, the gravest first. -/
def all : List Severity := [error, warn, info, debug, trace]

/-- Whether a text is the name of `s`, ASCII letters of either case taken as equal. -/
def isNamed (s : Severity) (cs : List Char) : Bool :=
  cs.map Char.toLower = s.name.toList

/-- The severity that a text without surrounding blanks denotes. -/
def ofChars? (cs : List Char) : Option Severity :=
  match (unsigned? cs).bind fun n => all.find? (·.number = n) with
  | some s => some s
  | none => all.find? (·.isNamed cs)

/-- The severity that a configured level denotes; blanks around it do not matter. -/
def ofLevel? (level : String) : Option Severity :=
  ofChars? (trim level.toList)

/-- The severity that is used for a configured level: an unknown level counts as info. -/
def ofLevel (level : String) : Severity :=
  (ofLevel? level).getD info

end Severity

/-- The least grave severity that is let through; `none` lets nothing through. -/
abbrev Threshold := Option Severity

namespace Threshold

def number : Threshold → Nat
  | none => 0
  | some s => s.number

/-- The more generous of two thresholds. -/
def max (a b : Threshold) : Threshold := if a.number ≤ b.number then b else a

def admits (t : Threshold) (s : Severity) : Bool :=
  s.number ≤ t.number

end Threshold

end PppoeSetup.Logging
