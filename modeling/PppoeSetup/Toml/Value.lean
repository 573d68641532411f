import PppoeSetup.Decimal.Binary64

/-!
# TOML values

Values keep the place in the text where they were written, and tables and arrays also how they
were made, which decides what may be added to them later.
-/

namespace PppoeSetup.Toml

/-- A stretch of a text, given by what is left of the text where it starts and where it ends. -/
structure Span where
  start : List Char
  finish : List Char
deriving DecidableEq

structure Key where
  name : String
  span : Span
deriving DecidableEq

inductive Scalar
  | string (s : String)
  /-- What has the marks of an integer but is no number is kept as `none`. -/
  | integer (n : Option Int)
  /-- A number that is too large for the format is kept as `none`. -/
  | float (x : Option Decimal.Binary64)
  | boolean (b : Bool)
  | dateTime
deriving DecidableEq

inductive TableKind
  /-- Made by a header of its own. -/
  | header
  /-- Made by a header of a table inside it. -/
  | implied
  /-- Made by a dotted key. -/
  | dotted
  /-- Written between braces. -/
  | inlined
deriving DecidableEq

inductive ArrayKind
  /-- Written between brackets. -/
  | listed
  /-- Its elements have headers. -/
  | headers
deriving DecidableEq

inductive Value
  | scalar (span : Span) (value : Scalar)
  | array (span : Span) (kind : ArrayKind) (items : List Value)
  | table (span : Span) (kind : TableKind) (entries : List (Key × Value))

def Value.span : Value → Span
  | scalar span _ => span
  | array span _ _ => span
  | table span _ _ => span

/-- The entries of a table, in the order of their names. -/
abbrev Entries := List (Key × Value)

namespace Entries

def find? (es : Entries) (name : String) : Option (Key × Value) :=
  List.find? (fun e => e.1.name = name) es

/-- Puts an entry at its place. -/
def insert (entry : Key × Value) : Entries → Entries
  | [] => [entry]
  | e :: es => if entry.1.name < e.1.name then entry :: e :: es else e :: insert entry es

/-- Gives the entry of that name another key and value. -/
def replace (es : Entries) (name : String) (entry : Key × Value) : Entries :=
  es.map fun e => if e.1.name = name then entry else e

theorem mem_insert {entry e : Key × Value} {es : Entries} :
    e ∈ insert entry es ↔ e = entry ∨ e ∈ es := by
  induction es with
  | nil => simp [insert]
  | cons a es ih =>
    simp only [insert]
    split
    · simp
    · simp only [List.mem_cons, ih]
      grind

end Entries

end PppoeSetup.Toml
