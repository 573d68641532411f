import PppoeSetup.Decimal.Shortest
import PppoeSetup.SetupError
import PppoeSetup.Text.Pieces
import PppoeSetup.Toml.Value

/-!
# Faults of a configuration

A configuration text is malformed, or it is a document in which something is amiss at one place.
The report of the latter shows the line and marks the place with carets.
-/

namespace PppoeSetup.Config

open Toml

/-- What a setting has to be. -/
inductive Expected
  | text
  | unsigned
  | boolean
  | logConfig
deriving DecidableEq

def Expected.name : Expected → String
  | text => "a string"
  | unsigned => "u64"
  | boolean => "a boolean"
  | logConfig => "struct LogConfig"

/-- What is amiss with one value or key. -/
inductive Cause
  | unknownField (name : String)
  /-- A value of the wrong kind, by its description. -/
  | wrongKind (found : String) (expected : Expected)
  | negative (n : Int)
  | integerOverflow
  | floatOverflow
  | unknownFormat (name : String)
  /-- A log format is given by a name or by a table with the name as its key. -/
  | notNameOrTable
  | noName
  | severalNames
  /-- The value in such a table is no table, but of the kind that is given. -/
  | notTable (kind : String)
  | notEmptyTable
  | notEmptyArray
deriving DecidableEq

namespace Cause

def message : Cause → String
  | unknownField name =>
    s!"unknown field `{name}`, expected one of `interface`, `connect_timeout_ms`, " ++
      "`nonblocking_discovery`, `logging`"
  | wrongKind found expected => s!"invalid type: {found}, expected {expected.name}"
  | negative n => s!"invalid value: integer `{n}`, expected {Expected.unsigned.name}"
  | integerOverflow => "integer number overflowed"
  | floatOverflow => "floating-point number overflowed"
  | unknownFormat name =>
    s!"unknown variant `{name}`, expected one of `pretty`, `compact`, `json`"
  | notNameOrTable => "wanted string or table"
  | noName => "wanted exactly 1 element, found 0 elements"
  | severalNames => "wanted exactly 1 element, more than 1 element"
  | notTable kind => s!"expected table, found {kind}"
  | notEmptyTable => "expected empty table"
  | notEmptyArray => "expected empty array"

end Cause

/-- A cause with the place of the value or key that is amiss. -/
structure Flaw where
  span : Span
  cause : Cause
deriving DecidableEq

/-- A place in a text as it is reported: line and column from one, the line, and how many carets
mark the place. -/
structure Location where
  line : Nat
  column : Nat
  content : List Char
  width : Nat
deriving DecidableEq

namespace Location

/-- Locates a span in its text. The marks do not go beyond the line; lengths are in bytes. -/
def ofSpan (text : List Char) (span : Span) : Location :=
  let before := text.take (text.length - span.start.length)
  let head := (before.reverse.takeWhile (· ≠ '\n')).reverse
  let content := head ++ span.start.takeWhile (· ≠ '\n')
  let inside := span.start.take (span.start.length - span.finish.length)
  { line := before.count '\n' + 1
    column := head.length + 1
    content
    width := max 1 (min (Text.utf8Length inside) (Text.utf8Length content - head.length)) }

/-- The line with its number, and the marks below it. -/
def excerpt (l : Location) : String :=
  let number := toString l.line
  let gutter := String.ofList (List.replicate (number.length + 1) ' ')
  let blanks := String.ofList (List.replicate l.column ' ')
  let marks := String.ofList (List.replicate l.width '^')
  s!"{gutter}|\n{number} | {String.ofList l.content}\n{gutter}|{blanks}{marks}\n"

end Location

/-- Why a text is no configuration. -/
inductive Fault
  | malformed
  | flaw (location : Location) (cause : Cause)
deriving DecidableEq

namespace Fault

def message : Fault → String
  | malformed => "TOML parse error\n"
  | flaw l cause =>
    s!"TOML parse error at line {l.line}, column {l.column}\n{l.excerpt}{cause.message}\n"

def toError (f : Fault) : SetupError := .config f.message

end Fault

end PppoeSetup.Config
