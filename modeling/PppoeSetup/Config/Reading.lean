import PppoeSetup.Config.Fault
import PppoeSetup.Config.Settings
import PppoeSetup.Toml.Document

/-!
# Reading a configuration

The settings are read from the table that a document denotes. Keys are visited in the order of
their names, and the first flaw is reported. At the top only the known keys may occur; the
logging table may hold others.
-/

namespace PppoeSetup.Config

open Toml

/-- A result, or the first flaw. -/
abbrev Reading := Except Flaw

/-! ### Kinds of values -/

/-- How many words of so many bits there are. -/
def words (bits : Nat) : Int := (1 <<< bits : Nat)

/-- The description of an integer. There is none beyond 128 bits, and none of what is no number. -/
def describeInteger (span : Span) : Option Int → Reading String
  | none => .error ⟨span, .integerOverflow⟩
  | some n =>
    if -words 63 ≤ n ∧ n < words 64 then .ok s!"integer `{n}`"
    else if -words 127 ≤ n ∧ n < words 127 then .ok s!"integer `{n}` as i128"
    else if 0 ≤ n ∧ n < words 128 then .ok s!"integer `{n}` as u128"
    else .error ⟨span, .integerOverflow⟩

/-- The description of a value that is of the wrong kind. -/
def describe : Value → Reading String
  | .scalar _ (.string s) => .ok s!"string {Text.quoted s}"
  | .scalar span (.integer n) => describeInteger span n
  | .scalar span (.float none) => .error ⟨span, .floatOverflow⟩
  | .scalar _ (.float (some x)) => .ok s!"floating point `{x.text}`"
  | .scalar _ (.boolean b) => .ok s!"boolean `{b}`"
  | .scalar _ .dateTime => .ok "map"
  | .array .. => .ok "sequence"
  | .table .. => .ok "map"

/-- The value is not of the kind that is expected. -/
def mismatch {α : Type} (expected : Expected) (v : Value) : Reading α := do
  throw ⟨v.span, .wrongKind (← describe v) expected⟩

def asText : Value → Reading String
  | .scalar _ (.string s) => .ok s
  | v => mismatch .text v

def asUnsigned : Value → Reading UInt64
  | .scalar span (.integer (some n)) =>
    if 0 ≤ n ∧ n < words 64 then .ok (UInt64.ofNat n.toNat)
    else if -words 63 ≤ n ∧ n < 0 then .error ⟨span, .negative n⟩
    else mismatch .unsigned (.scalar span (.integer (some n)))
  | v => mismatch .unsigned v

def asBoolean : Value → Reading Bool
  | .scalar _ (.boolean b) => .ok b
  | v => mismatch .boolean v

/-! ### Logging -/

def formatNamed (span : Span) (name : String) : Reading LogFormat :=
  match LogFormat.ofName? name with
  | some f => .ok f
  | none => .error ⟨span, .unknownFormat name⟩

/-- The value beside a format's name in a table has to be empty. -/
def checkEmpty : Value → Reading Unit
  | .array _ _ [] | .table _ _ [] => .ok ()
  | .array span _ _ => .error ⟨span, .notEmptyArray⟩
  | .table span _ _ => .error ⟨span, .notEmptyTable⟩
  | .scalar span v =>
    let kind :=
      match v with
      | .string _ => "string"
      | .integer _ => "integer"
      | .float _ => "float"
      | .boolean _ => "boolean"
      | .dateTime => "datetime"
    .error ⟨span, .notTable kind⟩

def asFormat : Value → Reading LogFormat
  | .scalar span (.string s) => formatNamed span s
  | .table _ _ [(key, v)] => do
    let format ← formatNamed key.span key.name
    checkEmpty v
    return format
  | .table span _ [] => .error ⟨span, .noName⟩
  | .table span _ _ => .error ⟨span, .severalNames⟩
  | v => .error ⟨v.span, .notNameOrTable⟩

mutual

/-- A value that is not used has to be a value all the same: its numbers have to fit. -/
def checkIgnored : Value → Reading Unit
  | .scalar span (.integer n) => do
    let _ ← describeInteger span n
  | .scalar span (.float none) => .error ⟨span, .floatOverflow⟩
  | .scalar .. => .ok ()
  | .array _ _ items => checkIgnoredItems items
  | .table _ _ entries => checkIgnoredEntries entries

def checkIgnoredItems : List Value → Reading Unit
  | [] => .ok ()
  | v :: vs => do
    checkIgnored v
    checkIgnoredItems vs

def checkIgnoredEntries : List (Key × Value) → Reading Unit
  | [] => .ok ()
  | (_, v) :: es => do
    checkIgnored v
    checkIgnoredEntries es

end

/-- Reads one entry of the logging table. -/
def readLogEntry (c : LogConfig) (entry : Key × Value) : Reading LogConfig :=
  match entry.1.name with
  | "level" => do return { c with level := ← asText entry.2 }
  | "format" => do return { c with format := ← asFormat entry.2 }
  | _ => do
    checkIgnored entry.2
    return c

/-- The logging settings are a table, or an array of the level and the format; a date has none
of them. -/
def asLogConfig : Value → Reading LogConfig
  | .table _ _ entries => entries.foldlM readLogEntry {}
  | .scalar _ .dateTime => .ok {}
  | .array _ _ [] => .ok {}
  | .array _ _ [level] => do return { level := ← asText level }
  | .array _ _ (level :: format :: _) => do
    let level ← asText level
    let format ← asFormat format
    return { level, format }
  | v => mismatch .logConfig v

/-! ### The whole configuration -/

/-- Reads one entry at the top. -/
def readEntry (c : SetupConfig) (entry : Key × Value) : Reading SetupConfig :=
  match entry.1.name with
  | "interface" => do return { c with interface? := some (← asText entry.2) }
  | "connect_timeout_ms" => do return { c with timeoutMillis? := some (← asUnsigned entry.2) }
  | "nonblocking_discovery" => do return { c with nonblocking := ← asBoolean entry.2 }
  | "logging" => do return { c with logging := ← asLogConfig entry.2 }
  | name => .error ⟨entry.1.span, .unknownField name⟩

/-- The configuration that a table denotes. -/
def ofTable (entries : Entries) : Reading SetupConfig :=
  entries.foldlM readEntry {}

/-- The configuration that a text denotes. -/
def ofText (s : String) : Except Fault SetupConfig :=
  match document s.toList with
  | none => .error .malformed
  | some entries =>
    match ofTable entries with
    | .ok c => .ok c
    | .error flaw => .error (.flaw (.ofSpan s.toList flaw.span) flaw.cause)

/-- Reads a configuration from the contents of a file, which have to be UTF-8. -/
def ofFile (contents : Except Errno ByteArray) : Except (IoError ⊕ Fault) SetupConfig :=
  match contents with
  | .error e => .error (.inl (.os e))
  | .ok bytes =>
    match String.fromUTF8? bytes with
    | none => .error (.inl (.other "stream did not contain valid UTF-8"))
    | some s =>
      match ofText s with
      | .error fault => .error (.inr fault)
      | .ok c => .ok c

/-- The error that a fault or a failure to read a file comes to. -/
def toError : IoError ⊕ Fault → SetupError
  | .inl e => .io e
  | .inr fault => fault.toError

/-- The configuration that is loaded from a file with these contents. -/
def load (contents : ByteArray) : Except SetupError SetupConfig :=
  (ofFile (.ok contents)).mapError toError

end PppoeSetup.Config
