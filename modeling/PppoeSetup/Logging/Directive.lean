import PppoeSetup.Logging.Pattern
import PppoeSetup.Logging.Severity
import PppoeSetup.Text.Letter
import PppoeSetup.Text.Pieces

/-!
# Log directives

A directive sets a threshold: for all records, for those whose target starts with a given text,
or for all that happens in spans of a given name, with a given field. It is written
`target[span\x7bfield=value\x7d]=level`, where every part may be left out.
-/

namespace PppoeSetup.Logging

open Text

/-- The value that a field has to have. -/
inductive FieldValue
  | number (n : Nat)
  /-- A value that no number is equal to. -/
  | other (text : List Char)
deriving DecidableEq

/-- A field that a span has to have, with any value or with a given one. -/
structure FieldCondition where
  name : List Char
  value : Option FieldValue
deriving DecidableEq

structure Directive where
  /-- What targets start with; `none` is for all targets. -/
  target : Option (List Char) := none
  /-- The name of a span. -/
  span : Option (List Char) := none
  field : Option FieldCondition := none
  threshold : Threshold := some .trace
deriving DecidableEq

/-- Why a directive is not taken. -/
inductive Refusal
  /-- It cannot be read, and does not count. -/
  | malformed
  /-- It would have to be cut inside a character, which ends the program. -/
  | torn
deriving DecidableEq

/-- A threshold is a severity, or zero or `off`, which let nothing through. -/
def Threshold.ofChars? (cs : List Char) : Option Threshold :=
  if unsigned? cs = some 0 then some none
  else
    match Severity.ofChars? cs with
    | some s => some (some s)
    | none => if cs.map Char.toLower = "off".toList then some none else none

/-- Splits a text after so many bytes, unless that is inside a character. -/
def splitBytes? : Nat → List Char → Option (List Char × List Char)
  | 0, cs => some ([], cs)
  | _ + 1, [] => none
  | n + 1, c :: cs =>
    if c.utf8Size ≤ n + 1 then do
      let (before, after) ← splitBytes? (n + 1 - c.utf8Size) cs
      return (c :: before, after)
    else none

/-- What is left of a text from a place on. -/
def cutFrom (cs : List Char) (start : Nat) : Except Refusal (List Char) :=
  match splitBytes? start cs with
  | some (_, after) => .ok after
  | none => .error .torn

/-- The part of a text between two places. -/
def cut (cs : List Char) (start stop : Nat) : Except Refusal (List Char) := do
  match splitBytes? (stop - start) (← cutFrom cs start) with
  | some (before, _) => .ok before
  | none => .error .torn

namespace FieldCondition

/-- An unsigned decimal number with a point, an exponent or both, or a name of what is no finite
number. -/
def isReal (cs : List Char) : Bool :=
  let isDigits (cs : List Char) := cs.all Char.isDigit
  let isExponent (cs : List Char) :=
    let digits := if cs.head? = some '+' ∨ cs.head? = some '-' then cs.drop 1 else cs
    digits ≠ [] && isDigits digits
  let significand := cs.takeWhile fun c => c ≠ 'e' && c ≠ 'E'
  let whole := significand.takeWhile (· ≠ '.')
  let fraction := (significand.drop whole.length).drop 1
  let exponent := cs.drop significand.length
  [ "inf", "infinity", "nan" ].contains (String.ofList (cs.map Char.toLower)) ||
    (isDigits whole && isDigits fraction && !(whole = [] && fraction = []) &&
      (exponent = [] || isExponent (exponent.drop 1)))

/-- Values are numbers or patterns; only a whole number without a minus sign matches numbers. -/
def value? (cs : List Char) : Option FieldValue :=
  match unsigned? cs with
  | some n => some (.number n)
  | none =>
    if isPattern cs || (cs.head? = some '+' && isReal (cs.drop 1)) then some (.other cs) else none

/-- A name, and a value after an equals sign; what a second equals sign begins does not count. -/
def ofChars (cs : List Char) : Except Refusal FieldCondition :=
  match pieces '=' cs with
  | name :: value :: _ =>
    match value? value with
    | some v => .ok ⟨name, some v⟩
    | none => .error .malformed
  | _ => if cs = [] then .error .malformed else .ok ⟨cs, none⟩

end FieldCondition

namespace Directive

/-- What a directive without brackets may start with. -/
def isStart (c : Char) : Bool := c = '-' || c = ':' || c = '_' || isAlphanumeric c

/-- A level alone applies to all targets; any other text without an equals sign is a target for
which everything is let through. -/
def ofWord (cs : List Char) : Directive :=
  match Threshold.ofChars? cs with
  | some t => { threshold := t }
  | none => { target := some cs }

/-- The directive with the level that the text from a place on gives; an empty text leaves
everything through. -/
def withLevel (d : Directive) (text : List Char) (start : Nat) : Except Refusal Directive := do
  let level ← cutFrom text start
  if level = [] then .ok d
  else
    match Threshold.ofChars? level with
    | some t => .ok { d with threshold := t }
    | none => .error .malformed

/-- The directive with what follows its closing bracket: nothing, or a level. -/
def afterBracket (d : Directive) (text : List Char) (start : Nat) :
    List Char → Except Refusal Directive
  | [] => .ok d
  | '=' :: _ => d.withLevel text (start + 1)
  | _ => .error .malformed

/-- The directive with the field that is written between braces, and with what follows. -/
def withField (d : Directive) (text : List Char) (start : Nat) (rest : List Char) :
    Except Refusal Directive :=
  let field := rest.takeWhile (· ≠ '\x7d')
  let stop := start + utf8Length field
  match rest.drop field.length with
  | [] => .error .malformed
  | _ :: after => do
    let condition ← FieldCondition.ofChars (← cut text start stop)
    match after with
    | ']' :: after => afterBracket { d with field := some condition } text (stop + 2) after
    | _ => .error .malformed

/-- The directive with the span that is written between brackets, and with what follows. -/
def withSpan (d : Directive) (text : List Char) (start : Nat) (rest : List Char) :
    Except Refusal Directive :=
  let name := rest.takeWhile fun c => c ≠ ']' && c ≠ '\x7b'
  let stop := start + utf8Length name
  match rest.drop name.length with
  | [] => .error .malformed
  | ']' :: after => do
    let span ← cut text start stop
    afterBracket { d with span := some span } text (stop + 1) after
  | _ :: after => do
    let span ← cut text start stop
    withField { d with span := if span = [] then none else some span } text (stop + 1) after

/-- Reads one directive. The places of its marks are looked up without the blanks around it, and
then counted from the start of the whole text. -/
def parse (text : List Char) : Except Refusal Directive :=
  match trim text with
  | [] => .error .malformed
  | '[' :: rest => withSpan {} text 1 rest
  | c :: cs =>
    if isStart c then
      let head := (c :: cs).takeWhile fun c => c ≠ '=' && c ≠ '['
      let position := utf8Length head
      match (c :: cs).drop head.length with
      | [] => .ok (ofWord text)
      | '=' :: _ => do
        let target ← cut text 0 position
        withLevel { target := some target } text (position + 1)
      | _ :: rest => do
        let target ← cut text 0 position
        withSpan { target := some target } text (position + 1) rest
    else .error .malformed

end Directive

end PppoeSetup.Logging
