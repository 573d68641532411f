import PppoeSetup.Text.Blank
import PppoeSetup.Text.Hex

/-!
# Atoms of patterns

A pattern is a regular expression; its atoms are what stands for one character or for one place.
A pattern matches texts, so that no part of it may match a byte that is no character. It is read
without the properties of code points beyond ASCII: among code points no case can be ignored, and
there are no digits, words and blanks. All that there is among bytes, where only ASCII counts.
-/

namespace PppoeSetup.Logging.Pattern

open PppoeSetup.Text

/-- How a pattern is read from some place on. -/
structure Flags where
  /-- Blanks and comments do not count. -/
  verbose : Bool
  ignoreCase : Bool
  /-- The pattern is about code points, not about bytes. -/
  unicode : Bool
deriving DecidableEq

def Flags.default : Flags := ⟨false, false, true⟩

/-- The letters of all flags, and the hyphen that turns those after it off. -/
def isFlagMark (c : Char) : Bool :=
  ['i', 'm', 's', 'U', 'u', 'x', 'R', '-'].contains c

/-- The flags after a list of marks. -/
def Flags.update (f : Flags) (marks : List Char) : Flags :=
  let on := marks.takeWhile (· ≠ '-')
  let off := marks.dropWhile (· ≠ '-')
  let flag (c : Char) (old : Bool) := on.contains c || (old && !off.contains c)
  ⟨flag 'x' f.verbose, flag 'i' f.ignoreCase, flag 'u' f.unicode⟩

/-- Skips blanks, and comments up to the end of the line. -/
def skipBlanks (inComment : Bool) : List Char → List Char
  | [] => []
  | c :: r =>
    if inComment then skipBlanks (c ≠ '\n') r
    else if isBlank c then skipBlanks false r
    else if c = '#' then skipBlanks true r
    else c :: r

/-- Skips what does not count. -/
def Flags.skip (f : Flags) (cs : List Char) : List Char :=
  if f.verbose then skipBlanks false cs else cs

inductive Atom
  /-- One character; `octet` is set if two digits of base sixteen give it. -/
  | character (c : Char) (octet : Bool)
  | anyCharacter
  /-- The start or the end of a line or of the whole text. -/
  | boundary
  /-- The start or the end of a word, or a place that is neither. -/
  | wordBoundary
  /-- One of the digits, of the blanks or of the characters of words, or one that is not. -/
  | category (negated : Bool)
deriving DecidableEq

/-- Whether an atom may stand by itself. -/
def Flags.permits (f : Flags) : Atom → Bool
  | .character c octet => if f.unicode then !f.ignoreCase else !octet || c.toNat < 128
  | .anyCharacter => f.unicode
  | .boundary => true
  | .wordBoundary => !f.unicode
  | .category negated => !f.unicode && !negated

/-- Whether an atom may stand in a class. -/
def Flags.permitsInClass (f : Flags) : Atom → Bool
  | .character c _ => if f.unicode then !f.ignoreCase else c.toNat < 128
  | .category negated => !f.unicode && !negated
  | _ => false

/-- The character that a letter stands for after a backslash. -/
def special? (c : Char) : Option Char :=
  [('a', '\x07'), ('f', '\x0c'), ('t', '\t'), ('n', '\n'), ('r', '\r'), ('v', '\x0b')].lookup c

/-- A mark of ASCII stands for itself after a backslash. -/
def isEscapable (c : Char) : Bool :=
  c.toNat < 128 && !c.isAlphanum && c ≠ '<' && c ≠ '>'

/-- Continues a number in base sixteen, of so many more digits, that has the value `n` so far. -/
def hexNumber (f : Flags) : (digits : Nat) → (n : Nat) → List Char → Option (Nat × List Char)
  | 0, n, cs => some (n, cs)
  | digits + 1, n, cs =>
    match f.skip cs with
    | [] => none
    | c :: r => do hexNumber f digits (16 * n + (← hexDigit? c)) r

/-- The character whose code point is given by so many digits of base sixteen. -/
def hexCharacter (f : Flags) (digits : Nat) (cs : List Char) : Option (Atom × List Char) := do
  let (n, rest) ← hexNumber f digits 0 cs
  if Nat.isValidChar n then some (.character (Char.ofNat n) (digits = 2), rest) else none

/-- The atom after a backslash. -/
def escape (f : Flags) : List Char → Option (Atom × List Char)
  | [] => none
  | c :: r =>
    if isEscapable c then some (.character c false, r)
    else if ['d', 's', 'w'].contains c then some (.category false, r)
    else if ['D', 'S', 'W'].contains c then some (.category true, r)
    else if ['A', 'z'].contains c then some (.boundary, r)
    else if ['b', 'B', '<', '>'].contains c then some (.wordBoundary, r)
    else if c = 'x' then hexCharacter f 2 r
    else if c = 'u' then hexCharacter f 4 r
    else if c = 'U' then hexCharacter f 8 r
    else (special? c).map fun s => (.character s false, r)

/-- How deep several parts side by side are nested, given how deep each of them is. -/
def nesting : List Nat → Nat
  | [] => 0
  | [depth] => depth
  | depths => 1 + depths.foldl max 0

end PppoeSetup.Logging.Pattern
