import PppoeSetup.Text.Hex
import PppoeSetup.Toml.Repetition

/-!
# Quoted texts of TOML

Basic texts stand in double quotes and have escapes; literal texts stand in single quotes and
have none. Three quotes make a text that may run over several lines. Control characters other
than the tab do not occur in any of them.
-/

namespace PppoeSetup.Toml

open PppoeSetup.Text

/-- The characters of comments and of quoted texts. -/
def isTextChar (c : Char) : Bool :=
  c = '\t' || (0x20 ≤ c.toNat && c.toNat ≠ 0x7F)

/-- The character that a single letter after a backslash stands for. -/
def escapeLetter? : Char → Option Char
  | 'b' => some '\x08'
  | 't' => some '\t'
  | 'n' => some '\n'
  | 'f' => some '\x0c'
  | 'r' => some '\r'
  | 'e' => some '\x1b'
  | '"' => some '"'
  | '\\' => some '\\'
  | _ => none

/-- The character whose code point has the given hexadecimal digits. Surrogates and numbers
beyond the last code point stand for none. -/
def codePoint? (digits : List Char) : Option Char := do
  let n ← digits.foldlM (fun n d => (hexDigit? d).map (16 * n + ·)) 0
  if h : n.isValidChar then some (Char.ofNatAux n h) else none

/-- Puts a character, if there is one, in front of what has been read. -/
def push (c : Option Char) (read : Option (List Char × List Char)) :
    Option (List Char × List Char) := do
  let c ← c
  let (cs, rest) ← read
  return (c :: cs, rest)

/-- A basic text after its opening quote, up to and without the closing one. -/
def basicText : Reader (List Char)
  | [] => none
  | '"' :: r => some ([], r)
  | '\\' :: 'x' :: a :: b :: r => push (codePoint? [a, b]) (basicText r)
  | '\\' :: 'u' :: a :: b :: c :: d :: r => push (codePoint? [a, b, c, d]) (basicText r)
  | '\\' :: 'U' :: a :: b :: c :: d :: e :: f :: g :: h :: r =>
    push (codePoint? [a, b, c, d, e, f, g, h]) (basicText r)
  | '\\' :: c :: r => push (escapeLetter? c) (basicText r)
  | c :: r => if isTextChar c ∧ c ≠ '\\' then push (some c) (basicText r) else none

/-- A literal text after its opening quote. -/
def literalText : Reader (List Char)
  | [] => none
  | '\x27' :: r => some ([], r)
  | c :: r => if isTextChar c then push (some c) (literalText r) else none

/-- Where a basic text over several lines stands. -/
inductive Trimming
  /-- Characters count. -/
  | none
  /-- A backslash came last on its line; only blanks may follow. -/
  | toLineEnd
  /-- Blanks and line breaks after such a line do not count. -/
  | toNextChar
deriving DecidableEq

/-- The closing quotes of a text over several lines: three, and up to two more that still belong
to the text. -/
def closing (quote : Char) : Reader (List Char)
  | a :: b :: c :: d :: e :: r =>
    if [a, b, c] ≠ [quote, quote, quote] then none
    else if d ≠ quote then some ([], d :: e :: r)
    else if e ≠ quote then some ([quote], e :: r)
    else some ([quote, quote], r)
  | [a, b, c, d] =>
    if [a, b, c] ≠ [quote, quote, quote] then none
    else if d ≠ quote then some ([], [d])
    else some ([quote], [])
  | [a, b, c] => if [a, b, c] ≠ [quote, quote, quote] then none else some ([], [])
  | _ => none

/-- A basic text over several lines, after its opening quotes. -/
def basicLines (trimming : Trimming) (s : List Char) : Option (List Char × List Char) :=
  match trimming, s with
  | _, [] => none
  | .toLineEnd, ' ' :: r => basicLines .toLineEnd r
  | .toLineEnd, '\t' :: r => basicLines .toLineEnd r
  | .toLineEnd, '\n' :: r => basicLines .toNextChar r
  | .toLineEnd, '\r' :: '\n' :: r => basicLines .toNextChar r
  | .toLineEnd, _ => none
  | .toNextChar, ' ' :: r => basicLines .toNextChar r
  | .toNextChar, '\t' :: r => basicLines .toNextChar r
  | .toNextChar, '\n' :: r => basicLines .toNextChar r
  | .toNextChar, '\r' :: '\n' :: r => basicLines .toNextChar r
  | _, '"' :: r =>
    match closing '"' ('"' :: r) with
    | some closed => some closed
    | none => push (some '"') (basicLines .none r)
  | _, '\\' :: 'x' :: a :: b :: r => push (codePoint? [a, b]) (basicLines .none r)
  | _, '\\' :: 'u' :: a :: b :: c :: d :: r =>
    push (codePoint? [a, b, c, d]) (basicLines .none r)
  | _, '\\' :: 'U' :: a :: b :: c :: d :: e :: f :: g :: h :: r =>
    push (codePoint? [a, b, c, d, e, f, g, h]) (basicLines .none r)
  | _, '\\' :: ' ' :: r => basicLines .toLineEnd r
  | _, '\\' :: '\t' :: r => basicLines .toLineEnd r
  | _, '\\' :: '\n' :: r => basicLines .toNextChar r
  | _, '\\' :: '\r' :: '\n' :: r => basicLines .toNextChar r
  | _, '\\' :: c :: r => push (escapeLetter? c) (basicLines .none r)
  | _, '\n' :: r => push (some '\n') (basicLines .none r)
  | _, '\r' :: '\n' :: r => push (some '\r') (push (some '\n') (basicLines .none r))
  | _, c :: r => if isTextChar c ∧ c ≠ '\\' then push (some c) (basicLines .none r) else none

/-- A literal text over several lines, after its opening quotes. -/
def literalLines : Reader (List Char)
  | [] => none
  | '\x27' :: r =>
    match closing '\x27' ('\x27' :: r) with
    | some closed => some closed
    | none => push (some '\x27') (literalLines r)
  | '\n' :: r => push (some '\n') (literalLines r)
  | '\r' :: '\n' :: r => push (some '\r') (push (some '\n') (literalLines r))
  | c :: r => if isTextChar c then push (some c) (literalLines r) else none

/-- A line break right after the opening quotes does not belong to the text. -/
def dropLineBreak : List Char → List Char
  | '\n' :: r => r
  | '\r' :: '\n' :: r => r
  | r => r

/-- A text in quotes of either kind, on one line or on several. -/
def quotedText : Reader (List Char)
  | '"' :: '"' :: '"' :: r => basicLines .none (dropLineBreak r)
  | '"' :: r => basicText r
  | '\x27' :: '\x27' :: '\x27' :: r => literalLines (dropLineBreak r)
  | '\x27' :: r => literalText r
  | _ => none

end PppoeSetup.Toml
