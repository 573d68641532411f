import PppoeSetup.Toml.DateTime
import PppoeSetup.Toml.Number
import PppoeSetup.Toml.Table
import PppoeSetup.Toml.Text

/-!
# Documents

The grammar of TOML 1.1: values, dotted keys, lines and headers. A document denotes a table, or
nothing if it is malformed or if its statements contradict each other.
-/

namespace PppoeSetup.Toml

/-! ### Between the words -/

def skipBlanks (s : List Char) : List Char :=
  s.dropWhile fun c => c = ' ' || c = '\t'

/-- Skips blanks, line breaks and comments. A comment holds no control characters. -/
def skipGap (inComment : Bool) (s : List Char) : Option (List Char) :=
  match inComment, s with
  | _, [] => some []
  | _, '\n' :: r => skipGap false r
  | _, '\r' :: '\n' :: r => skipGap false r
  | true, c :: r => if isTextChar c then skipGap true r else none
  | false, '#' :: r => skipGap true r
  | false, ' ' :: r => skipGap false r
  | false, '\t' :: r => skipGap false r
  | false, r => some r

/-- Skips to the end of a line, where only blanks and a comment may stand, and beyond it. -/
def endLine (s : List Char) : Option (List Char) :=
  match skipBlanks s with
  | [] => some []
  | '\n' :: r => some r
  | '\r' :: '\n' :: r => some r
  | '#' :: r => skipGap true r
  | _ => none

/-! ### Keys -/

def isBareKeyChar (c : Char) : Bool := c.isAlphanum || c = '_' || c = '-'

/-- A bare key, or a key in quotes on one line. -/
def simpleKey (s : List Char) : Option (Key × List Char) :=
  match s with
  | '"' :: r => do
    let (cs, rest) ← basicText r
    return (⟨String.ofList cs, ⟨s, rest⟩⟩, rest)
  | '\x27' :: r => do
    let (cs, rest) ← literalText r
    return (⟨String.ofList cs, ⟨s, rest⟩⟩, rest)
  | _ =>
    let cs := s.takeWhile isBareKeyChar
    let rest := s.dropWhile isBareKeyChar
    if cs = [] then none else some (⟨String.ofList cs, ⟨s, rest⟩⟩, rest)

/-- One more part of a dotted key, if a point follows. -/
def furtherKey (s : List Char) : Option (Option Key × List Char) :=
  match skipBlanks s with
  | '.' :: r => do
    let (key, rest) ← simpleKey (skipBlanks r)
    return (some key, rest)
  | rest => some (none, rest)

/-- How deep tables and arrays may be nested by brackets, by braces, or by one dotted key. -/
def maxDepth : Nat := 80

def keyPath (s : List Char) : Option (KeyPath × List Char) := do
  let (first, rest) ← simpleKey s
  let (more, rest) ← many furtherKey rest
  if more.length < maxDepth then some (.ofKeys first more, rest) else none

/-! ### Values -/

/-- The characters that are in no word of an unquoted scalar. -/
def isDelimiter (c : Char) : Bool :=
  [' ', '\t', '\n', '\r', '#', ',', '=', '[', ']', '\x7b', '\x7d'].contains c

/-- Whether a character can begin a further word of an unquoted scalar. -/
def beginsWord (c : Char) : Bool :=
  !isDelimiter c && c ≠ '.' && c ≠ '"' && c ≠ '\x27'

/-- One more word of an unquoted scalar with the blanks before it, if there is one. -/
def furtherWord (s : List Char) : Option (Option (List Char) × List Char) :=
  let rest := skipBlanks s
  if rest.head?.any beginsWord then
    let blanks := s.take (s.length - rest.length)
    some (some (blanks ++ rest.takeWhile (!isDelimiter ·)), rest.dropWhile (!isDelimiter ·))
  else some (none, s)

/-- An unquoted scalar: all words up to the end of the line, a comment or a mark, with the blanks
between them. -/
def words (s : List Char) : Option (List Char × List Char) := do
  let first := s.takeWhile (!isDelimiter ·)
  let (more, rest) ← many furtherWord (s.drop first.length)
  return (first ++ more.flatten, rest)

/-- What an unquoted scalar denotes. -/
def wordScalar? (cs : List Char) : Option Scalar :=
  if cs = "true".toList then some (.boolean true)
  else if cs = "false".toList then some (.boolean false)
  else
    match integer? cs, float? cs with
    | some n, _ => some (.integer n)
    | none, some x => some (.float x)
    | none, none => if isDateTime cs then some .dateTime else none

def scalar (s : List Char) : Option (Value × List Char) :=
  match s with
  | '"' :: _ | '\x27' :: _ => do
    let (cs, rest) ← quotedText s
    return (.scalar ⟨s, rest⟩ (.string (String.ofList cs)), rest)
  | _ => do
    let (cs, rest) ← words s
    let v ← wordScalar? cs
    return (.scalar ⟨s, rest⟩ v, rest)

/-- What follows an item between brackets: a comma, or the closing bracket, which is left. -/
def afterItem (close : Char) (s : List Char) : Option (List Char) := do
  match ← skipGap false s with
  | [] => none
  | c :: r =>
    if c = ',' then skipGap false r
    else if c = close then some (c :: r)
    else none

/-- A key, an equals sign and a value, with gaps that `skip` skips. -/
def keyValue (skip : List Char → Option (List Char)) (value : Reader Value) (s : List Char) :
    Option (Line × List Char) := do
  let (path, rest) ← keyPath s
  let '=' :: rest ← skip rest | none
  let (v, rest) ← value (← skip rest)
  return (⟨path, v⟩, rest)

def arrayItem (value : Reader Value) : Reader (Option Value)
  | ']' :: r => some (none, r)
  | s => do
    let (v, rest) ← value s
    return (some v, ← afterItem ']' rest)

def tableItem (value : Reader Value) : Reader (Option Line)
  | '\x7d' :: r => some (none, r)
  | s => do
    let (l, rest) ← keyValue (skipGap false) value s
    return (some l, ← afterItem '\x7d' rest)

/-- A value in which arrays and inline tables are nested at most `depth` deep. -/
def value : (depth : Nat) → List Char → Option (Value × List Char)
  | 0, s => scalar s
  | depth + 1, s =>
    match s with
    | '[' :: r => do
      let (items, rest) ← many (arrayItem (value depth)) (← skipGap false r)
      return (.array ⟨s, rest⟩ .listed items, rest)
    | '\x7b' :: r => do
      let (lines, rest) ← many (tableItem (value depth)) (← skipGap false r)
      let entries ← Entries.ofLines lines
      return (.table ⟨s, rest⟩ .inlined entries, rest)
    | _ => scalar s

/-! ### Statements -/

/-- A header after its opening brackets, up to and with the closing ones. -/
def headerPath (close : List Char) (s : List Char) : Option (KeyPath × List Char) := do
  let (path, rest) ← keyPath (skipBlanks s)
  let rest := skipBlanks rest
  if close.isPrefixOf rest then some (path, rest.drop close.length) else none

/-- One statement with the rest of its line. -/
def statement (s : List Char) : Option (Statement × List Char) :=
  match s with
  | '[' :: '[' :: r => do
    let (path, rest) ← headerPath [']', ']'] r
    return (.element ⟨s, rest⟩ path, ← endLine rest)
  | '[' :: r => do
    let (path, rest) ← headerPath [']'] r
    return (.header ⟨s, rest⟩ path, ← endLine rest)
  | _ => do
    let (l, rest) ← keyValue (fun s => some (skipBlanks s)) (value maxDepth) s
    return (.line l, ← endLine rest)

/-- The next statement, if there is one. -/
def nextStatement (s : List Char) : Option (Option Statement × List Char) := do
  match ← skipGap false s with
  | [] => some (none, [])
  | s => do
    let (st, rest) ← statement s
    return (some st, rest)

/-- A byte order mark at the start of a text does not count. -/
def dropByteOrderMark : List Char → List Char
  | '\uFEFF' :: r => r
  | r => r

def statements (text : List Char) : Option (List Statement) :=
  (many nextStatement (dropByteOrderMark text)).map (·.1)

/-- The table that a document denotes. -/
def document (text : List Char) : Option Entries := do
  Entries.ofStatements (← statements text)

end PppoeSetup.Toml
