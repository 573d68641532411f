import PppoeSetup.Logging.Pattern.Atom

/-!
# Classes of patterns

A class is a set of characters between brackets: characters, ranges, named classes and classes of
its own, joined by operators on sets. It comes with how deep it is nested.
-/

namespace PppoeSetup.Logging.Pattern

open PppoeSetup.Text

/-- The names that may stand between colons. -/
def classNames : List String :=
  ["alnum", "alpha", "ascii", "blank", "cntrl", "digit", "graph", "lower", "print", "punct",
    "space", "upper", "word", "xdigit"]

/-- A named class after its opening bracket; the answer is whether it is negated. -/
def namedClass? (cs : List Char) : Option (Bool × List Char) :=
  match cs with
  | ':' :: r =>
    let negated := r.head? = some '^'
    let r := if negated then r.drop 1 else r
    let name := r.takeWhile (· ≠ ':')
    match r.drop name.length with
    | ':' :: ']' :: rest =>
      if classNames.contains (String.ofList name) then some (negated, rest) else none
    | _ => none
  | _ => none

/-- Whether a named class, negated or not, may stand in a class. -/
def Flags.permitsNamed (f : Flags) (negated : Bool) : Bool :=
  if f.unicode then !f.ignoreCase else !negated

/-- An atom of a class. -/
def classAtom (f : Flags) : List Char → Option (Atom × List Char)
  | [] => none
  | '\\' :: r => escape f r
  | c :: r => some (.character c false, r)

/-- The character that follows a hyphen. Only the mark of a comment is skipped before it and not
the comment, and if all that follows is skipped the first of that counts. -/
def afterHyphen? (f : Flags) (cs : List Char) : Option Char :=
  if f.verbose then
    let r := cs.dropWhile isBlank
    let r := if r.head? = some '#' then (r.drop 1).dropWhile isBlank else r
    if r = [] then cs.head? else r.head?
  else cs.head?

/-- What is left after an atom or a range. -/
def afterItem (f : Flags) (cs : List Char) : Option (List Char) := do
  let (low, rest) ← classAtom f cs
  if f.permitsInClass low then
    match f.skip rest with
    | '-' :: r =>
      if [some ']', some '-'].contains (afterHyphen? f r) then some ('-' :: r)
      else
        match low, ← classAtom f (f.skip r) with
        | .character l _, (.character h octet, rest) =>
          if l ≤ h ∧ f.permitsInClass (.character h octet) then some rest else none
        | _, _ => none
    | rest => some rest
  else none

/-- A class whose closing bracket has not come yet. -/
structure OpenClass where
  /-- Nothing has come but hyphens, so that hyphens and a closing bracket stand for themselves. -/
  atStart : Bool
  /-- How deep what comes before the last operator is nested, if there is one. -/
  before : Option Nat
  /-- How deep the items since then are nested. -/
  items : List Nat

namespace OpenClass

def empty : OpenClass := ⟨true, none, []⟩

def add (o : OpenClass) (depth : Nat) : OpenClass :=
  { o with atStart := false, items := depth :: o.items }

def depth (o : OpenClass) : Nat :=
  match o.before with
  | none => nesting o.items
  | some d => nesting [d, nesting o.items]

/-- The class after an operator. -/
def operator (o : OpenClass) : OpenClass := ⟨false, some o.depth, []⟩

end OpenClass

/-- What is left after the caret of a class that is negated. Among bytes the negation of a class
has bytes that are no characters. -/
def afterCaret (f : Flags) (cs : List Char) : Option (List Char) :=
  match f.skip cs with
  | '^' :: r => if f.unicode then some r else none
  | r => some r

/-- Reads the rest of a class inside the given ones. Every step takes a character at least, so that
as many steps as there are characters are enough. -/
def classRest (f : Flags) :
    (steps : Nat) → OpenClass → List OpenClass → List Char → Option (Nat × List Char)
  | 0, _, _, _ => none
  | steps + 1, here, outer, cs =>
    let literal (c : Char) := f.permitsInClass (.character c false)
    match f.skip cs with
    | [] => none
    | '[' :: r =>
      match namedClass? r with
      | some (negated, rest) =>
        if f.permitsNamed negated then classRest f steps (here.add 0) outer rest else none
      | none => do classRest f steps .empty (here :: outer) (← afterCaret f r)
    | ']' :: r =>
      if here.atStart && here.items = [] then
        if literal ']' then classRest f steps (here.add 0) outer r else none
      else
        match outer with
        | [] => some (1 + here.depth, r)
        | next :: outer => classRest f steps (next.add (1 + here.depth)) outer r
    | c :: r =>
      if c = '-' && here.atStart then
        if literal c then classRest f steps { here.add 0 with atStart := true } outer r else none
      else if ['&', '-', '~'].contains c && r.head? = some c then
        classRest f steps here.operator outer (r.drop 1)
      else do classRest f steps (here.add 0) outer (← afterItem f (c :: r))

/-- Reads a class after its opening bracket. -/
def bracketClass (f : Flags) (cs : List Char) : Option (Nat × List Char) := do
  classRest f (cs.length + 1) .empty [] (← afterCaret f cs)

end PppoeSetup.Logging.Pattern
