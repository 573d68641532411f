import PppoeSetup.Logging.Pattern.Class
import PppoeSetup.Text.Letter

/-!
# Patterns

Which texts are regular expressions. A log directive that asks for a field with a value that is
neither a number nor a pattern does not count. A closing brace ends the value, so that there are
no counted repetitions.
-/

namespace PppoeSetup.Logging

open PppoeSetup.Text

namespace Pattern

/-- What an opening parenthesis begins. -/
inductive Opening
  /-- Flags for the rest of the group around it. -/
  | setting (flags : Flags)
  /-- A group, with the flags inside and perhaps a name. -/
  | group (flags : Flags) (name : Option (List Char))

def isNameChar (c : Char) : Bool :=
  ['_', '.', '[', ']'].contains c || isAlphanumeric c

/-- The name of a group with the angle bracket that ends it. -/
def groupName (cs : List Char) : Option (List Char × List Char) :=
  let name := cs.takeWhile isNameChar
  match name, cs.drop name.length with
  | c :: _, '>' :: rest => if c = '_' || isAlphabetic c then some (name, rest) else none
  | _, _ => none

/-- Reads what follows an opening parenthesis up to the first part of the group. -/
def opening (f : Flags) (cs : List Char) : Option (Opening × List Char) :=
  match f.skip cs with
  | '?' :: 'P' :: '<' :: r | '?' :: '<' :: r => do
    let (name, rest) ← groupName r
    return (.group f (some name), rest)
  | '?' :: r =>
    let marks := r.takeWhile isFlagMark
    if marks.Nodup ∧ marks.getLast? ≠ some '-' then
      match r.drop marks.length with
      | ':' :: rest => some (.group (f.update marks) none, rest)
      | ')' :: rest => if marks = [] then none else some (.setting (f.update marks), rest)
      | _ => none
    else none
  | r => some (.group f none, r)

/-- A part of a pattern. Flags cannot be repeated. -/
structure Part where
  depth : Nat
  repeatable : Bool := true

/-- A group whose closing parenthesis has not come yet, or the pattern outside all groups. -/
structure OpenGroup where
  /-- How deep its complete alternatives are nested. -/
  alternatives : List Nat
  /-- The parts of the last alternative, the last one first. -/
  parts : List Part

namespace OpenGroup

def empty : OpenGroup := ⟨[], []⟩

def add (o : OpenGroup) (p : Part) : OpenGroup := { o with parts := p :: o.parts }

/-- The group with a further alternative. -/
def alternative (o : OpenGroup) : OpenGroup :=
  ⟨nesting (o.parts.map (·.depth)) :: o.alternatives, []⟩

def depth (o : OpenGroup) : Nat := nesting o.alternative.alternatives

/-- The group with its last part repeated. -/
def repeated? (o : OpenGroup) : Option OpenGroup :=
  match o.parts with
  | ⟨depth, true⟩ :: parts => some { o with parts := ⟨1 + depth, true⟩ :: parts }
  | _ => none

end OpenGroup

/-- Reads the rest of a pattern inside the given groups, which come with the flags around them,
and says how deep the whole is nested; `names` are those of the groups so far. Every step takes a
character at least, so that as many steps as there are characters are enough. -/
def depthFrom : (steps : Nat) → Flags → (names : List (List Char)) → OpenGroup →
    List (Flags × OpenGroup) → List Char → Option Nat
  | 0, _, _, _, _, _ => none
  | steps + 1, f, names, here, outer, cs =>
    match f.skip cs with
    | [] => if outer.isEmpty then some here.depth else none
    | c :: r =>
      if c = '(' then
        match opening f r with
        | some (.setting flags, rest) =>
          depthFrom steps flags names (here.add ⟨0, false⟩) outer rest
        | some (.group flags name, rest) =>
          if name.any names.contains then none
          else depthFrom steps flags (name.toList ++ names) .empty ((f, here) :: outer) rest
        | none => none
      else if c = ')' then
        match outer with
        | [] => none
        | (flags, next) :: outer =>
          depthFrom steps flags names (next.add { depth := 1 + here.depth }) outer r
      else if c = '|' then depthFrom steps f names here.alternative outer r
      else if c = '*' || c = '+' || c = '?' then do
        let rest := if r.head? = some '?' then r.drop 1 else r
        depthFrom steps f names (← here.repeated?) outer rest
      else if c = '\x7b' then none
      else if c = '[' then do
        let (depth, rest) ← bracketClass f r
        depthFrom steps f names (here.add { depth }) outer rest
      else do
        let (atom, rest) ←
          if c = '\\' then escape f r
          else if c = '.' then some (.anyCharacter, r)
          else if c = '^' || c = '$' then some (.boundary, r)
          else some (.character c false, r)
        if f.permits atom then depthFrom steps f names (here.add { depth := 0 }) outer rest
        else none

/-- How deep a text is nested as a pattern, if it is one. -/
def depth? (cs : List Char) : Option Nat :=
  depthFrom (cs.length + 1) .default [] .empty [] cs

/-- How deep the groups, classes, sequences, choices and repetitions of a pattern may be nested. -/
def maxDepth : Nat := 250

end Pattern

/-- Whether a text is a regular expression. -/
def isPattern (cs : List Char) : Bool := (Pattern.depth? cs).any (· ≤ Pattern.maxDepth)

end PppoeSetup.Logging
