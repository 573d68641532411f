/-!
# Repetition

An item is read again and again until it says that there is no further one. Every item has to
take something from the text, so the repetition ends.
-/

namespace PppoeSetup.Toml

variable {α : Type}

/-- Reads from the start of a text; the result comes with what is left, and there is none if the
text is malformed. -/
abbrev Reader (α : Type) := List Char → Option (α × List Char)

/-- Reads items until one of them answers `none`, which ends the list. -/
def many (item : Reader (Option α)) (s : List Char) : Option (List α × List Char) :=
  match item s with
  | none => none
  | some (none, rest) => some ([], rest)
  | some (some a, rest) =>
    if rest.length < s.length then do
      let (more, rest) ← many item rest
      return (a :: more, rest)
    else none
termination_by s.length

theorem many_of_end {item : Reader (Option α)} {s rest : List Char}
    (h : item s = some (none, rest)) : many item s = some ([], rest) := by
  rw [many, h]

theorem many_of_item {item : Reader (Option α)} {s rest rest' : List Char} {a : α} {more : List α}
    (h : item s = some (some a, rest)) (hlt : rest.length < s.length)
    (hmore : many item rest = some (more, rest')) : many item s = some (a :: more, rest') := by
  rw [many, h]
  simp [hlt, hmore]

end PppoeSetup.Toml
