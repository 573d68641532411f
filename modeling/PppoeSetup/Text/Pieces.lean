/-!
# Texts in pieces

`pieces sep` cuts a text at every occurrence of `sep`; joining the pieces with `sep` gives the
text back. `utf8Length` is the length of a text in UTF-8 bytes.
-/

namespace PppoeSetup.Text

/-- The stretches of a text between the occurrences of `sep`. There is always at least one. -/
def pieces (sep : Char) : List Char → List (List Char)
  | [] => [[]]
  | c :: cs =>
    if c = sep then [] :: pieces sep cs
    else
      match pieces sep cs with
      | [] => [[c]]
      | p :: ps => (c :: p) :: ps

/-- The number of bytes of the UTF-8 form of a text. -/
def utf8Length (cs : List Char) : Nat :=
  cs.foldr (fun c n => c.utf8Size + n) 0

theorem pieces_ne_nil (sep : Char) (cs : List Char) : pieces sep cs ≠ [] := by
  cases cs with
  | nil => simp [pieces]
  | cons c cs =>
    simp only [pieces]
    split
    · simp
    · split <;> simp

theorem intercalate_pieces (sep : Char) (cs : List Char) :
    [sep].intercalate (pieces sep cs) = cs := by
  induction cs with
  | nil => rfl
  | cons c cs ih =>
    simp only [pieces]
    split
    · rename_i h
      cases hp : pieces sep cs with
      | nil => exact absurd hp (pieces_ne_nil sep cs)
      | cons p ps => simp_all [List.intercalate, List.intersperse]
    · split
      · rename_i h
        exact absurd h (pieces_ne_nil sep cs)
      · rename_i p ps h
        rw [h] at ih
        cases ps <;> simp_all [List.intercalate, List.intersperse]

theorem pieces_eq_splitOn (sep : Char) (cs : List Char) : pieces sep cs = cs.splitOn sep := by
  induction cs with
  | nil => rfl
  | cons c cs ih =>
    simp only [pieces, List.splitOn_cons_eq_if_modifyHead, beq_iff_eq, ← ih]
    split
    · rfl
    · cases hps : pieces sep cs with
      | nil => exact absurd hps (pieces_ne_nil sep cs)
      | cons p ps => rfl

end PppoeSetup.Text
