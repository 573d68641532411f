import Mathlib.Data.Nat.Digits.Defs
import Mathlib.Tactic.Common
import Mathlib.Tactic.IntervalCases
import PppoeSetup.Toml.Document

/-!
# Words of TOML

How texts, numbers and the blanks around them are written, without any reference to how they are
read; and that each of them is read as what it says. A relation such as `Quoted cs s rest` says
that `cs` is written at the start of `s`, and that `rest` is left of it after that.
-/

namespace PppoeSetup.Toml

open PppoeSetup.Text

variable {s rest : List Char}

/-! ### Between the words -/

/-- Spaces and tabs. -/
inductive Blanks : List Char → List Char → Prop
  | none (s : List Char) : Blanks s s
  | space {s rest : List Char} : Blanks s rest → Blanks (' ' :: s) rest
  | tab {s rest : List Char} : Blanks s rest → Blanks ('\t' :: s) rest

/-- Spaces, tabs and line breaks. -/
inductive Gap : List Char → List Char → Prop
  | none (s : List Char) : Gap s s
  | space {s rest : List Char} : Gap s rest → Gap (' ' :: s) rest
  | tab {s rest : List Char} : Gap s rest → Gap ('\t' :: s) rest
  | lineFeed {s rest : List Char} : Gap s rest → Gap ('\n' :: s) rest
  | crlf {s rest : List Char} : Gap s rest → Gap ('\r' :: '\n' :: s) rest

/-- What may stand on a line after its statement, with the line break, unless the text ends. -/
inductive LineEnd : List Char → List Char → Prop
  | last : LineEnd [] []
  | space {s rest : List Char} : LineEnd s rest → LineEnd (' ' :: s) rest
  | tab {s rest : List Char} : LineEnd s rest → LineEnd ('\t' :: s) rest
  | lineFeed (s : List Char) : LineEnd ('\n' :: s) s
  | crlf (s : List Char) : LineEnd ('\r' :: '\n' :: s) s

/-- A text that starts with no blank, line break, comment or byte order mark. -/
inductive Solid : List Char → Prop
  | cons {c : Char} {s : List Char} : c ∉ [' ', '\t', '\n', '\r', '#', '\uFEFF'] → Solid (c :: s)

/-- A word ends before this text, whatever the word is. -/
inductive Stops : List Char → Prop
  | nil : Stops []
  | space {s : List Char} : Stops s → Stops (' ' :: s)
  | tab {s : List Char} : Stops s → Stops ('\t' :: s)
  | mark {c : Char} {s : List Char} : isDelimiter c → c ≠ ' ' → c ≠ '\t' → Stops (c :: s)

lemma skipBlanks_of_solid (h : Solid s) : skipBlanks s = s := by
  obtain ⟨hc⟩ := h
  simp only [List.mem_cons, List.not_mem_nil, or_false, not_or] at hc
  simp [skipBlanks, hc]

lemma Blanks.skipBlanks_eq (h : Blanks s rest) : skipBlanks s = skipBlanks rest := by
  induction h with
  | none => rfl
  | space _ ih | tab _ ih => simpa [skipBlanks] using ih

lemma skipGap_of_solid (h : Solid s) : skipGap false s = some s := by
  obtain ⟨hc⟩ := h
  simp only [List.mem_cons, List.not_mem_nil, or_false, not_or] at hc
  unfold skipGap
  split <;> simp_all

lemma Gap.skipGap_eq (h : Gap s rest) : skipGap false s = skipGap false rest := by
  induction h with
  | none => rfl
  | space _ ih | tab _ ih | lineFeed _ ih | crlf _ ih => simpa [skipGap] using ih

lemma Blanks.gap (h : Blanks s rest) : Gap s rest := by
  induction h with
  | none => exact .none _
  | space _ ih => exact .space ih
  | tab _ ih => exact .tab ih

lemma LineEnd.endLine_eq (h : LineEnd s rest) : endLine s = some rest := by
  induction h with
  | last | lineFeed | crlf => simp [endLine, skipBlanks]
  | space _ ih | tab _ ih => simpa [endLine, skipBlanks] using ih

lemma LineEnd.stops (h : LineEnd s rest) : Stops s := by
  induction h with
  | last => exact .nil
  | space _ ih => exact .space ih
  | tab _ ih => exact .tab ih
  | lineFeed | crlf => exact .mark (by decide) (by decide) (by decide)

lemma Blanks.stops (h : Blanks s rest) (hrest : Stops rest) : Stops s := by
  induction h with
  | none => exact hrest
  | space _ ih => exact .space (ih hrest)
  | tab _ ih => exact .tab (ih hrest)

lemma Stops.isDelimiter_head {c : Char} (h : Stops (c :: s)) : isDelimiter c := by
  cases h with
  | space | tab => decide
  | mark hc => exact hc

lemma Stops.furtherWord_eq (h : Stops s) : furtherWord s = some (none, s) := by
  have hnone : (skipBlanks s).head?.any beginsWord = false := by
    induction h with
    | nil => rfl
    | space _ ih | tab _ ih => simpa [skipBlanks] using ih
    | mark hc hspace htab => simp [skipBlanks, hspace, htab, beginsWord, hc]
  simp [furtherWord, hnone]

/-! ### Lengths -/

lemma Blanks.length_le (h : Blanks s rest) : rest.length ≤ s.length := by
  induction h with
  | none => exact le_rfl
  | space _ ih | tab _ ih => exact ih.trans (Nat.le_succ _)

lemma Gap.length_le (h : Gap s rest) : rest.length ≤ s.length := by
  induction h with
  | none => exact le_rfl
  | space _ ih | tab _ ih | lineFeed _ ih => exact ih.trans (Nat.le_succ _)
  | crlf _ ih => exact ih.trans (Nat.le_add_right _ 2)

lemma LineEnd.length_le (h : LineEnd s rest) : rest.length ≤ s.length := by
  induction h with
  | last => exact le_rfl
  | space _ ih | tab _ ih => exact ih.trans (Nat.le_succ _)
  | lineFeed s => exact Nat.le_succ _
  | crlf s => exact Nat.le_add_right _ 2

/-! ### Texts in quotes -/

/-- A hexadecimal digit of either case. -/
inductive Hex : Nat → Char → Prop
  | lower {n : Nat} : n < 16 → Hex n n.digitChar
  | upper {n : Nat} : n < 16 → Hex n n.digitChar.toUpper

/-- The rest of a text in double quotes after the opening one: a character stands for itself
unless it is a quote, a backslash or a control character; a quote and a backslash may have a
backslash before them, and every character up to U+FFFF may be given by its code point. -/
inductive Quoted : List Char → List Char → List Char → Prop
  | close (rest : List Char) : Quoted [] ('"' :: rest) rest
  | plain {c : Char} {cs s rest : List Char} :
    32 ≤ c.toNat → c.toNat ≠ 127 → c ≠ '"' → c ≠ '\\' → Quoted cs s rest →
    Quoted (c :: cs) (c :: s) rest
  | quote {cs s rest : List Char} : Quoted cs s rest → Quoted ('"' :: cs) ('\\' :: '"' :: s) rest
  | backslash {cs s rest : List Char} :
    Quoted cs s rest → Quoted ('\\' :: cs) ('\\' :: '\\' :: s) rest
  | code {c a b d e : Char} {cs s rest : List Char} :
    Hex (c.toNat / 4096) a → Hex (c.toNat / 256 % 16) b → Hex (c.toNat / 16 % 16) d →
    Hex (c.toNat % 16) e → Quoted cs s rest →
    Quoted (c :: cs) ('\\' :: 'u' :: a :: b :: d :: e :: s) rest

lemma Hex.hexDigit?_eq {n : Nat} {c : Char} (h : Hex n c) : hexDigit? c = some n := by
  cases h with
  | lower h | upper h => interval_cases n <;> rfl

lemma codePoint?_of_hex {c a b d e : Char} (ha : Hex (c.toNat / 4096) a)
    (hb : Hex (c.toNat / 256 % 16) b) (hd : Hex (c.toNat / 16 % 16) d) (he : Hex (c.toNat % 16) e) :
    codePoint? [a, b, d, e] = some c := by
  have hn : 16 * (16 * (16 * (c.toNat / 4096) + c.toNat / 256 % 16) + c.toNat / 16 % 16) +
      c.toNat % 16 = c.toNat := by omega
  have hfold : [a, b, d, e].foldlM (fun n d => (hexDigit? d).map (16 * n + ·)) 0 =
      some c.toNat := by
    simp [ha.hexDigit?_eq, hb.hexDigit?_eq, hd.hexDigit?_eq, he.hexDigit?_eq, hn]
  have hvalid : c.toNat.isValidChar := c.valid
  rw [codePoint?, hfold]
  exact dif_pos hvalid

lemma Quoted.basicText_eq {cs : List Char} (h : Quoted cs s rest) :
    basicText s = some (cs, rest) := by
  induction h with
  | close => rfl
  | plain hlow hdel hquote hback _ ih =>
    unfold basicText
    split <;> simp_all [isTextChar, push]
  | quote _ ih => simp [basicText, escapeLetter?, push, ih]
  | backslash _ ih => simp [basicText, escapeLetter?, push, ih]
  | code ha hb hd he _ ih => simp [basicText, codePoint?_of_hex ha hb hd he, push, ih]

lemma Quoted.length_lt {cs : List Char} (h : Quoted cs s rest) : rest.length < s.length := by
  induction h with
  | close => exact Nat.lt_succ_self _
  | plain _ _ _ _ _ ih => exact ih.trans (Nat.lt_succ_self _)
  | quote _ ih | backslash _ ih => exact ih.trans (Nat.lt_add_of_pos_right two_pos)
  | code _ _ _ _ _ ih => exact ih.trans (Nat.lt_add_of_pos_right (by simp : 0 < 6))

/-- Only an empty text ends where it starts. -/
lemma Quoted.quotedText_eq {cs : List Char} (h : Quoted cs s rest) (hrest : Stops rest) :
    quotedText ('"' :: s) = some (cs, rest) := by
  have hlines (r : List Char) : s ≠ '"' :: '"' :: r := by
    rintro rfl
    cases h with
    | close =>
      have hquote := hrest.isDelimiter_head
      revert hquote
      decide
    | plain _ _ hquote => exact hquote rfl
  unfold quotedText
  split
  next heq => exact absurd (List.cons.inj heq).2 (hlines _)
  next heq =>
    cases heq
    exact h.basicText_eq
  next heq => cases heq
  next heq => cases heq
  next hother _ _ => exact absurd rfl (hother s)

/-! ### Scalars -/

/-- A text in double quotes. -/
inductive TextAt (t : String) : List Char → List Char → Prop
  | quoted {s rest : List Char} : Quoted t.toList s rest → TextAt t ('"' :: s) rest

/-- A number in decimal digits. -/
inductive NumberAt (n : Nat) : List Char → List Char → Prop
  | digits (rest : List Char) : NumberAt n (Nat.toDigits 10 n ++ rest) rest

inductive BooleanAt : Bool → List Char → List Char → Prop
  | yes (rest : List Char) : BooleanAt true ("true".toList ++ rest) rest
  | no (rest : List Char) : BooleanAt false ("false".toList ++ rest) rest

/-- What is written as `W` says is read as something of which `M` holds. -/
structure Reads {α : Type} (read : Reader α) (W : List Char → List Char → Prop)
    (M : α → Prop) : Prop where
  solid {s rest : List Char} : W s rest → Solid s
  length {s rest : List Char} : W s rest → rest.length < s.length
  reads {s rest : List Char} : W s rest → Stops rest → ∃ a, read s = some (a, rest) ∧ M a

lemma Reads.imp {α : Type} {read : Reader α} {W : List Char → List Char → Prop} {M M' : α → Prop}
    (h : Reads read W M) (hM : ∀ a, M a → M' a) : Reads read W M' where
  solid := h.solid
  length := h.length
  reads := by
    intro s rest hw hrest
    obtain ⟨a, ha, hMa⟩ := h.reads hw hrest
    exact ⟨a, ha, hM a hMa⟩

lemma TextAt.reads (t : String) (depth : Nat) :
    Reads (value depth) (TextAt t) (fun v => ∃ span, v = .scalar span (.string t)) where
  solid := by
    rintro _ _ ⟨-⟩
    exact .cons (by decide)
  length := by
    rintro _ _ ⟨h⟩
    exact h.length_lt.trans (Nat.lt_succ_self _)
  reads := by
    rintro _ rest ⟨h⟩ hrest
    rename_i s
    refine ⟨_, ?_, ⟨'"' :: s, rest⟩, rfl⟩
    cases depth <;> simp [value, scalar, h.quotedText_eq hrest]

/-- A word that is not the start of something else. -/
lemma words_eq {w : List Char} (hw : w.all (!isDelimiter ·)) (hrest : Stops rest) :
    words (w ++ rest) = some (w, rest) := by
  have hstop : rest.takeWhile (!isDelimiter ·) = [] := by
    cases rest with
    | nil => rfl
    | cons c rest => simp [hrest.isDelimiter_head]
  have hfirst : (w ++ rest).takeWhile (!isDelimiter ·) = w := by
    rw [List.takeWhile_append_of_pos (List.all_eq_true.mp hw), hstop, List.append_nil]
  simp [words, hfirst, many_of_end hrest.furtherWord_eq]

/-- A word that starts with a letter or a digit is read as a scalar. -/
lemma value_of_word {w : List Char} {c : Char} {v : Scalar} (hhead : w.head? = some c)
    (hc : c.isAlphanum) (hw : w.all (!isDelimiter ·)) (hrest : Stops rest)
    (hv : wordScalar? w = some v) (depth : Nat) :
    ∃ a, value depth (w ++ rest) = some (a, rest) ∧ ∃ span, a = .scalar span v := by
  cases w with
  | nil => cases hhead
  | cons c' w =>
    cases hhead
    have hword := words_eq hw hrest
    rw [List.cons_append] at hword ⊢
    -- a letter or a digit opens no string and no bracket
    have hmarks : c ∉ ['"', '\x27', '[', '\x7b'] := by
      intro hmem
      simp only [List.mem_cons, List.not_mem_nil, or_false] at hmem
      rcases hmem with rfl | rfl | rfl | rfl <;> revert hc <;> decide
    have hscalar : scalar (c :: (w ++ rest)) =
        some (.scalar ⟨c :: (w ++ rest), rest⟩ v, rest) := by
      unfold scalar
      split <;> simp_all
    refine ⟨_, ?_, ⟨c :: (w ++ rest), rest⟩, rfl⟩
    cases depth with
    | zero => exact hscalar
    | succ depth =>
      rw [← hscalar]
      unfold value
      split <;> simp_all

lemma BooleanAt.reads (b : Bool) (depth : Nat) :
    Reads (value depth) (BooleanAt b) (fun v => ∃ span, v = .scalar span (.boolean b)) where
  solid := by
    rintro _ _ (_ | _)
    all_goals exact .cons (by decide)
  length := by
    rintro _ _ (_ | _)
    all_goals exact List.length_append ▸ Nat.lt_add_of_pos_left (by decide)
  reads := by
    rintro _ _ (_ | _) hrest
    · exact value_of_word rfl rfl (by decide) hrest rfl depth
    · exact value_of_word rfl rfl (by decide) hrest rfl depth

section

variable {cs : List Char} {c : Char} {n : Nat}

lemma digit?_of_isDigit (h : c.isDigit) : digit? c = some (c.toNat - '0'.toNat) := by
  have hc : '0' ≤ c ∧ c ≤ '9' := by
    simp only [Char.isDigit, Bool.and_eq_true, decide_eq_true_eq] at h
    exact h
  rw [digit?, if_pos hc]
  rfl

lemma decimalFrom_eq (h : ∀ c ∈ cs, c.isDigit) :
    decimalFrom n cs = some (Nat.ofDigitChars 10 cs n) := by
  induction cs generalizing n with
  | nil => rfl
  | cons c cs ih =>
    obtain ⟨hc, hcs⟩ := List.forall_mem_cons.mp h
    simp only [decimalFrom, digit?_of_isDigit hc, ih hcs, Nat.ofDigitChars_cons]

lemma notMem_of_isDigit {l : List Char} (h : c.isDigit) (hl : l.all (!·.isDigit)) : c ∉ l := by
  intro hmem
  have hnot := List.all_eq_true.mp hl c hmem
  simp [h] at hnot

lemma isDigit_of_mem (h : c ∈ Nat.toDigits 10 n) : c.isDigit :=
  Nat.isDigit_of_mem_toDigits (by decide) le_rfl h

lemma decimal?_toDigits (n : Nat) : decimal? (Nat.toDigits 10 n) = some n := by
  have hfrom : decimalFrom 0 (Nat.toDigits 10 n) = some n := by
    rw [decimalFrom_eq fun _ => isDigit_of_mem, Nat.ofDigitChars_ten_toDigits]
  cases hd : Nat.toDigits 10 n with
  | nil => exact absurd hd Nat.toDigits_ne_nil
  | cons d ds => rwa [hd] at hfrom

lemma exists_toDigits (n : Nat) : ∃ d ds, Nat.toDigits 10 n = d :: ds ∧ d.isDigit := by
  obtain ⟨d, ds, hd⟩ := List.exists_cons_of_ne_nil (Nat.toDigits_ne_nil (n := n) (b := 10))
  exact ⟨d, ds, hd, isDigit_of_mem (n := n) (by simp [hd])⟩

/-- Only zero starts with a zero. -/
lemma head?_toDigits_ne (hn : n ≠ 0) : (Nat.toDigits 10 n).head? ≠ some '0' := by
  induction n using Nat.strongRecOn with
  | ind n ih =>
    rw [Nat.toDigits_eq_if (by decide)]
    split
    next hlt =>
      interval_cases n
      · exact absurd rfl hn
      all_goals decide
    next hge =>
      have hhigh := ih (n / 10) (by omega) (by omega)
      obtain ⟨d, ds, hd⟩ := List.exists_cons_of_ne_nil (Nat.toDigits_ne_nil (n := n / 10) (b := 10))
      rw [hd] at hhigh ⊢
      exact hhigh

lemma pieces_of_notMem {sep : Char} (h : sep ∉ cs) : pieces sep cs = [cs] := by
  induction cs with
  | nil => rfl
  | cons c cs ih =>
    rw [List.mem_cons, not_or] at h
    simp [pieces, Ne.symm h.1, ih h.2]

lemma decimalInteger?_toDigits (hn : n ≠ 0) :
    decimalInteger? (Nat.toDigits 10 n) = some (some n) := by
  have hdigits : ∀ c ∈ Nat.toDigits 10 n, c.isDigit := fun _ => isDigit_of_mem
  have hmarks : ((Nat.toDigits 10 n).any fun c => isExponentMark c || c = '.' || c = ' ') =
      false := by
    apply List.any_eq_false.mpr
    intro c hc
    have hnot : c ∉ ['e', 'E', '.', ' '] := notMem_of_isDigit (hdigits c hc) (by decide)
    simpa [isExponentMark, and_assoc] using hnot
  have hgrouped : isGrouped [Nat.toDigits 10 n] := by
    have hall : ∀ c ∈ Nat.toDigits 10 n, isDecimalDigit c := by
      intro c hc
      simp [isDecimalDigit, digit?_of_isDigit (hdigits c hc)]
    simpa [isGrouped, Nat.toDigits_ne_nil] using hall
  rw [decimalInteger?, if_neg (head?_toDigits_ne hn), if_neg (by simp [hmarks]),
    pieces_of_notMem Nat.underscore_not_in_toDigits]
  simp [hgrouped, decimal?_toDigits]

lemma signed_of_isDigit (h : c.isDigit) (cs : List Char) : signed (c :: cs) = (none, c :: cs) := by
  unfold signed
  split
  next heq =>
    cases heq
    cases h
  next heq =>
    cases heq
    cases h
  · rfl

lemma integer?_toDigits (n : Nat) : integer? (Nat.toDigits 10 n) = some (some (n : Int)) := by
  by_cases hn : n = 0
  · subst hn
    rfl
  have hdecimal := decimalInteger?_toDigits hn
  have hhead := head?_toDigits_ne hn
  obtain ⟨d, ds, hd, hfirst⟩ := exists_toDigits n
  rw [hd] at hdecimal hhead ⊢
  -- no prefix of another base
  have hbase (c : Char) (r : List Char) : d :: ds ≠ '0' :: c :: r := by
    rintro ⟨⟩
    exact hhead rfl
  unfold integer?
  split
  next heq => exact absurd heq (hbase _ _)
  next heq => exact absurd heq (hbase _ _)
  next heq => exact absurd heq (hbase _ _)
  · simp [signed_of_isDigit hfirst, hdecimal, withSign]

lemma wordScalar?_toDigits (n : Nat) :
    wordScalar? (Nat.toDigits 10 n) = some (.integer (some n)) := by
  obtain ⟨d, ds, hd, hfirst⟩ := exists_toDigits n
  have hletters : ∀ w : String, (w.toList.head?.any Char.isDigit) = false →
      Nat.toDigits 10 n ≠ w.toList := by
    rintro w hw heq
    simp [← heq, hd, hfirst] at hw
  rw [wordScalar?, if_neg (hletters "true" rfl), if_neg (hletters "false" rfl),
    integer?_toDigits]

lemma NumberAt.reads (n depth : Nat) :
    Reads (value depth) (NumberAt n) (fun v => ∃ span, v = .scalar span (.integer (some n))) where
  solid := by
    rintro _ rest ⟨⟩
    obtain ⟨d, ds, hd, hfirst⟩ := exists_toDigits n
    rw [hd]
    exact .cons (notMem_of_isDigit hfirst (by decide))
  length := by
    rintro _ rest ⟨⟩
    rw [List.length_append]
    exact Nat.lt_add_of_pos_left (List.length_pos_iff.mpr Nat.toDigits_ne_nil)
  reads := by
    rintro _ rest ⟨⟩ hrest
    obtain ⟨d, ds, hd, hfirst⟩ := exists_toDigits n
    refine value_of_word (c := d) (by rw [hd]; rfl) ?_ ?_ hrest (wordScalar?_toDigits n) depth
    · simp [Char.isAlphanum, hfirst]
    · refine List.all_eq_true.mpr fun c hc => ?_
      rw [Bool.not_eq_true', isDelimiter, List.contains_eq_mem, decide_eq_false_iff_not]
      exact notMem_of_isDigit (isDigit_of_mem hc) (by decide)

end

end PppoeSetup.Toml
