import PppoeSetup.Proofs.Toml.Words
import PppoeSetup.Text.Quoted

/-!
# Quoted texts

A quoted text has printable characters only, whatever the text is, so that it never goes beyond
its line; and it can be told where it ends, and which text it stands for.
-/

namespace PppoeSetup.Text

open Toml (Hex)

variable {c c' x : Char} {cs cs' l l' r r' : List Char} {n n' : Nat} {s t : String}

/-! ### Lines -/

/-- The characters that a line ends with: line feed, vertical tab, form feed, carriage return,
next line, and the separators of lines and of paragraphs. -/
def lineBreaks : List Char := ['\n', '\x0b', '\x0c', '\r', '\x85', '\u2028', '\u2029']

/-- The lines of a text. -/
def lines (s : String) : List String :=
  (s.toList.splitOnP (· ∈ lineBreaks)).map .ofList

/-- All characters of a text are printable. -/
def Printable (s : String) : Prop := ∀ c ∈ s.toList, isPrintable c

lemma not_isControl_of_isPrintable (h : isPrintable c) : isControl c = false := by
  by_contra hcontrol
  rw [not_isPrintable_of_isControl (Bool.of_not_eq_false hcontrol)] at h
  cases h

lemma notMem_lineBreaks_of_isPrintable (h : isPrintable c) : c ∉ lineBreaks := by
  intro hc
  have hnone : lineBreaks.all (!isPrintable ·) := by decide +kernel
  have hnot := List.all_eq_true.mp hnone c hc
  rw [h] at hnot
  cases hnot

/-- A printable text is one line. -/
lemma Printable.lines_eq (h : Printable s) : lines s = [s] := by
  have hsplit : s.toList.splitOnP (· ∈ lineBreaks) = [s.toList] :=
    List.splitOnP_eq_singleton fun c hc => by
      simpa using notMem_lineBreaks_of_isPrintable (h c hc)
  rw [lines, hsplit, List.map_singleton, String.ofList_toList]

lemma Printable.append (hs : Printable s) (ht : Printable t) : Printable (s ++ t) := by
  intro c hc
  rw [String.toList_append, List.mem_append] at hc
  exact hc.elim (hs c) (ht c)

lemma inRanges_eq_false {ranges : List (Nat × Nat)} (hbeyond : ranges.all (n ≤ ·.1))
    (hc : c.toNat < n) : inRanges ranges c = false := by
  by_contra hin
  obtain ⟨r, hr, hbounds⟩ := inRanges_iff.mp (Bool.of_not_eq_false hin)
  have hn := of_decide_eq_true (List.all_eq_true.mp hbeyond r hr)
  omega

/-- The ranges of what is not printable begin beyond ASCII. -/
lemma isPrintable_of_ascii (hlow : 0x20 ≤ c.toNat) (hhigh : c.toNat < 0x7F) : isPrintable c := by
  have hinvisible : inRanges invisibleRanges c = false :=
    inRanges_eq_false (n := 0x7F) (by decide +kernel) hhigh
  have hjoining : inRanges joiningRanges c = false :=
    inRanges_eq_false (n := 0x7F) (by decide +kernel) hhigh
  have hcontrol : isControl c = false := by
    simp [isControl]
    omega
  simp [isPrintable, hcontrol, hinvisible, hjoining]

lemma printable_of_ascii (h : s.toList.all fun c => 0x20 ≤ c.toNat && c.toNat < 0x7F) :
    Printable s := by
  intro c hc
  have hbounds := List.all_eq_true.mp h c hc
  simp only [Bool.and_eq_true, decide_eq_true_eq] at hbounds
  exact isPrintable_of_ascii hbounds.1 hbounds.2

/-! ### Hexadecimal numbers -/

/-- A number is a digit, or its last digit behind those of a smaller number. -/
lemma hexDigits_cases (n : Nat) :
    (n < 16 ∧ hexDigits n = [n.digitChar]) ∨
      (n / 16 < n ∧ hexDigits n = hexDigits (n / 16) ++ [(n % 16).digitChar]) := by
  rcases Nat.lt_or_ge n 16 with h | h
  · exact .inl ⟨h, Nat.toDigits_of_lt_base h⟩
  · exact .inr ⟨Nat.div_lt_self (by omega) (by decide), Nat.toDigits_of_base_le (by decide) h⟩

lemma exists_digit_of_mem_hexDigits (h : c ∈ hexDigits n) : ∃ d < 16, c = d.digitChar := by
  induction n using Nat.strongRecOn with
  | ind n ih =>
    rcases hexDigits_cases n with ⟨hlt, hdigits⟩ | ⟨hlt, hdigits⟩
    · rw [hdigits, List.mem_singleton] at h
      exact ⟨n, hlt, h⟩
    · rw [hdigits, List.mem_append, List.mem_singleton] at h
      rcases h with h | rfl
      · exact ih _ hlt h
      · exact ⟨n % 16, Nat.mod_lt _ (by decide), rfl⟩

/-- The digits of a number are read back as the number. -/
lemma foldlM_hexDigits (n : Nat) :
    (hexDigits n).foldlM (fun m d => (hexDigit? d).map (16 * m + ·)) 0 = some n := by
  induction n using Nat.strongRecOn with
  | ind n ih =>
    rcases hexDigits_cases n with ⟨hlt, hdigits⟩ | ⟨hlt, hdigits⟩
    · simp [hdigits, (Hex.lower hlt).hexDigit?_eq]
    · have hlast := (Hex.lower (Nat.mod_lt n (by decide : 0 < 16))).hexDigit?_eq
      have hn : 16 * (n / 16) + n % 16 = n := Nat.div_add_mod n 16
      simp [hdigits, List.foldlM_append, ih _ hlt, hlast, hn]

lemma hexDigits_injective : Function.Injective hexDigits := by
  intro n n' h
  have hn := foldlM_hexDigits n
  rw [h, foldlM_hexDigits] at hn
  exact (Option.some.inj hn).symm

lemma brace_notMem_hexDigits : '\x7d' ∉ hexDigits n := by
  intro h
  obtain ⟨d, hd, hbrace⟩ := exists_digit_of_mem_hexDigits h
  have hread := (Hex.lower hd).hexDigit?_eq
  rw [← hbrace] at hread
  cases hread

/-- What comes before the first of a mark and what comes after it can be told. -/
lemma append_mark_inj {mark : Char} (hl : mark ∉ l) (hl' : mark ∉ l')
    (h : l ++ mark :: r = l' ++ mark :: r') : l = l' ∧ r = r' := by
  induction l generalizing l' with
  | nil =>
    cases l' with
    | nil => exact ⟨rfl, (List.cons.inj h).2⟩
    | cons x l' => exact absurd (by simp [(List.cons.inj h).1]) hl'
  | cons x l ih =>
    cases l' with
    | nil => exact absurd (by simp [(List.cons.inj h).1]) hl
    | cons x' l' =>
      obtain ⟨rfl, hrest⟩ := List.cons.inj h
      obtain ⟨rfl, rfl⟩ := ih (List.not_mem_of_not_mem_cons hl) (List.not_mem_of_not_mem_cons hl')
        hrest
      exact ⟨rfl, rfl⟩

/-- A number in digits ends with the first brace. -/
lemma hexDigits_append_inj (h : hexDigits n ++ '\x7d' :: r = hexDigits n' ++ '\x7d' :: r') :
    n = n' ∧ r = r' := by
  obtain ⟨hdigits, hrest⟩ := append_mark_inj brace_notMem_hexDigits brace_notMem_hexDigits h
  exact ⟨hexDigits_injective hdigits, hrest⟩

lemma isPrintable_digitChar {d : Nat} (h : d < 16) : isPrintable d.digitChar := by
  interval_cases d <;> exact isPrintable_of_ascii (by decide) (by decide)

/-! ### Escapes -/

/-- The characters with a short escape, each with the letter that stands for it. -/
def escapeLetters : List (Char × Char) :=
  [('\x00', '0'), ('\t', 't'), ('\n', 'n'), ('\r', 'r'), ('\\', '\\'), ('"', '"')]

/-- The three ways in which a character is written between the quotes. -/
inductive Escaping (c : Char) : List Char → Prop
  | plain : isPrintable c → c ≠ '\\' → c ≠ '"' → Escaping c [c]
  | letter {d : Char} : (c, d) ∈ escapeLetters → Escaping c ['\\', d]
  | code : Escaping c ('\\' :: 'u' :: '\x7b' :: (hexDigits c.toNat ++ ['\x7d']))

lemma escaping_escaped (c : Char) : Escaping c (escaped c) := by
  unfold escaped
  split_ifs with h₀ ht hn hr hback hquote hprint
  · exact .letter (by simp [escapeLetters, h₀])
  · exact .letter (by simp [escapeLetters, ht])
  · exact .letter (by simp [escapeLetters, hn])
  · exact .letter (by simp [escapeLetters, hr])
  · exact .letter (by simp [escapeLetters, hback])
  · exact .letter (by simp [escapeLetters, hquote])
  · exact .plain hprint hback hquote
  · exact .code

lemma isPrintable_of_mem_escapeLetters {d : Char} (h : (c, d) ∈ escapeLetters) :
    isPrintable d := by
  have hall : escapeLetters.all fun p => isPrintable p.2 := by decide +kernel
  exact List.all_eq_true.mp hall _ h

lemma Escaping.isPrintable (h : Escaping c l) (hx : x ∈ l) : isPrintable x := by
  cases h with
  | plain hc =>
    rw [List.mem_singleton.mp hx]
    exact hc
  | letter hd =>
    simp only [List.mem_cons, List.not_mem_nil, or_false] at hx
    rcases hx with rfl | rfl
    · exact isPrintable_of_ascii (by decide) (by decide)
    · exact isPrintable_of_mem_escapeLetters hd
  | code =>
    simp only [List.mem_cons, List.mem_append, List.not_mem_nil, or_false] at hx
    rcases hx with rfl | rfl | rfl | hdigit | rfl
    · exact isPrintable_of_ascii (by decide) (by decide)
    · exact isPrintable_of_ascii (by decide) (by decide)
    · exact isPrintable_of_ascii (by decide) (by decide)
    · obtain ⟨d, hd, rfl⟩ := exists_digit_of_mem_hexDigits hdigit
      exact isPrintable_digitChar hd
    · exact isPrintable_of_ascii (by decide) (by decide)

/-- A quote inside the quotes has a backslash before it. -/
lemma Escaping.append_ne_quote (h : Escaping c l) : l ++ r ≠ '"' :: r' := by
  intro heq
  cases h with
  | plain _ _ hquote => exact hquote (List.cons.inj heq).1
  | letter | code => exact absurd (List.cons.inj heq).1 (by decide)

/-- Each letter stands for one character, and `u` for none. -/
lemma escapeLetters_inj {d : Char} (h : (c, d) ∈ escapeLetters) (h' : (c', d) ∈ escapeLetters) :
    c = c' := by
  simp only [escapeLetters, List.mem_cons, Prod.mk.injEq, List.not_mem_nil, or_false] at h h'
  rcases h with ⟨rfl, rfl⟩ | ⟨rfl, rfl⟩ | ⟨rfl, rfl⟩ | ⟨rfl, rfl⟩ | ⟨rfl, rfl⟩ | ⟨rfl, rfl⟩ <;>
    simpa [eq_comm] using h'

lemma u_notMem_escapeLetters : (c, 'u') ∉ escapeLetters := by
  simp [escapeLetters]

/-- Of a text that begins with an escape it can be told of which character, and what follows. -/
lemma Escaping.append_inj (h : Escaping c l) (h' : Escaping c' l') (heq : l ++ r = l' ++ r') :
    c = c' ∧ r = r' := by
  -- the first character tells a plain one from an escape, and the second one which escape
  cases h with
  | plain _ hback =>
    cases h' with
    | plain => exact List.cons.inj heq
    | letter | code => exact absurd (List.cons.inj heq).1 hback
  | letter hd =>
    cases h' with
    | plain _ hback => exact absurd (List.cons.inj heq).1.symm hback
    | letter hd' =>
      obtain ⟨-, hrest⟩ := List.cons.inj heq
      obtain ⟨rfl, rfl⟩ := List.cons.inj hrest
      exact ⟨escapeLetters_inj hd hd', rfl⟩
    | code =>
      obtain ⟨-, hrest⟩ := List.cons.inj heq
      rw [(List.cons.inj hrest).1] at hd
      exact absurd hd u_notMem_escapeLetters
  | code =>
    cases h' with
    | plain _ hback => exact absurd (List.cons.inj heq).1.symm hback
    | letter hd' =>
      obtain ⟨-, hrest⟩ := List.cons.inj heq
      rw [← (List.cons.inj hrest).1] at hd'
      exact absurd hd' u_notMem_escapeLetters
    | code =>
      have hdigits : hexDigits c.toNat ++ '\x7d' :: r = hexDigits c'.toNat ++ '\x7d' :: r' := by
        simpa using heq
      obtain ⟨hcode, hrest⟩ := hexDigits_append_inj hdigits
      exact ⟨Char.toNat_inj.mp hcode, hrest⟩

/-! ### Texts in quotes -/

lemma printable_quoted (s : String) : Printable (quoted s) := by
  intro x hx
  rw [quoted, String.toList_ofList, quotedChars] at hx
  simp only [List.mem_cons, List.mem_append, List.mem_flatMap, List.not_mem_nil, or_false] at hx
  rcases hx with (rfl | ⟨c, -, hc⟩) | rfl
  · exact isPrintable_of_ascii (by decide) (by decide)
  · exact (escaping_escaped c).isPrintable hc
  · exact isPrintable_of_ascii (by decide) (by decide)

/-- A text after its opening quote ends with the first quote that has no backslash before it. The
induction is on the text, one escape after the other. -/
lemma escaped_append_quote_inj
    (h : cs.flatMap escaped ++ '"' :: r = cs'.flatMap escaped ++ '"' :: r') :
    cs = cs' ∧ r = r' := by
  induction cs generalizing cs' with
  | nil =>
    cases cs' with
    | nil => exact ⟨rfl, (List.cons.inj h).2⟩
    | cons c' cs' =>
      rw [List.flatMap_cons, List.append_assoc] at h
      exact absurd h.symm (escaping_escaped c').append_ne_quote
  | cons c cs ih =>
    cases cs' with
    | nil =>
      rw [List.flatMap_cons, List.append_assoc] at h
      exact absurd h (escaping_escaped c).append_ne_quote
    | cons c' cs' =>
      rw [List.flatMap_cons, List.flatMap_cons, List.append_assoc, List.append_assoc] at h
      obtain ⟨rfl, hrest⟩ := (escaping_escaped c).append_inj (escaping_escaped c') h
      obtain ⟨rfl, rfl⟩ := ih hrest
      exact ⟨rfl, rfl⟩

/-- Of a text that begins with a quoted text it can be told which one it is, and what follows. -/
theorem quoted_append_inj {s s' t t' : String} (h : quoted s ++ t = quoted s' ++ t') :
    s = s' ∧ t = t' := by
  have hchars := congrArg String.toList h
  simp only [quoted, String.toList_append, String.toList_ofList, quotedChars, List.cons_append,
    List.append_assoc, List.nil_append, List.cons.injEq, true_and] at hchars
  obtain ⟨hs, ht⟩ := escaped_append_quote_inj hchars
  exact ⟨String.toList_inj.mp hs, String.toList_inj.mp ht⟩

end PppoeSetup.Text
