import Mathlib.Data.List.TakeWhile
import Mathlib.Tactic.Common
import PppoeSetup.Proofs.InterfaceNames

/-!
# Bytes that are no text

A character has one of four forms in UTF-8: a first byte with the highest bits of its number, and
up to three bytes that go on with six bits each. Bytes are malformed if, after a text, there is
something that begins no character: bytes of no form, or of a form whose number is none that the
form is for. Bytes are either a text or malformed, and never both.
-/

namespace PppoeSetup.Text

/-! ### Forms -/

/-- The forms of a character, by how many bytes there are. -/
inductive Form
  | single
  | double
  | triple
  | quadruple
deriving DecidableEq

/-- The byte goes on with a character. -/
def Continues (b : UInt8) : Prop := 0x80 ≤ b.toNat ∧ b.toNat < 0xC0

instance : DecidablePred Continues := fun b =>
  inferInstanceAs (Decidable (0x80 ≤ b.toNat ∧ b.toNat < 0xC0))

/-- The number with these highest bits and six more from each byte. -/
def number (highest : Nat) (more : List UInt8) : Nat :=
  more.foldl (fun n b => 64 * n + (b.toNat - 0x80)) highest

namespace Form

/-- The first byte with no bits of a number. -/
def start : Form → Nat
  | single => 0
  | double => 0xC0
  | triple => 0xE0
  | quadruple => 0xF0

/-- How many first bytes there are. -/
def width : Form → Nat
  | single => 0x80
  | double => 0x20
  | triple => 0x10
  | quadruple => 0x8

/-- How many bytes go on after the first one. -/
def more : Form → Nat
  | single => 0
  | double => 1
  | triple => 2
  | quadruple => 3

/-- The least number that needs the form. -/
def least : Form → Nat
  | single => 0
  | double => 0x80
  | triple => 0x800
  | quadruple => 0x10000

/-- The byte is a first byte of the form. -/
def Starts (form : Form) (b : UInt8) : Prop :=
  form.start ≤ b.toNat ∧ b.toNat < form.start + form.width

/-- The bytes have the form, and they spell a number. -/
structure Spells (form : Form) (first : UInt8) (more : List UInt8) (n : Nat) : Prop where
  starts : form.Starts first
  continues : ∀ b ∈ more, Continues b
  length : more.length = form.more
  number : n = Text.number (first.toNat - form.start) more

end Form

/-- Bytes that begin no character, by what is wrong with them. -/
inductive IllFormed : List UInt8 → Prop
  /-- A byte that goes on where nothing has begun. -/
  | stray {b : UInt8} {rest : List UInt8} (h : Continues b) : IllFormed (b :: rest)
  /-- A byte that is in no character. -/
  | unused {b : UInt8} {rest : List UInt8} (h : 0xF8 ≤ b.toNat) : IllFormed (b :: rest)
  /-- A character of which not all bytes are there. -/
  | truncated {form : Form} {first : UInt8} {rest : List UInt8} (h : form.Starts first)
      (hfew : (rest.takeWhile (Continues ·)).length < form.more) : IllFormed (first :: rest)
  /-- A number that has a shorter form. -/
  | overlong {form : Form} {first : UInt8} {more rest : List UInt8} {n : Nat}
      (h : form.Spells first more n) (hn : n < form.least) : IllFormed (first :: (more ++ rest))
  | surrogate {form : Form} {first : UInt8} {more rest : List UInt8} {n : Nat}
      (h : form.Spells first more n) (hn : 0xD800 ≤ n ∧ n ≤ 0xDFFF) :
      IllFormed (first :: (more ++ rest))
  /-- A number that is too great for a character. -/
  | beyond {form : Form} {first : UInt8} {more rest : List UInt8} {n : Nat}
      (h : form.Spells first more n) (hn : 0x10FFFF < n) : IllFormed (first :: (more ++ rest))

/-- After some text, the bytes are ill-formed. -/
def Malformed (bytes : List UInt8) : Prop :=
  ∃ (text : List Char) (rest : List UInt8),
    bytes = text.flatMap String.utf8EncodeChar ++ rest ∧ IllFormed rest

variable {form form' : Form} {first b : UInt8} {more more' rest rest' bytes : List UInt8}
  {n n' highest highest' : Nat} {c c' : Char}

/-! ### Numbers -/

@[simp] lemma number_nil : number highest [] = highest := rfl

@[simp] lemma number_cons :
    number highest (b :: more) = number (64 * highest + (b.toNat - 0x80)) more := by
  simp only [number, List.foldl_cons]

lemma number_lt (h : ∀ b ∈ more, Continues b) :
    number highest more < (highest + 1) * Nat.pow 64 more.length := by
  induction more generalizing highest with
  | nil => simp
  | cons b more ih =>
    obtain ⟨hb, hmore⟩ := List.forall_mem_cons.mp h
    calc number highest (b :: more)
      _ = number (64 * highest + (b.toNat - 0x80)) more := number_cons
      _ < (64 * highest + (b.toNat - 0x80) + 1) * Nat.pow 64 more.length := ih hmore
      _ ≤ ((highest + 1) * 64) * Nat.pow 64 more.length :=
        Nat.mul_le_mul_right _ (by unfold Continues at hb; omega)
      _ = (highest + 1) * Nat.pow 64 (b :: more).length := by
        rw [Nat.mul_assoc, List.length_cons]
        exact congrArg _ Nat.pow_succ'.symm

lemma number_inj (h : ∀ b ∈ more, Continues b) (h' : ∀ b ∈ more', Continues b)
    (hlength : more.length = more'.length) (hn : number highest more = number highest' more') :
    highest = highest' ∧ more = more' := by
  induction more generalizing highest highest' more' with
  | nil =>
    obtain rfl := List.eq_nil_of_length_eq_zero hlength.symm
    exact ⟨hn, rfl⟩
  | cons b more ih =>
    obtain _ | ⟨b', more'⟩ := more'
    · cases hlength
    obtain ⟨hb, hmore⟩ := List.forall_mem_cons.mp h
    obtain ⟨hb', hmore'⟩ := List.forall_mem_cons.mp h'
    rw [number_cons, number_cons] at hn
    obtain ⟨hbits, rfl⟩ := ih hmore hmore' (Nat.succ.inj hlength) hn
    unfold Continues at hb hb'
    obtain rfl : b = b' := UInt8.toNat_inj.mp (by omega)
    exact ⟨by omega, rfl⟩

/-! ### One character -/

namespace Form

lemma eq_of_starts (h : form.Starts b) (h' : form'.Starts b) : form = form' := by
  cases form <;> cases form' <;> simp only [Starts, start, width] at h h' <;>
    first | rfl | omega

lemma not_continues (h : form.Starts b) : ¬ Continues b := by
  cases form <;> simp only [Starts, start, width, Continues] at h ⊢ <;> omega

lemma lt_of_starts (h : form.Starts b) : b.toNat < 0xF8 := by
  cases form <;> simp only [Starts, start, width] at h <;> omega

lemma exists_starts (hstray : ¬ Continues b) (hused : b.toNat < 0xF8) :
    ∃ form : Form, form.Starts b := by
  unfold Continues at hstray
  by_cases h₁ : b.toNat < 0x80
  · exact ⟨single, by simp only [Starts, start, width]; omega⟩
  by_cases h₂ : b.toNat < 0xE0
  · exact ⟨double, by simp only [Starts, start, width]; omega⟩
  by_cases h₃ : b.toNat < 0xF0
  · exact ⟨triple, by simp only [Starts, start, width]; omega⟩
  · exact ⟨quadruple, by simp only [Starts, start, width]; omega⟩

/-- The bytes at the front of a list that have a form are determined, and so is their number. -/
lemma Spells.append_inj (h : form.Spells first more n) (h' : form'.Spells first more' n')
    (heq : more ++ rest = more' ++ rest') : form = form' ∧ n = n' ∧ rest = rest' := by
  obtain rfl := eq_of_starts h.starts h'.starts
  obtain ⟨rfl, rfl⟩ := List.append_inj heq (h.length.trans h'.length.symm)
  exact ⟨rfl, h.number.trans h'.number.symm, rfl⟩

/-- Where enough bytes go on, the form spells a number. -/
lemma exists_spells (h : form.Starts first)
    (hmany : form.more ≤ (rest.takeWhile (Continues ·)).length) :
    ∃ more rest' n, rest = more ++ rest' ∧ form.Spells first more n := by
  have hfront := List.takeWhile_append_dropWhile (p := (Continues ·)) (l := rest)
  refine ⟨(rest.takeWhile (Continues ·)).take form.more,
    (rest.takeWhile (Continues ·)).drop form.more ++ rest.dropWhile (Continues ·), _, ?_,
    h, fun b hb => ?_, ?_, rfl⟩
  · rw [← List.append_assoc, List.take_append_drop, hfront]
  · simpa using List.mem_takeWhile_imp (List.mem_of_mem_take hb)
  · rw [List.length_take, Nat.min_eq_left hmany]

/-- A number determines the form that it needs. -/
lemma Spells.eq_of_least_le (h : form.Spells first more n) (h' : form'.Spells b more' n)
    (hn : form.least ≤ n) (hn' : form'.least ≤ n) : form = form' := by
  have hlt : n < (first.toNat - form.start + 1) * Nat.pow 64 form.more := by
    rw [h.number, ← h.length]
    exact number_lt h.continues
  have hlt' : n < (b.toNat - form'.start + 1) * Nat.pow 64 form'.more := by
    rw [h'.number, ← h'.length]
    exact number_lt h'.continues
  have hfirst := h.starts.2
  have hfirst' := h'.starts.2
  cases form <;> cases form' <;> simp only [start, width, Form.more, least, Nat.pow_eq] at * <;>
    first | rfl | omega

/-- A number with its form determines the bytes. -/
lemma Spells.eq_of_number (h : form.Spells first more n) (h' : form.Spells b more' n) :
    first = b ∧ more = more' := by
  obtain ⟨hbits, rfl⟩ := number_inj h.continues h'.continues (h.length.trans h'.length.symm)
    (h.number.symm.trans h'.number)
  have hfirst := h.starts.1
  have hfirst' := h'.starts.1
  exact ⟨UInt8.toNat_inj.mp (by omega), rfl⟩

/-- The bytes of a character spell its number in the form that it needs. -/
lemma exists_spells_char (c : Char) : ∃ (form : Form) (first : UInt8) (more : List UInt8),
    String.utf8EncodeChar c = first :: more ∧ form.Spells first more c.toNat ∧
      form.least ≤ c.toNat := by
  have hc : c.val.toNat < 0x110000 := by
    have := c.valid
    unfold UInt32.isValidChar Nat.isValidChar at this
    omega
  have htoNat : c.toNat = c.val.toNat := rfl
  rw [htoNat]
  -- One case for each form.
  fun_cases String.utf8EncodeChar c with
  | case1 =>
    refine ⟨single, _, _, rfl, ⟨?_, ?_, rfl, ?_⟩, ?_⟩ <;> simp [Starts, start, width, least] <;>
      omega
  | case2 =>
    refine ⟨double, _, _, rfl, ⟨?_, ?_, rfl, ?_⟩, ?_⟩ <;>
      simp [Starts, start, width, least, Continues] <;> omega
  | case3 =>
    refine ⟨triple, _, _, rfl, ⟨?_, ?_, rfl, ?_⟩, ?_⟩ <;>
      simp [Starts, start, width, least, Continues] <;> omega
  | case4 =>
    refine ⟨quadruple, _, _, rfl, ⟨?_, ?_, rfl, ?_⟩, ?_⟩ <;>
      simp [Starts, start, width, least, Continues] <;> omega

/-- Bytes that spell the number of a character in the form that it needs are those of the
character. -/
lemma Spells.encode_eq (h : form.Spells first more c.toNat) (hn : form.least ≤ c.toNat) :
    String.utf8EncodeChar c = first :: more := by
  obtain ⟨form', b, more', heq, h', hn'⟩ := exists_spells_char c
  obtain rfl := h.eq_of_least_le h' hn hn'
  obtain ⟨rfl, rfl⟩ := h.eq_of_number h'
  exact heq

end Form

/-! ### Characters at the front -/

lemma encode_append_inj
    (h : String.utf8EncodeChar c ++ rest = String.utf8EncodeChar c' ++ rest') :
    c = c' ∧ rest = rest' := by
  obtain ⟨form, b, more, hc, hspells, -⟩ := Form.exists_spells_char c
  obtain ⟨form', b', more', hc', hspells', -⟩ := Form.exists_spells_char c'
  rw [hc, hc', List.cons_append, List.cons_append] at h
  obtain ⟨rfl, htail⟩ := List.cons.inj h
  obtain ⟨-, hn, hrest⟩ := hspells.append_inj hspells' htail
  exact ⟨Char.toNat_inj.mp hn, hrest⟩

/-- Nothing that begins with a character is ill-formed. -/
lemma not_illFormed_encode_append : ¬ IllFormed (String.utf8EncodeChar c ++ rest) := by
  obtain ⟨form, first, more, heq, hspells, hleast⟩ := Form.exists_spells_char c
  have hvalid : c.toNat.isValidChar := c.valid
  rw [heq, List.cons_append]
  generalize hbytes : first :: (more ++ rest) = bytes
  rintro (h | h | ⟨h, hfew⟩ | ⟨h, hn⟩ | ⟨h, hn⟩ | ⟨h, hn⟩) <;>
    obtain ⟨rfl, htail⟩ := List.cons.inj hbytes
  · exact Form.not_continues hspells.starts h
  · exact Nat.not_lt.mpr h (Form.lt_of_starts hspells.starts)
  · obtain rfl := Form.eq_of_starts h hspells.starts
    have hall : ∀ b ∈ more, decide (Continues b) := by simpa using hspells.continues
    rw [← htail, List.takeWhile_append_of_pos hall, List.length_append, hspells.length] at hfew
    omega
  -- What the bytes spell is the number of the character.
  all_goals obtain ⟨rfl, rfl, -⟩ := h.append_inj hspells htail.symm
  · exact Nat.not_lt.mpr hleast hn
  · unfold Nat.isValidChar at hvalid
    omega
  · unfold Nat.isValidChar at hvalid
    omega

lemma not_illFormed_nil : ¬ IllFormed [] := nofun

/-- What is not ill-formed begins with a character. -/
lemma exists_char_of_not_illFormed (h : ¬ IllFormed (first :: rest)) :
    ∃ c rest', first :: rest = String.utf8EncodeChar c ++ rest' := by
  obtain ⟨form, hstarts⟩ := Form.exists_starts (fun hb => h (.stray hb))
    (Nat.lt_of_not_le fun hb => h (.unused hb))
  have hmany : form.more ≤ (rest.takeWhile (Continues ·)).length :=
    Nat.le_of_not_lt fun hfew => h (.truncated hstarts hfew)
  obtain ⟨more, rest', n, rfl, hspells⟩ := Form.exists_spells hstarts hmany
  have hleast : form.least ≤ n := Nat.le_of_not_lt fun hn => h (.overlong hspells hn)
  have hsurrogate : ¬ (0xD800 ≤ n ∧ n ≤ 0xDFFF) := fun hn => h (.surrogate hspells hn)
  have hbeyond : ¬ 0x10FFFF < n := fun hn => h (.beyond hspells hn)
  have hvalid : n.isValidChar := by
    unfold Nat.isValidChar
    omega
  have hn : (Char.ofNat n).toNat = n := by
    rw [Char.ofNat, dif_pos hvalid]
    rfl
  rw [← hn] at hspells hleast
  exact ⟨Char.ofNat n, rest', by rw [hspells.encode_eq hleast, List.cons_append]⟩

/-! ### Texts -/

/-- Characters are taken from the front until there are no bytes or ill-formed ones. -/
lemma encoded_or_malformed (bytes : List UInt8) :
    (∃ text : List Char, bytes = text.flatMap String.utf8EncodeChar) ∨ Malformed bytes := by
  induction hlength : bytes.length using Nat.strong_induction_on generalizing bytes with
  | h n ih =>
    obtain _ | ⟨first, rest⟩ := bytes
    · exact .inl ⟨[], rfl⟩
    by_cases hill : IllFormed (first :: rest)
    · exact .inr ⟨[], _, rfl, hill⟩
    obtain ⟨c, rest', heq⟩ := exists_char_of_not_illFormed hill
    have hshorter : rest'.length < n := by
      rw [← hlength, heq, List.length_append, String.length_utf8EncodeChar]
      have := c.utf8Size_pos
      omega
    rw [heq]
    obtain ⟨text, rfl⟩ | ⟨text, rest, rfl, hrest⟩ := ih _ hshorter rest' rfl
    · exact .inl ⟨c :: text, rfl⟩
    · exact .inr ⟨c :: text, rest, by simp, hrest⟩

/-- No text is malformed. -/
lemma not_malformed_encoded (text : List Char) :
    ¬ Malformed (text.flatMap String.utf8EncodeChar) := by
  rintro ⟨text', rest, heq, hrest⟩
  induction text' generalizing text with
  | nil =>
    rw [List.flatMap_nil, List.nil_append] at heq
    subst heq
    cases text with
    | nil => exact not_illFormed_nil hrest
    | cons c text => exact not_illFormed_encode_append hrest
  | cons c' text' ih =>
    cases text with
    | nil =>
      have hpos := c'.utf8Size_pos
      have := congrArg List.length heq
      simp at this
      omega
    | cons c text =>
      rw [List.flatMap_cons, List.flatMap_cons, List.append_assoc] at heq
      exact ih text (encode_append_inj heq).2

/-- Bytes are malformed if and only if they are no text. -/
theorem malformed_iff : Malformed bytes ↔
    ∀ text : List Char, bytes ≠ text.flatMap String.utf8EncodeChar := by
  constructor
  · rintro h text rfl
    exact not_malformed_encoded text h
  · intro h
    obtain ⟨text, htext⟩ | hmalformed := encoded_or_malformed bytes
    · exact absurd htext (h text)
    · exact hmalformed

/-! ### Decoding -/

lemma eq_toUTF8_iff {contents : ByteArray} {text : String} :
    contents = text.toUTF8 ↔ contents.toList = text.toList.flatMap String.utf8EncodeChar := by
  rw [← toList_toUTF8, toList_byteArray, toList_byteArray, Array.toList_inj, ByteArray.ext_iff]

/-- A byte array is decoded to the text of which it is the encoding. -/
theorem fromUTF8?_eq_some_iff {contents : ByteArray} {text : String} :
    String.fromUTF8? contents = some text ↔ contents = text.toUTF8 := by
  constructor
  · intro h
    unfold String.fromUTF8? at h
    split_ifs at h with hvalid
    obtain rfl := Option.some.inj h
    rfl
  · rintro rfl
    have hvalid : text.toUTF8.IsValidUTF8 := text.isValidUTF8
    rw [String.fromUTF8?, dif_pos hvalid]
    rfl

/-- Malformed bytes are those that are not decoded. -/
theorem fromUTF8?_eq_none_iff {contents : ByteArray} :
    String.fromUTF8? contents = none ↔ Malformed contents.toList := by
  rw [malformed_iff, Option.eq_none_iff_forall_ne_some]
  constructor
  · intro h text htext
    refine h (String.ofList text) (fromUTF8?_eq_some_iff.mpr (eq_toUTF8_iff.mpr ?_))
    rw [String.toList_ofList, htext]
  · intro h text htext
    exact h text.toList (eq_toUTF8_iff.mp (fromUTF8?_eq_some_iff.mp htext))

end PppoeSetup.Text
