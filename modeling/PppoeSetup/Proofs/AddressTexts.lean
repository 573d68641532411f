import Mathlib.Data.List.Forall2
import PppoeSetup.MacAddress
import PppoeSetup.Proofs.Toml.Words

/-!
# Texts of hardware addresses

Which texts are read as an address, and as which one; and how far such a text is the one that the
address is written as.
-/

namespace PppoeSetup

open Toml (Hex)

/-! ### Pieces and digits -/

namespace Text

lemma utf8Length_eq (cs : List Char) : utf8Length cs = (String.ofList cs).utf8ByteSize := by
  induction cs with
  | nil => rfl
  | cons c cs ih =>
    have hsplit : String.ofList (c :: cs) = String.singleton c ++ String.ofList cs := by
      rw [String.singleton_eq_ofList, ← String.ofList_append, List.singleton_append]
    rw [hsplit, String.utf8ByteSize_append, String.utf8ByteSize_singleton, ← ih]
    rfl

lemma hexDigit?_eq_some_iff {c : Char} {n : Nat} : hexDigit? c = some n ↔ Hex n c := by
  refine ⟨?_, Hex.hexDigit?_eq⟩
  intro h
  rw [← Char.ofNat_toNat c]
  unfold hexDigit? at h
  simp only [Char.le_def, UInt32.le_iff_toNat_le, UInt32.reduceToNat, Char.reduceVal] at h
  -- each range of characters is gone through one by one
  split_ifs at h with hrange hrange hrange
  all_goals
    obtain rfl := Option.some.inj h
    obtain ⟨hlow, hhigh⟩ := hrange
    change _ ≤ c.toNat at hlow
    change c.toNat ≤ _ at hhigh
    generalize c.toNat = m at hlow hhigh
    interval_cases m
    all_goals first
      | exact .lower (by decide)
      | exact .upper (by decide)

end Text

/-! ### Parts of a text -/

namespace MacAddress

open Text

variable {s : String} {m : MacAddress} {part : List Char} {b : UInt8} {fault : MacFault}

/-- What stands between the colons of a text, or between its dashes if it has no colon. -/
def parts (s : String) : List (List Char) :=
  s.toList.splitOn (if ':' ∈ s.toList then ':' else '-')

/-- A part is the number of an octet: two digits, or a plus sign and one digit. -/
inductive Spells : List Char → Nat → Prop
  | digits {high low : Nat} {h l : Char} : Hex high h → Hex low l → Spells [h, l] (16 * high + low)
  | signed {low : Nat} {l : Char} : Hex low l → Spells ['+', l] low

/-- What is wrong with a part, if its length in bytes is looked at before its digits. -/
def Flawed (part : List Char) : MacFault → Prop
  | .length => False
  | .format => (String.ofList part).utf8ByteSize ≠ 2
  | .digit => (String.ofList part).utf8ByteSize = 2 ∧ ∀ b : UInt8, ¬ Spells part b.toNat

/-- What is wrong with the first part that is no number of an octet. -/
def FirstFlaw (ps : List (List Char)) (fault : MacFault) : Prop :=
  ∃ before part after, ps = before ++ part :: after ∧
    (∀ p ∈ before, ∃ b : UInt8, Spells p b.toNat) ∧ Flawed part fault

lemma lt_of_hex {n : Nat} {c : Char} (h : Hex n c) : n < 16 := by
  cases h <;> assumption

lemma utf8Size_of_hex {n : Nat} {c : Char} (h : Hex n c) : c.utf8Size = 1 := by
  cases h with
  | lower h | upper h => interval_cases n <;> rfl

lemma Spells.utf8Length_eq {n : Nat} (h : Spells part n) : utf8Length part = 2 := by
  cases h with
  | digits hh hl => simp [utf8Length, utf8Size_of_hex hh, utf8Size_of_hex hl]
  | signed hl =>
    rw [utf8Length, List.foldr_cons, List.foldr_cons, utf8Size_of_hex hl]
    rfl

lemma Spells.lt {n : Nat} (h : Spells part n) : n < UInt8.size := by
  have hsize : UInt8.size = 256 := rfl
  cases h with
  | digits hh hl =>
    have := lt_of_hex hh
    have := lt_of_hex hl
    omega
  | signed hl =>
    have := lt_of_hex hl
    omega

/-- What is no digit is not read as one. -/
lemma ne_of_hex {n : Nat} {c d : Char} (h : Hex n c) (hd : hexDigit? d = none) : c ≠ d := by
  rintro rfl
  cases h.hexDigit?_eq.symm.trans hd

lemma octet?_of_spells {n : Nat} (h : Spells part n) : octet? part = some (UInt8.ofNat n) := by
  cases h with
  | digits hh hl =>
    unfold octet?
    split
    next heq =>
      cases heq
      exact absurd rfl (ne_of_hex hh rfl)
    next heq =>
      cases heq
      simp [hh.hexDigit?_eq, hl.hexDigit?_eq]
    next hne => exact absurd rfl (hne _ _)
  | signed hl => simp [octet?, hl.hexDigit?_eq]

lemma exists_spells_of_octet? (h : octet? part = some b) :
    ∃ n, Spells part n ∧ UInt8.ofNat n = b := by
  unfold octet? at h
  split at h
  next =>
    obtain ⟨low, hlow, rfl⟩ := Option.map_eq_some_iff.mp h
    exact ⟨low, .signed (hexDigit?_eq_some_iff.mp hlow), rfl⟩
  next =>
    obtain ⟨high, hhigh, h⟩ := Option.bind_eq_some_iff.mp h
    obtain ⟨low, hlow, ⟨⟩⟩ := Option.bind_eq_some_iff.mp h
    exact ⟨_, .digits (hexDigit?_eq_some_iff.mp hhigh) (hexDigit?_eq_some_iff.mp hlow), rfl⟩
  next => cases h

lemma octet?_eq_some_iff : octet? part = some b ↔ Spells part b.toNat := by
  constructor
  · intro h
    obtain ⟨n, hn, rfl⟩ := exists_spells_of_octet? h
    rwa [UInt8.toNat_ofNat_of_lt' hn.lt]
  · intro h
    rw [octet?_of_spells h, UInt8.ofNat_toNat]

lemma octet?_eq_none_iff : octet? part = none ↔ ∀ b : UInt8, ¬ Spells part b.toNat := by
  rw [Option.eq_none_iff_forall_ne_some]
  exact forall_congr' fun b => not_congr octet?_eq_some_iff

lemma readOctet_eq_ok_iff : readOctet part = .ok b ↔ Spells part b.toNat := by
  rw [← octet?_eq_some_iff, readOctet]
  split
  next hlength =>
    have hnot : octet? part ≠ some b := fun h => hlength (octet?_eq_some_iff.mp h).utf8Length_eq
    simp [hnot]
  next => cases octet? part <;> simp

lemma readOctet_eq_error_iff : readOctet part = .error fault ↔ Flawed part fault := by
  by_cases hlength : utf8Length part = 2
  · rw [readOctet, if_neg (not_not.mpr hlength)]
    cases ho : octet? part <;> cases fault <;>
      simp [Flawed, ← utf8Length_eq, hlength, ← octet?_eq_none_iff, ho]
  · rw [readOctet, if_pos hlength]
    cases fault <;> simp [Flawed, ← utf8Length_eq, hlength]

/-! ### Reading part by part -/

section

variable {ε α β : Type} {f : α → Except ε β} {as : List α} {e : ε}

lemma mapM_eq_ok_iff {bs : List β} :
    as.mapM f = .ok bs ↔ List.Forall₂ (fun a b => f a = .ok b) as bs := by
  induction as generalizing bs with
  | nil => cases bs <;> simp [pure, Except.pure]
  | cons a as ih =>
    rw [List.mapM_cons, List.forall₂_cons_left_iff]
    simp only [← ih]
    cases f a with
    | error e => simp [bind, Except.bind]
    | ok b => cases as.mapM f <;> simp [bind, Except.bind, pure, Except.pure, eq_comm]

lemma mapM_cons_eq_error_iff {a : α} :
    (a :: as).mapM f = .error e ↔ f a = .error e ∨ (∃ b, f a = .ok b) ∧ as.mapM f = .error e := by
  rw [List.mapM_cons]
  cases f a <;> cases as.mapM f <;> simp [bind, Except.bind, pure, Except.pure]

/-- The first fault decides. -/
lemma mapM_eq_error_iff :
    as.mapM f = .error e ↔ ∃ before a after, as = before ++ a :: after ∧
      (∀ x ∈ before, ∃ b, f x = .ok b) ∧ f a = .error e := by
  induction as with
  | nil => simp [pure, Except.pure]
  | cons a as ih =>
    rw [mapM_cons_eq_error_iff, ih]
    constructor
    · rintro (ha | ⟨ha, before, x, after, rfl, hbefore, hx⟩)
      · exact ⟨[], a, as, rfl, by simp, ha⟩
      · exact ⟨a :: before, x, after, rfl, List.forall_mem_cons.mpr ⟨ha, hbefore⟩, hx⟩
    · rintro ⟨before, x, after, has, hbefore, hx⟩
      cases before with
      | nil =>
        cases has
        exact .inl hx
      | cons y before =>
        cases has
        obtain ⟨hy, hbefore⟩ := List.forall_mem_cons.mp hbefore
        exact .inr ⟨hy, before, x, after, rfl, hbefore, hx⟩

end

lemma exists_bytes_eq {bs : List UInt8} (h : bs.length = 6) : ∃ m : MacAddress, m.bytes = bs :=
  ⟨⟨⟨bs.toArray, h⟩⟩, rfl⟩

lemma bytes_injective : Function.Injective bytes := by
  intro m m' h
  have hsome : some m = some m' := by
    rw [← ofBytes?_bytes m, h, ofBytes?_bytes]
  exact Option.some.inj hsome

lemma parse_of_length_ne (h : (parts s).length ≠ 6) : parse s = .error .length := by
  rw [parse, separator, pieces_eq_splitOn, ← parts]
  split
  next hps => exact absurd (congrArg List.length hps) h
  next => rfl

/-- Six parts are read one after the other. -/
lemma parse_of_length (h : (parts s).length = 6) :
    parse s = (parts s).mapM readOctet >>= fun bs => (ofBytes? bs).elim (.error .length) .ok := by
  rw [parse, separator, pieces_eq_splitOn, ← parts]
  match hps : parts s, h with
  | [a, b, c, d, e, f], _ =>
    simp only [List.mapM_cons, List.mapM_nil, bind_assoc, pure_bind, ofBytes?]
    rfl

/-- Six parts make an address, unless one of them is flawed. -/
lemma parse_cases (h : (parts s).length = 6) :
    (∃ m, (parts s).mapM readOctet = .ok m.bytes ∧ parse s = .ok m) ∨
      ∃ fault, (parts s).mapM readOctet = .error fault ∧ parse s = .error fault := by
  rw [parse_of_length h]
  cases hbs : (parts s).mapM readOctet with
  | error fault => exact .inr ⟨fault, rfl, rfl⟩
  | ok bs =>
    have hlength : bs.length = 6 := (mapM_eq_ok_iff.mp hbs).length_eq.symm.trans h
    obtain ⟨m, rfl⟩ := exists_bytes_eq hlength
    refine .inl ⟨m, rfl, ?_⟩
    simp [bind, Except.bind, ofBytes?_bytes]

lemma parse_eq_ok_iff :
    parse s = .ok m ↔ List.Forall₂ (fun part b => Spells part b.toNat) (parts s) m.bytes := by
  simp only [← readOctet_eq_ok_iff, ← mapM_eq_ok_iff]
  by_cases h : (parts s).length = 6
  · rcases parse_cases h with ⟨m', hbytes, hparse⟩ | ⟨fault, hfault, hparse⟩
    · rw [hbytes, hparse, Except.ok.injEq, Except.ok.injEq, bytes_injective.eq_iff]
    · simp [hfault, hparse]
  · rw [parse_of_length_ne h]
    constructor
    · exact fun h => nomatch h
    · exact fun hbytes => absurd ((mapM_eq_ok_iff.mp hbytes).length_eq.trans Vector.length_toList) h

lemma parse_eq_error_iff :
    parse s = .error fault ↔
      (parts s).length ≠ 6 ∧ fault = .length ∨
        (parts s).length = 6 ∧ FirstFlaw (parts s) fault := by
  have hflaw : FirstFlaw (parts s) fault ↔ (parts s).mapM readOctet = .error fault := by
    simp only [mapM_eq_error_iff, readOctet_eq_ok_iff, readOctet_eq_error_iff, FirstFlaw]
  by_cases h : (parts s).length = 6
  · rcases parse_cases h with ⟨m, hbytes, hparse⟩ | ⟨fault', hfault, hparse⟩
    · simp [hflaw, hbytes, hparse, h]
    · simp [hflaw, hfault, hparse, h]
  · simp [parse_of_length_ne h, h, eq_comm]

/-! ### Writing an address -/

section

variable {sep c : Char} {ps : List (List Char)}

lemma mem_intercalate (h : c ∈ [sep].intercalate ps) : c = sep ∨ ∃ p ∈ ps, c ∈ p := by
  induction ps with
  | nil => cases h
  | cons p ps ih =>
    cases ps with
    | nil =>
      rw [List.intercalate_singleton] at h
      exact .inr ⟨p, List.mem_cons_self, h⟩
    | cons p' ps =>
      rw [List.intercalate_cons_cons, List.mem_append, List.mem_append, List.mem_singleton] at h
      rcases h with (hp | hsep) | hps
      · exact .inr ⟨p, List.mem_cons_self, hp⟩
      · exact .inl hsep
      · exact (ih hps).imp_right fun ⟨q, hq, hc⟩ => ⟨q, List.mem_cons_of_mem _ hq, hc⟩

lemma map_intercalate (f : Char → Char) (sep : Char) (ps : List (List Char)) :
    ([sep].intercalate ps).map f = [f sep].intercalate (ps.map (·.map f)) := by
  induction ps with
  | nil => rfl
  | cons p ps ih =>
    cases ps with
    | nil => simp
    | cons p' ps => simpa using ih

/-- Parts without separators are those of the text that they are joined to. -/
lemma parts_intercalate (hsep : sep = ':' ∨ sep = '-') (hps : ∀ p ∈ ps, ':' ∉ p ∧ '-' ∉ p)
    (hlength : 2 ≤ ps.length) : parts (String.ofList ([sep].intercalate ps)) = ps := by
  have hne : ps ≠ [] := by
    rintro rfl
    cases hlength
  have hcolon : (if ':' ∈ [sep].intercalate ps then ':' else '-') = sep := by
    rcases hsep with rfl | rfl
    · match ps, hlength with
      | p :: p' :: ps, _ => simp
    · rw [if_neg]
      intro hmem
      rcases mem_intercalate hmem with heq | ⟨p, hp, hc⟩
      · cases heq
      · exact (hps p hp).1 hc
  rw [parts, String.toList_ofList, hcolon]
  refine List.splitOn_intercalate sep ?_ hne
  intro p hp
  rcases hsep with rfl | rfl
  · exact (hps p hp).1
  · exact (hps p hp).2

end

/-- A character of a written address in another spelling: `sep` for a colon, and a digit in either
case. -/
def Respells (sep c d : Char) : Prop := if c = ':' then d = sep else d = c ∨ d = c.toUpper

instance (sep c d : Char) : Decidable (Respells sep c d) :=
  inferInstanceAs (Decidable (if c = ':' then d = sep else d = c ∨ d = c.toUpper))

/-- The two digits of an octet in any case. -/
def TwoDigits (part : List Char) (b : UInt8) : Prop :=
  ∃ high low, part = [high, low] ∧ Hex (b.toNat / 16) high ∧ Hex (b.toNat % 16) low

section

variable {sep : Char} {cs : List Char}

lemma hex_of_respells {n : Nat} {d : Char} (hn : n < 16) (h : Respells sep n.digitChar d) :
    Hex n d := by
  rw [Respells, if_neg (ne_of_hex (.lower hn) rfl)] at h
  rcases h with rfl | rfl
  · exact .lower hn
  · exact .upper hn

lemma eq_of_respells_colon {d : Char} (h : Respells sep ':' d) : d = sep := by
  rwa [Respells, if_pos rfl] at h

lemma exists_twoDigits_of_respells {rest : List Char}
    (h : List.Forall₂ (Respells sep) (octetDigits b ++ rest) cs) :
    ∃ part cs', cs = part ++ cs' ∧ TwoDigits part b ∧ List.Forall₂ (Respells sep) rest cs' := by
  have hb := b.toNat_lt
  change List.Forall₂ _ (_ :: _ :: rest) cs at h
  obtain - | @⟨_, high, _, _, hhigh, - | @⟨_, low, _, cs', hlow, hrest⟩⟩ := h
  refine ⟨[high, low], cs', rfl, ⟨high, low, rfl, ?_, ?_⟩, hrest⟩
  · exact hex_of_respells (by omega) hhigh
  · exact hex_of_respells (Nat.mod_lt _ (by decide)) hlow

/-- Octet by octet, a respelled text has two digits, and the separators between them. -/
lemma exists_parts_of_respells {bs : List UInt8}
    (h : List.Forall₂ (Respells sep) ([':'].intercalate (bs.map octetDigits)) cs) :
    ∃ ps, cs = [sep].intercalate ps ∧ List.Forall₂ TwoDigits ps bs := by
  -- octet by octet; only the last one has no separator after it
  induction bs generalizing cs with
  | nil =>
    cases h
    exact ⟨[], rfl, .nil⟩
  | cons b bs ih =>
    cases bs with
    | nil =>
      rw [List.map_singleton, List.intercalate_singleton, ← List.append_nil (octetDigits b)] at h
      obtain ⟨part, _, rfl, hpart, ⟨⟩⟩ := exists_twoDigits_of_respells h
      exact ⟨[part], by simp, .cons hpart .nil⟩
    | cons b' bs =>
      rw [List.map_cons, List.map_cons, List.intercalate_cons_cons, List.append_assoc] at h
      obtain ⟨part, _, rfl, hpart, hrest⟩ := exists_twoDigits_of_respells h
      cases hrest with
      | cons hsep hrest =>
        obtain rfl := eq_of_respells_colon hsep
        obtain ⟨ps, rfl, hps⟩ := ih hrest
        have hne : ps ≠ [] := by
          rintro rfl
          cases hps
        refine ⟨part :: ps, ?_, .cons hpart hps⟩
        simp [List.intercalate_cons_of_ne_nil hne]

lemma TwoDigits.spells (h : TwoDigits part b) : Spells part b.toNat := by
  obtain ⟨high, low, rfl, hhigh, hlow⟩ := h
  rw [← Nat.div_add_mod b.toNat 16]
  exact .digits hhigh hlow

lemma TwoDigits.notMem {c : Char} (h : TwoDigits part b) (hc : hexDigit? c = none) : c ∉ part := by
  obtain ⟨high, low, rfl, hhigh, hlow⟩ := h
  simp [(ne_of_hex hhigh hc).symm, (ne_of_hex hlow hc).symm]

lemma parse_of_respells {t : String} (hsep : sep = ':' ∨ sep = '-')
    (h : List.Forall₂ (Respells sep) m.text.toList t.toList) : parse t = .ok m := by
  rw [text, String.toList_ofList] at h
  obtain ⟨ps, hcs, hps⟩ := exists_parts_of_respells h
  have hlength : ps.length = 6 := hps.length_eq.trans Vector.length_toList
  have hclean : ∀ p ∈ ps, ':' ∉ p ∧ '-' ∉ p :=
    ((List.forall₂_and_left _ _).mp
      (hps.imp fun _ _ hpart => ⟨⟨hpart.notMem rfl, hpart.notMem rfl⟩, hpart⟩)).1
  have ht : t = String.ofList ([sep].intercalate ps) := by
    rw [← hcs, String.ofList_toList]
  rw [parse_eq_ok_iff, ht, parts_intercalate hsep hclean (by omega)]
  exact hps.imp fun _ _ hpart => hpart.spells

lemma respells_self (cs : List Char) : List.Forall₂ (Respells ':') cs cs := by
  rw [List.forall₂_same]
  intro c _
  rw [Respells]
  split
  next h => exact h
  next => exact .inl rfl

end

/-- For every text, cut at its colons or, if it has none, at its dashes:

* it is read as an address if and only if it has six parts and each of them is the number of that
  octet, in two digits of either case, or in one digit after a plus sign;
* otherwise, a number of parts other than six is its fault; and if there are six, what is wrong with
  the first part that is no such number: that it is not two bytes long, or else its digits.

So an address is read back from the text that it is written as, with its letters in any case, and
also with dashes for all colons. -/
theorem parse_by_parts :
    (∀ s m, parse s = .ok m ↔
      List.Forall₂ (fun part b => Spells part b.toNat) (parts s) m.bytes) ∧
      (∀ s fault, parse s = .error fault ↔
        (parts s).length ≠ 6 ∧ fault = .length ∨
          (parts s).length = 6 ∧ FirstFlaw (parts s) fault) ∧
      (∀ m : MacAddress, parse m.text = .ok m) ∧
      ∀ (m : MacAddress) sep t, sep = ':' ∨ sep = '-' →
        List.Forall₂ (Respells sep) m.text.toList t.toList → parse t = .ok m := by
  refine ⟨fun _ _ => parse_eq_ok_iff, fun _ _ => parse_eq_error_iff, ?_, ?_⟩
  · exact fun m => parse_of_respells (.inl rfl) (respells_self _)
  · exact fun m sep t hsep h => parse_of_respells hsep h

theorem parse_by_parts_respelled :
    List.Forall₂ (Respells '-') (⟨#v[10, 11, 12, 0xdd, 0xee, 0xff]⟩ : MacAddress).text.toList
        "0A-0b-0C-dD-EE-fF".toList ∧
      parse "0A-0b-0C-dD-EE-fF" = .ok ⟨#v[10, 11, 12, 0xdd, 0xee, 0xff]⟩ := by
  have h : List.Forall₂ (Respells '-')
      (⟨#v[10, 11, 12, 0xdd, 0xee, 0xff]⟩ : MacAddress).text.toList
      "0A-0b-0C-dD-EE-fF".toList := by
    decide +kernel
  obtain ⟨-, -, -, hrespelled⟩ := parse_by_parts
  exact ⟨h, hrespelled _ '-' _ (.inr rfl) h⟩

/-- A colon makes the dashes ordinary characters, and the first of several flaws decides. -/
example : parse "00:-1:2:33:44:55" = .error .digit := by decide +kernel

/-! ### One text for an address -/

/-- A colon for a dash, and any letter in lower case. -/
def lowerChar (c : Char) : Char := if c = '-' then ':' else c.toLower

/-- A zero for a plus sign. -/
def unsignChar (c : Char) : Char := if c = '+' then '0' else c

/-- A text with colons for its dashes, and in lower case. -/
def lowered (s : String) : String := String.ofList (s.toList.map lowerChar)

/-- A text with zeros for its plus signs. -/
def unsigned (s : String) : String := String.ofList (s.toList.map unsignChar)

lemma toLower_of_hex {n : Nat} {c : Char} (h : Hex n c) : c.toLower = n.digitChar := by
  cases h with
  | lower h | upper h => interval_cases n <;> rfl

lemma lowerChar_of_hex {n : Nat} {c : Char} (h : Hex n c) :
    lowerChar (unsignChar c) = n.digitChar := by
  rw [unsignChar, if_neg (ne_of_hex h rfl), lowerChar, if_neg (ne_of_hex h rfl), toLower_of_hex h]

/-- A part becomes the two digits that its number is written with. -/
lemma Spells.map_lowerChar {n : Nat} (h : Spells part n) :
    part.map (lowerChar ∘ unsignChar) = [Nat.digitChar (n / 16), Nat.digitChar (n % 16)] := by
  cases h with
  | @digits high low _ _ hh hl =>
    have hlow := lt_of_hex hl
    have hdiv : (16 * high + low) / 16 = high := by omega
    have hmod : (16 * high + low) % 16 = low := by omega
    simp [lowerChar_of_hex hh, lowerChar_of_hex hl, hdiv, hmod]
  | signed hl =>
    have hlow := lt_of_hex hl
    have hsign : lowerChar (unsignChar '+') = Nat.digitChar 0 := rfl
    simp [lowerChar_of_hex hl, hsign, Nat.div_eq_of_lt hlow, Nat.mod_eq_of_lt hlow]

lemma lowered_unsigned (h : parse s = .ok m) : lowered (unsigned s) = m.text := by
  have hparts : (parts s).map (·.map (lowerChar ∘ unsignChar)) = m.bytes.map octetDigits := by
    rw [← List.forall₂_eq_eq_eq, List.forall₂_map_left_iff, List.forall₂_map_right_iff]
    exact (parse_eq_ok_iff.mp h).imp fun _ _ hpart => hpart.map_lowerChar
  have hsep : (lowerChar ∘ unsignChar) (if ':' ∈ s.toList then ':' else '-') = ':' := by
    split <;> rfl
  have hs : s.toList = [if ':' ∈ s.toList then ':' else '-'].intercalate (parts s) :=
    (List.intercalate_splitOn _).symm
  rw [lowered, unsigned, String.toList_ofList, List.map_map, hs, map_intercalate, hsep, hparts,
    text]

/-- Of the characters of a text, only plus signs make a difference. -/
lemma lowered_eq_iff : lowered s = lowered (unsigned s) ↔ '+' ∉ s.toList := by
  have hchar (c : Char) : lowerChar c = lowerChar (unsignChar c) ↔ c ≠ '+' := by
    by_cases hc : c = '+'
    · subst hc
      decide
    · simp [unsignChar, hc]
  rw [lowered, lowered, unsigned, String.toList_ofList, List.map_map, String.ofList_inj,
    List.map_inj_left]
  simp only [Function.comp_apply, hchar, ne_eq, List.forall_mem_ne']

/-- With zeros for its plus signs, colons for its dashes and in lower case, a text that is read as
an address is the one that the address is written as; without the zeros it is this one if and only
if it has no plus sign. -/
theorem lowered_of_parse (h : parse s = .ok m) :
    lowered (unsigned s) = m.text ∧ (lowered s = m.text ↔ '+' ∉ s.toList) := by
  have hunsigned := lowered_unsigned h
  refine ⟨hunsigned, ?_⟩
  rw [← hunsigned]
  exact lowered_eq_iff

/-- A plus sign stands for the first digit of an octet. -/
theorem parse_plus_sign :
    parse "+1:00:00:00:00:00" = .ok ⟨#v[1, 0, 0, 0, 0, 0]⟩ ∧
      lowered "+1:00:00:00:00:00" ≠ (⟨#v[1, 0, 0, 0, 0, 0]⟩ : MacAddress).text := by
  decide +kernel

theorem lowered_of_parse_mixed :
    parse "+A-0b-0C-dD-EE-fF" = .ok ⟨#v[10, 11, 12, 0xdd, 0xee, 0xff]⟩ ∧
      lowered (unsigned "+A-0b-0C-dD-EE-fF") = "0a:0b:0c:dd:ee:ff" ∧
      lowered "+A-0b-0C-dD-EE-fF" ≠ "0a:0b:0c:dd:ee:ff" := by
  have h : parse "+A-0b-0C-dD-EE-fF" = .ok ⟨#v[10, 11, 12, 0xdd, 0xee, 0xff]⟩ := by
    decide +kernel
  have htext : (⟨#v[10, 11, 12, 0xdd, 0xee, 0xff]⟩ : MacAddress).text = "0a:0b:0c:dd:ee:ff" := by
    decide +kernel
  obtain ⟨hunsigned, hlowered⟩ := lowered_of_parse h
  rw [htext] at hunsigned hlowered
  exact ⟨h, hunsigned, fun heq => hlowered.mp heq (by decide +kernel)⟩

end MacAddress

end PppoeSetup
