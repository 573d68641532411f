import Mathlib.Tactic.Common
import PppoeSetup.Proofs.InterfaceNames
import PppoeSetup.SetupError

/-!
# Valid interface names

The rules of interface names are about bytes: how many there are, and which of them may not occur.
They are looked for character by character all the same, which comes to the same thing, since the
bytes of a character beyond ASCII are none that are forbidden. A text that keeps to the rules fits
into a buffer as a whole.
-/

namespace PppoeSetup

open Wire

/-! ### Rules -/

/-- The faults that are looked for before this one. -/
def NameFault.earlier : NameFault → List NameFault
  | empty => []
  | tooLong => [empty]
  | badByte => [empty, tooLong]

namespace InterfaceName

/-- What no interface name has in it: NUL, the slash and the blanks of ASCII. -/
def forbidden : List Char := ['\x00', '/', ' ', '\t', '\n', '\x0c', '\r']

/-- A text is an interface name by its number of bytes and by its characters. -/
structure Valid (s : String) : Prop where
  nonempty : 1 ≤ s.toUTF8.size
  short : s.toUTF8.size ≤ 15
  clean : ∀ c ∈ forbidden, c ∉ s.toList

/-- A fault of a text, whatever other faults it has. -/
def Faulty (s : String) : NameFault → Prop
  | .empty => s.toUTF8.size = 0
  | .tooLong => 15 < s.toUTF8.size
  | .badByte => ∃ c ∈ forbidden, c ∈ s.toList

/-- The first fault of a text. -/
def FirstFault (s : String) (fault : NameFault) : Prop :=
  Faulty s fault ∧ ∀ e ∈ fault.earlier, ¬ Faulty s e

/-- The codes of the forbidden characters. -/
def forbiddenCodes : List Nat := [0, 47, 32, 9, 10, 12, 13]

/-- The first rule that is broken by a text in UTF-8, if each byte is looked at. -/
def faultOfBytes? (bytes : List UInt8) : Option NameFault :=
  if bytes = [] then some .empty
  else if maxLength < bytes.length then some .tooLong
  else if bytes.any (·.toNat ∈ forbiddenCodes) then some .badByte
  else none

variable {s : String} {c : Char} {n : InterfaceName} {fault : NameFault}

/-! ### Characters and bytes -/

lemma isForbidden_iff : isForbidden c ↔ c ∈ forbidden := by
  simp [isForbidden, Text.isAsciiBlank, forbidden, or_assoc]

lemma mem_forbidden_iff : c ∈ forbidden ↔ c.toNat ∈ forbiddenCodes := by
  simp [forbidden, forbiddenCodes, ← Char.toNat_inj]

lemma utf8EncodeChar_of_lt (h : c.toNat < 128) :
    String.utf8EncodeChar c = [UInt8.ofNat c.toNat] := by
  have hc : c.val.toNat ≤ 127 := Nat.le_of_lt_succ h
  rw [String.utf8EncodeChar, if_pos hc]
  rfl

/-- All bytes of a character beyond ASCII are beyond ASCII. -/
lemma le_of_mem_utf8EncodeChar (h : 128 ≤ c.toNat) {b : UInt8} (hb : b ∈ String.utf8EncodeChar c) :
    128 ≤ b.toNat := by
  have hc : ¬ c.val.toNat ≤ 127 := Nat.not_le.mpr h
  simp only [String.utf8EncodeChar, if_neg hc] at hb
  split_ifs at hb <;> simp only [List.mem_cons, List.not_mem_nil, or_false] at hb <;>
    rcases hb with rfl | rfl | rfl | rfl <;> simp <;> omega

lemma lt_of_mem_forbiddenCodes {code : Nat} (h : code ∈ forbiddenCodes) : code < 128 := by
  revert code
  decide

/-- A character is forbidden if and only if one of its bytes is. -/
lemma exists_mem_utf8EncodeChar_iff :
    (∃ b ∈ String.utf8EncodeChar c, b.toNat ∈ forbiddenCodes) ↔ c ∈ forbidden := by
  rw [mem_forbidden_iff]
  by_cases hc : c.toNat < 128
  · have hcode : c.toNat % 256 = c.toNat := Nat.mod_eq_of_lt (by omega)
    simp [utf8EncodeChar_of_lt hc, hcode]
  · constructor
    · rintro ⟨b, hb, hcode⟩
      have hbound := lt_of_mem_forbiddenCodes hcode
      have := le_of_mem_utf8EncodeChar (Nat.not_lt.mp hc) hb
      omega
    · exact fun hcode => absurd (lt_of_mem_forbiddenCodes hcode) hc

/-- The bytes of a text have a forbidden one if and only if its characters have. -/
lemma any_toUTF8 (s : String) :
    s.toUTF8.toList.any (·.toNat ∈ forbiddenCodes) = s.toList.any isForbidden := by
  rw [toList_toUTF8, List.any_flatMap]
  congr 1
  funext c
  rw [Bool.eq_iff_iff, isForbidden_iff, ← exists_mem_utf8EncodeChar_iff]
  simp

lemma toList_eq_nil_iff : s.toList = [] ↔ s.toUTF8.size = 0 := by
  rw [String.toList_eq_nil_iff, ← String.utf8ByteSize_eq_zero_iff]
  rfl

/-- To look at each character is to look at each byte. -/
lemma fault?_eq_faultOfBytes? (s : String) : fault? s = faultOfBytes? s.toUTF8.toList := by
  have hempty : s.toUTF8.toList = [] ↔ s.toList = [] := by
    rw [← List.length_eq_zero_iff, length_toList_toUTF8, toList_eq_nil_iff]
    rfl
  simp only [fault?, faultOfBytes?, hempty, length_toList_toUTF8, any_toUTF8]

/-! ### Faults of a text -/

lemma exists_forbidden_iff : s.toList.any isForbidden ↔ ∃ c ∈ forbidden, c ∈ s.toList := by
  simp only [List.any_eq_true, isForbidden_iff]
  exact exists_congr fun c => and_comm

lemma fault?_eq_some_iff : fault? s = some fault ↔ FirstFault s fault := by
  have hsize : s.utf8ByteSize = s.toUTF8.size := rfl
  simp only [fault?, FirstFault, toList_eq_nil_iff, exists_forbidden_iff, hsize, maxLength]
  cases fault <;> simp only [NameFault.earlier, Faulty] <;> split_ifs <;> simp_all

lemma fault?_eq_none_iff : fault? s = none ↔ Valid s := by
  have hsize : s.utf8ByteSize = s.toUTF8.size := rfl
  simp only [fault?, toList_eq_nil_iff, exists_forbidden_iff, hsize, maxLength]
  constructor
  · intro h
    split_ifs at h with hempty hlong hbad
    exact ⟨Nat.pos_of_ne_zero hempty, Nat.not_lt.mp hlong, fun c hc hs => hbad ⟨c, hc, hs⟩⟩
  · rintro ⟨hnonempty, hshort, hclean⟩
    rw [if_neg (by omega), if_neg (by omega), if_neg]
    rintro ⟨c, hc, hs⟩
    exact hclean c hc hs

lemma ofText_eq_error_iff : ofText s = .error fault ↔ fault? s = some fault := by
  unfold ofText
  split
  next fault' h => rw [h, Option.some.injEq, Except.error.injEq]
  next h => simp [h]

lemma ofText_eq_ok_iff : ofText s = .ok n ↔ n.text = s := by
  constructor
  · intro h
    unfold ofText at h
    split at h
    next => cases h
    next =>
      cases h
      rfl
  · rintro rfl
    exact n.ofText_text

lemma validate_eq_ok_iff : validate s = .ok n ↔ n.text = s := by
  rw [← ofText_eq_ok_iff, validate]
  cases ofText s <;> simp

lemma validate_eq_error_iff {e : SetupError} :
    validate s = .error e ↔ ∃ fault, FirstFault s fault ∧ e = .invalidInterfaceName s fault := by
  simp only [← fault?_eq_some_iff, ← ofText_eq_error_iff, validate]
  cases ofText s <;> simp [eq_comm]

lemma exists_text_eq_iff : (∃ n : InterfaceName, n.text = s) ↔ Valid s := by
  rw [← fault?_eq_none_iff]
  constructor
  · rintro ⟨n, rfl⟩
    exact n.accepted
  · exact fun h => ⟨⟨s, h⟩, rfl⟩

/-! ### Names in buffers -/

lemma untilNul_buffer (n : InterfaceName) : untilNul n.buffer.toList = n.text.toUTF8.toList := by
  obtain ⟨zeros, h⟩ := n.toList_buffer
  rw [h, untilNul_append_zeros n.zero_notMem_toUTF8]

lemma buffer_injective : Function.Injective buffer := by
  intro n n' h
  have htext : some n.text = some n'.text := by
    rw [← n.ofBuffer?_buffer, ← n'.ofBuffer?_buffer, h]
  rw [mk.injEq]
  exact Option.some.inj htext

/-- For every text:

* it is an interface name if and only if it has 1 to 15 bytes in UTF-8 and no forbidden character,
  whatever other characters it has, and then the name is the text;
* any other text is refused with the text itself and the first of its faults;
* a look at each byte of its UTF-8 form comes to the same.

The buffer of a name has 16 bytes: those of the text, and then NULs, of which there is at least one.
Up to its first NUL it is the text again, with no part of a character missing, and no other name has
the same buffer. -/
theorem valid_names_fit :
    (∀ s n, validate s = .ok n ↔ n.text = s) ∧
      (∀ s, (∃ n, validate s = .ok n) ↔ Valid s) ∧
      (∀ s e, validate s = .error e ↔
        ∃ fault, FirstFault s fault ∧ e = .invalidInterfaceName s fault) ∧
      (∀ s, fault? s = faultOfBytes? s.toUTF8.toList) ∧
      (∀ n : InterfaceName, n.buffer.toList.length = 16 ∧
        (∃ zeros, n.buffer.toList = n.text.toUTF8.toList ++ List.replicate (zeros + 1) 0) ∧
        untilNul n.buffer.toList = n.text.toUTF8.toList ∧ ofBuffer? n.buffer = some n.text) ∧
      Function.Injective buffer := by
  refine ⟨fun _ _ => validate_eq_ok_iff, ?_, fun _ _ => validate_eq_error_iff,
    fault?_eq_faultOfBytes?, ?_, buffer_injective⟩
  · intro s
    simp only [validate_eq_ok_iff, exists_text_eq_iff]
  · intro n
    exact ⟨Vector.length_toList, n.toList_buffer, n.untilNul_buffer, n.ofBuffer?_buffer⟩

/-- Neither the vertical tab nor a blank beyond ASCII is forbidden. -/
example : fault? "é\x0b\u3000" = none := by decide

end InterfaceName

end PppoeSetup
