import Mathlib.Tactic.Common
import PppoeSetup.ControlSocket

/-!
# Interface names in buffers

The buffer of a name reads back as the name, and the hardware address of an interface is made of
the first bytes that the kernel left for it.
-/

namespace PppoeSetup

/-! ### Bytes of texts -/

/-- Only the character NUL is encoded with a zero byte. -/
lemma zero_notMem_utf8EncodeChar {c : Char} (h : c ≠ '\x00') : 0 ∉ String.utf8EncodeChar c := by
  have hc : c.val.toNat ≠ 0 := fun h0 => h (Char.ext (UInt32.toNat_inj.mp h0))
  fun_cases String.utf8EncodeChar c <;> simp [← UInt8.toNat_inj] <;> omega

lemma toList_loop (b : ByteArray) (i : Nat) (r : List UInt8) :
    ByteArray.toList.loop b i r = r.reverse ++ b.data.toList.drop i := by
  fun_induction ByteArray.toList.loop b i r with
  | case1 i r h ih =>
    have hi : i < b.data.toList.length := h
    have hget : b.get! i = b.data[i]! := rfl
    rw [ih, List.reverse_cons, List.append_assoc, List.drop_eq_getElem_cons hi, hget]
    simp [getElem!_pos, h]
  | case2 i r h =>
    have hi : b.data.toList.length ≤ i := Nat.not_lt.mp h
    rw [List.drop_eq_nil_of_le hi, List.append_nil]

lemma toList_byteArray (b : ByteArray) : b.toList = b.data.toList := toList_loop b 0 []

lemma toList_toUTF8 (s : String) : s.toUTF8.toList = s.toList.flatMap String.utf8EncodeChar := by
  obtain ⟨l, rfl⟩ : ∃ l, s = String.ofList l := ⟨s.toList, by simp⟩
  have h : (String.ofList l).toUTF8 = l.utf8Encode := String.toByteArray_ofList
  rw [toList_byteArray, h, List.utf8Encode]
  simp

lemma length_toList_toUTF8 (s : String) : s.toUTF8.toList.length = s.utf8ByteSize := by
  rw [toList_byteArray, ← String.size_toByteArray]
  rfl

lemma fromUTF8?_toUTF8 (s : String) : String.fromUTF8? ⟨s.toUTF8.toList.toArray⟩ = some s := by
  have h : (⟨s.toUTF8.toList.toArray⟩ : ByteArray) = s.toByteArray := by
    rw [toList_byteArray]
    rfl
  rw [h, String.fromUTF8?, dif_pos s.isValidUTF8]
  rfl

namespace Wire

lemma toList_zeroPadded {n : Nat} {bytes : List UInt8} (h : bytes.length ≤ n) :
    (zeroPadded n bytes).toList = bytes ++ List.replicate (n - bytes.length) 0 := by
  apply List.ext_getElem
  · simp [h]
  · intro i hi hi'
    simp only [zeroPadded, Vector.getElem_toList, Vector.getElem_ofFn]
    by_cases hb : i < bytes.length
    · simp [hb]
    · simp [List.getElem_append_right (Nat.not_lt.mp hb), Nat.not_lt.mp hb]

lemma untilNul_append_zeros {bytes : List UInt8} (h : 0 ∉ bytes) (zeros : Nat) :
    untilNul (bytes ++ List.replicate zeros 0) = bytes := by
  rw [untilNul, List.takeWhile_append_of_pos]
  · simp
  · intro b hb
    simpa using ne_of_mem_of_not_mem hb h

/-- Bytes without a NUL are read back up to the padding. -/
lemma untilNul_zeroPadded {n : Nat} {bytes : List UInt8} (h : bytes.length ≤ n)
    (h0 : 0 ∉ bytes) : untilNul (zeroPadded n bytes).toList = bytes := by
  rw [toList_zeroPadded h]
  exact untilNul_append_zeros h0 _

end Wire

/-! ### Buffers of names -/

namespace InterfaceName

/-- The text in a buffer, up to its first NUL. -/
def ofBuffer? (b : Vector UInt8 16) : Option String :=
  String.fromUTF8? ⟨(Wire.untilNul b.toList).toArray⟩

lemma length_le (n : InterfaceName) : n.text.utf8ByteSize ≤ maxLength := by
  have h := n.accepted
  unfold fault? at h
  grind

lemma nul_notMem (n : InterfaceName) : '\x00' ∉ n.text.toList := by
  have h := n.accepted
  unfold fault? at h
  have hany : ¬ n.text.toList.any isForbidden := by grind
  exact fun hmem => hany (List.any_eq_true.mpr ⟨_, hmem, by decide⟩)

@[simp] lemma ofText_text (n : InterfaceName) : ofText n.text = .ok n := by
  unfold ofText
  split
  next h => rw [n.accepted] at h; cases h
  next => rfl

lemma length_toUTF8_le (n : InterfaceName) : n.text.toUTF8.toList.length ≤ maxLength := by
  rw [length_toList_toUTF8]
  exact n.length_le

lemma zero_notMem_toUTF8 (n : InterfaceName) : 0 ∉ n.text.toUTF8.toList := by
  rw [toList_toUTF8, List.mem_flatMap]
  rintro ⟨c, hc, h0⟩
  exact zero_notMem_utf8EncodeChar (ne_of_mem_of_not_mem hc n.nul_notMem) h0

/-- A name is followed by at least one NUL. -/
lemma toList_buffer (n : InterfaceName) :
    ∃ zeros, n.buffer.toList = n.text.toUTF8.toList ++ List.replicate (zeros + 1) 0 := by
  have h : n.text.toUTF8.toList.length ≤ 15 := n.length_toUTF8_le
  refine ⟨15 - n.text.toUTF8.toList.length, ?_⟩
  rw [buffer, Wire.toList_zeroPadded (by omega)]
  congr 2
  omega

/-- What the kernel keeps of a name is the whole name. -/
theorem ofBuffer?_buffer (n : InterfaceName) : ofBuffer? n.buffer = some n.text := by
  have hlength : n.text.toUTF8.toList.length ≤ 16 :=
    Nat.le_trans n.length_toUTF8_le (by decide)
  rw [ofBuffer?, buffer, Wire.untilNul_zeroPadded hlength n.zero_notMem_toUTF8, fromUTF8?_toUTF8]

end InterfaceName

/-! ### Hardware addresses -/

/-- Six of the fourteen bytes that the kernel leaves, just as they are. -/
theorem ControlSocket.bytes_addressOf (data : Vector UInt8 14) :
    (addressOf data).bytes = data.toList.take 6 := by
  obtain ⟨⟨l⟩, h⟩ := data
  match l, h with
  | a :: b :: c :: d :: e :: f :: rest, _ => rfl

end PppoeSetup
