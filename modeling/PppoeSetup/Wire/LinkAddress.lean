import PppoeSetup.EtherType
import PppoeSetup.MacAddress
import PppoeSetup.Wire.Buffer

/-!
# Link-layer addresses

The address of a packet socket: twenty bytes that name an EtherType, an interface by its index,
and a hardware address of up to eight bytes. `ofBuffer` reads the fields back.
-/

namespace PppoeSetup.Wire

structure LinkAddress where
  /-- The EtherType, as its two bytes in network order. -/
  protocol : Vector UInt8 2 := Vector.replicate 2 0
  /-- The interface index, as the bit pattern of a signed word. -/
  index : UInt32
  hardwareType : UInt16 := 0
  packetType : UInt8 := 0
  /-- How many bytes of `address` count. -/
  addressLength : UInt8 := 0
  address : Vector UInt8 8 := Vector.replicate 8 0
deriving DecidableEq

namespace LinkAddress

/-- The address family of packet sockets. -/
def family : UInt16 := 17

def bytes (a : LinkAddress) : List UInt8 :=
  littleEndian 2 family.toNat ++ a.protocol.toList ++ littleEndian 4 a.index.toNat ++
    littleEndian 2 a.hardwareType.toNat ++ [a.packetType, a.addressLength] ++ a.address.toList

theorem length_bytes (a : LinkAddress) : a.bytes.length = 20 := by
  simp [bytes, length_littleEndian]

/-- The address as it is handed to the kernel. -/
def buffer (a : LinkAddress) : Vector UInt8 20 :=
  ⟨a.bytes.toArray, by simp [length_bytes]⟩

/-- Reads the fields of a buffer; the family is not looked at. -/
def ofBuffer (b : Vector UInt8 20) : LinkAddress where
  protocol := #v[b[2], b[3]]
  index := UInt32.ofNat (ofLittleEndian [b[4], b[5], b[6], b[7]])
  hardwareType := UInt16.ofNat (ofLittleEndian [b[8], b[9]])
  packetType := b[10]
  addressLength := b[11]
  address := #v[b[12], b[13], b[14], b[15], b[16], b[17], b[18], b[19]]

/-- Where a discovery socket is bound: discovery frames on one interface. -/
def discoveryOn (index : UInt32) : LinkAddress :=
  { protocol := EtherType.discovery.networkBytes, index }

/-- The hardware address of a sender; it is zero if fewer than six bytes count. -/
def source (a : LinkAddress) : MacAddress :=
  if 6 ≤ a.addressLength then (MacAddress.ofBytes? a.address.toList).getD .zero else .zero

theorem ofBuffer_buffer (a : LinkAddress) : ofBuffer a.buffer = a := by
  obtain ⟨⟨⟨p⟩, hp⟩, i, t, k, n, ⟨⟨q⟩, hq⟩⟩ := a
  match p, hp, q, hq with
  | [p₀, p₁], _, [q₀, q₁, q₂, q₃, q₄, q₅, q₆, q₇], _ =>
    have hi : ofLittleEndian (littleEndian 4 i.toNat) = i.toNat := by
      rw [ofLittleEndian_littleEndian]
      exact Nat.mod_eq_of_lt i.toNat_lt
    have ht : ofLittleEndian (littleEndian 2 t.toNat) = t.toNat := by
      rw [ofLittleEndian_littleEndian]
      exact Nat.mod_eq_of_lt t.toNat_lt
    have hi' : UInt32.ofNat (ofLittleEndian (littleEndian 4 i.toNat)) = i := by
      rw [hi, UInt32.ofNat_toNat]
    have ht' : UInt16.ofNat (ofLittleEndian (littleEndian 2 t.toNat)) = t := by
      rw [ht, UInt16.ofNat_toNat]
    simp only [ofBuffer, mk.injEq]
    exact ⟨rfl, hi', ht', rfl, rfl, rfl⟩

end LinkAddress

end PppoeSetup.Wire
