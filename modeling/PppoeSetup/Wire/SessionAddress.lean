import PppoeSetup.InterfaceName
import PppoeSetup.MacAddress
import PppoeSetup.Wire.Buffer

/-!
# Session addresses

The address of a PPPoE session: its id, the peer's hardware address and the interface. It is a
packed buffer of thirty bytes: the family, four zero bytes for the protocol, the id in network
order, the six octets and the name's buffer. `ofBytes?` reads such a buffer back.
-/

namespace PppoeSetup.Wire

structure SessionAddress where
  sessionId : UInt16
  remote : MacAddress
  device : InterfaceName
deriving DecidableEq

namespace SessionAddress

/-- The address family of PPP over something. -/
def family : UInt16 := 24

def bytes (a : SessionAddress) : List UInt8 :=
  littleEndian 2 family.toNat ++ [0, 0, 0, 0] ++ (littleEndian 2 a.sessionId.toNat).reverse ++
    a.remote.bytes ++ a.device.buffer.toList

/-- Reads the fields of a buffer; the name ends before its first NUL. -/
def ofBytes? (buffer : List UInt8) : Option SessionAddress := do
  let id := ofLittleEndian ((buffer.drop 6).take 2).reverse
  let remote ← MacAddress.ofBytes? (buffer.drop 8)
  let name ← String.fromUTF8? ⟨(untilNul (buffer.drop 14)).toArray⟩
  match InterfaceName.ofText name with
  | .ok device => some ⟨UInt16.ofNat id, remote, device⟩
  | .error _ => none

theorem length_bytes (a : SessionAddress) : a.bytes.length = 30 := by
  simp [bytes, length_littleEndian, MacAddress.bytes]

end SessionAddress

end PppoeSetup.Wire
