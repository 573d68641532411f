/-!
# EtherTypes of PPPoE

The discovery and the session stage each have an EtherType of their own. On the wire and in
socket calls it stands in network byte order.
-/

namespace PppoeSetup

inductive EtherType
  | discovery
  | session
deriving DecidableEq

namespace EtherType

def value : EtherType → UInt16
  | discovery => 0x8863
  | session => 0x8864

def ofValue? (v : UInt16) : Option EtherType :=
  if v = discovery.value then some discovery
  else if v = session.value then some session
  else none

/-- The two bytes as they follow each other in memory and on the wire. -/
def networkBytes (t : EtherType) : Vector UInt8 2 :=
  #v[(t.value >>> 8).toUInt8, t.value.toUInt8]

/-- The number that a little-endian machine sees in `networkBytes`. -/
def networkValue (t : EtherType) : UInt16 :=
  t.value <<< 8 ||| t.value >>> 8

theorem ofValue?_value (t : EtherType) : ofValue? t.value = some t := by
  cases t <;> decide

end EtherType

end PppoeSetup
