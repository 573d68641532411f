import PppoeSetup.Text.Hex
import PppoeSetup.Text.Pieces

/-!
# Hardware addresses

A MAC address is six octets. Its text has two lower-case digits per octet and colons between
them; it is read with colons or with dashes.
-/

namespace PppoeSetup

open Text

structure MacAddress where
  octets : Vector UInt8 6
deriving DecidableEq

/-- Why a text is no MAC address. -/
inductive MacFault
  /-- Not six parts. -/
  | length
  /-- A part that is not two bytes long. -/
  | format
  /-- A part that is not a hexadecimal number. -/
  | digit
deriving DecidableEq

def MacFault.message : MacFault → String
  | length => "invalid MAC address length"
  | format => "invalid MAC address format"
  | digit => "invalid hex digit in MAC address"

namespace MacAddress

def zero : MacAddress := ⟨#v[0, 0, 0, 0, 0, 0]⟩

def broadcast : MacAddress := ⟨#v[0xff, 0xff, 0xff, 0xff, 0xff, 0xff]⟩

/-- Group addresses have the lowest bit of the first octet set. -/
def isMulticast (m : MacAddress) : Bool := m.octets[0] &&& 1 ≠ 0

/-- The address in the first six bytes; shorter buffers hold none. -/
def ofBytes? : List UInt8 → Option MacAddress
  | a :: b :: c :: d :: e :: f :: _ => some ⟨#v[a, b, c, d, e, f]⟩
  | _ => none

def bytes (m : MacAddress) : List UInt8 := m.octets.toList

def text (m : MacAddress) : String :=
  String.ofList ([':'].intercalate (m.bytes.map octetDigits))

/-- The number a two-byte part stands for: two digits, or a plus sign and one digit. -/
def octet? : List Char → Option UInt8
  | ['+', d] => (hexDigit? d).map UInt8.ofNat
  | [h, l] => do
    let high ← hexDigit? h
    let low ← hexDigit? l
    return UInt8.ofNat (16 * high + low)
  | _ => none

def readOctet (part : List Char) : Except MacFault UInt8 :=
  if utf8Length part ≠ 2 then .error .format
  else
    match octet? part with
    | some b => .ok b
    | none => .error .digit

/-- Parts are separated by colons if there is a colon at all, by dashes otherwise. -/
def separator (cs : List Char) : Char := if ':' ∈ cs then ':' else '-'

/-- Six parts make an address; of several bad parts the first decides the fault. -/
def parse (s : String) : Except MacFault MacAddress :=
  match pieces (separator s.toList) s.toList with
  | [a, b, c, d, e, f] => do
    let a ← readOctet a
    let b ← readOctet b
    let c ← readOctet c
    let d ← readOctet d
    let e ← readOctet e
    let f ← readOctet f
    return ⟨#v[a, b, c, d, e, f]⟩
  | _ => .error .length

theorem ofBytes?_bytes (m : MacAddress) : ofBytes? m.bytes = some m := by
  obtain ⟨⟨⟨l⟩, h⟩⟩ := m
  match l, h with
  | [a, b, c, d, e, f], _ => rfl

end MacAddress

end PppoeSetup
