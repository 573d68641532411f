import PppoeSetup.Text.Blank
import PppoeSetup.Wire.Buffer

/-!
# Interface names

The kernel keeps interface names in buffers of 16 bytes that end in a NUL. A name is a text of 1
to 15 bytes without NUL, slash and ASCII blank, so that it always fits.
-/

namespace PppoeSetup

open Text

/-- Why a text is no interface name. -/
inductive NameFault
  | empty
  | tooLong
  | badByte
deriving DecidableEq

def NameFault.message : NameFault → String
  | empty => "name is empty"
  | tooLong => "name exceeds IFNAMSIZ"
  | badByte => "name contains NUL, '/' or whitespace"

namespace InterfaceName

def maxLength : Nat := 15

def isForbidden (c : Char) : Bool := c = '\x00' || c = '/' || isAsciiBlank c

/-- The first rule of the three that a text breaks. -/
def fault? (s : String) : Option NameFault :=
  if s.toList = [] then some .empty
  else if maxLength < s.utf8ByteSize then some .tooLong
  else if s.toList.any isForbidden then some .badByte
  else none

end InterfaceName

structure InterfaceName where
  text : String
  accepted : InterfaceName.fault? text = none
deriving DecidableEq

namespace InterfaceName

def ofText (s : String) : Except NameFault InterfaceName :=
  match h : fault? s with
  | some fault => .error fault
  | none => .ok ⟨s, h⟩

/-- The name as the kernel keeps it, filled up with NUL bytes. -/
def buffer (n : InterfaceName) : Vector UInt8 16 :=
  Wire.zeroPadded 16 n.text.toUTF8.toList

end InterfaceName

end PppoeSetup
