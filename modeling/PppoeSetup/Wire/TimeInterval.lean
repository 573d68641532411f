import PppoeSetup.Duration
import PppoeSetup.Wire.Buffer

/-!
# Time intervals of socket options

Seconds and microseconds, two signed words of 64 bits. Zero seconds and zero microseconds mean
"no limit".
-/

namespace PppoeSetup.Wire

structure TimeInterval where
  seconds : Int64
  micros : Int64
deriving DecidableEq

namespace TimeInterval

def bytes (t : TimeInterval) : List UInt8 :=
  littleEndian 8 t.seconds.toUInt64.toNat ++ littleEndian 8 t.micros.toUInt64.toNat

/-- Keeps whole microseconds; the seconds keep their bit pattern. -/
def ofDuration (d : Duration) : TimeInterval :=
  ⟨d.seconds.toInt64, Int64.ofNat (d.nanos.val / 1000)⟩

end TimeInterval

end PppoeSetup.Wire
