/-!
# Durations

Whole seconds and nanoseconds below one second. The text of a duration uses the largest unit
that gives a whole part of at least one, with the exact fraction.
-/

namespace PppoeSetup

structure Duration where
  seconds : UInt64
  nanos : Fin 1000000000
deriving DecidableEq

namespace Duration

/-- Nanoseconds of a second or more are carried into the seconds. -/
def ofParts (seconds : UInt64) (nanos : Nat) : Duration :=
  ⟨seconds + UInt64.ofNat (nanos / 1000000000), ⟨nanos % 1000000000, Nat.mod_lt _ (by decide)⟩⟩

def ofMillis (ms : UInt64) : Duration :=
  ⟨ms / 1000, ⟨ms.toNat % 1000 * 1000000, by omega⟩⟩

/-- The duration in nanoseconds. -/
def toNanos (d : Duration) : Nat :=
  d.seconds.toNat * 1000000000 + d.nanos

/-- `whole` and the fraction `part / 10 ^ places`, without trailing zeros. -/
def fractional (whole part places : Nat) : String :=
  let digits := (Nat.toDigits 10 (Nat.pow 10 places + part)).drop 1
  let kept := (digits.reverse.dropWhile (· = '0')).reverse
  if kept = [] then toString whole else toString whole ++ "." ++ String.ofList kept

def text (d : Duration) : String :=
  let n := d.nanos.val
  if d.seconds ≠ 0 then fractional d.seconds.toNat n 9 ++ "s"
  else if 1000000 ≤ n then fractional (n / 1000000) (n % 1000000) 6 ++ "ms"
  else if 1000 ≤ n then fractional (n / 1000) (n % 1000) 3 ++ "µs"
  else toString n ++ "ns"

theorem toNanos_ofMillis (ms : UInt64) : (ofMillis ms).toNanos = ms.toNat * 1000000 := by
  have h : (1000 : UInt64).toNat = 1000 := rfl
  simp only [toNanos, ofMillis, UInt64.toNat_div, h]
  omega

end Duration

end PppoeSetup
