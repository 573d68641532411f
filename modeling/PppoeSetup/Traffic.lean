/-!
# Traffic counters

Six counters per discovery socket, each counting modulo 2^64.
-/

namespace PppoeSetup

inductive Counter
  | rxPackets
  | rxBytes
  | txPackets
  | txBytes
  | rxErrors
  | txErrors
deriving DecidableEq

structure Traffic where
  rxPackets : UInt64 := 0
  rxBytes : UInt64 := 0
  txPackets : UInt64 := 0
  txBytes : UInt64 := 0
  rxErrors : UInt64 := 0
  txErrors : UInt64 := 0
deriving DecidableEq

namespace Traffic

def none : Traffic := {}

def get (t : Traffic) : Counter → UInt64
  | .rxPackets => t.rxPackets
  | .rxBytes => t.rxBytes
  | .txPackets => t.txPackets
  | .txBytes => t.txBytes
  | .rxErrors => t.rxErrors
  | .txErrors => t.txErrors

def add (t : Traffic) (c : Counter) (n : UInt64) : Traffic :=
  match c with
  | .rxPackets => { t with rxPackets := t.rxPackets + n }
  | .rxBytes => { t with rxBytes := t.rxBytes + n }
  | .txPackets => { t with txPackets := t.txPackets + n }
  | .txBytes => { t with txBytes := t.txBytes + n }
  | .rxErrors => { t with rxErrors := t.rxErrors + n }
  | .txErrors => { t with txErrors := t.txErrors + n }

def increment (t : Traffic) (c : Counter) : Traffic := t.add c 1

/-- One frame of `bytes` bytes came in. -/
def recordReceived (t : Traffic) (bytes : UInt64) : Traffic :=
  (t.increment .rxPackets).add .rxBytes bytes

/-- One frame of `bytes` bytes went out. -/
def recordSent (t : Traffic) (bytes : UInt64) : Traffic :=
  (t.increment .txPackets).add .txBytes bytes

/-- The counters in their fixed order. -/
def toList (t : Traffic) : List UInt64 :=
  [t.rxPackets, t.rxBytes, t.txPackets, t.txBytes, t.rxErrors, t.txErrors]

/-- A step in the life of the counters. -/
inductive Step
  | received (bytes : UInt64)
  | sent (bytes : UInt64)
  | increment (c : Counter)
  | add (c : Counter) (n : UInt64)

def apply (t : Traffic) : Step → Traffic
  | .received n => t.recordReceived n
  | .sent n => t.recordSent n
  | .increment c => t.increment c
  | .add c n => t.add c n

theorem get_add (t : Traffic) (c d : Counter) (n : UInt64) :
    (t.add c n).get d = if d = c then t.get d + n else t.get d := by
  cases c <;> cases d <;> rfl

end Traffic

end PppoeSetup
