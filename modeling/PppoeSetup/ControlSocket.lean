import PppoeSetup.Kernel.Trace

/-!
# The control socket

Questions about interfaces go through one control socket. It is opened when it is first needed,
is shared by all that ask, and may be closed at any time; the next question opens it again.
-/

namespace PppoeSetup

open Kernel

structure ControlSocket where
  descriptor? : Option Descriptor
deriving DecidableEq

/-- A program that may open or close the control socket. -/
abbrev Shared := StateT ControlSocket Program

/-- A program of this kind that may fail. -/
abbrev Attempt := ExceptT SetupError Shared

/-- A program that leaves the control socket alone and may fail. -/
abbrev Fallible := ExceptT SetupError Program

section

variable {m : Type → Type} [Monad m] {α : Type}

/-- Fails with the error that `wrap` makes of a refusal by the kernel. -/
def ofAnswer (wrap : IoError → SetupError) : Except Errno α → ExceptT SetupError m α
  | .ok a => return a
  | .error e => throw (wrap (.os e))

/-- Runs an attempt that owns something: if it fails, that is released before the failure is
passed on. -/
def onFailure [MonadLiftT Program m] (release : Program Unit) (attempt : ExceptT SetupError m α) :
    ExceptT SetupError m α :=
  tryCatch attempt fun e => do
    release
    throw e

end

/-- A program that leaves the control socket alone, among those that may use it. -/
def Attempt.ofFallible {α : Type} (p : Fallible α) : Attempt α :=
  ExceptT.mk (StateT.lift p.run)

namespace ControlSocket

def closed : ControlSocket := ⟨none⟩

def isOpen (c : ControlSocket) : Bool := c.descriptor?.isSome

/-- The descriptor of the control socket, which is opened if it is closed. A failure leaves it
closed. -/
def ensureOpen : Attempt Descriptor := do
  match (← get).descriptor? with
  | some fd => return fd
  | none =>
    match ← Program.call (.openSocket .control) with
    | .error e => throw (.socketCreate .control (.os e))
    | .ok fd =>
      Program.note (.controlOpened fd)
      set (⟨some fd⟩ : ControlSocket)
      return fd

/-- Does nothing if the socket is closed already. -/
def close : Shared Unit := do
  match (← get).descriptor? with
  | none => return
  | some fd =>
    Program.note (.controlClosing fd)
    Program.close fd
    set closed

/-- Asks about one interface through the control socket. -/
def query {α : Type} (name : InterfaceName) (question : Descriptor → Program (Except Errno α)) :
    Attempt α := do
  let fd ← ensureOpen
  let answer ← question fd
  ofAnswer (.interfaceNotFound name.text) answer

/-- The kernel's index of an interface. -/
def resolveIndex (name : InterfaceName) : Attempt UInt32 := do
  let index ← query name fun fd => Program.call (.interfaceIndex fd name.buffer)
  Program.note (.indexResolved name index)
  return index

/-- The first six bytes of the kernel's answer are the hardware address. -/
def addressOf (data : Vector UInt8 14) : MacAddress :=
  (MacAddress.ofBytes? data.toList).getD .zero

/-- The hardware address of an interface. -/
def resolveAddress (name : InterfaceName) : Attempt MacAddress := do
  let data ← query name fun fd => Program.call (.hardwareAddress fd name.buffer)
  Program.note (.addressResolved name (addressOf data))
  return addressOf data

/-- Closes the socket without telling anyone, when its owner goes away. -/
def release (c : ControlSocket) : Program Unit := Program.closeHeld c.descriptor?

end ControlSocket

end PppoeSetup
