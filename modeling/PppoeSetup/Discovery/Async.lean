import PppoeSetup.Discovery.Socket

/-!
# Asynchronous discovery sockets

A discovery socket in nonblocking mode that a reactor watches. An operation is tried once for
each notification that the descriptor is ready, until the kernel no longer puts it off; if the
notifications end before that, it stays pending.
-/

namespace PppoeSetup

open Kernel

structure AsyncSocket where
  socket : DiscoverySocket
deriving DecidableEq

/-- How far an asynchronous operation has come. -/
inductive Poll (α : Type)
  | finished (result : α)
  | pending
deriving DecidableEq

namespace AsyncSocket

variable {α : Type}

/-- Switches the socket to nonblocking mode and has it watched. It is closed if that fails. -/
def ofSocket (s : DiscoverySocket) : Fallible AsyncSocket :=
  onFailure s.release do
    s.setNonblocking true
    let answer ← Program.call (.register s.rawFd)
    ofAnswer .io answer
    return ⟨s⟩

/-- Gives the socket back in blocking mode. It is closed if the mode cannot be changed. -/
def toSocket (s : AsyncSocket) : Fallible DiscoverySocket :=
  onFailure s.socket.release do
    s.socket.setNonblocking false
    return s.socket

/-- Tries an operation once per notification for as long as it is put off. -/
def retry (attempt : DiscoverySocket → Program (Except Errno α × DiscoverySocket)) :
    (notifications : Nat) → DiscoverySocket → Program (Poll (Except Errno α) × DiscoverySocket)
  | 0, s => return (.pending, s)
  | n + 1, s => do
    let (result, s) ← attempt s
    match result with
    | .ok a => return (.finished (.ok a), s)
    | .error e =>
      if e = .again then retry attempt n s
      else return (.finished (.error e), s)

def send (s : AsyncSocket) (frame : List UInt8) :
    Program (Poll (Except Errno Nat) × AsyncSocket) := do
  let n ← Program.call (.notifications s.socket.rawFd .writing)
  let (result, socket) ← retry (·.send frame) n s.socket
  return (result, ⟨socket⟩)

def receive (s : AsyncSocket) (capacity : Nat) :
    Program (Poll (Except Errno Received) × AsyncSocket) := do
  let n ← Program.call (.notifications s.socket.rawFd .reading)
  let (result, socket) ← retry (·.receive capacity) n s.socket
  return (result, ⟨socket⟩)

end AsyncSocket

/-- What frames can be exchanged through as the reactor's notifications come in. -/
class Capture (σ : Type) where
  receive : σ → (capacity : Nat) → Program (Poll (Except Errno Received) × σ)
  send : σ → (frame : List UInt8) → Program (Poll (Except Errno Nat) × σ)

instance : Capture AsyncSocket where
  receive := AsyncSocket.receive
  send := AsyncSocket.send

end PppoeSetup
