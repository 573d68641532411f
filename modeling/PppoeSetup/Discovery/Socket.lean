import PppoeSetup.Connection
import PppoeSetup.Traffic

/-!
# Discovery sockets

A ready connection in the hands of the discovery exchange: frames are sent and received on its
discovery socket, and the traffic is counted. An operation that the kernel puts off is no error.
-/

namespace PppoeSetup

open Kernel Wire

structure DiscoverySocket where
  connection : Connection
  /-- The discovery socket of the connection. -/
  rawFd : Descriptor
  traffic : Traffic
deriving DecidableEq

/-- A received frame: its bytes, the sender's hardware address and the interface. -/
structure Received where
  payload : List UInt8
  source : MacAddress
  index : UInt32
deriving DecidableEq

/-- What is told of a datagram to the one who receives it. -/
def Received.ofDatagram (d : Datagram) : Received :=
  let sender := LinkAddress.ofBuffer d.sender
  ⟨d.payload, sender.source, sender.index⟩

namespace DiscoverySocket

def release (s : DiscoverySocket) : Program Unit := s.connection.release

/-- Wraps a ready connection; the counters start at zero. Any other connection goes away. -/
def ofConnection (c : Connection) : Fallible DiscoverySocket :=
  match c.state, c.discovery with
  | .ready, some fd => return ⟨c, fd, .none⟩
  | _, _ => onFailure c.release (throw .notReady)

/-- Brings a connection up on an interface and wraps it. If that fails, it goes away. -/
def ofFresh (c : Connection) (name : String) : Attempt DiscoverySocket := do
  let (result, c) ← c.bringUp (some name)
  match result with
  | .error e => onFailure c.release (throw e)
  | .ok () => Attempt.ofFallible (ofConnection c)

/-- A new connection, brought up on an interface and wrapped. -/
def onInterface (name : String) : Attempt DiscoverySocket := ofFresh (.fresh none) name

/-- The status flags with the nonblocking flag set or cleared, all other flags kept. -/
def withMode (flags : UInt32) (nonblocking : Bool) : UInt32 :=
  if nonblocking then flags ||| Request.nonblockingFlag
  else flags &&& ~~~Request.nonblockingFlag

def setNonblocking (s : DiscoverySocket) (nonblocking : Bool) : Fallible Unit := do
  let answer ← Program.call (.statusFlags s.rawFd)
  let flags ← ofAnswer .io answer
  let answer ← Program.call (.setStatusFlags s.rawFd (withMode flags nonblocking))
  ofAnswer .io answer
  Program.note (.modeSet s.connection.name nonblocking)

/-- Counts the outcome of sending one frame. -/
def countSent (t : Traffic) : Except Errno Nat → Traffic
  | .ok length => t.recordSent (UInt64.ofNat length)
  | .error e => if e = .again then t else t.increment .txErrors

/-- Counts the outcome of receiving one frame. -/
def countReceived (t : Traffic) : Except Errno Received → Traffic
  | .ok frame => t.recordReceived (UInt64.ofNat frame.payload.length)
  | .error e => if e = .again then t else t.increment .rxErrors

/-- Sends one frame and gives the number of bytes that the kernel took. -/
def send (s : DiscoverySocket) (frame : List UInt8) :
    Program (Except Errno Nat × DiscoverySocket) := do
  let answer ← Program.call (.send s.rawFd frame)
  return (answer, { s with traffic := countSent s.traffic answer })

/-- Receives one frame of at most `capacity` bytes. -/
def receive (s : DiscoverySocket) (capacity : Nat) :
    Program (Except Errno Received × DiscoverySocket) := do
  let answer ← Program.call (.receive s.rawFd capacity)
  let result := answer.map Received.ofDatagram
  return (result, { s with traffic := countReceived s.traffic result })

end DiscoverySocket

end PppoeSetup
