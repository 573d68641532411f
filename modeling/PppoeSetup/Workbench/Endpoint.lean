import PppoeSetup.Discovery.Async
import PppoeSetup.Discovery.Configured

/-!
# Endpoints

An endpoint is a connection, alone or wrapped for discovery. This module has what all three have
in common, and their descriptions in full.
-/

namespace PppoeSetup

open Kernel

inductive Endpoint
  | connection (c : Connection)
  | discovery (s : DiscoverySocket)
  | async (s : AsyncSocket)
deriving DecidableEq

namespace Endpoint

/-- The connection behind an endpoint. -/
def underlying : Endpoint → Connection
  | connection c => c
  | discovery s => s.connection
  | async s => s.socket.connection

/-- The socket that counts traffic, if the endpoint has one. -/
def socket? : Endpoint → Option DiscoverySocket
  | connection _ => none
  | discovery s => some s
  | async s => some s.socket

/-- The endpoint with another discovery socket in it. -/
def withSocket : Endpoint → DiscoverySocket → Endpoint
  | connection c, _ => connection c
  | discovery _, s => discovery s
  | async _, s => async ⟨s⟩

/-- Closes what is open, when the owner goes away. -/
def release (e : Endpoint) : Program Unit := e.underlying.release

end Endpoint

/-! ### Descriptions -/

/-- A description of named parts in braces. -/
def describeParts (name : String) (parts : List (String × String)) : String :=
  let body := ", ".intercalate (parts.map fun p => p.1 ++ ": " ++ p.2)
  name ++ " \x7b " ++ body ++ " \x7d"

/-- A description of something that may be missing. -/
def describeOption : Option String → String
  | none => "None"
  | some s => "Some(" ++ s ++ ")"

def describeDescriptor (fd : Descriptor) : String :=
  describeParts "OwnedFd" [("fd", toString fd)]

def ControlSocket.description (c : ControlSocket) : String :=
  let data := describeOption (c.descriptor?.map describeDescriptor)
  describeParts "ControlSocket"
    [("fd", "Mutex \x7b data: " ++ data ++ ", poisoned: false, .. \x7d")]

def Connection.description (c : Connection) (control : ControlSocket) : String :=
  describeParts "ConnectionData"
    [ ("control", control.description),
      ("pppoe_socket", describeOption (c.session.map describeDescriptor)),
      ("raw_socket", describeOption (c.discovery.map describeDescriptor)),
      ("interface_name", describeOption (c.name.map fun n => Text.quoted n.text)),
      ("mac_address", c.address.text),
      ("ifindex", describeOption (c.index.map toString)),
      ("connect_timeout", describeOption (c.timeout.map (·.text))) ]

def Traffic.description (t : Traffic) : String :=
  let counter (name : String) (n : UInt64) := (name, "Counter(" ++ toString n ++ ")")
  describeParts "SocketStats"
    [ counter "rx_packets" t.rxPackets,
      counter "rx_bytes" t.rxBytes,
      counter "tx_packets" t.txPackets,
      counter "tx_bytes" t.txBytes,
      counter "rx_errors" t.rxErrors,
      counter "tx_errors" t.txErrors ]

def DiscoverySocket.description (s : DiscoverySocket) (control : ControlSocket) : String :=
  describeParts "DiscoverySocket"
    [ ("connection", s.connection.description control),
      ("raw_fd", toString s.rawFd),
      ("stats", s.traffic.description) ]

def Endpoint.description (control : ControlSocket) : Endpoint → String
  | .connection c => c.description control
  | .discovery s => s.description control
  | .async s =>
    describeParts "AsyncDiscoverySocket" [("socket", s.socket.description control)]

end PppoeSetup
