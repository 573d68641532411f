import PppoeSetup.Errno
import PppoeSetup.InterfaceName
import PppoeSetup.Text.Quoted

/-!
# Errors of the setup

What can go wrong, as causes; the wording is in one function.
-/

namespace PppoeSetup

/-- The three sockets of a setup. -/
inductive SocketKind
  /-- Only a conduit for questions about interfaces. -/
  | control
  /-- Carries one PPPoE session. -/
  | session
  /-- Sends and receives discovery frames. -/
  | discovery
deriving DecidableEq

def SocketKind.text : SocketKind → String
  | control => "control"
  | session => "PPPoX session"
  | discovery => "discovery"

inductive SetupError
  | io (source : IoError)
  | config (text : String)
  | interfaceNotFound (name : String) (source : IoError)
  | invalidInterfaceName (name : String) (reason : NameFault)
  | socketCreate (kind : SocketKind) (source : IoError)
  | bind (name : String) (source : IoError)
  | connect (sessionId : UInt16) (source : IoError)
  | lookup (name : String) (source : IoError)
  | invalidSessionId (sessionId : UInt16)
  | notReady
  | alreadyReady
  | alreadyNamed (name : String)
deriving DecidableEq

namespace SetupError

/-- The failed operation behind the error, if there is one. -/
def source? : SetupError → Option IoError
  | io e => some e
  | interfaceNotFound _ e => some e
  | socketCreate _ e => some e
  | bind _ e => some e
  | connect _ e => some e
  | lookup _ e => some e
  | config _ | invalidInterfaceName .. | invalidSessionId _ | notReady | alreadyReady
  | alreadyNamed _ => none

def message : SetupError → String
  | io e => s!"I/O error: {e.message}"
  | config text => s!"config error: {text}"
  | interfaceNotFound name e => s!"interface {name} not found: {e.message}"
  | invalidInterfaceName name reason =>
    s!"invalid interface name {Text.quoted name}: {reason.message}"
  | socketCreate kind e => s!"failed to create {kind.text} socket: {e.message}"
  | bind name e => s!"failed to bind discovery socket to {name}: {e.message}"
  | connect id e => s!"failed to connect PPPoE session {id}: {e.message}"
  | lookup name e => s!"hardware address lookup for {name} failed: {e.message}"
  | invalidSessionId id => s!"session id {id} is reserved"
  | notReady => "connection sockets are not initialized"
  | alreadyReady => "connection sockets are already initialized"
  | alreadyNamed name => s!"interface name is already set to {name}"

/-- An interface that was not found while a connection is being named: its address lookup
failed. -/
def whileNaming : SetupError → SetupError
  | interfaceNotFound name e => lookup name e
  | e => e

/-- An interface that was not found while a socket is being bound to it. -/
def whileBinding : SetupError → SetupError
  | interfaceNotFound name e => bind name e
  | e => e

end SetupError

/-- An interface name, or the error that quotes the text and gives the fault. -/
def InterfaceName.validate (s : String) : Except SetupError InterfaceName :=
  match InterfaceName.ofText s with
  | .ok name => .ok name
  | .error fault => .error (.invalidInterfaceName s fault)

end PppoeSetup
