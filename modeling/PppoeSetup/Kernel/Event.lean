import PppoeSetup.Kernel.Request
import PppoeSetup.Logging.Record
import PppoeSetup.SetupError
import PppoeSetup.Text.Quoted

/-!
# Events

What a setup reports while it runs. `Event.record` is the wording.
-/

namespace PppoeSetup.Kernel

open Logging

inductive Event
  | controlOpened (fd : Descriptor)
  | controlClosing (fd : Descriptor)
  | indexResolved (name : InterfaceName) (index : UInt32)
  | addressResolved (name : InterfaceName) (address : MacAddress)
  | named (name : InterfaceName) (address : MacAddress)
  /-- Another name was asked for, but the connection has one already. -/
  | nameKept (current : InterfaceName) (requested : String)
  | sessionOpened (fd : Descriptor)
  | discoveryOpened (fd : Descriptor)
  | bound (name : InterfaceName) (index : UInt32)
  | ready (name : Option InterfaceName) (index : UInt32) (address : MacAddress)
  | setupFailed (error : SetupError)
  | connected (name : InterfaceName) (sessionId : UInt16) (remote : MacAddress)
  | sessionClosed
  | discoveryClosed
  | modeSet (name : Option InterfaceName) (nonblocking : Bool)
deriving DecidableEq

namespace Event

/-- An optional interface name, as the log shows it. -/
def optionalName : Option InterfaceName → String
  | none => "None"
  | some n => s!"Some({Text.quoted n.text})"

/-- Indexes are logged as signed words where the kernel's answer is logged. -/
def signed (index : UInt32) : String := toString index.toInt32.toInt

def record : Event → Record
  | controlOpened fd => ⟨.debug, "Opened control socket", [("fd", toString fd)]⟩
  | controlClosing fd => ⟨.debug, "Closing control socket", [("fd", toString fd)]⟩
  | indexResolved name index =>
    ⟨.debug, "Resolved interface index", [("interface", name.text), ("ifindex", signed index)]⟩
  | addressResolved name address =>
    ⟨.debug, "Resolved hardware address", [("interface", name.text), ("mac", address.text)]⟩
  | named name address =>
    ⟨.debug, "Interface named", [("interface", name.text), ("mac", address.text)]⟩
  | nameKept current requested =>
    ⟨.warn, "Interface already named, keeping current",
      [("current", current.text), ("requested", requested)]⟩
  | sessionOpened fd => ⟨.debug, "Opened PPPoX session socket", [("fd", toString fd)]⟩
  | discoveryOpened fd => ⟨.debug, "Opened discovery socket", [("fd", toString fd)]⟩
  | bound name index =>
    ⟨.debug, "Bound discovery socket", [("interface", name.text), ("ifindex", toString index)]⟩
  | ready name index address =>
    ⟨.info, "PPPoE sockets ready",
      [("interface", optionalName name), ("ifindex", toString index), ("mac", address.text)]⟩
  | setupFailed error =>
    ⟨.warn, "PPPoE socket setup failed, releasing resources", [("error", error.message)]⟩
  | connected name sessionId remote =>
    ⟨.info, "PPPoE session connected",
      [("interface", name.text), ("session_id", toString sessionId), ("remote", remote.text)]⟩
  | sessionClosed => ⟨.debug, "Closed PPPoX session socket", []⟩
  | discoveryClosed => ⟨.debug, "Closed discovery socket", []⟩
  | modeSet name nonblocking =>
    ⟨.debug, "Discovery socket mode set",
      [("interface", optionalName name), ("nonblocking", toString nonblocking)]⟩

end Event

end PppoeSetup.Kernel
