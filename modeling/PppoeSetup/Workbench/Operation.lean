import PppoeSetup.Config.Reading
import PppoeSetup.Workbench.Endpoint

/-!
# The workbench

A workbench has one control socket and a number of slots, each of which is empty or holds an
endpoint. An operation acts on the control socket or on one slot; it is a program, and it ends
with a reply and the workbench afterwards.
-/

namespace PppoeSetup

open Kernel

/-- A configuration as it is handed over. -/
inductive Source
  | settings (c : SetupConfig)
  | text (s : String)

/-- The configuration of a source, or the error that reading it comes to. -/
def Source.read : Source → Except SetupError SetupConfig
  | settings c => .ok c
  | text s => (Config.ofText s).mapError Config.Fault.toError

/-- What is done with a slot. -/
inductive Action
  /-- A new connection, in place of what the slot holds. -/
  | create
  /-- A new connection with the limit that a configuration sets. -/
  | createFrom (source : Source)
  /-- A new discovery socket on an interface. -/
  | onInterface (name : String)
  /-- A new discovery socket as a configuration has it. -/
  | setUpFrom (source : Source)
  | drop
  | setName (name : String)
  | bringUp (name : Option String)
  | clear
  | setTimeout (timeout : Option Duration)
  | connect (sessionId : UInt16)
  | connectTo (sessionId : UInt16) (remote : MacAddress)
  | channel
  /-- Whether the endpoint uses the control socket of the workbench. -/
  | sharesControl
  | describe
  | toDiscovery
  | toConnection
  | toAsync
  | toBlocking
  | setNonblocking (on : Bool)
  | send (frame : List UInt8)
  | receive (capacity : Nat)
  /-- Sends without waiting for the reactor, also on a socket that one watches. -/
  | sendNow (frame : List UInt8)
  /-- Receives without waiting for the reactor. -/
  | receiveNow (capacity : Nat)

inductive Operation (slots : Nat)
  | openControl
  | closeControl
  | describeControl
  | resolveIndex (name : String)
  | resolveAddress (name : String)
  | act (slot : Fin slots) (action : Action)

inductive Reply
  | done
  | descriptor (fd : Descriptor)
  | index (n : UInt32)
  | channel (n : Int32)
  | sent (length : Nat)
  | received (frame : Received)
  | address (m : MacAddress)
  | text (s : String)
  | truth (b : Bool)
  | failed (e : SetupError)
  /-- The operation waits for a notification that does not come. -/
  | pending
  /-- The operation is none for what the slot holds. -/
  | inapplicable

namespace Reply

/-- The reply for a result. -/
def ofResult {α : Type} (reply : α → Reply) : Except SetupError α → Reply
  | .ok a => reply a
  | .error e => failed e

def ofTransfer {α : Type} (reply : α → Reply) : Except Errno α → Reply
  | .ok a => reply a
  | .error e => failed (.io (.os e))

def ofPoll {α : Type} (reply : α → Reply) : Poll (Except Errno α) → Reply
  | .finished result => ofTransfer reply result
  | .pending => pending

end Reply

namespace Endpoint

/-- Drops what a slot holds. -/
def discard : Option Endpoint → Program Unit
  | none => return
  | some e => e.release

/-- Puts what an attempt makes into a slot; if it fails, the slot is empty. -/
def made {α : Type} (wrap : α → Endpoint) : Except SetupError α → Reply × Option Endpoint
  | .ok a => (.done, some (wrap a))
  | .error e => (.failed e, none)

/-- An attempt to make an endpoint anew, after what the slot held has been dropped. -/
def remake {α : Type} (held : Option Endpoint) (wrap : α → Endpoint) (attempt : Attempt α) :
    Shared (Reply × Option Endpoint) := do
  discard held
  return made wrap (← attempt.run)

/-- Transfers one frame, on the calling thread, through the discovery socket of an endpoint. -/
def transfer {α : Type} (held : Option Endpoint) (reply : α → Reply)
    (attempt : DiscoverySocket → Program (Except Errno α × DiscoverySocket)) :
    Program (Reply × Option Endpoint) :=
  match held with
  | none => return (.inapplicable, held)
  | some e =>
    match e.socket? with
    | none => return (.inapplicable, held)
    | some s => do
      let (result, s) ← attempt s
      return (.ofTransfer reply result, some (e.withSocket s))

/-- One action on a slot. -/
def act (held : Option Endpoint) : Action → Shared (Reply × Option Endpoint)
  | .create => remake held .connection (return .fresh none)
  | .createFrom source => remake held .connection do
    let config ← liftExcept source.read
    return .ofConfig config
  | .onInterface name => remake held .discovery (DiscoverySocket.onInterface name)
  | .setUpFrom source => remake held .discovery do
    let config ← liftExcept source.read
    DiscoverySocket.ofConfig config
  | .drop => do
    discard held
    return (.done, none)
  | .setName name =>
    match held with
    | some (.connection c) => do
      let (result, c) ← c.setName name
      return (.ofResult (fun _ => .done) result, some (.connection c))
    | _ => return (.inapplicable, held)
  | .bringUp name =>
    match held with
    | some (.connection c) => do
      let (result, c) ← c.bringUp name
      return (.ofResult (fun _ => .done) result, some (.connection c))
    | _ => return (.inapplicable, held)
  | .clear =>
    match held with
    | some (.connection c) => do return (.done, some (.connection (← c.clear)))
    | _ => return (.inapplicable, held)
  | .setTimeout timeout =>
    match held with
    | some (.connection c) => return (.done, some (.connection (c.setTimeout timeout)))
    | _ => return (.inapplicable, held)
  | .connect sessionId =>
    match held with
    | some e => do
      return (.ofResult (fun _ => .done) (← (e.underlying.connect sessionId).run), held)
    | none => return (.inapplicable, held)
  | .connectTo sessionId remote =>
    match held with
    | some e => do
      return (.ofResult (fun _ => .done) (← (e.underlying.connectTo sessionId remote).run), held)
    | none => return (.inapplicable, held)
  | .channel =>
    match held with
    | some e => do return (.ofResult .channel (← e.underlying.channel.run), held)
    | none => return (.inapplicable, held)
  | .sharesControl =>
    match held with
    | some _ => return (.truth true, held)
    | none => return (.inapplicable, held)
  | .describe =>
    match held with
    | some e => do return (.text (e.description (← get)), held)
    | none => return (.inapplicable, held)
  | .toDiscovery =>
    match held with
    | some (.connection c) => do
      return made .discovery (← (DiscoverySocket.ofConnection c).run)
    | _ => return (.inapplicable, held)
  | .toConnection =>
    match held with
    | some (.discovery s) => return (.done, some (.connection s.connection))
    | _ => return (.inapplicable, held)
  | .toAsync =>
    match held with
    | some (.discovery s) => do return made .async (← (AsyncSocket.ofSocket s).run)
    | _ => return (.inapplicable, held)
  | .toBlocking =>
    match held with
    | some (.async s) => do return made .discovery (← s.toSocket.run)
    | _ => return (.inapplicable, held)
  | .setNonblocking on =>
    match held.bind socket? with
    | some s => do return (.ofResult (fun _ => .done) (← (s.setNonblocking on).run), held)
    | none => return (.inapplicable, held)
  | .send frame =>
    match held with
    | some (.async s) => do
      let (result, s) ← s.send frame
      return (.ofPoll .sent result, some (.async s))
    | _ => transfer held .sent (·.send frame)
  | .receive capacity =>
    match held with
    | some (.async s) => do
      let (result, s) ← s.receive capacity
      return (.ofPoll .received result, some (.async s))
    | _ => transfer held .received (·.receive capacity)
  | .sendNow frame => transfer held .sent (·.send frame)
  | .receiveNow capacity => transfer held .received (·.receive capacity)

end Endpoint

structure Workbench (slots : Nat) where
  control : ControlSocket
  held : Fin slots → Option Endpoint

namespace Workbench

variable {slots : Nat}

/-- The control socket is closed and all slots are empty. -/
def empty : Workbench slots := ⟨.closed, fun _ => none⟩

/-- The workbench with something else in one slot. -/
def put (w : Workbench slots) (slot : Fin slots) (e : Option Endpoint) : Workbench slots :=
  { w with held := fun i => if i = slot then e else w.held i }

/-- Runs a program on the control socket of the workbench. -/
def withControl (w : Workbench slots) (p : Shared Reply) : Program (Reply × Workbench slots) := do
  let (reply, control) ← p.run w.control
  return (reply, { w with control })

/-- Resolves a name that is given as a text. -/
def resolve {α : Type} (name : String) (reply : α → Reply)
    (question : InterfaceName → Attempt α) : Shared Reply :=
  match InterfaceName.validate name with
  | .error e => return .failed e
  | .ok name => do return .ofResult reply (← (question name).run)

def perform (w : Workbench slots) : Operation slots → Program (Reply × Workbench slots)
  | .openControl => w.withControl do return .ofResult .descriptor (← ControlSocket.ensureOpen.run)
  | .closeControl => w.withControl do
    ControlSocket.close
    return .done
  | .describeControl => w.withControl do return .text (← get).description
  | .resolveIndex name => w.withControl (resolve name .index ControlSocket.resolveIndex)
  | .resolveAddress name => w.withControl (resolve name .address ControlSocket.resolveAddress)
  | .act slot action => do
    let ((reply, e), control) ← (Endpoint.act (w.held slot) action).run w.control
    return (reply, ({ w with control } : Workbench slots).put slot e)

/-- One operation after the other, with their replies. -/
def performAll (w : Workbench slots) : List (Operation slots) →
    Program (List Reply × Workbench slots)
  | [] => return ([], w)
  | op :: ops => do
    let (reply, w) ← w.perform op
    let (replies, w) ← w.performAll ops
    return (reply :: replies, w)

/-- Drops what the slots hold, in their order, and then the control socket. -/
def shutDown (w : Workbench slots) : Program Unit := do
  (List.finRange slots).forM fun i => Endpoint.discard (w.held i)
  w.control.release

end Workbench

end PppoeSetup
