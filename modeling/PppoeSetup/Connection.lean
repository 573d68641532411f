import PppoeSetup.ControlSocket

/-!
# Connections

A connection is first unnamed, then bound to the name and hardware address of one interface, and
ready once both of its sockets are open and the discovery socket is bound to that interface.
Bringing it up either succeeds in full or leaves it unnamed with every socket closed again. How
far a connection has come is read off the fields that are set.
-/

namespace PppoeSetup

open Kernel Wire

structure Connection where
  /-- The session socket. -/
  session : Option Descriptor := none
  /-- The discovery socket. -/
  discovery : Option Descriptor := none
  name : Option InterfaceName := none
  /-- The hardware address of the named interface. -/
  address : MacAddress := .zero
  /-- The index that the discovery socket is bound to. -/
  index : Option UInt32 := none
  /-- Bounds every connect of the session socket. -/
  timeout : Option Duration
deriving DecidableEq

/-- Progress of a connection, without the particulars. -/
inductive SetupState
  | unnamed
  | named
  | ready
deriving DecidableEq

/-- What comes of opening the sockets of a connection. -/
structure Sockets where
  session : Descriptor
  discovery : Descriptor
  index : UInt32
deriving DecidableEq

namespace Connection

/-- A connection that knows nothing yet. -/
def fresh (timeout : Option Duration) : Connection := { timeout }

def state (c : Connection) : SetupState :=
  match c.session, c.discovery, c.name with
  | some _, some _, _ => .ready
  | _, _, some _ => .named
  | _, _, _ => .unnamed

def setTimeout (c : Connection) (timeout : Option Duration) : Connection :=
  { c with timeout }

/-! ### Naming -/

/-- Names the interface and looks up the hardware address that goes with the name. A connection
keeps its name until it is cleared; a failure changes nothing. -/
def setName (c : Connection) (text : String) : Shared (Except SetupError Unit × Connection) :=
  match c.name with
  | some current => return (.error (.alreadyNamed current.text), c)
  | none =>
    match InterfaceName.validate text with
    | .error e => return (.error e, c)
    | .ok name => do
      match ← (ControlSocket.resolveAddress name).run with
      | .error e => return (.error e.whileNaming, c)
      | .ok address =>
        Program.note (.named name address)
        return (.ok (), { c with name := some name, address })

/-- Applies a requested name to a connection without one. A name that is set stays, whatever
name is requested. -/
def adoptName (c : Connection) : Option String → Shared (Except SetupError Unit × Connection)
  | none => return (.ok (), c)
  | some text =>
    match c.name with
    | none => c.setName text
    | some current => do
      if current.text ≠ text then
        Program.note (.nameKept current text)
      return (.ok (), c)

/-! ### Sockets -/

/-- A new session socket. -/
def openSession : Fallible Descriptor := do
  let answer ← Program.call (.openSocket .session)
  ofAnswer (.socketCreate .session) answer

/-- A new discovery socket that may send to the broadcast address. -/
def openDiscovery : Fallible Descriptor := do
  let answer ← Program.call (.openSocket .discovery)
  let fd ← ofAnswer (.socketCreate .discovery) answer
  onFailure (Program.close fd) do
    let answer ← Program.call (.setOption fd .broadcast)
    ofAnswer (.socketCreate .discovery) answer
    return fd

/-- Binds a discovery socket to the interface and gives the interface's index. -/
def bindDiscovery (c : Connection) (fd : Descriptor) : Attempt UInt32 :=
  match c.name with
  | none => throw (.bind "" (.other "no interface name set"))
  | some name => do
    let index ← ExceptT.adapt SetupError.whileBinding (ControlSocket.resolveIndex name)
    let answer ← Program.call (.bind fd (.discoveryOn index))
    ofAnswer (.bind name.text) answer
    Program.note (.bound name index)
    return index

/-- A new discovery socket that is bound to the interface. -/
def openBound (c : Connection) : Attempt (Descriptor × UInt32) := do
  let fd ← Attempt.ofFallible openDiscovery
  onFailure (Program.close fd) do
    Program.note (.discoveryOpened fd)
    let index ← c.bindDiscovery fd
    return (fd, index)

/-- Opens both sockets and names the interface on the way. A socket that was opened is closed
again if a later step fails, the discovery socket before the session socket. -/
def openSockets (c : Connection) (requested : Option String) :
    Shared (Except SetupError Sockets × Connection) := do
  match ← openSession.run with
  | .error e => return (.error e, c)
  | .ok session =>
    Program.note (.sessionOpened session)
    match ← c.adoptName requested with
    | (.error e, c) =>
      Program.close session
      return (.error e, c)
    | (.ok (), c) =>
      match ← c.openBound.run with
      | .error e =>
        Program.close session
        return (.error e, c)
      | .ok (discovery, index) => return (.ok { session, discovery, index }, c)

/-- Closes one socket, and tells about it. -/
def closeSocket (socket : Option Descriptor) (event : Event) : Program Unit :=
  match socket with
  | none => return
  | some fd => do
    Program.close fd
    Program.note event

/-- Closes both sockets and forgets the interface. It never fails. -/
def clear (c : Connection) : Program Connection := do
  closeSocket c.session .sessionClosed
  closeSocket c.discovery .discoveryClosed
  return { c with
    session := none, discovery := none, name := none, address := .zero, index := none }

/-- Closes what is open, when the owner goes away. -/
def release (c : Connection) : Program Unit := do
  Program.closeHeld c.session
  Program.closeHeld c.discovery

/-- Opens and binds both sockets. If that fails, the connection is cleared. -/
def bringUp (c : Connection) (requested : Option String) :
    Shared (Except SetupError Unit × Connection) := do
  if c.state = .ready then return (.error .alreadyReady, c)
  else
    match ← c.openSockets requested with
    | (.error e, c) =>
      Program.note (.setupFailed e)
      return (.error e, ← c.clear)
    | (.ok sockets, c) =>
      -- a socket that is put in the place of another one closes it
      c.release
      Program.note (.ready c.name sockets.index c.address)
      return (.ok (),
        { c with
          session := some sockets.session
          discovery := some sockets.discovery
          index := some sockets.index })

/-! ### The session -/

/-- Connects the session socket, under the time limit if there is one; id zero is reserved. A
failure changes nothing, so that the call can be repeated. -/
def connectTo (c : Connection) (sessionId : UInt16) (remote : MacAddress) : Fallible Unit :=
  if sessionId = 0 then throw (.invalidSessionId sessionId)
  else
    match c.session, c.name with
    | some fd, some name =>
      if c.discovery.isNone then throw .notReady
      else do
        if let some limit := c.timeout then
          let answer ← Program.call (.setOption fd (.sendTimeout (.ofDuration limit)))
          ofAnswer (.connect sessionId) answer
        let answer ← Program.call (.connect fd ⟨sessionId, remote, name⟩)
        ofAnswer (.connect sessionId) answer
        Program.note (.connected name sessionId remote)
    | _, _ => throw .notReady

/-- Connects with the interface's own hardware address as the peer's. -/
def connect (c : Connection) (sessionId : UInt16) : Fallible Unit :=
  c.connectTo sessionId c.address

/-- The channel index of the connected session, for attaching it to a network unit. -/
def channel (c : Connection) : Fallible Int32 :=
  match c.session with
  | none => throw .notReady
  | some fd => do
    let answer ← Program.call (.channelIndex fd)
    ofAnswer .io answer

end Connection

end PppoeSetup
