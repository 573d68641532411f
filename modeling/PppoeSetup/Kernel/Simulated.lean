import PppoeSetup.Kernel.Trace

/-!
# A simulated kernel

A kernel with a fixed table of interfaces. Descriptors are numbered from 100 on and never used
again. Frames to receive and outcomes of sending wait in queues that all sockets share, and
faults wait in a queue per kind of request: each request takes the first of its kind, and fails
with it unless it is zero.
-/

namespace PppoeSetup.Kernel

open Wire

/-- The kinds of requests that faults can be laid for. -/
inductive FaultPoint
  | socket (kind : SocketKind)
  | interfaceIndex
  | hardwareAddress
  | channelIndex
  | setBroadcast
  | setSendTimeout
  | bind
  | connect
  | statusFlags
  | setStatusFlags
  | register
deriving DecidableEq

/-- Receiving, sending, closing and waiting have no faults laid for them. -/
def FaultPoint.ofRequest? : Request → Option FaultPoint
  | .openSocket kind => some (.socket kind)
  | .interfaceIndex .. => some .interfaceIndex
  | .hardwareAddress .. => some .hardwareAddress
  | .channelIndex _ => some .channelIndex
  | .setOption _ .broadcast => some .setBroadcast
  | .setOption _ (.sendTimeout _) => some .setSendTimeout
  | .bind .. => some .bind
  | .connect .. => some .connect
  | .statusFlags _ => some .statusFlags
  | .setStatusFlags .. => some .setStatusFlags
  | .register _ => some .register
  | .send .. | .receive .. | .close _ | .notifications .. => none

structure Interface where
  name : String
  index : UInt32
  hardwareAddress : Vector UInt8 14

/-- What comes of sending a frame. -/
inductive SendOutcome
  | fails (errno : Errno)
  | takes (length : Nat)
  | takesAll

structure SimulatedState where
  interfaces : List Interface := []
  channel : Int32 := 0
  nextDescriptor : Descriptor := 100
  /-- The descriptors with status flags other than those of a new one. -/
  flags : List (Descriptor × UInt32) := []
  connected : List Descriptor := []
  faults : List (FaultPoint × Errno) := []
  toReceive : List (Except Errno Datagram) := []
  toSend : List SendOutcome := []

namespace SimulatedState

/-- The status flags of a new descriptor: it is open for reading and writing. -/
def newFlags : UInt32 := 2

def flagsOf (s : SimulatedState) (fd : Descriptor) : UInt32 :=
  (s.flags.lookup fd).getD newFlags

/-- The interface with the given name, compared up to the name's first NUL. -/
def interface? (s : SimulatedState) (name : List UInt8) : Option Interface :=
  s.interfaces.find? fun i => i.name.toUTF8.toList = untilNul name

/-- Takes the first fault that is laid for a kind of request. -/
def takeFault (s : SimulatedState) (p : FaultPoint) : Option Errno × SimulatedState :=
  match s.faults.find? (·.1 = p) with
  | none => (none, s)
  | some (_, e) =>
    let s := { s with faults := s.faults.eraseP (·.1 = p) }
    (if e.code = 0 then none else some e, s)

/-- What a request comes to if no fault is laid for it. -/
def perform (s : SimulatedState) : (r : Request) → r.Answer × SimulatedState
  | .openSocket _ =>
    (.ok s.nextDescriptor, { s with nextDescriptor := s.nextDescriptor + 1 })
  | .interfaceIndex _ name =>
    match s.interface? name.toList with
    | some i => (.ok i.index, s)
    | none => (.error .noDevice, s)
  | .hardwareAddress _ name =>
    match s.interface? name.toList with
    | some i => (.ok i.hardwareAddress, s)
    | none => (.error .noDevice, s)
  | .channelIndex fd =>
    if fd ∈ s.connected then (.ok s.channel, s) else (.error .notConnected, s)
  | .setOption .. => (.ok (), s)
  | .bind _ address =>
    if s.interfaces.any (·.index = address.index) then (.ok (), s) else (.error .noDevice, s)
  | .connect fd address =>
    if fd ∈ s.connected then (.error .busy, s)
    else if (s.interface? address.device.buffer.toList).isNone then (.error .noDevice, s)
    else (.ok (), { s with connected := fd :: s.connected })
  | .statusFlags fd => (.ok (s.flagsOf fd), s)
  | .setStatusFlags fd flags => (.ok (), { s with flags := (fd, flags) :: s.flags })
  | .send _ frame =>
    match s.toSend with
    | [] => (.ok frame.length, s)
    | .fails e :: rest => (.error e, { s with toSend := rest })
    | .takes n :: rest => (.ok n, { s with toSend := rest })
    | .takesAll :: rest => (.ok frame.length, { s with toSend := rest })
  | .receive _ capacity =>
    match s.toReceive with
    | [] => (.error .again, s)
    | .error e :: rest => (.error e, { s with toReceive := rest })
    | .ok d :: rest =>
      (.ok { d with payload := d.payload.take capacity }, { s with toReceive := rest })
  | .close _ => (.ok (), s)
  | .register _ => (.ok (), s)
  | .notifications _ .reading => (s.toReceive.length + 1, s)
  | .notifications _ .writing => (s.toSend.length + 1, s)

/-- The failed form of a request that a fault can be laid for. -/
def refuse (e : Errno) : (r : Request) → Option r.Answer
  | .openSocket _ | .interfaceIndex .. | .hardwareAddress .. | .channelIndex _ | .setOption ..
  | .bind .. | .connect .. | .statusFlags _ | .setStatusFlags .. | .send .. | .receive ..
  | .close _ | .register _ => some (.error e)
  | .notifications .. => none

end SimulatedState

/-- Every queue of faults comes before all else that a request does. -/
def simulated : Kernel SimulatedState where
  respond s r :=
    match FaultPoint.ofRequest? r with
    | none => s.perform r
    | some p =>
      let (fault, s) := s.takeFault p
      match fault.bind fun e => SimulatedState.refuse e r with
      | some answer => (answer, s)
      | none => s.perform r

end PppoeSetup.Kernel
