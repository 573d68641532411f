import PppoeSetup.Proofs.Course.Refusals
import PppoeSetup.Proofs.InterfaceNames
import PppoeSetup.Proofs.Kernel.Use

/-!
# Calls in the courses

What the courses ask of the kernel is of three sorts: sockets are prepared for an interface, a
session is connected, and sockets that are there already are handled. Each course up to bringing up
a connection keeps to the first one, and each of the others to one of the other two.
-/

namespace PppoeSetup

open Kernel

namespace Kernel

/-! ### Sorts of calls -/

namespace Request

/-- A call that prepares sockets for an interface, or gives them up. -/
def Prepares (interface : String) : Request → Prop
  | openSocket _ | close _ | setOption _ .broadcast | bind .. => True
  | hardwareAddress _ buffer | interfaceIndex _ buffer =>
    InterfaceName.ofBuffer? buffer = some interface
  | _ => False

/-- A call that connects a session, or sets the limit for that. -/
def Connects : Request → Prop
  | setOption _ (.sendTimeout _) | connect .. => True
  | _ => False

/-- A call about sockets as they are, or one that gives them up. -/
def Handles : Request → Prop
  | channelIndex _ | statusFlags _ | setStatusFlags .. | send .. | receive .. | close _
  | register _ | notifications .. => True
  | _ => False

lemma Exchanges.handles {fd : Descriptor} {r : Request} (h : r.Exchanges fd) : r.Handles := by
  cases r <;> trivial

end Request

namespace Trace

/-- Sockets are prepared for the interface, and nothing else. -/
abbrev Prepares (interface : String) (t : Trace) : Prop := t.Asks (Request.Prepares interface)

/-- A session is connected, and nothing else. -/
abbrev Connects (t : Trace) : Prop := t.Asks Request.Connects

/-- Sockets are handled as they are. -/
abbrev Handles (t : Trace) : Prop := t.Asks Request.Handles

variable {t : Trace} {interface : String}

lemma OnlyCloses.asks {p : Request → Prop} (h : t.OnlyCloses) (hclose : ∀ fd, p (.close fd)) :
    t.Asks p := by
  intro r a hcall
  obtain ⟨fd, rfl⟩ := h r a hcall
  exact hclose fd

lemma OnlyCloses.prepares (h : t.OnlyCloses) : t.Prepares interface := h.asks fun _ => trivial

lemma OnlyCloses.handles (h : t.OnlyCloses) : t.Handles := h.asks fun _ => trivial

end Trace

end Kernel

open Trace

variable {s s' : ControlSocket} {t : Trace} {interface : String}

/-! ### The control socket -/

namespace ControlSocket

variable {name : InterfaceName}

lemma Opening.asks {p : Request → Prop} {r : Except SetupError Descriptor} (h : Opening s t r s')
    (hopen : p (.openSocket .control)) : t.Asks p := by
  cases h <;> simp [hopen]

lemma Shutting.onlyCloses (h : Shutting s t) : t.OnlyCloses := by
  cases h with
  | idle => exact .nil
  | closed fd answer =>
    intro r a hcall
    simp only [List.mem_cons, reduceCtorEq, List.not_mem_nil, or_false, false_or] at hcall
    cases hcall
    exact ⟨fd, rfl⟩

section

variable {α β : Type} {entry : Descriptor → Except Errno α → Entry} {value : α → β}
  {event : β → Event} {p : Request → Prop}

lemma Asking.asks {r : Except SetupError α} (h : Asking name entry s t r s')
    (hopen : p (.openSocket .control)) (hentry : ∀ fd a, Asks p [entry fd a]) : t.Asks p := by
  cases h with
  | unopened ho => exact ho.asks hopen
  | failed e ho | answered a ho => exact asks_append.mpr ⟨ho.asks hopen, hentry _ _⟩

lemma Resolving.asks {r : Except SetupError β} (h : Resolving name entry value event s t r s')
    (hopen : p (.openSocket .control)) (hentry : ∀ fd a, Asks p [entry fd a]) : t.Asks p := by
  cases h with
  | failed ha => exact ha.asks hopen hentry
  | resolved ha => simpa using ha.asks hopen hentry

end

lemma ResolvingIndex.prepares {r : Except SetupError UInt32} (h : ResolvingIndex name s t r s')
    (hname : name.text = interface) : t.Prepares interface := by
  subst hname
  exact Resolving.asks h trivial fun fd a => by
    simp [Request.Prepares, InterfaceName.ofBuffer?_buffer]

lemma ResolvingAddress.prepares {r : Except SetupError MacAddress}
    (h : ResolvingAddress name s t r s') (hname : name.text = interface) :
    t.Prepares interface := by
  subst hname
  exact Resolving.asks h trivial fun fd a => by
    simp [Request.Prepares, InterfaceName.ofBuffer?_buffer]

end ControlSocket

/-! ### Connections -/

namespace Connection

variable {c c' : Connection} {requested : Option String}

lemma Naming.prepares {text : String} {r : Except SetupError Unit}
    (h : Naming c text s t r c' s') : t.Prepares text := by
  cases h with
  | taken | invalid => simp
  | unresolved _ hv hr => exact hr.prepares (InterfaceName.text_of_validate hv)
  | named _ hv hr => simpa using hr.prepares (InterfaceName.text_of_validate hv)

lemma Adoption.prepares {r : Except SetupError Unit} (h : Adoption c s requested t r c' s') :
    t.Prepares (c.interfaceFor requested) := by
  cases h with
  | unasked | confirmed | kept => simp
  | applied hc hn => simpa [interfaceFor, hc] using hn.prepares

lemma DiscoveryOpening.prepares {r : Except SetupError Descriptor} (h : DiscoveryOpening t r) :
    t.Prepares interface := by
  cases h <;> simp [Request.Prepares]

lemma Binding.prepares {fd : Descriptor} {r : Except SetupError UInt32}
    (h : Binding c fd s t r s') (hc : c.On interface) : t.Prepares interface := by
  cases h with
  | unnamed => simp
  | unresolved hname hr => exact hr.prepares (hc _ hname)
  | refused e hname hr => simpa [Request.Prepares] using hr.prepares (hc _ hname)
  | bound hname hr => simpa [Request.Prepares] using hr.prepares (hc _ hname)

lemma BoundOpening.prepares {r : Except SetupError (Descriptor × UInt32)}
    (h : BoundOpening c s t r s') (hc : c.On interface) : t.Prepares interface := by
  cases h with
  | unopened hd => exact hd.prepares
  | unbound closing hd hb => simp [Request.Prepares, hd.prepares, hb.prepares hc]
  | bound hd hb => simp [hd.prepares, hb.prepares hc]

lemma SocketsOpening.prepares {r : Except SetupError Sockets}
    (h : SocketsOpening c requested s t r c' s') : t.Prepares (c.interfaceFor requested) := by
  cases h with
  | refused e => simp [Request.Prepares]
  | unnamed closing ha => simp [Request.Prepares, ha.prepares]
  | unbound closing ha hb | opened ha hb =>
    simp [Request.Prepares, ha.prepares, hb.prepares fun _ => ha.text_eq]

lemma BringUp.prepares {r : Except SetupError Unit} (h : BringUp c requested s t r c' s') :
    t.Prepares (c.interfaceFor requested) := by
  cases h with
  | already => simp
  | failed _ ho hc => simp [ho.prepares, hc.onlyCloses.prepares]
  | ready _ ho hr => simp [ho.prepares, hr.onlyCloses.prepares]

lemma Connecting.connects {sessionId : UInt16} {remote : MacAddress} {r : Except SetupError Unit}
    (h : Connecting c sessionId remote t r) : t.Connects := by
  have hlimiting {fd : Descriptor} {limit : Option Duration} {v : Trace}
      (hl : Limiting fd limit v) : v.Connects := by
    cases hl <;> simp [Request.Connects]
  cases h with
  | reserved | notReady | unlimited => simp [Request.Connects]
  | refused _ _ _ _ _ hl | connected _ _ _ _ hl =>
    simpa [Request.Connects] using hlimiting hl

lemma Channelling.handles {r : Except SetupError Int32} (h : Channelling c t r) : t.Handles := by
  cases h <;> simp [Request.Handles]

end Connection

/-! ### Discovery sockets -/

namespace DiscoverySocket

open Connection

variable {c : Connection} {d d' : DiscoverySocket}

lemma Wrapping.onlyCloses {r : Except SetupError DiscoverySocket} (h : Wrapping c t r) :
    t.OnlyCloses := by
  cases h with
  | wrapped => exact .nil
  | refused _ hr => exact hr.onlyCloses

lemma FreshOpening.prepares {name : String} {r : Except SetupError DiscoverySocket}
    (h : FreshOpening c name s t r s') : t.Prepares (c.interfaceFor (some name)) := by
  cases h with
  | failed hb hr => exact asks_append.mpr ⟨hb.prepares, hr.onlyCloses.prepares⟩
  | broughtUp hb hw => exact asks_append.mpr ⟨hb.prepares, hw.onlyCloses.prepares⟩

lemma FreshOpening.prepares_after {u : Trace} {name : String}
    {r : Except SetupError DiscoverySocket} (h : FreshOpening c name s t r s')
    (hu : u.OnlyCloses) :
    (u ++ t).Prepares (c.interfaceFor (some name)) :=
  asks_append.mpr ⟨hu.prepares, h.prepares⟩

lemma ModeSetting.handles {on : Bool} {r : Except SetupError Unit} (h : ModeSetting d on t r) :
    t.Handles := by
  cases h <;> simp [Request.Handles]

lemma Transferring.handles (h : Transferring d t d') : t.Handles :=
  h.exchanges.1.mono fun _ => Request.Exchanges.handles

end DiscoverySocket

namespace AsyncSocket

open DiscoverySocket

variable {d d' : DiscoverySocket} {a : AsyncSocket}

lemma Watching.handles {r : Except SetupError AsyncSocket} (h : Watching d t r) : t.Handles := by
  cases h with
  | unswitched hm hr => exact asks_append.mpr ⟨hm.handles, hr.onlyCloses.handles⟩
  | unwatched e hm hr => simp [Request.Handles, hm.handles, hr.onlyCloses.handles]
  | watched hm => simp [Request.Handles, hm.handles]

lemma Unwatching.handles {r : Except SetupError DiscoverySocket} (h : Unwatching a t r) :
    t.Handles := by
  cases h with
  | unswitched hm hr => exact asks_append.mpr ⟨hm.handles, hr.onlyCloses.handles⟩
  | switched hm => exact hm.handles

lemma Awaiting.handles (h : Awaiting d t d') : t.Handles :=
  h.exchanges.1.mono fun _ => Request.Exchanges.handles

end AsyncSocket

end PppoeSetup
