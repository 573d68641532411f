import PppoeSetup.Proofs.Course.Calls

/-!
# Facts about interfaces

What the kernel tells about interfaces in the course of an operation, and which interface the
calls of an operation name.
-/

namespace PppoeSetup

open Kernel

namespace Kernel

/-- What the kernel tells about an interface, in the terms of the call. -/
inductive Fact
  /-- The bytes that it left for the interface in the buffer. -/
  | address (buffer : Vector UInt8 16) (data : Vector UInt8 14)
  | index (buffer : Vector UInt8 16) (index : UInt32)
  /-- A socket has been bound. -/
  | bound (fd : Descriptor) (address : Wire.LinkAddress)
deriving DecidableEq

def Fact.isAddress : Fact → Bool
  | address .. => true
  | index .. | bound .. => false

def Request.fact? : (r : Request) → r.Answer → Option Fact
  | .hardwareAddress _ buffer, .ok data => some (.address buffer data)
  | .interfaceIndex _ buffer, .ok index => some (.index buffer index)
  | .bind fd address, .ok _ => some (.bound fd address)
  | _, _ => none

/-- A call of a setup that names no other interface; sessions are not connected in a setup, nor
are limits set for that. -/
def Request.SetsUp (interface : String) : Request → Prop
  | .hardwareAddress _ buffer | .interfaceIndex _ buffer =>
    InterfaceName.ofBuffer? buffer = some interface
  | .connect .. | .setOption _ (.sendTimeout _) => False
  | _ => True

lemma Request.Prepares.setsUp {interface : String} {r : Request} (h : r.Prepares interface) :
    r.SetsUp interface := by
  cases r with
  | setOption fd option => cases option <;> trivial
  | hardwareAddress | interfaceIndex => exact h
  | _ => trivial

lemma Request.Handles.setsUp {interface : String} {r : Request} (h : r.Handles) :
    r.SetsUp interface := by
  cases r <;> trivial

/-- The interface that a call names. -/
def Request.interface? : Request → Option String
  | .hardwareAddress _ buffer | .interfaceIndex _ buffer => InterfaceName.ofBuffer? buffer
  | .connect _ address => InterfaceName.ofBuffer? address.device.buffer
  | _ => none

lemma Request.SetsUp.eq_of_interface {interface text : String} {r : Request}
    (h : r.SetsUp interface) (hr : r.interface? = some text) : text = interface := by
  cases r with
  | hardwareAddress fd buffer => exact Option.some.inj (hr.symm.trans h)
  | interfaceIndex fd buffer => exact Option.some.inj (hr.symm.trans h)
  | connect => exact h.elim
  | _ => cases hr

namespace Trace

/-- What the kernel tells about interfaces, in order. -/
def facts (t : Trace) : List Fact :=
  t.filterMap fun
    | .call r a => r.fact? a
    | .event _ => none

variable {t u : Trace}

@[simp] lemma facts_nil : facts [] = [] := rfl

@[simp] lemma facts_event {e : Event} : facts (.event e :: t) = facts t := rfl

@[simp] lemma facts_call {r : Request} {a : r.Answer} :
    facts (.call r a :: t) = (r.fact? a).toList ++ facts t := by
  cases h : r.fact? a <;> simp [facts, h]

@[simp] lemma facts_append : facts (t ++ u) = facts t ++ facts u := List.filterMap_append ..

variable {interface : String}

lemma Prepares.setsUp (h : t.Prepares interface) : t.Asks (Request.SetsUp interface) :=
  h.mono fun _ => Request.Prepares.setsUp

lemma Handles.setsUp (h : t.Handles) : t.Asks (Request.SetsUp interface) :=
  h.mono fun _ => Request.Handles.setsUp

/-- Nothing is told about interfaces when sockets are handled. -/
lemma Handles.facts_eq (h : t.Handles) : t.facts = [] := by
  rw [facts, List.filterMap_eq_nil_iff]
  intro entry hentry
  cases entry with
  | event e => rfl
  | call r a =>
    have hr := h r a hentry
    cases r <;> first | rfl | exact hr.elim

end Trace

end Kernel

variable {s s' : ControlSocket} {t : Trace} {interface : String}

/-! ### The control socket -/

namespace ControlSocket

variable {name : InterfaceName}

lemma Opening.facts_eq {r : Except SetupError Descriptor} (h : Opening s t r s') :
    t.facts = [] := by
  cases h <;> rfl

section

variable {α β : Type} {entry : Descriptor → Except Errno α → Entry} {value : α → β}
  {event : β → Event}

lemma Asking.facts_eq (fact : α → Fact) {a : α} (h : Asking name entry s t (.ok a) s')
    (hentry : ∀ fd a, Trace.facts [entry fd (.ok a)] = [fact a]) : t.facts = [fact a] := by
  cases h with
  | answered _ ho => rw [Trace.facts_append, ho.facts_eq, hentry, List.nil_append]

lemma Resolving.facts_eq (fact : α → Fact) {b : β}
    (h : Resolving name entry value event s t (.ok b) s')
    (hentry : ∀ fd a, Trace.facts [entry fd (.ok a)] = [fact a]) :
    ∃ a, b = value a ∧ t.facts = [fact a] := by
  cases h with
  | @resolved _ a _ ha =>
    refine ⟨a, rfl, ?_⟩
    simp [ha.facts_eq fact hentry]

end

lemma ResolvingIndex.facts_eq {index : UInt32} (h : ResolvingIndex name s t (.ok index) s') :
    t.facts = [.index name.buffer index] := by
  obtain ⟨_, rfl, hfacts⟩ := Resolving.facts_eq (.index name.buffer) h fun _ _ => rfl
  exact hfacts

lemma ResolvingAddress.facts_eq {address : MacAddress}
    (h : ResolvingAddress name s t (.ok address) s') :
    ∃ data, address = addressOf data ∧ t.facts = [.address name.buffer data] :=
  Resolving.facts_eq (.address name.buffer) h fun _ _ => rfl

end ControlSocket

/-! ### Connections -/

namespace Connection

variable {c c' : Connection}

/-- How a connection comes to know the address of its interface: it knew it before, or the kernel
has told it for the requested name. -/
inductive Learning (c : Connection) (requested : Option String) (name : InterfaceName) :
    List Fact → MacAddress → Prop
  | known : c.name = some name → Learning c requested name [] c.address
  | told (data : Vector UInt8 14) : c.name = none → requested = some name.text →
    Learning c requested name [.address name.buffer data] (ControlSocket.addressOf data)

lemma Naming.learning {text : String} {name : InterfaceName}
    (h : Naming c text s t (.ok ()) c' s') (hname : c'.name = some name) :
    Learning c (some text) name t.facts c'.address := by
  cases h with
  | named hc hv hr =>
    cases hname
    obtain ⟨data, rfl, hfacts⟩ := hr.facts_eq
    rw [Trace.facts_append, hfacts]
    exact .told data hc (congrArg some (InterfaceName.text_of_validate hv).symm)

lemma Adoption.learning {requested : Option String} {name : InterfaceName}
    (h : Adoption c s requested t (.ok ()) c' s') (hname : c'.name = some name) :
    Learning c requested name t.facts c'.address := by
  cases h with
  | unasked | confirmed | kept => exact .known hname
  | applied _ hn => exact hn.learning hname

lemma DiscoveryOpening.facts_eq {r : Except SetupError Descriptor} (h : DiscoveryOpening t r) :
    t.facts = [] := by
  cases h <;> rfl

/-- The index comes before the bind, and the bind carries it. -/
lemma Binding.facts_eq {fd : Descriptor} {index : UInt32} (h : Binding c fd s t (.ok index) s') :
    ∃ name, c.name = some name ∧
      t.facts = [.index name.buffer index, .bound fd (.discoveryOn index)] := by
  cases h with
  | bound hname hr =>
    refine ⟨_, hname, ?_⟩
    simp [hr.facts_eq, Request.fact?]

lemma BoundOpening.facts_eq {fd : Descriptor} {index : UInt32}
    (h : BoundOpening c s t (.ok (fd, index)) s') :
    ∃ name, c.name = some name ∧
      t.facts = [.index name.buffer index, .bound fd (.discoveryOn index)] := by
  cases h with
  | bound hd hb =>
    obtain ⟨name, hname, hfacts⟩ := hb.facts_eq
    refine ⟨name, hname, ?_⟩
    simp [hd.facts_eq, hfacts]

/-- A connection that has come up knows the address of its interface, and its discovery socket is
bound to the index that the kernel has told for the same interface. -/
lemma BringUp.facts_eq {requested : Option String} (h : BringUp c requested s t (.ok ()) c' s') :
    ∃ name index discovery facts, c'.name = some name ∧ c'.index = some index ∧
      c'.discovery = some discovery ∧ Learning c requested name facts c'.address ∧
      t.facts = facts ++ [.index name.buffer index, .bound discovery (.discoveryOn index)] := by
  cases h with
  | ready _ ho hr =>
    cases ho with
    | @opened session discovery index u v c₁ _ _ ha hb =>
      obtain ⟨name, hname, hfacts⟩ := hb.facts_eq
      refine ⟨name, index, discovery, u.facts, hname, rfl, rfl, ha.learning hname, ?_⟩
      simp [hfacts, hr.onlyCloses.handles.facts_eq, Request.fact?]

lemma Connecting.exists_connect {sessionId : UInt16} {remote : MacAddress}
    {r : Except SetupError Unit} (h : Connecting c sessionId remote t r) {fd : Descriptor}
    {address : Wire.SessionAddress} {answer : Except Errno Unit}
    (hcall : .call (.connect fd address) answer ∈ t) :
    c.session = some fd ∧ c.name = some address.device ∧ address.sessionId = sessionId ∧
      address.remote = remote := by
  have hlimiting {fd' limit v} (hl : Limiting fd' limit v) :
      .call (.connect fd address) answer ∉ v := by
    cases hl <;> simp
  cases h with
  | reserved | notReady | unlimited => simp at hcall
  | refused e _ hfd hname _ hl =>
    rcases List.mem_append.mp hcall with hcall | hcall
    · exact absurd hcall (hlimiting hl)
    · cases List.mem_singleton.mp hcall
      exact ⟨hfd, hname, rfl, rfl⟩
  | connected _ hfd hname _ hl =>
    rcases List.mem_append.mp hcall with hcall | hcall
    · exact absurd hcall (hlimiting hl)
    · simp only [List.mem_cons, reduceCtorEq, List.not_mem_nil, or_false] at hcall
      cases hcall
      exact ⟨hfd, hname, rfl, rfl⟩

end Connection

/-! ### Discovery sockets -/

namespace DiscoverySocket

open Connection

variable {c : Connection} {d d' : DiscoverySocket}

/-- A discovery socket is made of a connection that has come up. -/
lemma FreshOpening.broughtUp_of_ok {name : String} (h : FreshOpening c name s t (.ok d) s') :
    BringUp c (some name) s t (.ok ()) d.connection s' := by
  cases h with
  | broughtUp hb hw =>
    cases hw with
    | wrapped => simpa using hb

lemma ConfiguredOpening.asks {config : SetupConfig} {r : Except SetupError DiscoverySocket}
    (h : ConfiguredOpening config s t r s') :
    t.Asks (Request.SetsUp (config.interface?.getD "")) := by
  cases h with
  | unnamed => simp
  | failed hi hf | blocking hi _ hf =>
    rw [hi]
    exact hf.prepares.setsUp
  | unswitched hi _ hf hm hr =>
    rw [hi]
    simp only [Trace.asks_append]
    exact ⟨hf.prepares.setsUp, hm.handles.setsUp, hr.onlyCloses.handles.setsUp⟩
  | switched hi _ hf hm =>
    rw [hi]
    exact Trace.asks_append.mpr ⟨hf.prepares.setsUp, hm.handles.setsUp⟩

/-- A configured discovery socket is made of a connection that has come up on the configured
interface, and all else has nothing to do with interfaces. -/
lemma ConfiguredOpening.broughtUp_of_ok {config : SetupConfig}
    (h : ConfiguredOpening config s t (.ok d) s') :
    ∃ name u, config.interface? = some name ∧ t.facts = u.facts ∧
      BringUp (.ofConfig config) (some name) s u (.ok ()) d.connection s' := by
  cases h with
  | blocking hi _ hf => exact ⟨_, t, hi, rfl, hf.broughtUp_of_ok⟩
  | switched hi _ hf hm => exact ⟨_, _, hi, by simp [hm.handles.facts_eq], hf.broughtUp_of_ok⟩

/-- A transfer is about the traffic only. -/
lemma Transferring.connection_eq (h : Transferring d t d') : d'.connection = d.connection := by
  cases h with
  | sent h =>
    obtain ⟨-, rfl⟩ := yields_send.mp h
    rfl
  | received h =>
    obtain ⟨_, -, -, rfl⟩ := yields_receive.mp h
    rfl

end DiscoverySocket

namespace AsyncSocket

open DiscoverySocket

variable {d d' : DiscoverySocket}

section

variable {α : Type} {attempt : DiscoverySocket → Program (Except Errno α × DiscoverySocket)}
  {n : Nat} {r : Poll (Except Errno α)}

lemma Retrying.connection_eq
    (ha : ∀ {d t r d'}, (attempt d).Yields t (r, d') → Transferring d t d')
    (h : Retrying attempt n d t r d') : d'.connection = d.connection := by
  induction h with
  | exhausted => rfl
  | putOff h _ ih => exact ih.trans (ha h).connection_eq
  | finished _ h => exact (ha h).connection_eq

end

lemma Awaiting.connection_eq (h : Awaiting d t d') : d'.connection = d.connection := by
  cases h with
  | sent h => exact h.connection_eq .sent
  | received h => exact h.connection_eq .received

end AsyncSocket

end PppoeSetup
