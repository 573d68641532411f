import PppoeSetup.Proofs.Runs

/-!
# Readiness

Five operations ask in five ways whether a connection is ready. That they always agree rests on
how the fields of a connection hang together, which every operation keeps.
-/

namespace PppoeSetup

open Kernel Connection DiscoverySocket AsyncSocket ControlSocket Workbench

/-! ### How the fields hang together -/

namespace Connection

/-- The sockets and the index come together and only on a named interface; without a name there
is no address. -/
structure WellFormed (c : Connection) : Prop where
  paired : c.session.isSome ↔ c.discovery.isSome
  indexed : c.session.isSome ↔ c.index.isSome
  named : c.session.isSome → c.name.isSome
  addressless : c.name = none → c.address = .zero

variable {c c' : Connection} {s s' : ControlSocket} {t : Trace}

lemma WellFormed.fresh (timeout : Option Duration) : (fresh timeout).WellFormed :=
  ⟨by simp [Connection.fresh], by simp [Connection.fresh], by simp [Connection.fresh],
    fun _ => rfl⟩

lemma WellFormed.ready_iff (h : c.WellFormed) : c.state = .ready ↔ c.session.isSome := by
  rw [state_eq_ready, ← h.paired, and_self]

lemma WellFormed.bare (h : c.WellFormed) (hc : c.state ≠ .ready) :
    c.session = none ∧ c.discovery = none := by
  have hs := h.paired
  rw [Ne, h.ready_iff] at hc
  rw [iff_false_left hc] at hs
  exact ⟨Option.not_isSome_iff_eq_none.mp hc, Option.not_isSome_iff_eq_none.mp hs⟩

lemma WellFormed.unnamed_iff (h : c.WellFormed) : c.state = .unnamed ↔ c.name = none := by
  obtain ⟨hp, -, hn, -⟩ := h
  obtain ⟨_ | session, _ | discovery, _ | name, address, index, timeout⟩ := c <;>
    simp_all [state]

/-- Naming touches nothing but the name and the address. -/
lemma Naming.wellFormed {text : String} {r : Except SetupError Unit}
    (h : Naming c text s t r c' s') (hc : c.WellFormed) : c'.WellFormed := by
  cases h with
  | named hname =>
    obtain ⟨hp, hi, hn, -⟩ := hc
    exact ⟨hp, hi, fun _ => rfl, fun h => nomatch h⟩
  | _ => exact hc

lemma Adoption.wellFormed {requested : Option String} {r : Except SetupError Unit}
    (h : Adoption c s requested t r c' s') (hc : c.WellFormed) : c'.WellFormed := by
  cases h with
  | applied _ h => exact h.wellFormed hc
  | _ => exact hc

/-- A discovery socket can only be bound on a named interface. -/
lemma BoundOpening.name_isSome {r : Descriptor × UInt32} (h : BoundOpening c s t (.ok r) s') :
    c.name.isSome := by
  cases h with
  | bound _ hb =>
    cases hb with
    | bound hname => simp [hname]

lemma BringUp.wellFormed {requested : Option String} {r : Except SetupError Unit}
    (h : BringUp c requested s t r c' s') (hc : c.WellFormed) : c'.WellFormed := by
  cases h with
  | already => exact hc
  | failed => exact .fresh _
  | ready _ ho _ =>
    cases ho with
    | opened ha hb =>
      obtain ⟨hp, hi, hn, hz⟩ := ha.wellFormed hc
      exact ⟨by simp, by simp, fun _ => hb.name_isSome, hz⟩

end Connection

namespace DiscoverySocket

/-- A connection that is wrapped is ready, and lends its discovery socket to the wrapper. -/
structure WellFormed (d : DiscoverySocket) : Prop where
  connection : d.connection.WellFormed
  ready : d.connection.state = .ready
  lent : d.connection.discovery = some d.rawFd

variable {c : Connection} {d d' : DiscoverySocket} {s s' : ControlSocket} {t : Trace}

lemma Wrapping.wellFormed (h : Wrapping c t (.ok d)) (hc : c.WellFormed) : d.WellFormed := by
  cases h with
  | wrapped hs hd => exact ⟨hc, state_eq_ready.mpr (by simp [hs, hd]), hd⟩

lemma FreshOpening.wellFormed {name : String} (h : FreshOpening c name s t (.ok d) s')
    (hc : c.WellFormed) : d.WellFormed := by
  cases h with
  | broughtUp hb hw => exact hw.wellFormed (hb.wellFormed hc)

lemma ConfiguredOpening.wellFormed {config : SetupConfig}
    (h : ConfiguredOpening config s t (.ok d) s') : d.WellFormed := by
  cases h with
  | blocking _ _ hf => exact hf.wellFormed (.fresh _)
  | switched _ _ hf _ => exact hf.wellFormed (.fresh _)

/-- A transfer counts, and leaves all else as it is. -/
lemma Transferring.wellFormed (h : Transferring d t d') (hd : d.WellFormed) : d'.WellFormed := by
  obtain ⟨hc, hr, hl⟩ := hd
  cases h with
  | sent h =>
    obtain ⟨-, rfl⟩ := yields_send.mp h
    exact ⟨hc, hr, hl⟩
  | received h =>
    obtain ⟨_, -, -, rfl⟩ := yields_receive.mp h
    exact ⟨hc, hr, hl⟩

end DiscoverySocket

namespace AsyncSocket

variable {d d' : DiscoverySocket} {t : Trace}

lemma Retrying.wellFormed {α : Type}
    {attempt : DiscoverySocket → Program (Except Errno α × DiscoverySocket)} {n : Nat}
    {r : Poll (Except Errno α)}
    (ha : ∀ {d t r d'}, (attempt d).Yields t (r, d') → Transferring d t d')
    (h : Retrying attempt n d t r d') (hd : d.WellFormed) : d'.WellFormed := by
  induction h with
  | exhausted => exact hd
  | putOff h _ ih => exact ih ((ha h).wellFormed hd)
  | finished _ h => exact (ha h).wellFormed hd

lemma Awaiting.wellFormed (h : Awaiting d t d') (hd : d.WellFormed) : d'.WellFormed := by
  cases h with
  | sent h => exact h.wellFormed .sent hd
  | received h => exact h.wellFormed .received hd

end AsyncSocket

namespace Endpoint

def WellFormed : Endpoint → Prop
  | connection c => c.WellFormed
  | discovery d => d.WellFormed
  | async a => a.socket.WellFormed

variable {held held' : Option Endpoint} {e : Endpoint} {d d' : DiscoverySocket}
  {s s' : ControlSocket} {t : Trace} {action : Action} {reply : Reply}

lemma WellFormed.underlying (h : e.WellFormed) : e.underlying.WellFormed := by
  cases e with
  | connection c => exact h
  | discovery d => exact h.connection
  | async a => exact h.connection

lemma WellFormed.socket (h : e.WellFormed) (hd : e.socket? = some d) : d.WellFormed := by
  cases e with
  | connection c => cases hd
  | discovery d => cases hd; exact h
  | async a => cases hd; exact h

lemma WellFormed.withSocket (h : e.WellFormed) (hd : d.WellFormed) :
    (e.withSocket d).WellFormed := by
  cases e with
  | connection c => exact h
  | discovery _ => exact hd
  | async a => exact hd

/-- Every action keeps what a slot holds fit for use. -/
lemma Acting.wellFormed (h : Acting held s action t reply held' s')
    (hw : ∀ e, held = some e → e.WellFormed) : ∀ e, held' = some e → e.WellFormed := by
  -- what failed leaves an empty slot, and a conversion takes the connection along
  cases h with
  | idle | connected | connectedTo | channelled | switched => exact hw
  | created =>
    rintro _ ⟨⟩
    exact Connection.WellFormed.fresh none
  | configured | cleared =>
    rintro _ ⟨⟩
    exact Connection.WellFormed.fresh _
  | unreadable | unreadableSetUp | dropped => exact fun _ he => nomatch he
  | opened _ hf =>
    refine forall_made ?_
    rintro d rfl
    exact hf.wellFormed (.fresh none)
  | setUp _ _ hc =>
    refine forall_made ?_
    rintro d rfl
    exact hc.wellFormed
  | named hn | broughtUp hn | awaited _ hn =>
    rintro _ ⟨⟩
    exact hn.wellFormed (hw _ rfl)
  | timed =>
    rintro _ ⟨⟩
    obtain ⟨hp, hi, hn, hz⟩ := hw _ rfl
    exact ⟨hp, hi, hn, hz⟩
  | wrapped hwrap =>
    refine forall_made ?_
    rintro d rfl
    exact hwrap.wellFormed (hw _ rfl)
  | unwrapped =>
    rintro _ ⟨⟩
    exact (hw _ rfl).connection
  | @watched d _ _ _ hwatch =>
    refine forall_made ?_
    rintro a rfl
    cases hwatch
    exact (hw (.discovery d) rfl : d.WellFormed)
  | @unwatched a _ _ _ hunwatch =>
    refine forall_made ?_
    rintro d rfl
    cases hunwatch
    exact (hw (.async a) rfl : a.socket.WellFormed)
  | transferred _ hd ht =>
    rintro _ ⟨⟩
    exact (hw _ rfl).withSocket (ht.wellFormed ((hw _ rfl).socket hd))

end Endpoint

lemma Workbench.Reachable.wellFormed {slots : Nat} {t : Trace} {w : Workbench slots}
    {i : Fin slots} {e : Endpoint} (h : Reachable t w) (hi : w.held i = some e) : e.WellFormed :=
  h.held (fun ha => ha.wellFormed) hi

/-! ### Errors of use

A step that only the kernel or a bad name can make fail never fails for the state of the
connection. -/

/-- The errors that tell a caller of the connection's state. -/
def SetupError.isMisuse : SetupError → Bool
  | .notReady | .alreadyReady | .alreadyNamed _ => true
  | _ => false

@[simp] lemma SetupError.isMisuse_whileNaming (e : SetupError) :
    e.whileNaming.isMisuse = e.isMisuse := by
  cases e <;> rfl

@[simp] lemma SetupError.isMisuse_whileBinding (e : SetupError) :
    e.whileBinding.isMisuse = e.isMisuse := by
  cases e <;> rfl

section

variable {s s' : ControlSocket} {t : Trace} {e : SetupError}

lemma InterfaceName.not_isMisuse_of_validate {text : String} (h : validate text = .error e) :
    e.isMisuse = false := by
  unfold validate at h
  split at h <;> cases h
  rfl

lemma ControlSocket.Opening.not_isMisuse (h : Opening s t (.error e) s') : e.isMisuse = false := by
  cases h
  rfl

lemma ControlSocket.Resolving.not_isMisuse {α β : Type} {name : InterfaceName}
    {entry : Descriptor → Except Errno α → Entry} {value : α → β} {event : β → Event}
    (h : Resolving name entry value event s t (.error e) s') : e.isMisuse = false := by
  cases h with
  | failed h =>
    cases h with
    | unopened h => exact h.not_isMisuse
    | failed => rfl

namespace Connection

variable {c c' : Connection}

lemma Naming.not_isMisuse {text : String} (h : Naming c text s t (.error e) c' s')
    (hc : c.name = none) : e.isMisuse = false := by
  cases h with
  | taken hname => rw [hc] at hname; cases hname
  | invalid _ hv => exact InterfaceName.not_isMisuse_of_validate hv
  | unresolved _ _ hr =>
    rw [SetupError.isMisuse_whileNaming]
    exact hr.not_isMisuse

lemma Binding.not_isMisuse {fd : Descriptor} (h : Binding c fd s t (.error e) s') :
    e.isMisuse = false := by
  cases h with
  | unnamed => rfl
  | unresolved _ hr =>
    rw [SetupError.isMisuse_whileBinding]
    exact hr.not_isMisuse
  | refused => rfl

lemma BoundOpening.not_isMisuse (h : BoundOpening c s t (.error e) s') : e.isMisuse = false := by
  cases h with
  | unopened hd => cases hd <;> rfl
  | unbound _ _ hb => exact hb.not_isMisuse

lemma SocketsOpening.not_isMisuse {requested : Option String}
    (h : SocketsOpening c requested s t (.error e) c' s') : e.isMisuse = false := by
  cases h with
  | refused => rfl
  | unnamed _ ha =>
    cases ha with
    | applied hc hn => exact hn.not_isMisuse hc
  | unbound _ _ hb => exact hb.not_isMisuse

end Connection

end

/-! ### Agreement -/

/-- Whatever the kernel answers, each operation tells the state of the connection: `NotReady`
comes from those that need a ready one exactly if it is not, and the others refuse exactly what
has been done before. -/
structure Connection.TestsAgree (c : Connection) : Prop where
  connectTo {sessionId : UInt16} {remote : MacAddress} {t : Trace} {r : Except SetupError Unit} :
    sessionId ≠ 0 → (c.connectTo sessionId remote).run.Yields t r →
    (r = .error .notReady ↔ c.state ≠ .ready)
  connect {sessionId : UInt16} {t : Trace} {r : Except SetupError Unit} :
    sessionId ≠ 0 → (c.connect sessionId).run.Yields t r →
    (r = .error .notReady ↔ c.state ≠ .ready)
  channel {t : Trace} {r : Except SetupError Int32} :
    c.channel.run.Yields t r → (r = .error .notReady ↔ c.state ≠ .ready)
  ofConnection {t : Trace} {r : Except SetupError DiscoverySocket} :
    (DiscoverySocket.ofConnection c).run.Yields t r → (r = .error .notReady ↔ c.state ≠ .ready)
  bringUp {requested : Option String} {s s' : ControlSocket} {t : Trace}
    {r : Except SetupError Unit} {c' : Connection} :
    ((c.bringUp requested).run s).Yields t ((r, c'), s') →
    (r = .error .alreadyReady ↔ c.state = .ready)
  setName {text : String} {s s' : ControlSocket} {t : Trace} {r : Except SetupError Unit}
    {c' : Connection} :
    ((c.setName text).run s).Yields t ((r, c'), s') →
    ((∃ current, r = .error (.alreadyNamed current)) ↔ c.state ≠ .unnamed)

namespace Connection

variable {c c' : Connection} {s s' : ControlSocket} {t : Trace}

lemma Connecting.notReady_iff {sessionId : UInt16} {remote : MacAddress}
    {r : Except SetupError Unit} (hid : sessionId ≠ 0) (h : Connecting c sessionId remote t r)
    (hc : c.WellFormed) : r = .error .notReady ↔ c.state ≠ .ready := by
  rw [Ne, hc.ready_iff]
  cases h with
  | reserved h0 => exact absurd h0 hid
  | notReady _ hmissing =>
    refine iff_of_true rfl ?_
    intro hs
    have hn := hc.named hs
    have hd := hc.paired.mp hs
    rcases hmissing with h | h | h <;> simp [h] at hs hn hd
  | unlimited _ _ hs => simp [hs]
  | refused _ _ hs => simp [hs]
  | connected _ hs => simp [hs]

lemma Channelling.notReady_iff {r : Except SetupError Int32} (h : Channelling c t r)
    (hc : c.WellFormed) : r = .error .notReady ↔ c.state ≠ .ready := by
  rw [Ne, hc.ready_iff]
  cases h with
  | notReady hs => simp [hs]
  | refused _ hs => simp [hs]
  | told _ hs => simp [hs]

lemma BringUp.alreadyReady_iff {requested : Option String} {r : Except SetupError Unit}
    (h : BringUp c requested s t r c' s') : r = .error .alreadyReady ↔ c.state = .ready := by
  cases h with
  | already hc => exact iff_of_true rfl hc
  | failed hc ho =>
    refine iff_of_false ?_ hc
    rintro ⟨⟩
    cases ho.not_isMisuse
  | ready hc => exact iff_of_false (fun h => nomatch h) hc

lemma Naming.alreadyNamed_iff {text : String} {r : Except SetupError Unit}
    (h : Naming c text s t r c' s') (hc : c.WellFormed) :
    (∃ current, r = .error (.alreadyNamed current)) ↔ c.state ≠ .unnamed := by
  rw [Ne, hc.unnamed_iff]
  cases hname : c.name with
  | none =>
    refine iff_of_false ?_ (not_not.mpr rfl)
    rintro ⟨current, rfl⟩
    cases h.not_isMisuse hname
  | some name =>
    cases h with
    | taken => exact iff_of_true ⟨_, rfl⟩ (fun h => nomatch h)
    | invalid h | unresolved h | named h => rw [hname] at h; cases h

end Connection

lemma DiscoverySocket.Wrapping.notReady_iff {c : Connection} {t : Trace}
    {r : Except SetupError DiscoverySocket} (h : Wrapping c t r) :
    r = .error .notReady ↔ c.state ≠ .ready := by
  cases h with
  | wrapped hs hd => simp [state_eq_ready, hs, hd]
  | refused hc => exact iff_of_true rfl hc

lemma Connection.WellFormed.testsAgree {c : Connection} (hc : c.WellFormed) : c.TestsAgree where
  connectTo hid h := (Connecting.of_yields h).notReady_iff hid hc
  connect hid h := (Connecting.of_yields h).notReady_iff hid hc
  channel h := (Channelling.of_yields h).notReady_iff hc
  ofConnection h := (Wrapping.of_yields h).notReady_iff
  bringUp h := (BringUp.of_yields h).alreadyReady_iff
  setName h := (Naming.of_yields h).alreadyNamed_iff hc

/-- In every reachable state the fields of every connection hang together, alone or wrapped, so
that all tests of readiness agree on it; and what is wrapped is ready, with its discovery socket
in the wrapper's hands. -/
theorem readiness_agrees {slots : Nat} {t : Trace} {w : Workbench slots} {i : Fin slots}
    {e : Endpoint} (h : w.Reachable t) (hi : w.held i = some e) :
    e.underlying.WellFormed ∧ e.underlying.TestsAgree ∧
      ∀ d, e.socket? = some d →
        d.connection.state = .ready ∧ d.connection.discovery = some d.rawFd := by
  have hw := Workbench.Reachable.wellFormed h hi
  refine ⟨hw.underlying, hw.underlying.testsAgree, ?_⟩
  intro d hd
  obtain ⟨-, hr, hl⟩ := hw.socket hd
  exact ⟨hr, hl⟩

/-- What the slot holds after `wrapping`. -/
def wrapped : DiscoverySocket where
  connection :=
    { session := some 100, discovery := some 102, name := some eth0, address := eth0Address,
      index := some 3, timeout := none }
  rawFd := 102
  traffic := {}

theorem readiness_agrees_wrapped :
    wrappingOutcome.value.2.held 0 = some (.discovery wrapped) ∧
      wrapped.connection.WellFormed ∧ wrapped.connection.TestsAgree ∧
      wrapped.connection.state = .ready ∧ wrapped.connection.discovery = some wrapped.rawFd := by
  have hi : wrappingOutcome.value.2.held 0 = some (.discovery wrapped) := by
    decide +kernel
  obtain ⟨hwf, htests, hwrapped⟩ := readiness_agrees (reachable_simulate _ _) hi
  exact ⟨hi, hwf, htests, hwrapped wrapped rfl⟩

end PppoeSetup
