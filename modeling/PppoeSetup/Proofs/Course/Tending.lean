import PppoeSetup.Proofs.Course.Calls
import PppoeSetup.Proofs.Runs

/-!
# Needs for the control socket

An operation needs the control socket at certain points: to resolve the address of a name, or the
index of the interface that a discovery socket is to be bound to. The socket is opened at such a
point if it is closed, and at no other one; all questions go through the socket that is then open.
-/

namespace PppoeSetup

open Kernel Trace Connection DiscoverySocket AsyncSocket ControlSocket

/-- The points at which an operation needs the control socket. -/
structure Demand where
  /-- Before the first call. -/
  atOnce : Bool := false
  /-- After a session socket has been opened. -/
  toName : Bool := false
  /-- After a discovery socket has been enabled. -/
  toBind : Bool := false
deriving DecidableEq

/-- The control socket on the way through an operation, and whether it is needed next. -/
structure Moment where
  control : ControlSocket
  needed : Bool
deriving DecidableEq

namespace Kernel.Request

/-- The descriptor that a question about an interface goes through. -/
def question? : Request → Option Descriptor
  | interfaceIndex fd _ | hardwareAddress fd _ => some fd
  | _ => none

/-- The calls after which nothing more is to be set up, and that do not set up anything. -/
def Plain : Request → Prop
  | openSocket _ | interfaceIndex .. | hardwareAddress .. | setOption _ .broadcast => False
  | _ => True

lemma Connects.plain {r : Request} (h : r.Connects) : r.Plain := by
  cases r with
  | setOption fd option => cases option <;> trivial
  | _ => trivial

lemma Handles.plain {r : Request} (h : r.Handles) : r.Plain := by
  cases r <;> trivial

end Kernel.Request

namespace Kernel.Trace

/-- Nothing is set up. -/
abbrev Plain (t : Trace) : Prop := t.Asks Request.Plain

lemma Connects.plain {t : Trace} (h : t.Connects) : t.Plain :=
  h.mono fun _ => Request.Connects.plain

lemma Handles.plain {t : Trace} (h : t.Handles) : t.Plain := h.mono fun _ => Request.Handles.plain

end Kernel.Trace

/-- The control socket after a call other than closing it. -/
def ControlSocket.after (s : ControlSocket) : (r : Request) → r.Answer → ControlSocket
  | .openSocket .control, .ok fd => ⟨some fd⟩
  | _, _ => s

/-- Whether the control socket is needed after a call. -/
def Demand.after (d : Demand) : (r : Request) → r.Answer → Bool
  | .openSocket .session, .ok _ => d.toName
  | .setOption _ .broadcast, .ok _ => d.toBind
  | _, _ => false

namespace Moment

variable {d : Demand} {m m' m₁ : Moment} {s : ControlSocket} {t u : Trace} {r : Request}
  {fd : Descriptor}

def after (m : Moment) (d : Demand) (r : Request) (a : r.Answer) : Moment :=
  ⟨m.control.after r a, d.after r a⟩

/-- The moment after a trace. -/
def through (m : Moment) (d : Demand) : Trace → Moment
  | [] => m
  | .event _ :: t => m.through d t
  | .call r a :: t => (m.after d r a).through d t

/-- The call is one that may be made at this moment: the socket is opened exactly if it is needed
and closed, and questions go through the one that is open. -/
structure Minds (m : Moment) (r : Request) : Prop where
  opens : r = .openSocket .control ↔ m.needed ∧ m.control = .closed
  asks {fd : Descriptor} : r.question? = some fd → m.control = ⟨some fd⟩

/-- `m.Tends d t m'`: the calls of a trace mind the control socket on the way to `m'`. -/
inductive Tends (d : Demand) : Moment → Trace → Moment → Prop
  | nil (m : Moment) : Tends d m [] m
  | event {m m' : Moment} {t : Trace} (e : Event) : Tends d m t m' → Tends d m (.event e :: t) m'
  | call {m m' : Moment} {t : Trace} {r : Request} (a : r.Answer) :
    m.Minds r → Tends d (m.after d r a) t m' → Tends d m (.call r a :: t) m'

lemma Tends.append (ht : m.Tends d t m₁) (hu : m₁.Tends d u m') : m.Tends d (t ++ u) m' := by
  induction ht with
  | nil => exact hu
  | event e _ ih => exact .event e (ih hu)
  | call a hr _ ih => exact .call a hr (ih hu)

lemma Tends.through_eq (h : m.Tends d t m') : m.through d t = m' := by
  induction h with
  | nil => rfl
  | event _ _ ih => exact ih
  | call _ _ _ ih => exact ih

/-- Every call minds the control socket, and so does what comes after it. -/
lemma Tends.split (h : m.Tends d t m') {v x : Trace} {a : r.Answer}
    (ht : t = v ++ .call r a :: x) :
    (m.through d v).Minds r ∧ ((m.through d v).after d r a).Tends d x m' := by
  induction h generalizing v with
  | nil => simp at ht
  | event e _ ih =>
    cases v with
    | nil => cases ht
    | cons entry v =>
      obtain ⟨rfl, htail⟩ := List.cons.inj ht
      exact ih (v := v) htail
  | call a' hr hx ih =>
    cases v with
    | nil =>
      obtain ⟨hcall, rfl⟩ := List.cons.inj ht
      cases hcall
      exact ⟨hr, hx⟩
    | cons entry v =>
      obtain ⟨rfl, htail⟩ := List.cons.inj ht
      exact ih (v := v) htail

/-! ### The socket on the way -/

lemma Minds.eq_closed (h : m.Minds (.openSocket .control)) : m.control = .closed :=
  (h.opens.mp rfl).2

/-- The socket changes only by being opened. -/
lemma control_after (m : Moment) (d : Demand) {r : Request} (a : r.Answer)
    (h : ∀ fd, Entry.call r a ≠ .call (.openSocket .control) (.ok fd)) :
    (m.after d r a).control = m.control := by
  cases r with
  | openSocket kind =>
    cases kind <;> cases a <;> first | rfl | exact absurd rfl (h _)
  | _ => rfl

lemma Tends.control_eq (h : m.Tends d t m')
    (hopen : ∀ fd, .call (.openSocket .control) (.ok fd) ∉ t) : m'.control = m.control := by
  induction h with
  | nil => rfl
  | event _ _ ih => exact ih fun fd hcall => hopen fd (List.mem_cons_of_mem _ hcall)
  | call a _ _ ih =>
    rw [ih fun fd hcall => hopen fd (List.mem_cons_of_mem _ hcall)]
    refine control_after _ _ a fun fd heq => hopen fd ?_
    rw [← heq]
    exact List.mem_cons_self

/-- An open socket is not opened again. -/
lemma Tends.not_opens (h : m.Tends d t m') (hm : m.control = ⟨some fd⟩)
    (a : Except Errno Descriptor) : .call (.openSocket .control) a ∉ t := by
  induction h with
  | nil => simp
  | event e _ ih => simp [ih hm]
  | @call m m' t r a' hr _ ih =>
    have hne : r ≠ .openSocket .control := by
      rintro rfl
      cases hm.symm.trans hr.eq_closed
    have hafter : (m.after d r a').control = ⟨some fd⟩ := by
      rw [control_after, hm]
      rintro fd' ⟨⟩
      exact hne rfl
    rintro (_ | ⟨_, hcall⟩)
    · exact hne rfl
    · exact ih hafter hcall

lemma Tends.control_eq_of_open (h : m.Tends d t m') (hm : m.control = ⟨some fd⟩) :
    m'.control = ⟨some fd⟩ := by
  rw [h.control_eq fun fd' => h.not_opens hm _, hm]

lemma Tends.opened (h : m.Tends d t m') (hcall : .call (.openSocket .control) (.ok fd) ∈ t) :
    m'.control = ⟨some fd⟩ := by
  obtain ⟨v, x, rfl⟩ := List.append_of_mem hcall
  exact (h.split rfl).2.control_eq_of_open rfl

/-- After a question the socket is open, whatever the answer. -/
lemma Tends.asked (h : m.Tends d t m') {a : r.Answer} (hcall : .call r a ∈ t)
    (hq : r.question? = some fd) : m'.control = ⟨some fd⟩ := by
  obtain ⟨v, x, rfl⟩ := List.append_of_mem hcall
  obtain ⟨hr, hx⟩ := h.split rfl
  refine hx.control_eq_of_open ?_
  rw [control_after, hr.asks hq]
  rintro fd' ⟨⟩
  cases hq

lemma Tends.eq_of_isOpen {s' : ControlSocket} {n n' : Bool}
    (h : (⟨s, n⟩ : Moment).Tends d t ⟨s', n'⟩) (hs : s.isOpen) : s' = s := by
  obtain ⟨_ | fd⟩ := s
  · cases hs
  · exact h.control_eq_of_open rfl

/-! ### Single calls -/

/-- Nothing is needed, and the call is none for the control socket. -/
lemma minds_of_ne (hr : r ≠ .openSocket .control) (hq : r.question? = none) :
    (⟨s, false⟩ : Moment).Minds r :=
  ⟨by simp [hr], by simp [hq]⟩

lemma tends_plain (h : t.Plain) : (⟨s, false⟩ : Moment).Tends d t ⟨s, false⟩ := by
  induction t with
  | nil => exact .nil _
  | cons entry t ih =>
    cases entry with
    | event e => exact .event e (ih (asks_event.mp h))
    | call r a =>
      obtain ⟨hr, ht⟩ := asks_call.mp h
      have hafter : (⟨s, false⟩ : Moment).after d r a = ⟨s, false⟩ := by
        cases r with
        | openSocket kind => exact hr.elim
        | setOption fd option => cases option <;> first | rfl | exact hr.elim
        | _ => rfl
      refine .call a (minds_of_ne ?_ ?_) ?_
      · rintro rfl
        exact hr.elim
      · cases r <;> first | rfl | exact hr.elim
      · rw [hafter]
        exact ih ht

lemma tends_onlyCloses (h : t.OnlyCloses) : (⟨s, false⟩ : Moment).Tends d t ⟨s, false⟩ :=
  tends_plain h.handles.plain

lemma tends_question {fd : Descriptor} {n : Bool} (hq : r.question? = some fd) (a : r.Answer) :
    (⟨⟨some fd⟩, n⟩ : Moment).Tends d [.call r a] ⟨⟨some fd⟩, false⟩ := by
  have hafter : (⟨⟨some fd⟩, n⟩ : Moment).after d r a = ⟨⟨some fd⟩, false⟩ := by
    cases r with
    | interfaceIndex | hardwareAddress => rfl
    | _ => cases hq
  have hne : r ≠ .openSocket .control := by
    rintro rfl
    cases hq
  refine .call a ⟨by simp [hne, ControlSocket.closed], ?_⟩ (hafter ▸ .nil _)
  intro fd' hq'
  rw [Option.some.inj (hq.symm.trans hq')]

end Moment

open Moment

/-! ### The control socket -/

namespace ControlSocket

variable {d : Demand} {s s' : ControlSocket} {t : Trace}

/-- After a failed attempt to open the socket, it is not needed any more. -/
lemma Opening.tends {r : Except SetupError Descriptor} (h : Opening s t r s') :
    ∃ n, (⟨s, true⟩ : Moment).Tends d t ⟨s', n⟩ ∧ ∀ e, r = .error e → n = false := by
  have hopens : (⟨closed, true⟩ : Moment).Minds (.openSocket .control) := ⟨by simp, nofun⟩
  cases h with
  | held fd => exact ⟨true, .nil _, nofun⟩
  | refused e => exact ⟨false, .call _ hopens (.nil _), by simp⟩
  | opened fd => exact ⟨false, .call _ hopens (.event _ (.nil _)), nofun⟩

section

variable {α β : Type} {name : InterfaceName} {entry : Descriptor → Except Errno α → Entry}
  {value : α → β} {event : β → Event}

lemma Asking.tends {r : Except SetupError α} (h : Asking name entry s t r s')
    (hentry : ∀ fd n a, (⟨⟨some fd⟩, n⟩ : Moment).Tends d [entry fd a] ⟨⟨some fd⟩, false⟩) :
    (⟨s, true⟩ : Moment).Tends d t ⟨s', false⟩ := by
  cases h with
  | unopened ho =>
    obtain ⟨n, ht, hfailed⟩ := ho.tends
    rwa [hfailed _ rfl] at ht
  | failed _ ho | answered _ ho =>
    obtain ⟨n, ht, -⟩ := ho.tends
    obtain rfl := ho.eq_of_ok
    exact ht.append (hentry _ n _)

lemma Resolving.tends {r : Except SetupError β} (h : Resolving name entry value event s t r s')
    (hentry : ∀ fd n a, (⟨⟨some fd⟩, n⟩ : Moment).Tends d [entry fd a] ⟨⟨some fd⟩, false⟩) :
    (⟨s, true⟩ : Moment).Tends d t ⟨s', false⟩ := by
  cases h with
  | failed ha => exact ha.tends hentry
  | resolved ha => exact (ha.tends hentry).append (.event _ (.nil _))

lemma ResolvingIndex.tends {r : Except SetupError UInt32} (h : ResolvingIndex name s t r s') :
    (⟨s, true⟩ : Moment).Tends d t ⟨s', false⟩ :=
  Resolving.tends h fun fd _ a => tends_question (r := .interfaceIndex fd name.buffer) rfl a

lemma ResolvingAddress.tends {r : Except SetupError MacAddress}
    (h : ResolvingAddress name s t r s') : (⟨s, true⟩ : Moment).Tends d t ⟨s', false⟩ :=
  Resolving.tends h fun fd _ a => tends_question (r := .hardwareAddress fd name.buffer) rfl a

end

end ControlSocket

/-! ### Setting up the sockets -/

/-- The name can be resolved. -/
def InterfaceName.accepts (text : String) : Bool := (InterfaceName.validate text).isOk

@[simp] lemma InterfaceName.accepts_of_ok {text : String} {name : InterfaceName}
    (h : InterfaceName.validate text = .ok name) : InterfaceName.accepts text = true := by
  rw [accepts, h]
  rfl

@[simp] lemma InterfaceName.accepts_of_error {text : String} {e : SetupError}
    (h : InterfaceName.validate text = .error e) : InterfaceName.accepts text = false := by
  rw [accepts, h]
  rfl

namespace Connection

/-- Naming needs the control socket if the connection has no name and gets one; binding does if
it then has a name. -/
def demand (c : Connection) (requested : Option String) : Demand where
  toName := c.name.isNone && requested.any InterfaceName.accepts
  toBind := c.name.isSome || requested.isSome

variable {d : Demand} {c c' : Connection} {s s' : ControlSocket} {t : Trace}
  {requested : Option String} {r : Except SetupError Unit} {n : Bool}

lemma Naming.tends {text : String} (h : Naming c text s t r c' s') :
    (⟨s, c.name.isNone && InterfaceName.accepts text⟩ : Moment).Tends d t ⟨s', false⟩ := by
  cases h with
  | taken hname =>
    rw [hname]
    exact .nil _
  | invalid _ hv =>
    rw [InterfaceName.accepts_of_error hv, Bool.and_false]
    exact .nil _
  | unresolved hname hv hr =>
    rw [hname, InterfaceName.accepts_of_ok hv]
    exact hr.tends
  | named hname hv hr =>
    rw [hname, InterfaceName.accepts_of_ok hv]
    exact hr.tends.append (.event _ (.nil _))

lemma Adoption.tends (h : Adoption c s requested t r c' s') :
    (⟨s, (c.demand requested).toName⟩ : Moment).Tends d t ⟨s', false⟩ := by
  cases h with
  | unasked =>
    simp only [demand, Option.any_none, Bool.and_false]
    exact .nil _
  | applied _ hn => exact hn.tends
  | confirmed hname =>
    simp only [demand, hname, Option.isNone_some, Bool.false_and]
    exact .nil _
  | kept hname =>
    simp only [demand, hname, Option.isNone_some, Bool.false_and]
    exact .event _ (.nil _)

/-- A connection that has adopted the name that is requested, if one is, has a name exactly if it
had one or one was requested. -/
lemma Adoption.isSome_name (h : Adoption c s requested t (.ok ()) c' s') :
    c'.name.isSome = (c.demand requested).toBind := by
  cases h with
  | unasked => simp [demand]
  | applied _ hn =>
    cases hn with
    | named => simp [demand]
  | confirmed hname | kept hname => simp [demand, hname]

lemma DiscoveryOpening.tends {r : Except SetupError Descriptor} (h : DiscoveryOpening t r) :
    (⟨s, false⟩ : Moment).Tends d t ⟨s, r.isOk && d.toBind⟩ := by
  have hopens : (⟨s, false⟩ : Moment).Minds (.openSocket .discovery) :=
    minds_of_ne (by simp) rfl
  have henables {fd : Descriptor} : (⟨s, false⟩ : Moment).Minds (.setOption fd .broadcast) :=
    minds_of_ne (by simp) rfl
  cases h with
  | refused e => exact .call _ hopens (.nil _)
  | silenced fd e closing =>
    exact .call _ hopens (.call _ henables (tends_plain (by simp [Request.Plain])))
  | opened fd => exact .call _ hopens (.call _ henables (.nil _))

lemma Binding.tends {fd : Descriptor} {r : Except SetupError UInt32}
    (h : Binding c fd s t r s') :
    (⟨s, c.name.isSome⟩ : Moment).Tends d t ⟨s', false⟩ := by
  cases h with
  | unnamed hname =>
    rw [hname]
    exact .nil _
  | unresolved hname hr =>
    rw [hname]
    exact hr.tends
  | refused _ hname hr | bound hname hr =>
    rw [hname]
    exact hr.tends.append (tends_plain (by simp [Request.Plain]))

lemma BoundOpening.tends {r : Except SetupError (Descriptor × UInt32)}
    (h : BoundOpening c s t r s') (hbind : c.name.isSome = d.toBind) :
    (⟨s, false⟩ : Moment).Tends d t ⟨s', false⟩ := by
  cases h with
  | unopened hd => exact hd.tends
  | unbound closing hd hb =>
    have hbinding := hb.tends (d := d)
    rw [hbind] at hbinding
    rw [List.append_assoc]
    refine hd.tends.append (.event _ (hbinding.append (tends_plain ?_)))
    simp [Request.Plain]
  | bound hd hb =>
    have hbinding := hb.tends (d := d)
    rw [hbind] at hbinding
    exact hd.tends.append (.event _ hbinding)

lemma SocketsOpening.tends {r : Except SetupError Sockets}
    (h : SocketsOpening c requested s t r c' s') :
    (⟨s, false⟩ : Moment).Tends (c.demand requested) t ⟨s', false⟩ := by
  have hopens : (⟨s, false⟩ : Moment).Minds (.openSocket .session) := minds_of_ne (by simp) rfl
  have hclose {fd : Descriptor} {answer : Except Errno Unit} :
      (⟨s', false⟩ : Moment).Tends (c.demand requested) [.call (.close fd) answer] ⟨s', false⟩ :=
    tends_plain (by simp [Request.Plain])
  cases h with
  | refused e => exact .call _ hopens (.nil _)
  | unnamed closing ha => exact .call _ hopens (.event _ (ha.tends.append hclose))
  | unbound closing ha hb =>
    have hbound := hb.tends ha.isSome_name
    exact .call _ hopens (.event _ ((ha.tends.append hbound).append hclose))
  | opened ha hb =>
    have hbound := hb.tends ha.isSome_name
    exact .call _ hopens (.event _ (ha.tends.append hbound))

lemma BringUp.tends (h : BringUp c requested s t r c' s') :
    (⟨s, false⟩ : Moment).Tends (c.demand requested) t ⟨s', false⟩ := by
  cases h with
  | already => exact .nil _
  | failed _ ho hc => exact ho.tends.append (.event _ (tends_onlyCloses hc.onlyCloses))
  | ready _ ho hr =>
    exact (ho.tends.append (tends_onlyCloses hr.onlyCloses)).append (.event _ (.nil _))

end Connection

/-! ### Discovery sockets -/

namespace DiscoverySocket

variable {c : Connection} {d d' : DiscoverySocket} {s s' : ControlSocket} {t : Trace}

lemma FreshOpening.tends {name : String} {r : Except SetupError DiscoverySocket}
    (h : FreshOpening c name s t r s') :
    (⟨s, false⟩ : Moment).Tends (c.demand (some name)) t ⟨s', false⟩ := by
  cases h with
  | failed hb hr => exact hb.tends.append (tends_onlyCloses hr.onlyCloses)
  | broughtUp hb hw => exact hb.tends.append (tends_onlyCloses hw.onlyCloses)

lemma ConfiguredOpening.tends {config : SetupConfig} {r : Except SetupError DiscoverySocket}
    (h : ConfiguredOpening config s t r s') :
    (⟨s, false⟩ : Moment).Tends ((Connection.ofConfig config).demand config.interface?) t
      ⟨s', false⟩ := by
  cases h with
  | unnamed => exact .nil _
  | failed hi hf | blocking hi _ hf =>
    rw [hi]
    exact hf.tends
  | unswitched hi _ hf hm hr =>
    rw [hi]
    exact hf.tends.append ((tends_plain hm.handles.plain).append (tends_onlyCloses hr.onlyCloses))
  | switched hi _ hf hm =>
    rw [hi]
    exact hf.tends.append (tends_plain hm.handles.plain)

end DiscoverySocket

/-! ### Actions and operations -/

/-- The actions that may set up a connection, in part or in full. -/
def Action.setsUp : Action → Bool
  | onInterface _ | setUpFrom _ | setName _ | bringUp _ => true
  | _ => false

namespace Endpoint

/-- What an action needs the control socket for. -/
def demand (held : Option Endpoint) : Action → Demand
  | .setName text =>
    match held with
    | some (.connection c) => { atOnce := c.name.isNone && InterfaceName.accepts text }
    | _ => {}
  | .bringUp requested =>
    match held with
    | some (.connection c) => c.demand requested
    | _ => {}
  | .onInterface name => (Connection.fresh none).demand (some name)
  | .setUpFrom source =>
    match source.read with
    | .ok config => (Connection.ofConfig config).demand config.interface?
    | .error _ => {}
  | _ => {}

variable {held held' : Option Endpoint} {s s' : ControlSocket} {t : Trace} {action : Action}
  {reply : Reply}

lemma Acting.plain (h : Acting held s action t reply held' s') (ha : action.setsUp = false) :
    t.Plain ∧ s' = s := by
  cases h with
  | opened | setUp | unreadableSetUp | named | broughtUp => cases ha
  | idle | timed | unwrapped => exact ⟨asks_nil, rfl⟩
  | created hd | configured _ hd | unreadable _ hd | dropped hd =>
    exact ⟨hd.onlyCloses.handles.plain, rfl⟩
  | cleared hc | wrapped hc => exact ⟨hc.onlyCloses.handles.plain, rfl⟩
  | connected hc | connectedTo hc => exact ⟨hc.connects.plain, rfl⟩
  | channelled hc | watched hc | unwatched hc | switched _ hc | transferred _ _ hc | awaited _ hc =>
    exact ⟨hc.handles.plain, rfl⟩

lemma tends_act (h : ((act held action).run s).Yields t ((reply, held'), s')) :
    (⟨s, (demand held action).atOnce⟩ : Moment).Tends (demand held action) t ⟨s', false⟩ := by
  cases ha : action.setsUp with
  | false =>
    have hnone : (demand held action).atOnce = false := by
      cases action <;> first | rfl | cases ha
    obtain ⟨hplain, rfl⟩ := (Acting.of_yields h).plain ha
    rw [hnone]
    exact tends_plain hplain
  | true =>
    -- an empty slot and a discovery socket are not brought up: nothing is called then
    cases action with
    | setName text =>
      obtain _ | ⟨c | d | a⟩ := held
      case some.connection =>
        obtain ⟨⟨r, c'⟩, hname, ⟨⟩⟩ := Shared.yields_map.mp h
        exact (Naming.of_yields hname).tends
      all_goals
        cases h
        exact .nil _
    | bringUp requested =>
      obtain _ | ⟨c | d | a⟩ := held
      case some.connection =>
        obtain ⟨⟨r, c'⟩, hup, ⟨⟩⟩ := Shared.yields_map.mp h
        exact (BringUp.of_yields hup).tends
      all_goals
        cases h
        exact .nil _
    | onInterface name =>
      obtain ⟨u, v, r, rfl, hu, hv, -⟩ := yields_remake h
      exact (tends_onlyCloses hu.onlyCloses).append (FreshOpening.of_yields hv).tends
    | setUpFrom source =>
      obtain ⟨e, hs, ht, rfl, rfl, rfl⟩ | ⟨config, u, v, r, rfl, hs, hu, hv, -⟩ :=
        yields_remake_from h
      · simp only [demand, hs]
        exact tends_onlyCloses ht.onlyCloses
      · simp only [demand, hs]
        exact (tends_onlyCloses hu.onlyCloses).append (ConfiguredOpening.of_yields hv).tends
    | _ => cases ha

end Endpoint

namespace Workbench

variable {slots : Nat} {w w' : Workbench slots} {op : Operation slots} {u : Trace} {reply : Reply}

/-- What an operation needs the control socket for. -/
def demand (w : Workbench slots) : Operation slots → Demand
  | .openControl => { atOnce := true }
  | .closeControl | .describeControl => {}
  | .resolveIndex text | .resolveAddress text => { atOnce := InterfaceName.accepts text }
  | .act slot action => Endpoint.demand (w.held slot) action

/-- Every operation but closing the control socket minds it. -/
theorem tends_perform (h : (w.perform op).Yields u (reply, w')) (hop : op ≠ .closeControl) :
    ∃ n, (⟨w.control, (w.demand op).atOnce⟩ : Moment).Tends (w.demand op) u ⟨w'.control, n⟩ ∧
      (n → w'.control.isOpen) := by
  cases Performing.of_yields h with
  | @opened _ r _ ho =>
    obtain ⟨n, ht, hfailed⟩ := ho.tends
    refine ⟨n, ht, fun hn => ?_⟩
    cases r with
    | error e => cases hn.symm.trans (hfailed e rfl)
    | ok fd =>
      obtain rfl := ho.eq_of_ok
      rfl
  | closed => exact absurd rfl hop
  | described => exact ⟨false, .nil _, nofun⟩
  | invalidIndex hv | invalidAddress hv =>
    simp only [demand, InterfaceName.accepts_of_error hv]
    exact ⟨false, .nil _, nofun⟩
  | resolvedIndex hv hr | resolvedAddress hv hr =>
    simp only [demand, InterfaceName.accepts_of_ok hv]
    exact ⟨false, hr.tends, nofun⟩
  | acted =>
    exact ⟨false, Endpoint.tends_act (yields_act_control h), nofun⟩

end Workbench

end PppoeSetup
