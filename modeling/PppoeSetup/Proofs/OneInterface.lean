import PppoeSetup.Proofs.Course.Facts
import PppoeSetup.Proofs.FirstRefusal

/-!
# One interface per connection

The name, the hardware address and the index of a connection come from what the kernel has told
about one and the same interface, whenever it was asked, and stay together until the connection
is cleared.
-/

namespace PppoeSetup

open Kernel Trace Connection DiscoverySocket AsyncSocket ControlSocket

/-- The actions that put a new connection into the place of another one. -/
def Action.renews : Action → Bool
  | create | createFrom _ | onInterface _ | setUpFrom _ => true
  | _ => false

/-- What a connection may lose its name and address by: it is cleared, it fails to come up, or a
new one takes its place. -/
def Action.Forgets (action : Action) (reply : Reply) : Prop :=
  action.renews ∨ action = .clear ∨
    ∃ requested error, action = .bringUp requested ∧ reply = .failed error ∧ error ≠ .alreadyReady

/-- The actions that connect a session. -/
def Action.connects : Action → Bool
  | connect _ | connectTo .. => true
  | _ => false

namespace Connection

variable {c c' : Connection} {name : InterfaceName} {s s' : ControlSocket} {t : Trace}

/-- The connection is on this interface. -/
def Bears (c : Connection) (name : InterfaceName) (address : MacAddress) : Prop :=
  c.name = some name ∧ c.address = address

/-- The connection is ready, with these particulars. -/
structure RunsOn (c : Connection) (name : InterfaceName) (index : UInt32)
    (discovery : Descriptor) : Prop where
  ready : c.state = .ready
  name : c.name = some name
  index : c.index = some index
  discovery : c.discovery = some discovery

lemma RunsOn.unique {name' : InterfaceName} {index index' : UInt32}
    {discovery discovery' : Descriptor} (h : c.RunsOn name index discovery)
    (h' : c.RunsOn name' index' discovery') :
    name = name' ∧ index = index' ∧ discovery = discovery' :=
  ⟨Option.some.inj (h.name.symm.trans h'.name), Option.some.inj (h.index.symm.trans h'.index),
    Option.some.inj (h.discovery.symm.trans h'.discovery)⟩

/-- A ready connection has all the particulars. -/
lemma WellFormed.exists_runsOn (h : c.WellFormed) (hready : c.state = .ready) :
    ∃ name index discovery, c.RunsOn name index discovery := by
  have hs := h.ready_iff.mp hready
  obtain ⟨name, hname⟩ := Option.isSome_iff_exists.mp (h.named hs)
  obtain ⟨index, hindex⟩ := Option.isSome_iff_exists.mp (h.indexed.mp hs)
  obtain ⟨discovery, hdiscovery⟩ := Option.isSome_iff_exists.mp (h.paired.mp hs)
  exact ⟨name, index, discovery, hready, hname, hindex, hdiscovery⟩

/-! ### What the kernel has told -/

/-- The kernel has told the hardware address of the named interface, once, and this is it. -/
def NamedBy (name : InterfaceName) (address : MacAddress) (facts : List Fact) : Prop :=
  ∃ buffer data, facts.filter Fact.isAddress = [.address buffer data] ∧
    InterfaceName.ofBuffer? buffer = some name.text ∧ address.bytes = data.toList.take 6

/-- The kernel has told the index of the named interface, and then the discovery socket has been
bound to that index. -/
def BoundBy (name : InterfaceName) (index : UInt32) (discovery : Descriptor)
    (facts : List Fact) : Prop :=
  ∃ buffer address,
    facts.filter (!Fact.isAddress ·) = [.index buffer index, .bound discovery address] ∧
    InterfaceName.ofBuffer? buffer = some name.text ∧ address.index = index

lemma Learning.bears_or_namedBy {requested : Option String} {facts rest : List Fact}
    {address : MacAddress} (h : Learning c requested name facts address)
    (hrest : rest.filter Fact.isAddress = []) :
    c.Bears name address ∨
      c.name = none ∧ requested = some name.text ∧ NamedBy name address (facts ++ rest) := by
  cases h with
  | known hname => exact .inl ⟨hname, rfl⟩
  | told data hc hrequested =>
    refine .inr ⟨hc, hrequested, name.buffer, data, ?_, name.ofBuffer?_buffer,
      bytes_addressOf data⟩
    rw [List.filter_append, hrest]
    rfl

lemma Learning.filter_eq {requested : Option String} {facts : List Fact} {address : MacAddress}
    (h : Learning c requested name facts address) : facts.filter (!Fact.isAddress ·) = [] := by
  cases h <;> rfl

/-- A connection that comes up keeps its name, or is named by the kernel's answer. -/
lemma BringUp.bears_or_namedBy {requested : Option String}
    (h : BringUp c requested s t (.ok ()) c' s') (hname : c'.name = some name) :
    c.Bears name c'.address ∨
      c.name = none ∧ requested = some name.text ∧ NamedBy name c'.address t.facts := by
  obtain ⟨_, index, discovery, facts, hname', -, -, hl, hfacts⟩ := h.facts_eq
  cases hname'.symm.trans hname
  rw [hfacts]
  exact hl.bears_or_namedBy rfl

/-- A connection that comes up with a name keeps it. -/
lemma BringUp.bears {requested : Option String} (h : BringUp c requested s t (.ok ()) c' s')
    (hname : c.name = some name) : c'.Bears name c.address := by
  obtain ⟨name', index, discovery, facts, hname', -, -, hl, -⟩ := h.facts_eq
  generalize haddress : c'.address = address at hl
  cases hl with
  | known h => exact ⟨hname'.trans (h.symm.trans hname), haddress⟩
  | told _ h => cases h.symm.trans hname

/-- A connection that comes up is bound to its interface. -/
lemma BringUp.boundBy {requested : Option String} (h : BringUp c requested s t (.ok ()) c' s') :
    ∃ name index discovery, c'.RunsOn name index discovery ∧
      BoundBy name index discovery t.facts := by
  have hready : c'.state = .ready := by
    cases h
    exact state_eq_ready.mpr ⟨rfl, rfl⟩
  obtain ⟨name, index, discovery, facts, hname, hindex, hdiscovery, hl, hfacts⟩ := h.facts_eq
  refine ⟨name, index, discovery, ⟨hready, hname, hindex, hdiscovery⟩, name.buffer,
    .discoveryOn index, ?_, name.ofBuffer?_buffer, rfl⟩
  rw [hfacts, List.filter_append, hl.filter_eq]
  rfl

end Connection

/-! ### Actions -/

namespace Endpoint

/-- What an action makes of the connection in a slot, as long as there is one. -/
inductive Becoming (held : Option Endpoint) : Action → Trace → Reply → Connection → Prop
  /-- It stays as it is, but for its limit. -/
  | kept {e : Endpoint} {action : Action} {t : Trace} {reply : Reply} {c : Connection} :
    action.renews = false → held = some e → c = { e.underlying with timeout := c.timeout } →
    Becoming held action t reply c
  | forgotten {action : Action} {t : Trace} {reply : Reply} {timeout : Option Duration} :
    action.Forgets reply → Becoming held action t reply (.fresh timeout)
  | named {c c' : Connection} {s s' : ControlSocket} {text : String} {t : Trace} :
    held = some (.connection c) → Naming c text s t (.ok ()) c' s' →
    Becoming held (.setName text) t .done c'
  | broughtUp {c c' : Connection} {s s' : ControlSocket} {requested : Option String} {t : Trace} :
    held = some (.connection c) → BringUp c requested s t (.ok ()) c' s' →
    Becoming held (.bringUp requested) t .done c'
  /-- A new connection has come up on the interface that the action is about. -/
  | newReady {action : Action} {t u : Trace} {timeout : Option Duration} {s s' : ControlSocket}
    {c : Connection} :
    action.renews → t.facts = u.facts →
    BringUp (.fresh timeout) (some (interface held action)) s u (.ok ()) c s' →
    Becoming held action t .done c

variable {held held' : Option Endpoint} {e e' : Endpoint} {s s' : ControlSocket} {t : Trace}
  {action : Action} {reply : Reply}

lemma made_eq_some {α : Type} {wrap : α → Endpoint} {r : Except SetupError α}
    (h : (reply, some e') = made wrap r) : ∃ a, r = .ok a ∧ reply = .done ∧ e' = wrap a := by
  cases r with
  | error e => cases h
  | ok a =>
    cases h
    exact ⟨a, rfl, rfl, rfl⟩

/-- A new connection is fresh, or has come up on the interface that the action is about. -/
lemma becoming_of_renews (hrenews : action.renews)
    (h : ((act held action).run s).Yields t ((reply, some e'), s')) :
    Becoming held action t reply e'.underlying := by
  -- each of these starts from a fresh connection, whatever the slot has held
  cases action with
  | create =>
    obtain ⟨u, v, r, rfl, -, hv, hr⟩ := yields_remake h
    cases hv
    cases hr
    exact .forgotten (.inl rfl)
  | createFrom source =>
    obtain ⟨_, _, _, _, ⟨⟩, _⟩ | ⟨config, u, v, r, rfl, -, -, hv, hr⟩ := yields_remake_from h
    cases hv
    cases hr
    exact .forgotten (.inl rfl)
  | onInterface name =>
    obtain ⟨u, v, r, rfl, hu, hv, hr⟩ := yields_remake h
    obtain ⟨d, rfl, rfl, rfl⟩ := made_eq_some hr
    refine .newReady rfl ?_ (FreshOpening.of_yields hv).broughtUp_of_ok
    rw [facts_append, hu.onlyCloses.handles.facts_eq, List.nil_append]
  | setUpFrom source =>
    obtain ⟨_, _, _, _, ⟨⟩, _⟩ | ⟨config, u, v, r, rfl, hs, hu, hv, hr⟩ := yields_remake_from h
    obtain ⟨d, rfl, rfl, rfl⟩ := made_eq_some hr
    obtain ⟨name, x, hi, hfacts, hb⟩ := (ConfiguredOpening.of_yields hv).broughtUp_of_ok
    have hinterface : interface held (.setUpFrom source) = name := by
      simp only [interface, hs, hi, Option.getD_some]
    rw [← hinterface] at hb
    refine .newReady rfl ?_ hb
    rw [facts_append, hu.onlyCloses.handles.facts_eq, List.nil_append, hfacts]
  | _ => cases hrenews

lemma Acting.becoming (hrenews : action.renews = false)
    (h : Acting held s action t reply held' s') (he : held' = some e') :
    Becoming held action t reply e'.underlying := by
  cases h with
  | created | configured | unreadable | opened | setUp | unreadableSetUp => cases hrenews
  | idle | connected | connectedTo | channelled | switched => exact .kept hrenews he rfl
  | dropped => cases he
  | cleared =>
    cases he
    exact .forgotten (.inr (.inl rfl))
  | @named _ _ _ _ _ _ r hn =>
    cases he
    cases r with
    | error error => exact .kept hrenews rfl (by rw [hn.eq_of_error])
    | ok _ => exact .named rfl hn
  | broughtUp hb =>
    cases he
    cases hb with
    | already => exact .kept hrenews rfl rfl
    | failed hc ho hclear =>
      refine .forgotten (.inr (.inr ⟨_, _, rfl, rfl, ?_⟩))
      -- a bring-up that finds the connection ready does not clear it
      rintro rfl
      exact hc ((BringUp.failed hc ho hclear).alreadyReady_iff.mp rfl)
    | ready hc ho hr => exact .broughtUp rfl (.ready hc ho hr)
  | timed | unwrapped =>
    cases he
    exact .kept hrenews rfl rfl
  | wrapped hw | watched hw | unwatched hw =>
    obtain ⟨_, rfl, rfl⟩ := made_snd_eq_some.mp he
    cases hw
    exact .kept hrenews rfl rfl
  | transferred _ hd ht =>
    cases he
    refine .kept hrenews rfl ?_
    rw [underlying_withSocket hd, underlying_of_socket hd, ht.connection_eq]
  | awaited _ ha =>
    cases he
    refine .kept hrenews rfl ?_
    simp only [underlying, ha.connection_eq]

lemma becoming (h : ((act held action).run s).Yields t ((reply, some e'), s')) :
    Becoming held action t reply e'.underlying := by
  cases hrenews : action.renews with
  | true => exact becoming_of_renews hrenews h
  | false => exact (Acting.of_yields h).becoming hrenews rfl

/-- An action names a connection without a name after the interface that the action is about, as
the kernel has told its address. -/
def Names (name : InterfaceName) (address : MacAddress) (held : Option Endpoint) (action : Action)
    (t : Trace) : Prop :=
  (action.renews ∨ ∃ e, held = some e ∧ e.underlying.name = none) ∧
    interface held action = name.text ∧ NamedBy name address t.facts

/-- An action binds a connection to its interface. -/
def Binds (name : InterfaceName) (index : UInt32) (discovery : Descriptor) (_ : Option Endpoint)
    (_ : Action) (t : Trace) : Prop :=
  BoundBy name index discovery t.facts

variable {c : Connection} {name : InterfaceName}

/-- A connection bears a name because an action has given it the name, or has left it alone. -/
lemma Becoming.names_or_bears (h : Becoming held action t reply c) (hname : c.name = some name) :
    Names name c.address held action t ∨
      action.renews = false ∧ ∃ e, held = some e ∧ e.underlying.Bears name c.address := by
  cases h with
  | kept hrenews he hc => exact .inr ⟨hrenews, _, he, by rw [← hname, hc], by rw [hc]⟩
  | forgotten => cases hname
  | named he hn =>
    cases hn with
    | named hc hv hr =>
      cases hname
      obtain ⟨data, rfl, hfacts⟩ := hr.facts_eq
      refine .inl ⟨.inr ⟨_, he, hc⟩, (InterfaceName.text_of_validate hv).symm, name.buffer, data,
        ?_, name.ofBuffer?_buffer, bytes_addressOf data⟩
      rw [facts_append, hfacts]
      rfl
  | broughtUp he hb =>
    -- a bring-up only names a connection that has no name
    rcases hb.bears_or_namedBy hname with hbears | ⟨hc, rfl, hnamed⟩
    · exact .inr ⟨rfl, _, he, hbears⟩
    · refine .inl ⟨.inr ⟨_, he, hc⟩, ?_, hnamed⟩
      subst he
      simp only [interface, underlying, interfaceFor, hc, Option.getD_some]
  | newReady hrenews hfacts hb =>
    rcases hb.bears_or_namedBy hname with ⟨hfresh, -⟩ | ⟨-, hinterface, hnamed⟩
    · cases hfresh
    · rw [← hfacts] at hnamed
      exact .inl ⟨.inl hrenews, Option.some.inj hinterface, hnamed⟩

/-- A connection is ready because an action has bound it, or has left it alone. -/
lemma Becoming.binds_or_runsOn {index : UInt32} {discovery : Descriptor}
    (h : Becoming held action t reply c) (hw : ∀ e, held = some e → e.WellFormed)
    (hc : c.RunsOn name index discovery) :
    Binds name index discovery held action t ∨
      action.renews = false ∧ ∃ e, held = some e ∧ e.underlying.RunsOn name index discovery := by
  cases h with
  | kept hrenews he hkept =>
    rw [hkept] at hc
    exact .inr ⟨hrenews, _, he, hc.ready, hc.name, hc.index, hc.discovery⟩
  | forgotten => cases hc.ready
  | named he hn =>
    -- an unnamed connection is not ready, and a name does not make it so
    cases hn with
    | named hunnamed =>
      have hnamed := (hw _ he).named (state_eq_ready.mp hc.ready).1
      rw [hunnamed] at hnamed
      cases hnamed
  | broughtUp he hb =>
    obtain ⟨_, _, _, hruns, hbound⟩ := hb.boundBy
    obtain ⟨rfl, rfl, rfl⟩ := hc.unique hruns
    exact .inl hbound
  | newReady _ hfacts hb =>
    obtain ⟨_, _, _, hruns, hbound⟩ := hb.boundBy
    obtain ⟨rfl, rfl, rfl⟩ := hc.unique hruns
    rw [← hfacts] at hbound
    exact .inl hbound

lemma Acting.asks (hconnects : action.connects = false)
    (h : Acting held s action t reply held' s') :
    t.Asks (Request.SetsUp (interface held action)) := by
  cases h with
  | idle | timed | unwrapped => simp
  | created hd | configured _ hd | unreadable _ hd | unreadableSetUp _ hd | dropped hd =>
    exact hd.onlyCloses.handles.setsUp
  | opened hd hf => exact (hf.prepares_after hd.onlyCloses).setsUp
  | setUp hread hd hc =>
    simp only [interface, hread]
    exact asks_append.mpr ⟨hd.onlyCloses.handles.setsUp, hc.asks⟩
  | named hn | broughtUp hn => exact hn.prepares.setsUp
  | cleared hc | wrapped hc => exact hc.onlyCloses.handles.setsUp
  | connected | connectedTo => cases hconnects
  | channelled hc | watched hc | unwatched hc | switched _ hc | transferred _ _ hc | awaited _ hc =>
    exact hc.handles.setsUp

/-- What no setup calls is part of connecting a session. -/
lemma Acting.exists_connecting (h : Acting held s action t reply held' s') {r : Request}
    {a : r.Answer} (hcall : .call r a ∈ t) (hr : ∀ interface, ¬ r.SetsUp interface) :
    ∃ e sessionId remote result, held = some e ∧
      Connecting e.underlying sessionId remote t result ∧
      (action = .connect sessionId ∧ remote = e.underlying.address ∨
        action = .connectTo sessionId remote) := by
  cases hconnects : action.connects with
  | false => exact absurd (h.asks hconnects _ _ hcall) (hr _)
  | true =>
    cases h with
    | connected hc => exact ⟨_, _, _, _, rfl, hc, .inl ⟨rfl, rfl⟩⟩
    | connectedTo hc => exact ⟨_, _, _, _, rfl, hc, .inr rfl⟩
    | idle => cases hcall
    | transferred ha | awaited ha => cases action <;> cases hconnects <;> cases ha
    | _ => cases hconnects

end Endpoint

/-! ### Runs -/

namespace Workbench

variable {slots : Nat} {w w' : Workbench slots} {i : Fin slots} {e e' : Endpoint} {t u : Trace}
  {op : Operation slots} {reply : Reply}

/-- The slot holds a connection of this kind, alone or wrapped. -/
def Holds (w : Workbench slots) (i : Fin slots) (p : Connection → Prop) : Prop :=
  ∃ e, w.held i = some e ∧ p e.underlying

/-- The connection in a slot has a property that an action has brought about, and the same
connection has had it ever since. -/
inductive Since (i : Fin slots) (p : Connection → Prop)
    (brings : Option Endpoint → Action → Trace → Prop) : Trace → Workbench slots → Prop
  | brought {t u : Trace} {w w' : Workbench slots} {action : Action} {reply : Reply} :
    w.Reachable t → (w.perform (.act i action)).Yields u (reply, w') →
    brings (w.held i) action u → w'.Holds i p → Since i p brings (t ++ u) w'
  | kept {t u : Trace} {w w' : Workbench slots} {op : Operation slots} {reply : Reply} :
    Since i p brings t w → (w.perform op).Yields u (reply, w') →
    (∀ action, op = .act i action → action.renews = false) → w'.Holds i p →
    Since i p brings (t ++ u) w'

/-- An operation leaves a slot as it is, or acts on it. -/
lemma becoming_of_perform (h : (w.perform op).Yields u (reply, w')) (hi : w'.held i = some e') :
    (w.held i = some e' ∧ ∀ action, op ≠ .act i action) ∨
      ∃ action, op = .act i action ∧
        Endpoint.Becoming (w.held i) action u reply e'.underlying := by
  rcases held_eq_or_acts h i with ⟨he, hother⟩ | ⟨action, rfl⟩
  · exact .inl ⟨he.symm.trans hi, hother⟩
  · obtain ⟨s, ha⟩ := yields_act h
    rw [hi] at ha
    exact .inr ⟨action, rfl, Endpoint.becoming ha⟩

/-- A property that comes from an action, or else has been there before, holds since an action
brought it about. -/
lemma Reachable.since {p : Connection → Prop} {brings : Option Endpoint → Action → Trace → Prop}
    (step : ∀ {held action t reply c}, Endpoint.Becoming held action t reply c →
      (∀ e, held = some e → e.WellFormed) → p c → brings held action t ∨
        action.renews = false ∧ ∃ e, held = some e ∧ p e.underlying)
    (h : w.Reachable t) (hi : w.Holds i p) : w.Since i p brings t := by
  induction h with
  | start =>
    obtain ⟨e, he, -⟩ := hi
    cases he
  | @step t u w w' op reply hr hop ih =>
    obtain ⟨e', he', hp⟩ := hi
    rcases becoming_of_perform hop he' with ⟨he, hother⟩ | ⟨action, rfl, hb⟩
    · exact .kept (ih ⟨e', he, hp⟩) hop (fun action ha => absurd ha (hother action)) ⟨e', he', hp⟩
    · rcases step hb (fun e he => hr.wellFormed he) hp with hbrings | ⟨hrenews, hbefore⟩
      · exact .brought hr hop hbrings ⟨e', he', hp⟩
      · refine .kept (ih hbefore) hop ?_ ⟨e', he', hp⟩
        rintro _ ⟨⟩
        exact hrenews

/-- What no setup calls is called for a connection whose session is being connected. -/
lemma exists_connecting_of_perform (h : (w.perform op).Yields u (reply, w')) {r : Request}
    {a : r.Answer} (hcall : .call r a ∈ u) (hr : ∀ interface, ¬ r.SetsUp interface) :
    ∃ j e action sessionId remote result, op = .act j action ∧ w.held j = some e ∧
      Connecting e.underlying sessionId remote u result ∧
      (action = .connect sessionId ∧ remote = e.underlying.address ∨
        action = .connectTo sessionId remote) := by
  cases Performing.of_yields h with
  | opened ho =>
    have hasks : u.Asks (Request.SetsUp "") := ho.asks trivial
    exact absurd (hasks _ _ hcall) (hr _)
  | closed hc =>
    have hasks : u.Asks (Request.SetsUp "") := hc.onlyCloses.handles.setsUp
    exact absurd (hasks _ _ hcall) (hr _)
  | described | invalidIndex | invalidAddress => cases hcall
  | resolvedIndex _ hi => exact absurd ((hi.prepares rfl).setsUp _ _ hcall) (hr _)
  | resolvedAddress _ ha => exact absurd ((ha.prepares rfl).setsUp _ _ hcall) (hr _)
  | acted ha =>
    obtain ⟨e, sessionId, remote, result, he, hconnecting⟩ := ha.exists_connecting hcall hr
    exact ⟨_, e, _, sessionId, remote, result, rfl, he, hconnecting⟩

/-- A connect is issued for a ready connection, on its session socket and with its name; the
peer's address is its own or the one that is asked for. -/
lemma connects_of_perform (h : (w.perform op).Yields u (reply, w')) {fd : Descriptor}
    {address : Wire.SessionAddress} {answer : Except Errno Unit}
    (hcall : .call (.connect fd address) answer ∈ u) :
    ∃ j e action, op = .act j action ∧ w.held j = some e ∧ e.underlying.session = some fd ∧
      e.underlying.name = some address.device ∧
      (action = .connect address.sessionId ∧ address.remote = e.underlying.address ∨
        action = .connectTo address.sessionId address.remote) := by
  obtain ⟨j, e, action, _, _, _, rfl, he, hc, haction⟩ :=
    exists_connecting_of_perform h hcall fun _ => id
  obtain ⟨hfd, hname, rfl, rfl⟩ := hc.exists_connect hcall
  exact ⟨j, e, action, rfl, he, hfd, hname, haction⟩

/-- Bringing up a connection with a name does not ask about any other interface. -/
lemma asks_of_bringUp {requested : Option String} {current : InterfaceName}
    (h : (w.perform (.act i (.bringUp requested))).Yields u (reply, w')) (hi : w.held i = some e)
    (hname : e.underlying.name = some current) : u.Asks (Request.SetsUp current.text) := by
  obtain ⟨s, ha⟩ := yields_act h
  have hasks := (Endpoint.Acting.of_yields ha).asks rfl
  simpa only [hi, Endpoint.interface, interfaceFor, hname] using hasks

/-- A connection that keeps its slot keeps its name and address, unless it forgets them. -/
lemma bears_or_forgets {name : InterfaceName} (h : (w.perform op).Yields u (reply, w'))
    (hi : w.held i = some e) (hname : e.underlying.name = some name) (hi' : w'.held i = some e') :
    e'.underlying.Bears name e.underlying.address ∨
      ∃ action, op = .act i action ∧ action.Forgets reply := by
  rcases becoming_of_perform h hi' with ⟨he, -⟩ | ⟨action, rfl, hb⟩
  · cases hi.symm.trans he
    exact .inl ⟨hname, rfl⟩
  · rw [hi] at hb
    generalize e'.underlying = c' at hb ⊢
    cases hb with
    | kept _ he hc =>
      cases he
      rw [hc]
      exact .inl ⟨hname, rfl⟩
    | forgotten hforgets => exact .inr ⟨action, rfl, hforgets⟩
    | named he hn =>
      cases he
      cases hn with
      | named hunnamed => cases hunnamed.symm.trans hname
    | broughtUp he hb =>
      cases he
      exact .inl (hb.bears hname)
    | newReady hrenews => exact .inr ⟨action, rfl, .inl hrenews⟩

/-- Whatever has been done and whatever the kernel has answered, for the connection in a slot:

* if it has a name, the name is a valid one, and an action has given it the name together with
  the first six bytes that the kernel left in answer to the one question about the hardware
  address of that name; it has had both ever since;
* if it is ready, an action has bound its discovery socket to the index that the kernel told for
  the interface of that name, and it has been ready with both ever since;
* whatever is done next, a connect is issued for a connection under its own name, and with its
  own address unless another one is given; bringing up a connection with a name asks about no
  other interface, whatever name is requested; and a connection keeps its name and address until
  it is cleared, fails to come up, or gives way to a new one. -/
theorem one_interface (h : w.Reachable t) (hi : w.held i = some e) :
    (∀ name, e.underlying.name = some name →
      InterfaceName.ofText name.text = .ok name ∧
        w.Since i (·.Bears name e.underlying.address)
          (Endpoint.Names name e.underlying.address) t) ∧
      (e.underlying.state = .ready → ∃ name index discovery,
        e.underlying.RunsOn name index discovery ∧
          w.Since i (·.RunsOn name index discovery) (Endpoint.Binds name index discovery) t) ∧
      ∀ op u reply w', (w.perform op).Yields u (reply, w') →
        (∀ fd address answer, .call (.connect fd address) answer ∈ u →
          ∃ j e action, op = .act j action ∧ w.held j = some e ∧
            e.underlying.session = some fd ∧ e.underlying.name = some address.device ∧
            (action = .connect address.sessionId ∧ address.remote = e.underlying.address ∨
              action = .connectTo address.sessionId address.remote)) ∧
        (∀ requested current r a text, op = .act i (.bringUp requested) →
          e.underlying.name = some current → .call r a ∈ u → r.interface? = some text →
          text = current.text) ∧
        ∀ name e', e.underlying.name = some name → w'.held i = some e' →
          e'.underlying.Bears name e.underlying.address ∨
            ∃ action, op = .act i action ∧ action.Forgets reply := by
  refine ⟨?_, ?_, ?_⟩
  · intro name hname
    refine ⟨name.ofText_text, h.since ?_ ⟨e, hi, hname, rfl⟩⟩
    rintro held action u reply c hb - ⟨hc, haddress⟩
    rw [← haddress]
    exact hb.names_or_bears hc
  · intro hready
    obtain ⟨name, index, discovery, hruns⟩ := (h.wellFormed hi).underlying.exists_runsOn hready
    exact ⟨name, index, discovery, hruns, h.since Endpoint.Becoming.binds_or_runsOn ⟨e, hi, hruns⟩⟩
  · intro op u reply w' hop
    refine ⟨fun _ _ _ => connects_of_perform hop, ?_, fun _ _ => bears_or_forgets hop hi⟩
    rintro requested current r a text rfl hname hr htext
    exact (asks_of_bringUp hop hi hname r a hr).eq_of_interface htext

/-- The connection that has come up on the simulated machine, on its one interface. -/
theorem one_interface_wrapped :
    wrappingOutcome.value.2.Since 0 (·.Bears eth0 eth0Address) (Endpoint.Names eth0 eth0Address)
        wrappingOutcome.trace ∧
      wrappingOutcome.value.2.Since 0 (·.RunsOn eth0 3 102) (Endpoint.Binds eth0 3 102)
        wrappingOutcome.trace := by
  have hi : wrappingOutcome.value.2.held 0 = some (.discovery wrapped) := by
    decide +kernel
  obtain ⟨hnamed, hready, -⟩ := one_interface (reachable_simulate _ _) hi
  obtain ⟨name, index, discovery, hruns, hsince⟩ := hready rfl
  have heth0 : wrapped.connection.RunsOn eth0 3 102 := ⟨rfl, rfl, rfl, rfl⟩
  obtain ⟨rfl, rfl, rfl⟩ := hruns.unique heth0
  exact ⟨(hnamed eth0 rfl).2, hsince⟩

end Workbench

end PppoeSetup
