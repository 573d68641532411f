import PppoeSetup.Proofs.Course.Discovery
import PppoeSetup.Workbench.Operation

/-!
# Courses of the workbench

How an action on a slot can go, and an operation on the workbench.
-/

namespace PppoeSetup

open Kernel Connection DiscoverySocket AsyncSocket ControlSocket

/-- The actions that transfer a frame. -/
def Action.transfers : Action → Bool
  | send _ | receive _ | sendNow _ | receiveNow _ => true
  | _ => false

namespace Endpoint

/-- What a slot holds goes away. -/
inductive Discarding : Option Endpoint → Trace → Prop
  | empty : Discarding none []
  | released {e : Endpoint} {t : Trace} : Releasing e.underlying t → Discarding (some e) t

/-- An action on a slot: what it finds there, what happens, and what it leaves. -/
inductive Acting : Option Endpoint → ControlSocket → Action → Trace → Reply → Option Endpoint →
    ControlSocket → Prop
  /-- The action is none for what the slot holds, or only looks at it. -/
  | idle {held : Option Endpoint} {s : ControlSocket} {action : Action} {reply : Reply} :
    reply ≠ .done → Acting held s action [] reply held s
  | created {held : Option Endpoint} {s : ControlSocket} {t : Trace} :
    Discarding held t → Acting held s .create t .done (some (.connection (.fresh none))) s
  | configured {held : Option Endpoint} {s : ControlSocket} {source : Source}
    {config : SetupConfig} {t : Trace} :
    source.read = .ok config → Discarding held t →
    Acting held s (.createFrom source) t .done (some (.connection (.ofConfig config))) s
  | unreadable {held : Option Endpoint} {s : ControlSocket} {source : Source} {e : SetupError}
    {t : Trace} :
    source.read = .error e → Discarding held t →
    Acting held s (.createFrom source) t (.failed e) none s
  | opened {held : Option Endpoint} {s s' : ControlSocket} {name : String} {t u : Trace}
    {r : Except SetupError DiscoverySocket} :
    Discarding held t → FreshOpening (.fresh none) name s u r s' →
    Acting held s (.onInterface name) (t ++ u) (made .discovery r).1 (made .discovery r).2 s'
  | setUp {held : Option Endpoint} {s s' : ControlSocket} {source : Source} {config : SetupConfig}
    {t u : Trace} {r : Except SetupError DiscoverySocket} :
    source.read = .ok config → Discarding held t → ConfiguredOpening config s u r s' →
    Acting held s (.setUpFrom source) (t ++ u) (made .discovery r).1 (made .discovery r).2 s'
  | unreadableSetUp {held : Option Endpoint} {s : ControlSocket} {source : Source}
    {e : SetupError} {t : Trace} :
    source.read = .error e → Discarding held t →
    Acting held s (.setUpFrom source) t (.failed e) none s
  | dropped {held : Option Endpoint} {s : ControlSocket} {t : Trace} :
    Discarding held t → Acting held s .drop t .done none s
  | named {c c' : Connection} {s s' : ControlSocket} {text : String} {t : Trace}
    {r : Except SetupError Unit} :
    Naming c text s t r c' s' →
    Acting (some (.connection c)) s (.setName text) t (.ofResult (fun _ => .done) r)
      (some (.connection c')) s'
  | broughtUp {c c' : Connection} {s s' : ControlSocket} {requested : Option String} {t : Trace}
    {r : Except SetupError Unit} :
    BringUp c requested s t r c' s' →
    Acting (some (.connection c)) s (.bringUp requested) t (.ofResult (fun _ => .done) r)
      (some (.connection c')) s'
  | cleared {c : Connection} {s : ControlSocket} {t : Trace} :
    Clearing c t →
    Acting (some (.connection c)) s .clear t .done (some (.connection (.fresh c.timeout))) s
  | timed {c : Connection} {s : ControlSocket} {timeout : Option Duration} :
    Acting (some (.connection c)) s (.setTimeout timeout) [] .done
      (some (.connection (c.setTimeout timeout))) s
  | connected {e : Endpoint} {s : ControlSocket} {sessionId : UInt16} {t : Trace}
    {r : Except SetupError Unit} :
    Connecting e.underlying sessionId e.underlying.address t r →
    Acting (some e) s (.connect sessionId) t (.ofResult (fun _ => .done) r) (some e) s
  | connectedTo {e : Endpoint} {s : ControlSocket} {sessionId : UInt16} {remote : MacAddress}
    {t : Trace} {r : Except SetupError Unit} :
    Connecting e.underlying sessionId remote t r →
    Acting (some e) s (.connectTo sessionId remote) t (.ofResult (fun _ => .done) r) (some e) s
  | channelled {e : Endpoint} {s : ControlSocket} {t : Trace} {r : Except SetupError Int32} :
    Channelling e.underlying t r →
    Acting (some e) s .channel t (.ofResult .channel r) (some e) s
  | wrapped {c : Connection} {s : ControlSocket} {t : Trace}
    {r : Except SetupError DiscoverySocket} :
    Wrapping c t r →
    Acting (some (.connection c)) s .toDiscovery t (made .discovery r).1 (made .discovery r).2 s
  | unwrapped {d : DiscoverySocket} {s : ControlSocket} :
    Acting (some (.discovery d)) s .toConnection [] .done (some (.connection d.connection)) s
  | watched {d : DiscoverySocket} {s : ControlSocket} {t : Trace}
    {r : Except SetupError AsyncSocket} :
    Watching d t r →
    Acting (some (.discovery d)) s .toAsync t (made .async r).1 (made .async r).2 s
  | unwatched {a : AsyncSocket} {s : ControlSocket} {t : Trace}
    {r : Except SetupError DiscoverySocket} :
    Unwatching a t r →
    Acting (some (.async a)) s .toBlocking t (made .discovery r).1 (made .discovery r).2 s
  | switched {e : Endpoint} {d : DiscoverySocket} {s : ControlSocket} {on : Bool} {t : Trace}
    {r : Except SetupError Unit} :
    e.socket? = some d → ModeSetting d on t r →
    Acting (some e) s (.setNonblocking on) t (.ofResult (fun _ => .done) r) (some e) s
  | transferred {e : Endpoint} {d d' : DiscoverySocket} {s : ControlSocket} {action : Action}
    {t : Trace} {reply : Reply} :
    action.transfers → e.socket? = some d → Transferring d t d' →
    Acting (some e) s action t reply (some (e.withSocket d')) s
  | awaited {a : AsyncSocket} {d' : DiscoverySocket} {s : ControlSocket} {action : Action}
    {t : Trace} {reply : Reply} :
    action.transfers → Awaiting a.socket t d' →
    Acting (some (.async a)) s action t reply (some (.async ⟨d'⟩)) s

section

variable {held held' : Option Endpoint} {s s' : ControlSocket} {t : Trace} {reply : Reply}

lemma Discarding.of_yields {u : Unit} (h : (discard held).Yields t u) : Discarding held t := by
  cases held with
  | none =>
    cases h
    exact .empty
  | some e => exact .released (.of_yields h)

lemma yields_remake {α : Type} {wrap : α → Endpoint} {attempt : Attempt α}
    (h : ((remake held wrap attempt).run s).Yields t ((reply, held'), s')) :
    ∃ u v r, t = u ++ v ∧ Discarding held u ∧ (attempt.run.run s).Yields v (r, s') ∧
      (reply, held') = made wrap r := by
  obtain ⟨u, v, _, rfl, hu, hk⟩ := Shared.yields_lift_bind.mp h
  obtain ⟨v, w, r, s₁, rfl, hv, hr⟩ := Shared.yields_bind.mp hk
  obtain ⟨rfl, he⟩ := Shared.yields_pure.mp hr
  obtain ⟨hmade, rfl⟩ := Prod.mk.inj he
  exact ⟨u, v, r, by simp, .of_yields hu, hv, hmade⟩

/-- What is made of a configuration is not attempted if there is none to be read. -/
lemma yields_remake_from {α : Type} {wrap : α → Endpoint} {source : Source}
    {attempt : SetupConfig → Attempt α}
    (h : ((remake held wrap do attempt (← liftExcept source.read)).run s).Yields t
      ((reply, held'), s')) :
    (∃ e, source.read = .error e ∧ Discarding held t ∧ reply = .failed e ∧ held' = none ∧
      s' = s) ∨
    ∃ config u v r, t = u ++ v ∧ source.read = .ok config ∧ Discarding held u ∧
      ((attempt config).run.run s).Yields v (r, s') ∧ (reply, held') = made wrap r := by
  obtain ⟨u, v, r, rfl, hu, hv, hr⟩ := yields_remake h
  cases hs : source.read with
  | error e =>
    simp only [hs] at hv
    cases hv
    cases hr
    rw [List.append_nil]
    exact .inl ⟨e, rfl, hu, rfl, rfl, rfl⟩
  | ok config =>
    simp only [hs] at hv
    exact .inr ⟨config, u, v, r, rfl, rfl, hu, hv, hr⟩

lemma yields_made {α : Type} {wrap : α → Endpoint} {x : Fallible α}
    (h : ((do return made wrap (← x.run) : Shared _).run s).Yields t ((reply, held'), s')) :
    ∃ r, x.run.Yields t r ∧ (reply, held') = made wrap r ∧ s' = s :=
  Shared.yields_lift_map.mp h

lemma made_snd_eq_some {α : Type} {wrap : α → Endpoint} {r : Except SetupError α} {e : Endpoint} :
    (made wrap r).2 = some e ↔ ∃ a, r = .ok a ∧ e = wrap a := by
  cases r with
  | error e => simp [made]
  | ok a => simp [made, eq_comm]

/-- What holds of all that is made holds of what the slot then holds. -/
lemma forall_made {α : Type} {wrap : α → Endpoint} {r : Except SetupError α}
    {P : Endpoint → Prop} (h : ∀ a, r = .ok a → P (wrap a)) :
    ∀ e, (made wrap r).2 = some e → P e := by
  intro e he
  obtain ⟨a, rfl, rfl⟩ := made_snd_eq_some.mp he
  exact h a rfl

/-- A transfer at once goes through the socket in the slot, if there is one. -/
lemma yields_transfer {α : Type} {answer : α → Reply}
    {attempt : DiscoverySocket → Program (Except Errno α × DiscoverySocket)}
    (h : ((liftM (transfer held answer attempt) : Shared _).run s).Yields t
      ((reply, held'), s')) :
    s' = s ∧ ((t = [] ∧ reply = .inapplicable ∧ held' = held) ∨
      ∃ e d r d', held = some e ∧ e.socket? = some d ∧ (attempt d).Yields t (r, d') ∧
        reply = .ofTransfer answer r ∧ held' = some (e.withSocket d')) := by
  obtain ⟨ht, rfl⟩ := Shared.yields_lift.mp h
  refine ⟨rfl, ?_⟩
  cases held with
  | none =>
    cases ht
    exact .inl ⟨rfl, rfl, rfl⟩
  | some e =>
    cases he : e.socket? with
    | none =>
      simp only [transfer, he] at ht
      cases ht
      exact .inl ⟨rfl, rfl, rfl⟩
    | some d =>
      simp only [transfer, he] at ht
      obtain ⟨u, v, ⟨r, d'⟩, rfl, hu, hk⟩ := Program.yields_bind.mp ht
      cases hk
      rw [List.append_nil]
      exact .inr ⟨e, d, r, d', rfl, he, hu, rfl, rfl⟩

variable {action : Action}

lemma Acting.of_lift_transfer {α : Type} {answer : α → Reply}
    {attempt : DiscoverySocket → Program (Except Errno α × DiscoverySocket)}
    (ha : action.transfers) (hd : ∀ {d t r d'}, (attempt d).Yields t (r, d') → Transferring d t d')
    (h : ((liftM (transfer held answer attempt) : Shared _).run s).Yields t
      ((reply, held'), s')) :
    Acting held s action t reply held' s' := by
  obtain ⟨rfl, ⟨rfl, rfl, rfl⟩ | ⟨e, d, r, d', rfl, he, hr, rfl, rfl⟩⟩ := yields_transfer h
  · exact .idle nofun
  · exact .transferred ha he (hd hr)

lemma Acting.of_inapplicable
    (h : ((return (.inapplicable, held) : Shared _).run s).Yields t ((reply, held'), s')) :
    Acting held s action t reply held' s' := by
  cases h
  exact .idle nofun

/-- An action on connections only. -/
lemma Acting.of_connection {f : Connection → Shared (Reply × Option Endpoint)}
    (hact : ∀ c, ((f c).run s).Yields t ((reply, held'), s') →
      Acting (some (.connection c)) s action t reply held' s')
    (h : ((match held with
      | some (.connection c) => f c
      | _ => return (.inapplicable, held) : Shared _).run s).Yields t ((reply, held'), s')) :
    Acting held s action t reply held' s' := by
  obtain _ | ⟨c | d | a⟩ := held
  case some.connection => exact hact c h
  all_goals exact .of_inapplicable h

/-- An action on discovery sockets only. -/
lemma Acting.of_discovery {f : DiscoverySocket → Shared (Reply × Option Endpoint)}
    (hact : ∀ d, ((f d).run s).Yields t ((reply, held'), s') →
      Acting (some (.discovery d)) s action t reply held' s')
    (h : ((match held with
      | some (.discovery d) => f d
      | _ => return (.inapplicable, held) : Shared _).run s).Yields t ((reply, held'), s')) :
    Acting held s action t reply held' s' := by
  obtain _ | ⟨c | d | a⟩ := held
  case some.discovery => exact hact d h
  all_goals exact .of_inapplicable h

/-- An action that asynchronous sockets take in a way of their own. -/
lemma Acting.of_async {f : AsyncSocket → Shared (Reply × Option Endpoint)}
    {other : Shared (Reply × Option Endpoint)}
    (hact : ∀ a, ((f a).run s).Yields t ((reply, held'), s') →
      Acting (some (.async a)) s action t reply held' s')
    (hother : (other.run s).Yields t ((reply, held'), s') → Acting held s action t reply held' s')
    (h : ((match held with
      | some (.async a) => f a
      | _ => other : Shared _).run s).Yields t ((reply, held'), s')) :
    Acting held s action t reply held' s' := by
  obtain _ | ⟨c | d | a⟩ := held
  case some.async => exact hact a h
  all_goals exact hother h

/-- An action on whatever is in the slot, which stays as it is. -/
lemma Acting.of_endpoint {α : Type} {answer : α → Reply} {x : Endpoint → Fallible α}
    (hact : ∀ e r, (x e).run.Yields t r →
      Acting (some e) s action t (.ofResult answer r) (some e) s)
    (h : ((match held with
      | some e => do return (.ofResult answer (← (x e).run), held)
      | none => return (.inapplicable, held) : Shared _).run s).Yields t ((reply, held'), s')) :
    Acting held s action t reply held' s' := by
  cases held with
  | none => exact .of_inapplicable h
  | some e =>
    obtain ⟨r, hr, ⟨⟩, rfl⟩ := Shared.yields_lift_map.mp h
    exact hact e r hr

theorem Acting.of_yields (h : ((act held action).run s).Yields t ((reply, held'), s')) :
    Acting held s action t reply held' s' := by
  cases action with
  | create =>
    obtain ⟨u, v, r, rfl, hu, hv, hr⟩ := yields_remake h
    cases hv
    cases hr
    rw [List.append_nil]
    exact .created hu
  | createFrom source =>
    obtain ⟨e, hs, ht, rfl, rfl, rfl⟩ | ⟨config, u, v, r, rfl, hs, hu, hv, hr⟩ :=
      yields_remake_from h
    · exact .unreadable hs ht
    · cases hv
      cases hr
      rw [List.append_nil]
      exact .configured hs hu
  | onInterface name =>
    obtain ⟨u, v, r, rfl, hu, hv, hr⟩ := yields_remake h
    obtain ⟨rfl, rfl⟩ := Prod.ext_iff.mp hr
    exact .opened hu (.of_yields hv)
  | setUpFrom source =>
    obtain ⟨e, hs, ht, rfl, rfl, rfl⟩ | ⟨config, u, v, r, rfl, hs, hu, hv, hr⟩ :=
      yields_remake_from h
    · exact .unreadableSetUp hs ht
    · obtain ⟨rfl, rfl⟩ := Prod.ext_iff.mp hr
      exact .setUp hs hu (.of_yields hv)
  | drop =>
    obtain ⟨_, ht, ⟨⟩, rfl⟩ := Shared.yields_lift_map.mp h
    exact .dropped (.of_yields ht)
  | setName text =>
    refine .of_connection (fun c hc => ?_) h
    obtain ⟨⟨r, c'⟩, hname, ⟨⟩⟩ := Shared.yields_map.mp hc
    exact .named (.of_yields hname)
  | bringUp requested =>
    refine .of_connection (fun c hc => ?_) h
    obtain ⟨⟨r, c'⟩, hup, ⟨⟩⟩ := Shared.yields_map.mp hc
    exact .broughtUp (.of_yields hup)
  | clear =>
    refine .of_connection (fun c hc => ?_) h
    obtain ⟨c', hc', ⟨⟩, rfl⟩ := Shared.yields_lift_map.mp hc
    obtain ⟨hclear, rfl⟩ := Clearing.of_yields hc'
    exact .cleared hclear
  | setTimeout timeout =>
    refine .of_connection (fun c hc => ?_) h
    cases hc
    exact .timed
  | connect sessionId => exact .of_endpoint (fun e r hr => .connected (.of_yields hr)) h
  | connectTo sessionId remote => exact .of_endpoint (fun e r hr => .connectedTo (.of_yields hr)) h
  | channel => exact .of_endpoint (fun e r hr => .channelled (.of_yields hr)) h
  | sharesControl | describe =>
    -- they only look at the slot
    cases held
    all_goals
      cases h
      exact .idle nofun
  | toDiscovery =>
    refine .of_connection (fun c hc => ?_) h
    obtain ⟨r, hr, hmade, rfl⟩ := yields_made hc
    obtain ⟨rfl, rfl⟩ := Prod.ext_iff.mp hmade
    exact .wrapped (.of_yields hr)
  | toConnection =>
    refine .of_discovery (fun d hd => ?_) h
    cases hd
    exact .unwrapped
  | toAsync =>
    refine .of_discovery (fun d hd => ?_) h
    obtain ⟨r, hr, hmade, rfl⟩ := yields_made hd
    obtain ⟨rfl, rfl⟩ := Prod.ext_iff.mp hmade
    exact .watched (.of_yields hr)
  | toBlocking =>
    refine .of_async (fun a ha => ?_) .of_inapplicable h
    obtain ⟨r, hr, hmade, rfl⟩ := yields_made ha
    obtain ⟨rfl, rfl⟩ := Prod.ext_iff.mp hmade
    exact .unwatched (.of_yields hr)
  | setNonblocking on =>
    cases he : held.bind socket? with
    | none =>
      simp only [act, he] at h
      exact .of_inapplicable h
    | some d =>
      simp only [act, he] at h
      obtain ⟨r, hr, ⟨⟩, rfl⟩ := Shared.yields_lift_map.mp h
      obtain ⟨e, rfl, hsocket⟩ := Option.bind_eq_some_iff.mp he
      exact .switched hsocket (.of_yields hr)
  | send frame =>
    refine .of_async (fun a ha => ?_) (.of_lift_transfer rfl .sent) h
    obtain ⟨⟨r, a'⟩, hr, ⟨⟩, rfl⟩ := Shared.yields_lift_map.mp ha
    exact .awaited rfl (.of_yields_send hr)
  | receive capacity =>
    refine .of_async (fun a ha => ?_) (.of_lift_transfer rfl .received) h
    obtain ⟨⟨r, a'⟩, hr, ⟨⟩, rfl⟩ := Shared.yields_lift_map.mp ha
    exact .awaited rfl (.of_yields_receive hr)
  | sendNow frame => exact .of_lift_transfer rfl .sent h
  | receiveNow capacity => exact .of_lift_transfer rfl .received h

end

end Endpoint

/-! ### Operations on the workbench -/

namespace Workbench

variable {slots : Nat}

inductive Performing (w : Workbench slots) : Operation slots → Trace → Reply → Workbench slots →
    Prop
  | opened {t : Trace} {r : Except SetupError Descriptor} {s : ControlSocket} :
    Opening w.control t r s →
    Performing w .openControl t (.ofResult .descriptor r) { w with control := s }
  | closed {t : Trace} : Shutting w.control t →
    Performing w .closeControl t .done { w with control := .closed }
  | described : Performing w .describeControl [] (.text w.control.description) w
  | invalidIndex {text : String} {e : SetupError} : InterfaceName.validate text = .error e →
    Performing w (.resolveIndex text) [] (.failed e) w
  | resolvedIndex {text : String} {name : InterfaceName} {t : Trace} {r : Except SetupError UInt32}
    {s : ControlSocket} :
    InterfaceName.validate text = .ok name → ResolvingIndex name w.control t r s →
    Performing w (.resolveIndex text) t (.ofResult .index r) { w with control := s }
  | invalidAddress {text : String} {e : SetupError} : InterfaceName.validate text = .error e →
    Performing w (.resolveAddress text) [] (.failed e) w
  | resolvedAddress {text : String} {name : InterfaceName} {t : Trace}
    {r : Except SetupError MacAddress} {s : ControlSocket} :
    InterfaceName.validate text = .ok name → ResolvingAddress name w.control t r s →
    Performing w (.resolveAddress text) t (.ofResult .address r) { w with control := s }
  | acted {slot : Fin slots} {action : Action} {t : Trace} {reply : Reply}
    {held : Option Endpoint} {s : ControlSocket} :
    Endpoint.Acting (w.held slot) w.control action t reply held s →
    Performing w (.act slot action) t reply
      (({ w with control := s } : Workbench slots).put slot held)

variable {w w' : Workbench slots} {t : Trace} {reply : Reply}

lemma yields_withControl {p : Shared Reply} (h : (w.withControl p).Yields t (reply, w')) :
    ∃ s, (p.run w.control).Yields t (reply, s) ∧ w' = { w with control := s } := by
  obtain ⟨u, v, ⟨r, s⟩, rfl, hp, hr⟩ := Program.yields_bind.mp h
  cases hr
  exact ⟨s, by simpa using hp, rfl⟩

lemma yields_resolve {α : Type} {s s' : ControlSocket} {text : String} {answer : α → Reply}
    {question : InterfaceName → Attempt α}
    (h : ((resolve text answer question).run s).Yields t (reply, s')) :
    (∃ e, InterfaceName.validate text = .error e ∧ t = [] ∧ reply = .failed e ∧ s' = s) ∨
    ∃ name r, InterfaceName.validate text = .ok name ∧
      ((question name).run.run s).Yields t (r, s') ∧ reply = .ofResult answer r := by
  cases hv : InterfaceName.validate text with
  | error e =>
    simp only [resolve, hv] at h
    cases h
    exact .inl ⟨e, rfl, rfl, rfl, rfl⟩
  | ok name =>
    simp only [resolve, hv] at h
    obtain ⟨r, hr, rfl⟩ := Shared.yields_map.mp h
    exact .inr ⟨name, r, rfl, hr, rfl⟩

theorem Performing.of_yields {op : Operation slots} (h : (w.perform op).Yields t (reply, w')) :
    Performing w op t reply w' := by
  cases op with
  | openControl =>
    obtain ⟨s, hp, rfl⟩ := yields_withControl h
    obtain ⟨r, ho, rfl⟩ := Shared.yields_map.mp hp
    exact .opened (.of_yields ho)
  | closeControl =>
    obtain ⟨s, hp, rfl⟩ := yields_withControl h
    obtain ⟨_, hc, rfl⟩ := Shared.yields_map.mp hp
    obtain ⟨hs, rfl⟩ := Shutting.of_yields hc
    exact .closed hs
  | describeControl =>
    obtain ⟨s, hp, rfl⟩ := yields_withControl h
    cases hp
    exact .described
  | resolveIndex text =>
    obtain ⟨s, hp, rfl⟩ := yields_withControl h
    obtain ⟨e, hv, rfl, rfl, rfl⟩ | ⟨name, r, hv, hr, rfl⟩ := yields_resolve hp
    · exact .invalidIndex hv
    · exact .resolvedIndex hv (.of_yields hr)
  | resolveAddress text =>
    obtain ⟨s, hp, rfl⟩ := yields_withControl h
    obtain ⟨e, hv, rfl, rfl, rfl⟩ | ⟨name, r, hv, hr, rfl⟩ := yields_resolve hp
    · exact .invalidAddress hv
    · exact .resolvedAddress hv (.of_yields hr)
  | act slot action =>
    obtain ⟨u, v, ⟨⟨_, _⟩, _⟩, rfl, ha, hr⟩ := Program.yields_bind.mp h
    cases hr
    rw [List.append_nil]
    exact .acted (.of_yields ha)

end Workbench

end PppoeSetup
