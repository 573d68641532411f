import PppoeSetup.Discovery.Async
import PppoeSetup.Discovery.Configured
import PppoeSetup.Proofs.Course.Connection
import PppoeSetup.Proofs.Kernel.Use

/-!
# Courses of the discovery sockets

How connections are wrapped for discovery and given back, and how frames are transferred. A
conversion that fails costs both sockets of the connection.
-/

namespace PppoeSetup

open Kernel Connection

namespace DiscoverySocket

/-- A ready connection is wrapped, and any other one goes away. -/
inductive Wrapping (c : Connection) : Trace → Except SetupError DiscoverySocket → Prop
  | wrapped {session fd : Descriptor} : c.session = some session → c.discovery = some fd →
    Wrapping c [] (.ok ⟨c, fd, .none⟩)
  | refused {t : Trace} : c.state ≠ .ready → Releasing c t → Wrapping c t (.error .notReady)

/-- A connection is brought up on an interface and wrapped, or it goes away. -/
inductive FreshOpening (c : Connection) (name : String) (s : ControlSocket) :
    Trace → Except SetupError DiscoverySocket → ControlSocket → Prop
  | failed {t u : Trace} {e : SetupError} {c' : Connection} {s' : ControlSocket} :
    BringUp c (some name) s t (.error e) c' s' → Releasing c' u →
    FreshOpening c name s (t ++ u) (.error e) s'
  | broughtUp {t u : Trace} {c' : Connection} {r : Except SetupError DiscoverySocket}
    {s' : ControlSocket} :
    BringUp c (some name) s t (.ok ()) c' s' → Wrapping c' u r →
    FreshOpening c name s (t ++ u) r s'

/-- The flags are read, and written with one of them changed. -/
inductive ModeSetting (d : DiscoverySocket) (nonblocking : Bool) :
    Trace → Except SetupError Unit → Prop
  | unread (e : Errno) :
    ModeSetting d nonblocking [.call (.statusFlags d.rawFd) (.error e)] (.error (.io (.os e)))
  | refused (flags : UInt32) (e : Errno) :
    ModeSetting d nonblocking
      [.call (.statusFlags d.rawFd) (.ok flags),
        .call (.setStatusFlags d.rawFd (withMode flags nonblocking)) (.error e)]
      (.error (.io (.os e)))
  | set (flags : UInt32) :
    ModeSetting d nonblocking
      [.call (.statusFlags d.rawFd) (.ok flags),
        .call (.setStatusFlags d.rawFd (withMode flags nonblocking)) (.ok ()),
        .event (.modeSet d.connection.name nonblocking)]
      (.ok ())

/-- A socket whose configured mode cannot be set is closed. -/
inductive ConfiguredOpening (config : SetupConfig) (s : ControlSocket) :
    Trace → Except SetupError DiscoverySocket → ControlSocket → Prop
  | unnamed : config.interface? = none →
    ConfiguredOpening config s [] (.error (.config "no interface configured")) s
  | failed {name : String} {t : Trace} {e : SetupError} {s' : ControlSocket} :
    config.interface? = some name → FreshOpening (.ofConfig config) name s t (.error e) s' →
    ConfiguredOpening config s t (.error e) s'
  | blocking {name : String} {t : Trace} {d : DiscoverySocket} {s' : ControlSocket} :
    config.interface? = some name → config.nonblocking = false →
    FreshOpening (.ofConfig config) name s t (.ok d) s' →
    ConfiguredOpening config s t (.ok d) s'
  | unswitched {name : String} {t u v : Trace} {d : DiscoverySocket} {e : SetupError}
    {s' : ControlSocket} :
    config.interface? = some name → config.nonblocking = true →
    FreshOpening (.ofConfig config) name s t (.ok d) s' → ModeSetting d true u (.error e) →
    Releasing d.connection v → ConfiguredOpening config s (t ++ (u ++ v)) (.error e) s'
  | switched {name : String} {t u : Trace} {d : DiscoverySocket} {s' : ControlSocket} :
    config.interface? = some name → config.nonblocking = true →
    FreshOpening (.ofConfig config) name s t (.ok d) s' → ModeSetting d true u (.ok ()) →
    ConfiguredOpening config s (t ++ u) (.ok d) s'

section

variable {c : Connection} {d : DiscoverySocket} {s s' : ControlSocket} {t : Trace}

lemma Wrapping.of_yields {r : Except SetupError DiscoverySocket}
    (h : (ofConnection c).run.Yields t r) : Wrapping c t r := by
  obtain ⟨_ | session, _ | fd, _ | name, address, index, timeout⟩ := c
  case some.some.none | some.some.some =>
    cases h
    exact .wrapped rfl rfl
  -- some socket is missing
  all_goals
    rcases Fallible.yields_onFailure.mp h with ⟨_, rfl, hr⟩ | ⟨u, v, e, rfl, rfl, hr, hv⟩
    · cases hr
    · cases hr
      refine .refused ?_ (.of_yields hv)
      simp [Connection.state]

lemma FreshOpening.of_yields {name : String} {r : Except SetupError DiscoverySocket}
    (h : ((ofFresh c name).run.run s).Yields t (r, s')) : FreshOpening c name s t r s' := by
  obtain ⟨u, v, ⟨_ | _, c'⟩, s₁, rfl, hb, hk⟩ := Attempt.yields_shared_bind.mp h
  · rcases Attempt.yields_onFailure.mp hk with ⟨_, rfl, hr⟩ | ⟨v, w, e, rfl, rfl, hr, hw⟩
    · cases hr
    · cases hr
      exact .failed (.of_yields hb) (.of_yields hw)
  · obtain ⟨hw, rfl⟩ := Attempt.yields_ofFallible.mp hk
    exact .broughtUp (.of_yields hb) (.of_yields hw)

lemma ModeSetting.of_yields {nonblocking : Bool} {r : Except SetupError Unit}
    (h : (d.setNonblocking nonblocking).run.Yields t r) : ModeSetting d nonblocking t r := by
  cases h with
  | ask answer h =>
    cases answer with
    | error e =>
      cases h
      exact .unread e
    | ok flags =>
      cases h with
      | ask answer h =>
        cases answer with
        | error e =>
          cases h
          exact .refused flags e
        | ok _ =>
          cases h with
          | tell h =>
            cases h
            exact .set flags

lemma ConfiguredOpening.of_yields {config : SetupConfig} {r : Except SetupError DiscoverySocket}
    (h : ((ofConfig config).run.run s).Yields t (r, s')) : ConfiguredOpening config s t r s' := by
  cases hi : config.interface? with
  | none =>
    simp only [ofConfig, hi] at h
    cases h
    exact .unnamed hi
  | some name =>
    simp only [ofConfig, hi] at h
    rcases Attempt.yields_bind.mp h with ⟨e, rfl, ho⟩ | ⟨u, v, d, s₁, rfl, ho, hk⟩
    · exact .failed hi (.of_yields ho)
    · cases hn : config.nonblocking with
      | false =>
        simp only [hn] at hk
        cases hk
        rw [List.append_nil]
        exact .blocking hi hn (.of_yields ho)
      | true =>
        simp only [hn] at hk
        -- the mode is set last; if that fails, the socket is released
        rcases Attempt.yields_bind.mp hk with ⟨e, rfl, hm⟩ | ⟨v, w, _, s₂, rfl, hm, hr⟩
        · obtain ⟨hf, rfl⟩ := Attempt.yields_ofFallible.mp hm
          rcases Fallible.yields_onFailure.mp hf with ⟨_, ⟨⟩, -⟩ | ⟨v, w, e, rfl, ⟨⟩, hs, hw⟩
          exact .unswitched hi hn (.of_yields ho) (.of_yields hs) (.of_yields hw)
        · obtain ⟨hf, rfl⟩ := Attempt.yields_ofFallible.mp hm
          obtain ⟨rfl, ⟨⟩, rfl⟩ := Attempt.yields_pure.mp hr
          rcases Fallible.yields_onFailure.mp hf with ⟨_, ⟨⟩, hs⟩ | ⟨_, _, _, _, ⟨⟩, -⟩
          rw [List.append_nil]
          exact .switched hi hn (.of_yields ho) (.of_yields hs)

end

/-! ### Transfers -/

section

variable {d d' : DiscoverySocket} {t : Trace}

lemma yields_send {frame : List UInt8} {r : Except Errno Nat} :
    (d.send frame).Yields t (r, d') ↔
      t = [.call (.send d.rawFd frame) r] ∧ d' = { d with traffic := countSent d.traffic r } := by
  constructor
  · intro h
    cases h with
    | ask answer h =>
      cases h
      exact ⟨rfl, rfl⟩
  · rintro ⟨rfl, rfl⟩
    exact .ask (r := .send d.rawFd frame) r (.done _)

lemma yields_receive {capacity : Nat} {r : Except Errno Received} :
    (d.receive capacity).Yields t (r, d') ↔
      ∃ answer, t = [.call (.receive d.rawFd capacity) answer] ∧
        r = answer.map Received.ofDatagram ∧
        d' = { d with traffic := countReceived d.traffic r } := by
  constructor
  · intro h
    cases h with
    | ask answer h =>
      cases h
      exact ⟨answer, rfl, rfl, rfl⟩
  · rintro ⟨answer, rfl, rfl, rfl⟩
    exact .ask (r := .receive d.rawFd capacity) answer (.done _)

end

/-- A frame is transferred at once, and the socket keeps count of it. -/
inductive Transferring (d : DiscoverySocket) : Trace → DiscoverySocket → Prop
  | sent {frame : List UInt8} {r : Except Errno Nat} {t : Trace} {d' : DiscoverySocket} :
    (d.send frame).Yields t (r, d') → Transferring d t d'
  | received {capacity : Nat} {r : Except Errno Received} {t : Trace} {d' : DiscoverySocket} :
    (d.receive capacity).Yields t (r, d') → Transferring d t d'

lemma Transferring.exchanges {d d' : DiscoverySocket} {t : Trace} (h : Transferring d t d') :
    t.Asks (Request.Exchanges d.rawFd) ∧ d'.rawFd = d.rawFd := by
  cases h with
  | sent h =>
    obtain ⟨rfl, rfl⟩ := yields_send.mp h
    exact ⟨Trace.asks_call.mpr ⟨rfl, Trace.asks_nil⟩, rfl⟩
  | received h =>
    obtain ⟨_, rfl, -, rfl⟩ := yields_receive.mp h
    exact ⟨Trace.asks_call.mpr ⟨rfl, Trace.asks_nil⟩, rfl⟩

end DiscoverySocket

namespace AsyncSocket

open DiscoverySocket

/-- A socket that the reactor does not take is closed. -/
inductive Watching (d : DiscoverySocket) : Trace → Except SetupError AsyncSocket → Prop
  | unswitched {t u : Trace} {e : SetupError} :
    ModeSetting d true t (.error e) → Releasing d.connection u →
    Watching d (t ++ u) (.error e)
  | unwatched {t u : Trace} (e : Errno) :
    ModeSetting d true t (.ok ()) → Releasing d.connection u →
    Watching d (t ++ .call (.register d.rawFd) (.error e) :: u) (.error (.io (.os e)))
  | watched {t : Trace} :
    ModeSetting d true t (.ok ()) →
    Watching d (t ++ [.call (.register d.rawFd) (.ok ())]) (.ok ⟨d⟩)

/-- A socket that cannot be switched back is closed. -/
inductive Unwatching (a : AsyncSocket) : Trace → Except SetupError DiscoverySocket → Prop
  | unswitched {t u : Trace} {e : SetupError} :
    ModeSetting a.socket false t (.error e) → Releasing a.socket.connection u →
    Unwatching a (t ++ u) (.error e)
  | switched {t : Trace} :
    ModeSetting a.socket false t (.ok ()) → Unwatching a t (.ok a.socket)

/-- One attempt per notification, for as long as the kernel puts the operation off. -/
inductive Retrying {α : Type}
    (attempt : DiscoverySocket → Program (Except Errno α × DiscoverySocket)) :
    Nat → DiscoverySocket → Trace → Poll (Except Errno α) → DiscoverySocket → Prop
  | exhausted (d : DiscoverySocket) : Retrying attempt 0 d [] .pending d
  | putOff {n : Nat} {d d₁ d' : DiscoverySocket} {t u : Trace} {r : Poll (Except Errno α)} :
    (attempt d).Yields t (.error .again, d₁) → Retrying attempt n d₁ u r d' →
    Retrying attempt (n + 1) d (t ++ u) r d'
  | finished {n : Nat} {d d' : DiscoverySocket} {t : Trace} {r : Except Errno α} :
    r ≠ .error .again → (attempt d).Yields t (r, d') →
    Retrying attempt (n + 1) d t (.finished r) d'

/-- A frame is transferred as the reactor's notifications come in. -/
inductive Awaiting (d : DiscoverySocket) : Trace → DiscoverySocket → Prop
  | sent {frame : List UInt8} {n : Nat} {r : Poll (Except Errno Nat)} {t : Trace}
    {d' : DiscoverySocket} :
    Retrying (·.send frame) n d t r d' →
    Awaiting d (.call (.notifications d.rawFd .writing) n :: t) d'
  | received {capacity n : Nat} {r : Poll (Except Errno Received)} {t : Trace}
    {d' : DiscoverySocket} :
    Retrying (·.receive capacity) n d t r d' →
    Awaiting d (.call (.notifications d.rawFd .reading) n :: t) d'

section

variable {α : Type} {d d' : DiscoverySocket} {t : Trace}

lemma Watching.of_yields {r : Except SetupError AsyncSocket} (h : (ofSocket d).run.Yields t r) :
    Watching d t r := by
  rcases Fallible.yields_onFailure.mp h with ⟨a, rfl, hk⟩ | ⟨u, v, e, rfl, rfl, hk, hv⟩
  · rcases Fallible.yields_bind.mp hk with ⟨_, ⟨⟩, -⟩ | ⟨u, v, _, rfl, hm, hw⟩
    cases hw with
    | ask answer hw =>
      cases answer with
      | error e => cases hw
      | ok _ =>
        cases hw
        exact .watched (.of_yields hm)
  · rcases Fallible.yields_bind.mp hk with ⟨_, ⟨⟩, hm⟩ | ⟨u, w, _, rfl, hm, hw⟩
    · exact .unswitched (.of_yields hm) (.of_yields hv)
    · cases hw with
      | ask answer hw =>
        cases answer with
        | error e =>
          cases hw
          simpa using Watching.unwatched e (.of_yields hm) (.of_yields hv)
        | ok _ => cases hw

lemma Unwatching.of_yields {a : AsyncSocket} {r : Except SetupError DiscoverySocket}
    (h : a.toSocket.run.Yields t r) : Unwatching a t r := by
  rcases Fallible.yields_onFailure.mp h with ⟨d, rfl, hk⟩ | ⟨u, v, e, rfl, rfl, hk, hv⟩
  · rcases Fallible.yields_bind.mp hk with ⟨_, ⟨⟩, -⟩ | ⟨u, v, _, rfl, hm, hr⟩
    cases hr
    rw [List.append_nil]
    exact .switched (.of_yields hm)
  · rcases Fallible.yields_bind.mp hk with ⟨_, ⟨⟩, hm⟩ | ⟨u, w, _, rfl, hm, hr⟩
    · exact .unswitched (.of_yields hm) (.of_yields hv)
    · cases hr

lemma Retrying.of_yields
    {attempt : DiscoverySocket → Program (Except Errno α × DiscoverySocket)} {n : Nat}
    {r : Poll (Except Errno α)} (h : (retry attempt n d).Yields t (r, d')) :
    Retrying attempt n d t r d' := by
  induction n generalizing d t with
  | zero =>
    cases h
    exact .exhausted d'
  | succ n ih =>
    obtain ⟨u, v, ⟨e | a, d₁⟩, rfl, ha, hk⟩ := Program.yields_bind.mp h
    · by_cases he : e = .again
      · simp only [if_pos he] at hk
        subst he
        exact .putOff ha (ih hk)
      · simp only [if_neg he] at hk
        cases hk
        rw [List.append_nil]
        exact .finished (by simpa using he) ha
    · cases hk
      rw [List.append_nil]
      exact .finished (by simp) ha

lemma Retrying.exchanges
    {attempt : DiscoverySocket → Program (Except Errno α × DiscoverySocket)} {n : Nat}
    {r : Poll (Except Errno α)}
    (ha : ∀ {d t r d'}, (attempt d).Yields t (r, d') → Transferring d t d')
    (h : Retrying attempt n d t r d') :
    t.Asks (Request.Exchanges d.rawFd) ∧ d'.rawFd = d.rawFd := by
  induction h with
  | exhausted => exact ⟨Trace.asks_nil, rfl⟩
  | putOff h _ ih =>
    obtain ⟨hfirst, hfd⟩ := (ha h).exchanges
    rw [hfd] at ih
    exact ⟨Trace.asks_append.mpr ⟨hfirst, ih.1⟩, ih.2⟩
  | finished _ h => exact (ha h).exchanges

lemma Awaiting.exchanges (h : Awaiting d t d') :
    t.Asks (Request.Exchanges d.rawFd) ∧ d'.rawFd = d.rawFd := by
  cases h with
  | sent h =>
    obtain ⟨ht, hfd⟩ := h.exchanges .sent
    exact ⟨Trace.asks_call.mpr ⟨rfl, ht⟩, hfd⟩
  | received h =>
    obtain ⟨ht, hfd⟩ := h.exchanges .received
    exact ⟨Trace.asks_call.mpr ⟨rfl, ht⟩, hfd⟩

/-- A transfer asks the reactor how often to try, and then does. -/
lemma exists_retrying {a a' : AsyncSocket} {direction : Direction}
    {attempt : DiscoverySocket → Program (Except Errno α × DiscoverySocket)}
    {r : Poll (Except Errno α)}
    (h : (do
      let n ← Program.call (.notifications a.socket.rawFd direction)
      let (result, socket) ← retry attempt n a.socket
      return (result, (⟨socket⟩ : AsyncSocket)) : Program _).Yields t (r, a')) :
    ∃ n u, t = .call (.notifications a.socket.rawFd direction) n :: u ∧
      Retrying attempt n a.socket u r a'.socket := by
  obtain ⟨_, u, n, rfl, hn, hu⟩ := Program.yields_bind.mp h
  obtain rfl := Program.yields_call.mp hn
  obtain ⟨u, v, ⟨_, _⟩, rfl, hr, hk⟩ := Program.yields_bind.mp hu
  cases hk
  rw [List.append_nil]
  exact ⟨n, u, rfl, .of_yields hr⟩

lemma Awaiting.of_yields_send {a a' : AsyncSocket} {frame : List UInt8}
    {r : Poll (Except Errno Nat)} (h : (a.send frame).Yields t (r, a')) :
    Awaiting a.socket t a'.socket := by
  obtain ⟨n, u, rfl, hr⟩ := exists_retrying h
  exact .sent hr

lemma Awaiting.of_yields_receive {a a' : AsyncSocket} {capacity : Nat}
    {r : Poll (Except Errno Received)} (h : (a.receive capacity).Yields t (r, a')) :
    Awaiting a.socket t a'.socket := by
  obtain ⟨n, u, rfl, hr⟩ := exists_retrying h
  exact .received hr

end

end AsyncSocket

end PppoeSetup
