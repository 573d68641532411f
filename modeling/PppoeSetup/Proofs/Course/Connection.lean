import PppoeSetup.Connection
import PppoeSetup.Proofs.Course.Control

/-!
# Courses of a connection

How the operations of a connection can go, step by step, with all that is acquired and released
on the way.
-/

namespace PppoeSetup

open Kernel ControlSocket

namespace Connection

/-! ### Naming -/

/-- A connection is named once, after its hardware address has been resolved. -/
inductive Naming (c : Connection) (text : String) (s : ControlSocket) :
    Trace → Except SetupError Unit → Connection → ControlSocket → Prop
  | taken {current : InterfaceName} : c.name = some current →
    Naming c text s [] (.error (.alreadyNamed current.text)) c s
  | invalid {e : SetupError} : c.name = none → InterfaceName.validate text = .error e →
    Naming c text s [] (.error e) c s
  | unresolved {name : InterfaceName} {t : Trace} {e : SetupError} {s' : ControlSocket} :
    c.name = none → InterfaceName.validate text = .ok name →
    ResolvingAddress name s t (.error e) s' →
    Naming c text s t (.error e.whileNaming) c s'
  | named {name : InterfaceName} {t : Trace} {address : MacAddress} {s' : ControlSocket} :
    c.name = none → InterfaceName.validate text = .ok name →
    ResolvingAddress name s t (.ok address) s' →
    Naming c text s (t ++ [.event (.named name address)]) (.ok ())
      { c with name := some name, address } s'

/-- A requested name is applied to a connection without one, and told if it is another one. -/
inductive Adoption (c : Connection) (s : ControlSocket) :
    Option String → Trace → Except SetupError Unit → Connection → ControlSocket → Prop
  | unasked : Adoption c s none [] (.ok ()) c s
  | applied {text : String} {t : Trace} {r : Except SetupError Unit} {c' : Connection}
    {s' : ControlSocket} :
    c.name = none → Naming c text s t r c' s' → Adoption c s (some text) t r c' s'
  | confirmed {current : InterfaceName} :
    c.name = some current → Adoption c s (some current.text) [] (.ok ()) c s
  | kept {text : String} {current : InterfaceName} :
    c.name = some current → current.text ≠ text →
    Adoption c s (some text) [.event (.nameKept current text)] (.ok ()) c s

section

variable {c c' : Connection} {s s' : ControlSocket} {t : Trace} {r : Except SetupError Unit}

lemma Naming.of_yields {text : String} (h : ((c.setName text).run s).Yields t ((r, c'), s')) :
    Naming c text s t r c' s' := by
  unfold setName at h
  -- a name that is there is looked at first, then the text, and only then the kernel is asked
  split at h
  next current hc =>
    cases h
    exact .taken hc
  next hc =>
    split at h
    next e hv =>
      cases h
      exact .invalid hc hv
    next name hv =>
      obtain ⟨u, v, answer, s₁, rfl, ha, hk⟩ := Shared.yields_bind.mp h
      cases answer with
      | error e =>
        cases hk
        simpa using Naming.unresolved hc hv (.of_yields ha)
      | ok address =>
        cases hk with
        | tell hk =>
          cases hk
          exact .named hc hv (.of_yields ha)

lemma Adoption.of_yields {requested : Option String}
    (h : ((c.adoptName requested).run s).Yields t ((r, c'), s')) :
    Adoption c s requested t r c' s' := by
  cases requested with
  | none =>
    cases h
    exact .unasked
  | some text =>
    cases hc : c.name with
    | none =>
      simp only [adoptName, hc] at h
      exact .applied hc (.of_yields h)
    | some current =>
      simp only [adoptName, hc] at h
      -- the name that is there stays, whether or not it is the one that is asked for
      by_cases heq : current.text = text
      · subst heq
        rw [if_neg (not_not.mpr rfl)] at h
        cases h
        exact .confirmed hc
      · rw [if_pos heq] at h
        cases h with
        | tell h =>
          cases h
          exact .kept hc heq

lemma Naming.eq_of_error {text : String} {e : SetupError}
    (h : Naming c text s t (.error e) c' s') : c' = c := by
  cases h <;> rfl

/-- Naming leaves the sockets and the limit alone. -/
lemma Naming.keeps {text : String} {r : Except SetupError Unit} (h : Naming c text s t r c' s') :
    c'.session = c.session ∧ c'.discovery = c.discovery ∧ c'.timeout = c.timeout := by
  cases h <;> exact ⟨rfl, rfl, rfl⟩

lemma Adoption.keeps {requested : Option String} {r : Except SetupError Unit}
    (h : Adoption c s requested t r c' s') :
    c'.session = c.session ∧ c'.discovery = c.discovery ∧ c'.timeout = c.timeout := by
  cases h with
  | applied _ hn => exact hn.keeps
  | _ => exact ⟨rfl, rfl, rfl⟩

end

/-! ### Sockets -/

/-- A discovery socket that may not send to the broadcast address is closed again. -/
inductive DiscoveryOpening : Trace → Except SetupError Descriptor → Prop
  | refused (e : Errno) :
    DiscoveryOpening [.call (.openSocket .discovery) (.error e)]
      (.error (.socketCreate .discovery (.os e)))
  | silenced (fd : Descriptor) (e : Errno) (closing : Except Errno Unit) :
    DiscoveryOpening
      [.call (.openSocket .discovery) (.ok fd), .call (.setOption fd .broadcast) (.error e),
        .call (.close fd) closing]
      (.error (.socketCreate .discovery (.os e)))
  | opened (fd : Descriptor) :
    DiscoveryOpening
      [.call (.openSocket .discovery) (.ok fd), .call (.setOption fd .broadcast) (.ok ())]
      (.ok fd)

lemma DiscoveryOpening.of_yields {t : Trace} {r : Except SetupError Descriptor}
    (h : openDiscovery.run.Yields t r) : DiscoveryOpening t r := by
  cases h with
  | ask answer h =>
    cases answer with
    | error e =>
      cases h
      exact .refused e
    | ok fd =>
      cases h with
      | ask answer h =>
        cases answer with
        | error e =>
          cases h with
          | ask closing h =>
            cases h
            exact .silenced fd e closing
        | ok _ =>
          cases h
          exact .opened fd

/-- A discovery socket is bound to the index that the name has just been resolved to. -/
inductive Binding (c : Connection) (fd : Descriptor) (s : ControlSocket) :
    Trace → Except SetupError UInt32 → ControlSocket → Prop
  | unnamed : c.name = none →
    Binding c fd s [] (.error (.bind "" (.other "no interface name set"))) s
  | unresolved {name : InterfaceName} {t : Trace} {e : SetupError} {s' : ControlSocket} :
    c.name = some name → ResolvingIndex name s t (.error e) s' →
    Binding c fd s t (.error e.whileBinding) s'
  | refused {name : InterfaceName} {t : Trace} {index : UInt32} {s' : ControlSocket} (e : Errno) :
    c.name = some name → ResolvingIndex name s t (.ok index) s' →
    Binding c fd s (t ++ [.call (.bind fd (.discoveryOn index)) (.error e)])
      (.error (.bind name.text (.os e))) s'
  | bound {name : InterfaceName} {t : Trace} {index : UInt32} {s' : ControlSocket} :
    c.name = some name → ResolvingIndex name s t (.ok index) s' →
    Binding c fd s
      (t ++ [.call (.bind fd (.discoveryOn index)) (.ok ()), .event (.bound name index)])
      (.ok index) s'

/-- A discovery socket that cannot be bound is closed again. -/
inductive BoundOpening (c : Connection) (s : ControlSocket) :
    Trace → Except SetupError (Descriptor × UInt32) → ControlSocket → Prop
  | unopened {t : Trace} {e : SetupError} : DiscoveryOpening t (.error e) →
    BoundOpening c s t (.error e) s
  | unbound {t u : Trace} {fd : Descriptor} {e : SetupError} {s' : ControlSocket}
    (closing : Except Errno Unit) :
    DiscoveryOpening t (.ok fd) → Binding c fd s u (.error e) s' →
    BoundOpening c s (t ++ .event (.discoveryOpened fd) :: u ++ [.call (.close fd) closing])
      (.error e) s'
  | bound {t u : Trace} {fd : Descriptor} {index : UInt32} {s' : ControlSocket} :
    DiscoveryOpening t (.ok fd) → Binding c fd s u (.ok index) s' →
    BoundOpening c s (t ++ .event (.discoveryOpened fd) :: u) (.ok (fd, index)) s'

/-- A session socket is closed again if the discovery socket does not follow. -/
inductive SocketsOpening (c : Connection) (requested : Option String) (s : ControlSocket) :
    Trace → Except SetupError Sockets → Connection → ControlSocket → Prop
  | refused (e : Errno) :
    SocketsOpening c requested s [.call (.openSocket .session) (.error e)]
      (.error (.socketCreate .session (.os e))) c s
  | unnamed {fd : Descriptor} {t : Trace} {e : SetupError} {c' : Connection} {s' : ControlSocket}
    (closing : Except Errno Unit) :
    Adoption c s requested t (.error e) c' s' →
    SocketsOpening c requested s
      (.call (.openSocket .session) (.ok fd) :: .event (.sessionOpened fd) :: t ++
        [.call (.close fd) closing])
      (.error e) c' s'
  | unbound {fd : Descriptor} {t u : Trace} {e : SetupError} {c' : Connection}
    {s₁ s' : ControlSocket} (closing : Except Errno Unit) :
    Adoption c s requested t (.ok ()) c' s₁ → BoundOpening c' s₁ u (.error e) s' →
    SocketsOpening c requested s
      (.call (.openSocket .session) (.ok fd) :: .event (.sessionOpened fd) :: t ++ u ++
        [.call (.close fd) closing])
      (.error e) c' s'
  | opened {session discovery : Descriptor} {index : UInt32} {t u : Trace} {c' : Connection}
    {s₁ s' : ControlSocket} :
    Adoption c s requested t (.ok ()) c' s₁ → BoundOpening c' s₁ u (.ok (discovery, index)) s' →
    SocketsOpening c requested s
      (.call (.openSocket .session) (.ok session) :: .event (.sessionOpened session) :: t ++ u)
      (.ok ⟨session, discovery, index⟩) c' s'

section

variable {c c' : Connection} {s s' : ControlSocket} {t : Trace}

lemma Binding.of_yields {fd : Descriptor} {r : Except SetupError UInt32}
    (h : ((c.bindDiscovery fd).run.run s).Yields t (r, s')) : Binding c fd s t r s' := by
  unfold bindDiscovery at h
  split at h
  next hc =>
    cases h
    exact .unnamed hc
  next name hc =>
    -- without an index nothing is bound
    rcases Attempt.yields_bind.mp h with ⟨e, rfl, hi⟩ | ⟨u, v, index, s₁, rfl, hi, hb⟩
    · obtain ⟨_ | _, hq, ⟨⟩⟩ := Attempt.yields_adapt.mp hi
      exact .unresolved hc (.of_yields hq)
    · obtain ⟨_ | _, hq, ⟨⟩⟩ := Attempt.yields_adapt.mp hi
      cases hb with
      | ask answer hb =>
        cases answer with
        | error e =>
          cases hb
          exact .refused e hc (.of_yields hq)
        | ok _ =>
          cases hb with
          | tell hb =>
            cases hb
            exact .bound hc (.of_yields hq)

lemma BoundOpening.of_yields {r : Except SetupError (Descriptor × UInt32)}
    (h : (c.openBound.run.run s).Yields t (r, s')) : BoundOpening c s t r s' := by
  rcases Attempt.yields_bind.mp h with ⟨e, rfl, ho⟩ | ⟨u, v, fd, s₁, rfl, ho, hb⟩
  · obtain ⟨hd, rfl⟩ := Attempt.yields_ofFallible.mp ho
    exact .unopened (.of_yields hd)
  · obtain ⟨hd, rfl⟩ := Attempt.yields_ofFallible.mp ho
    -- what fails after the opening closes the socket again
    rcases Attempt.yields_onFailure.mp hb with ⟨b, rfl, hn⟩ | ⟨v, w, e, rfl, rfl, hn, hw⟩
    · obtain ⟨v, w, _, rfl, hv, hi⟩ := Attempt.yields_lift_bind.mp hn
      obtain rfl := Program.yields_note.mp hv
      rcases Attempt.yields_bind.mp hi with ⟨e, ⟨⟩, -⟩ | ⟨w, x, index, s₂, rfl, hi, hr⟩
      obtain ⟨rfl, ⟨⟩, rfl⟩ := Attempt.yields_pure.mp hr
      simpa using BoundOpening.bound (.of_yields hd) (.of_yields hi)
    · obtain ⟨v, x, _, rfl, hv, hi⟩ := Attempt.yields_lift_bind.mp hn
      obtain rfl := Program.yields_note.mp hv
      obtain ⟨closing, rfl⟩ := Program.yields_close.mp hw
      rcases Attempt.yields_bind.mp hi with ⟨e, ⟨⟩, hi⟩ | ⟨_, x, index, s₂, rfl, -, hr⟩
      · simpa using BoundOpening.unbound closing (.of_yields hd) (.of_yields hi)
      · obtain ⟨-, ⟨⟩, -⟩ := Attempt.yields_pure.mp hr

lemma SocketsOpening.of_yields {requested : Option String} {r : Except SetupError Sockets}
    (h : ((c.openSockets requested).run s).Yields t ((r, c'), s')) :
    SocketsOpening c requested s t r c' s' := by
  cases h with
  | ask answer h =>
    cases answer with
    | error e =>
      cases h
      exact .refused e
    | ok session =>
      cases h with
      | tell h =>
        -- both the name and the other socket may still be missing, and then this socket is closed
        obtain ⟨u, v, ⟨_ | _, c₁⟩, s₁, rfl, ha, hb⟩ := Shared.yields_bind.mp h
        · cases hb with
          | ask closing hb =>
            cases hb
            exact .unnamed closing (.of_yields ha)
        · obtain ⟨v, w, _ | ⟨discovery, index⟩, s₂, rfl, hb, hr⟩ := Shared.yields_bind.mp hb
          · cases hr with
            | ask closing hr =>
              cases hr
              simpa using SocketsOpening.unbound closing (.of_yields ha) (.of_yields hb)
          · cases hr
            simpa using SocketsOpening.opened (.of_yields ha) (.of_yields hb)

lemma SocketsOpening.keeps {requested : Option String} {r : Except SetupError Sockets}
    (h : SocketsOpening c requested s t r c' s') :
    c'.session = c.session ∧ c'.discovery = c.discovery ∧ c'.timeout = c.timeout := by
  cases h with
  | refused => exact ⟨rfl, rfl, rfl⟩
  | unnamed _ ha | unbound _ ha _ | opened ha _ => exact ha.keeps

end

/-! ### Closing -/

/-- One socket of a connection is closed, and then it is told. -/
inductive SocketClosing (event : Event) : Option Descriptor → Trace → Prop
  | nothing : SocketClosing event none []
  | closed (fd : Descriptor) (closing : Except Errno Unit) :
    SocketClosing event (some fd) [.call (.close fd) closing, .event event]

/-- The session socket is closed before the discovery socket. -/
inductive Clearing (c : Connection) : Trace → Prop
  | cleared {t u : Trace} : SocketClosing .sessionClosed c.session t →
    SocketClosing .discoveryClosed c.discovery u → Clearing c (t ++ u)

/-- What is held goes away in the same order, untold. -/
inductive Releasing (c : Connection) : Trace → Prop
  | released {t u : Trace} : Closing c.session t → Closing c.discovery u → Releasing c (t ++ u)

/-- A connection is brought up once, and a failure leaves a fresh one. -/
inductive BringUp (c : Connection) (requested : Option String) (s : ControlSocket) :
    Trace → Except SetupError Unit → Connection → ControlSocket → Prop
  | already : c.state = .ready → BringUp c requested s [] (.error .alreadyReady) c s
  | failed {t u : Trace} {e : SetupError} {c₁ : Connection} {s' : ControlSocket} :
    c.state ≠ .ready → SocketsOpening c requested s t (.error e) c₁ s' → Clearing c₁ u →
    BringUp c requested s (t ++ .event (.setupFailed e) :: u) (.error e) (fresh c₁.timeout) s'
  | ready {t u : Trace} {new : Sockets} {c₁ : Connection} {s' : ControlSocket} :
    c.state ≠ .ready → SocketsOpening c requested s t (.ok new) c₁ s' → Releasing c₁ u →
    BringUp c requested s (t ++ u ++ [.event (.ready c₁.name new.index c₁.address)]) (.ok ())
      { c₁ with
        session := some new.session, discovery := some new.discovery, index := some new.index }
      s'

section

variable {c c' : Connection} {s s' : ControlSocket} {t : Trace}

lemma SocketClosing.of_yields {event : Event} {socket : Option Descriptor} {u : Unit}
    (h : (closeSocket socket event).Yields t u) : SocketClosing event socket t := by
  cases socket with
  | none =>
    cases h
    exact .nothing
  | some fd =>
    cases h with
    | ask closing h =>
      cases h with
      | tell h =>
        cases h
        exact .closed fd closing

lemma Clearing.of_yields (h : c.clear.Yields t c') : Clearing c t ∧ c' = fresh c.timeout := by
  obtain ⟨u, v, _, rfl, hu, hv⟩ := Program.yields_bind.mp h
  obtain ⟨v, w, _, rfl, hd, hr⟩ := Program.yields_bind.mp hv
  cases hr
  rw [List.append_nil]
  exact ⟨.cleared (.of_yields hu) (.of_yields hd), rfl⟩

lemma Releasing.of_yields {u : Unit} (h : c.release.Yields t u) : Releasing c t := by
  obtain ⟨u, v, _, rfl, hu, hv⟩ := Program.yields_bind.mp h
  exact .released (.of_yields hu) (.of_yields hv)

/-- Where nothing is held, nothing goes away. -/
lemma Releasing.eq_nil (h : Releasing c t) (hs : c.session = none) (hd : c.discovery = none) :
    t = [] := by
  cases h with
  | released hs' hd' =>
    rw [hs] at hs'
    rw [hd] at hd'
    cases hs'
    cases hd'
    rfl

lemma BringUp.of_yields {requested : Option String} {r : Except SetupError Unit}
    (h : ((c.bringUp requested).run s).Yields t ((r, c'), s')) :
    BringUp c requested s t r c' s' := by
  unfold bringUp at h
  split at h
  next hc =>
    cases h
    exact .already hc
  next hc =>
    obtain ⟨u, v, ⟨_ | _, c₁⟩, s₁, rfl, ho, hk⟩ := Shared.yields_bind.mp h
    · cases hk with
      | tell hk =>
        obtain ⟨c₂, hv, ⟨⟩, rfl⟩ := Shared.yields_lift_map.mp hk
        obtain ⟨hclear, rfl⟩ := Clearing.of_yields hv
        exact .failed hc (.of_yields ho) hclear
    · obtain ⟨v, w, _, rfl, hv, hr⟩ := Shared.yields_lift_bind.mp hk
      cases hr with
      | tell hr =>
        cases hr
        rw [← List.append_assoc]
        exact .ready hc (.of_yields ho) (.of_yields hv)

/-- A ready connection holds everything. -/
lemma state_eq_ready : c.state = .ready ↔ c.session.isSome ∧ c.discovery.isSome := by
  obtain ⟨_ | session, _ | discovery, _ | name, address, index, timeout⟩ := c <;> simp [state]

@[simp] lemma state_fresh (timeout : Option Duration) : (fresh timeout).state = .unnamed := rfl

/-- What does not come up is as good as new. -/
lemma BringUp.eq_fresh {requested : Option String} {e : SetupError}
    (h : BringUp c requested s t (.error e) c' s') (hc : c.state ≠ .ready) :
    c' = fresh c.timeout := by
  cases h with
  | already hr => exact absurd hr hc
  | failed _ ho =>
    obtain ⟨-, -, ht⟩ := ho.keeps
    rw [ht]

end

/-! ### The session -/

/-- The limit of a connect is set right before it, if there is one. -/
inductive Limiting (fd : Descriptor) : Option Duration → Trace → Prop
  | unlimited : Limiting fd none []
  | limited (limit : Duration) :
    Limiting fd (some limit) [.call (.setOption fd (.sendTimeout (.ofDuration limit))) (.ok ())]

/-- A session is connected under the limit, and only on a ready connection. -/
inductive Connecting (c : Connection) (sessionId : UInt16) (remote : MacAddress) :
    Trace → Except SetupError Unit → Prop
  | reserved : sessionId = 0 →
    Connecting c sessionId remote [] (.error (.invalidSessionId sessionId))
  | notReady : sessionId ≠ 0 → c.session = none ∨ c.name = none ∨ c.discovery = none →
    Connecting c sessionId remote [] (.error .notReady)
  | unlimited {fd discovery : Descriptor} {name : InterfaceName} {limit : Duration} (e : Errno) :
    sessionId ≠ 0 → c.session = some fd → c.name = some name → c.discovery = some discovery →
    c.timeout = some limit →
    Connecting c sessionId remote
      [.call (.setOption fd (.sendTimeout (.ofDuration limit))) (.error e)]
      (.error (.connect sessionId (.os e)))
  | refused {fd discovery : Descriptor} {name : InterfaceName} {t : Trace} (e : Errno) :
    sessionId ≠ 0 → c.session = some fd → c.name = some name → c.discovery = some discovery →
    Limiting fd c.timeout t →
    Connecting c sessionId remote (t ++ [.call (.connect fd ⟨sessionId, remote, name⟩) (.error e)])
      (.error (.connect sessionId (.os e)))
  | connected {fd discovery : Descriptor} {name : InterfaceName} {t : Trace} :
    sessionId ≠ 0 → c.session = some fd → c.name = some name → c.discovery = some discovery →
    Limiting fd c.timeout t →
    Connecting c sessionId remote
      (t ++ [.call (.connect fd ⟨sessionId, remote, name⟩) (.ok ()),
        .event (.connected name sessionId remote)])
      (.ok ())

/-- The channel index is a question to the session socket. -/
inductive Channelling (c : Connection) : Trace → Except SetupError Int32 → Prop
  | notReady : c.session = none → Channelling c [] (.error .notReady)
  | refused {fd : Descriptor} (e : Errno) : c.session = some fd →
    Channelling c [.call (.channelIndex fd) (.error e)] (.error (.io (.os e)))
  | told {fd : Descriptor} (index : Int32) : c.session = some fd →
    Channelling c [.call (.channelIndex fd) (.ok index)] (.ok index)

section

variable {c : Connection} {t : Trace}

/-- The connect itself, after the limit has been set. -/
lemma Connecting.of_limiting {sessionId : UInt16} {remote : MacAddress} {r : Except SetupError Unit}
    {fd discovery : Descriptor} {name : InterfaceName} {u : Trace} (hid : sessionId ≠ 0)
    (hfd : c.session = some fd) (hname : c.name = some name) (hd : c.discovery = some discovery)
    (hu : Limiting fd c.timeout u)
    (h : (ExceptT.run (do
      let answer ← Program.call (.connect fd ⟨sessionId, remote, name⟩)
      ofAnswer (.connect sessionId) answer
      Program.note (.connected name sessionId remote) : Fallible Unit)).Yields t r) :
    Connecting c sessionId remote (u ++ t) r := by
  cases h with
  | ask answer h =>
    cases answer with
    | error e =>
      cases h
      exact .refused e hid hfd hname hd hu
    | ok _ =>
      cases h with
      | tell h =>
        cases h
        exact .connected hid hfd hname hd hu

lemma Connecting.of_yields {sessionId : UInt16} {remote : MacAddress} {r : Except SetupError Unit}
    (h : (c.connectTo sessionId remote).run.Yields t r) : Connecting c sessionId remote t r := by
  by_cases hid : sessionId = 0
  · rw [connectTo, if_pos hid] at h
    cases h
    exact .reserved hid
  rw [connectTo, if_neg hid] at h
  obtain ⟨_ | fd, _ | discovery, _ | name, address, index, timeout⟩ := c
  case some.some.some =>
    cases timeout with
    | none => exact .of_limiting (u := []) hid rfl rfl rfl .unlimited h
    | some limit =>
      cases h with
      | ask answer h =>
        cases answer with
        | error e =>
          cases h
          exact .unlimited e hid rfl rfl rfl rfl
        | ok _ => exact .of_limiting (u := [_]) hid rfl rfl rfl (.limited limit) h
  -- some field is missing
  all_goals
    cases h
    refine .notReady hid ?_
    simp

lemma Channelling.of_yields {r : Except SetupError Int32} (h : c.channel.run.Yields t r) :
    Channelling c t r := by
  obtain ⟨_ | fd, discovery, name, address, index, timeout⟩ := c
  · cases h
    exact .notReady rfl
  · cases h with
    | ask answer h =>
      cases answer with
      | error e =>
        cases h
        exact .refused e rfl
      | ok index =>
        cases h
        exact .told index rfl

end

end Connection

end PppoeSetup
