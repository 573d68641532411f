import PppoeSetup.Proofs.Anonymous
import PppoeSetup.Proofs.Twin.Similar

/-!
# Connections that do the same

Connections that differ in the numbers of their descriptors only do the same, and go on to differ
in nothing else.
-/

namespace PppoeSetup

open Kernel

/-! ### Pairs -/

/-- The pair of two descriptors, if both are there. -/
def pairUp : Option Descriptor → Option Descriptor → Pairs
  | some fd, some fd' => {(fd, fd')}
  | _, _ => 0

@[simp] lemma pairUp_none : pairUp none none = 0 := rfl

@[simp] lemma pairUp_some (fd fd' : Descriptor) : pairUp (some fd) (some fd') = {(fd, fd')} := rfl

lemma eq_of_mem_pairUp {o : Option Descriptor} {fd fd' : Descriptor}
    (h : (fd, fd') ∈ pairUp o o) : fd = fd' := by
  obtain _ | x := o
  · cases Multiset.notMem_zero _ h
  · cases Multiset.mem_singleton.mp h
    rfl

namespace Connection

def pairs (c c' : Connection) : Pairs :=
  pairUp c.session c'.session + pairUp c.discovery c'.discovery

/-- The connections differ in the numbers of their descriptors only, and their pairs are held, and
`ρ` besides. -/
structure Twin (c c' : Connection) (ρ ρ₁ : Pairs) : Prop where
  anonymous : c.anonymous = c'.anonymous
  pairs_eq : ρ₁ = c.pairs c' + ρ

variable {c c' : Connection} {ρ ρ₁ : Pairs}

lemma Twin.name (h : c.Twin c' ρ ρ₁) : c.name = c'.name := (congrArg Connection.name h.anonymous :)

lemma Twin.address (h : c.Twin c' ρ ρ₁) : c.address = c'.address :=
  (congrArg Connection.address h.anonymous :)

lemma Twin.timeout (h : c.Twin c' ρ ρ₁) : c.timeout = c'.timeout :=
  (congrArg Connection.timeout h.anonymous :)

lemma Twin.session (h : c.Twin c' ρ ρ₁) : c.session.isSome = c'.session.isSome := by
  have hs : c.anonymous.session.isSome = c'.anonymous.session.isSome := by rw [h.anonymous]
  simpa [Connection.anonymous] using hs

lemma Twin.discovery (h : c.Twin c' ρ ρ₁) : c.discovery.isSome = c'.discovery.isSome := by
  have hd : c.anonymous.discovery.isSome = c'.anonymous.discovery.isSome := by rw [h.anonymous]
  simpa [Connection.anonymous] using hd

lemma Twin.state (h : c.Twin c' ρ ρ₁) : c.state = c'.state := by
  rw [← c.state_anonymous, h.anonymous, state_anonymous]

lemma Twin.fresh (timeout : Option Duration) :
    (Connection.fresh timeout).Twin (.fresh timeout) ρ ρ :=
  ⟨rfl, (zero_add ρ).symm⟩

lemma Twin.named (h : c.Twin c' ρ ρ₁) (name : InterfaceName) (address : MacAddress) :
    Twin { c with name := some name, address } { c' with name := some name, address } ρ ρ₁ :=
  ⟨congrArg (fun c => { c with name := some name, address }) h.anonymous, h.pairs_eq⟩

lemma Twin.timed (h : c.Twin c' ρ ρ₁) (timeout : Option Duration) :
    (c.setTimeout timeout).Twin (c'.setTimeout timeout) ρ ρ₁ :=
  ⟨congrArg (·.setTimeout timeout) h.anonymous, h.pairs_eq⟩

lemma Twin.session_mem (h : c.Twin c' ρ ρ₁) {fd fd' : Descriptor} (hs : c.session = some fd)
    (hs' : c'.session = some fd') : (fd, fd') ∈ ρ₁ := by
  simp [h.pairs_eq, pairs, hs, hs']

/-- What else is held may grow. -/
lemma Twin.beside (h : c.Twin c' ρ ρ₁) (x : Pairs) : c.Twin c' (x + ρ) (x + ρ₁) := by
  refine ⟨h.anonymous, ?_⟩
  rw [h.pairs_eq, add_left_comm]

end Connection

section

variable {ρ ρ₁ : Pairs}

/-! ### The control socket -/

namespace ControlSocket

/-- After this, both control sockets are open. -/
lemma similar_ensureOpen (s s' : ControlSocket) :
    Program.Similar
      (fun B x y => ∃ fd fd', B = ⟨ρ, ⟨some fd⟩, ⟨some fd'⟩⟩ ∧ x = (.ok fd, ⟨some fd⟩) ∧
        y = (.ok fd', ⟨some fd'⟩))
      ⟨ρ, s, s'⟩ (ensureOpen.run.run s) (ensureOpen.run.run s') := by
  obtain ⟨_ | fd⟩ := s <;> obtain ⟨_ | fd'⟩ := s'
  · refine .openLeft fun fd => .tellLeft ?_
    refine .openRight fun fd' => .tellRight ?_
    exact .done ⟨fd, fd', rfl, rfl, rfl⟩
  · refine .openLeft fun fd => .tellLeft ?_
    exact .done ⟨fd, fd', rfl, rfl, rfl⟩
  · refine .openRight fun fd' => .tellRight ?_
    exact .done ⟨fd, fd', rfl, rfl, rfl⟩
  · exact .done ⟨fd, fd', rfl, rfl, rfl⟩

/-- What is found out about an interface is the same, and nothing is held for it. -/
abbrev SameFinding {α : Type} (ρ : Pairs) :
    Pairs → Except SetupError α → Except SetupError α → Prop :=
  Both (· = ρ) fun ρ₁ a b => ρ₁ = ρ ∧ a = b

lemma alike_ensureOpen_bind {α : Type}
    {Q : Pairs → Except SetupError α → Except SetupError α → Prop}
    {f : Descriptor → Attempt α}
    (h : ∀ fd fd', Program.Similar (fun B x y => B.left = x.2 ∧ B.right = y.2 ∧ Q B.pairs x.1 y.1)
      ⟨ρ, ⟨some fd⟩, ⟨some fd'⟩⟩ ((f fd).run.run ⟨some fd⟩) ((f fd').run.run ⟨some fd'⟩)) :
    Shared.Alike Q ρ (ensureOpen >>= f).run (ensureOpen >>= f).run := by
  intro s s'
  rw [ExceptT.run_bind, StateT.run_bind, StateT.run_bind]
  refine (similar_ensureOpen s s').bind ?_
  rintro _ _ _ ⟨fd, fd', rfl, rfl, rfl⟩
  exact h fd fd'

lemma alike_resolveIndex (name : InterfaceName) :
    Shared.Alike (SameFinding ρ) ρ (resolveIndex name).run (resolveIndex name).run := by
  unfold resolveIndex query
  rw [bind_assoc]
  refine alike_ensureOpen_bind fun fd fd' => ?_
  refine .lookUp (.interfaceIndex name.buffer) rfl fun a => ?_
  cases a with
  | error e => exact .done ⟨rfl, rfl, .failed _ rfl⟩
  | ok a => exact .tellLeft (.tellRight (.done ⟨rfl, rfl, .succeeded ⟨rfl, rfl⟩⟩))

lemma alike_resolveAddress (name : InterfaceName) :
    Shared.Alike (SameFinding ρ) ρ (resolveAddress name).run (resolveAddress name).run := by
  unfold resolveAddress query
  rw [bind_assoc]
  refine alike_ensureOpen_bind fun fd fd' => ?_
  refine .lookUp (.hardwareAddress name.buffer) rfl fun a => ?_
  cases a with
  | error e => exact .done ⟨rfl, rfl, .failed _ rfl⟩
  | ok a => exact .tellLeft (.tellRight (.done ⟨rfl, rfl, .succeeded ⟨rfl, rfl⟩⟩))

end ControlSocket

/-! ### Closing -/

lemma alike_closeHeld {o o' : Option Descriptor} (h : o.isSome = o'.isSome) :
    Program.Alike (fun ρ₁ _ _ => ρ₁ = ρ) (pairUp o o' + ρ) (Program.closeHeld o)
      (Program.closeHeld o') := by
  obtain _ | fd := o <;> obtain _ | fd' := o' <;> cases h
  · rw [pairUp_none, zero_add]
    exact .done rfl
  · exact .close fun _ => .done rfl

namespace Connection

variable {c c' : Connection}

lemma alike_closeSocket {o o' : Option Descriptor} (h : o.isSome = o'.isSome) (event : Event) :
    Program.Alike (fun ρ₁ _ _ => ρ₁ = ρ) (pairUp o o' + ρ) (closeSocket o event)
      (closeSocket o' event) := by
  obtain _ | fd := o <;> obtain _ | fd' := o' <;> cases h
  · rw [pairUp_none, zero_add]
    exact .done rfl
  · exact .close fun _ => .tell (.done rfl)

lemma alike_release (h : c.Twin c' ρ ρ₁) :
    Program.Alike (fun ρ₁ _ _ => ρ₁ = ρ) ρ₁ c.release c'.release := by
  rw [h.pairs_eq, pairs, add_assoc]
  refine (alike_closeHeld h.session).bind ?_
  rintro _ _ _ rfl
  exact alike_closeHeld h.discovery

lemma alike_clear (h : c.Twin c' ρ ρ₁) :
    Program.Alike (fun ρ₁ a b => a.Twin b ρ ρ₁) ρ₁ c.clear c'.clear := by
  have hc : (fresh c.timeout).Twin (fresh c'.timeout) ρ ρ := h.timeout ▸ .fresh c.timeout
  rw [h.pairs_eq, pairs, add_assoc]
  refine (alike_closeSocket h.session _).bind ?_
  rintro _ _ _ rfl
  refine (alike_closeSocket h.discovery _).bind ?_
  rintro _ _ _ rfl
  exact .done hc

/-! ### Bringing up -/

/-- The result is the same, and so is the connection but for the numbers. -/
abbrev SameEnd (ρ ρ₁ : Pairs) (x y : Except SetupError Unit × Connection) : Prop :=
  x.1 = y.1 ∧ x.2.Twin y.2 ρ ρ₁

lemma alike_setName (h : c.Twin c' ρ ρ₁) (text : String) :
    Shared.Alike (SameEnd ρ) ρ₁ (c.setName text) (c'.setName text) := by
  unfold setName
  rw [← h.name]
  cases hname : c.name with
  | some current => exact .pure ⟨rfl, h⟩
  | none =>
    cases hv : InterfaceName.validate text with
    | error e => exact .pure ⟨rfl, h⟩
    | ok name =>
      refine (ControlSocket.alike_resolveAddress name).bind ?_
      rintro _ _ _ (⟨e, rfl⟩ | ⟨rfl, rfl⟩)
      · exact .pure ⟨rfl, h⟩
      · exact .note (.pure ⟨rfl, h.named name _⟩)

lemma alike_adoptName (h : c.Twin c' ρ ρ₁) (requested : Option String) :
    Shared.Alike (SameEnd ρ) ρ₁ (c.adoptName requested) (c'.adoptName requested) := by
  cases requested with
  | none => exact .pure ⟨rfl, h⟩
  | some text =>
    unfold adoptName
    rw [← h.name]
    cases hname : c.name with
    | none => exact alike_setName h text
    | some current =>
      by_cases htext : current.text = text
      · simp only [ne_eq, if_neg (not_not.mpr htext)]
        exact .pure ⟨rfl, h⟩
      · simp only [ne_eq, if_pos htext]
        exact .note (.pure ⟨rfl, h⟩)

/-- The pairs that sockets of two connections make. -/
def socketPairs (new new' : Sockets) : Pairs :=
  {(new.session, new'.session)} + {(new.discovery, new'.discovery)}

/-- One more descriptor on either side, or the same error. -/
abbrev SameOpening (ρ : Pairs) :
    Pairs → Except SetupError Descriptor → Except SetupError Descriptor → Prop :=
  Both (· = ρ) fun ρ₁ fd fd' => ρ₁ = {(fd, fd')} + ρ

lemma alike_openSession :
    Program.Alike (SameOpening ρ) ρ openSession.run openSession.run := by
  refine .openSocket nofun (fun e => ?_) fun fd fd' => ?_
  · exact .done (.failed _ rfl)
  · exact .done (.succeeded rfl)

lemma alike_openDiscovery :
    Program.Alike (SameOpening ρ) ρ openDiscovery.run openDiscovery.run := by
  refine .openSocket nofun (fun e => ?_) fun fd fd' => ?_
  · exact .done (.failed _ rfl)
  · refine .use (.setOption .broadcast) rfl nofun (Multiset.mem_cons_self _ _) fun a => ?_
    cases a with
    | error e => exact .close fun _ => .done (.failed _ rfl)
    | ok _ => exact .done (.succeeded rfl)

lemma alike_bindDiscovery (h : c.Twin c' ρ ρ₁) {fd fd' : Descriptor} (hm : (fd, fd') ∈ ρ₁) :
    Shared.Alike (ControlSocket.SameFinding ρ₁) ρ₁ (c.bindDiscovery fd).run
      (c'.bindDiscovery fd').run := by
  unfold bindDiscovery
  rw [← h.name]
  cases hname : c.name with
  | none => exact Attempt.alike_throw _ rfl
  | some name =>
    refine Attempt.alike_bind (Attempt.alike_adapt _ (ControlSocket.alike_resolveIndex name)) ?_
    rintro _ index _ ⟨rfl, rfl⟩
    intro s s'
    refine .use (.bind (.discoveryOn index)) rfl nofun hm fun a => ?_
    cases a with
    | error e => exact .done ⟨rfl, rfl, .failed _ rfl⟩
    | ok _ => exact .tellLeft (.tellRight (.done ⟨rfl, rfl, .succeeded ⟨rfl, rfl⟩⟩))

lemma alike_openBound (h : c.Twin c' ρ ρ₁) :
    Shared.Alike (Both (· = ρ₁) fun ρ₂ x y => x.2 = y.2 ∧ ρ₂ = {(x.1, y.1)} + ρ₁) ρ₁
      c.openBound.run c'.openBound.run := by
  refine Attempt.alike_bind (Attempt.alike_ofFallible alike_openDiscovery) ?_
  rintro _ fd fd' rfl
  refine Attempt.alike_onFailure (E := (· = {(fd, fd')} + ρ₁)) (Attempt.alike_note ?_) ?_
  · refine Attempt.alike_bind (alike_bindDiscovery (h.beside _) (Multiset.mem_cons_self _ _)) ?_
    rintro _ index _ ⟨rfl, rfl⟩
    exact Attempt.alike_pure ⟨rfl, rfl⟩
  · rintro _ rfl
    exact .close fun _ => .done rfl

/-- Either run has new sockets, or there is the same error. -/
abbrev SameSockets (ρ ρ₁ : Pairs) (x y : Except SetupError Sockets × Connection) : Prop :=
  Both (x.2.Twin y.2 ρ)
    (fun ρ₁ new new' => new.index = new'.index ∧ x.2.Twin y.2 (socketPairs new new' + ρ) ρ₁)
    ρ₁ x.1 y.1

lemma alike_openSockets (h : c.Twin c' ρ ρ₁) (requested : Option String) :
    Shared.Alike (SameSockets ρ) ρ₁ (c.openSockets requested) (c'.openSockets requested) := by
  refine (Shared.Alike.lift alike_openSession).bind ?_
  rintro _ _ _ (⟨e, rfl⟩ | @⟨session, session', rfl⟩)
  · exact .pure (.failed e h)
  refine .note ((alike_adoptName (h.beside _) requested).bind ?_)
  rintro ρ₂ ⟨r, c₁⟩ ⟨_, c₁'⟩ ⟨rfl, hc⟩
  have hpairs : ρ₂ = {(session, session')} + (c₁.pairs c₁' + ρ) := by
    rw [hc.pairs_eq, add_left_comm]
  -- the session sockets are closed again if the discovery sockets do not follow
  have hclose (e : SetupError) : Shared.Alike (SameSockets ρ) ρ₂
      (do Program.close session; return (.error e, c₁))
      (do Program.close session'; return (.error e, c₁')) := by
    subst hpairs
    refine Shared.Alike.bind (Q := fun ρ₁ _ _ => ρ₁ = c₁.pairs c₁' + ρ) (.lift ?_) ?_
    · exact .close fun _ => .done rfl
    · exact fun _ _ _ hρ => .pure (.failed e ⟨hc.anonymous, hρ⟩)
  obtain e | _ := r
  · exact hclose e
  refine (alike_openBound hc).bind ?_
  rintro _ _ _ (⟨e, rfl⟩ | @⟨⟨discovery, index⟩, ⟨discovery', _⟩, rfl, rfl⟩)
  · exact hclose e
  · refine .pure (.succeeded ⟨rfl, hc.anonymous, ?_⟩)
    rw [hpairs, socketPairs]
    abel

/-- What has come up on either side differs in the numbers only. -/
lemma twin_up {new new' : Sockets} (h : c.anonymous = c'.anonymous)
    (hindex : new.index = new'.index) :
    Twin
      { c with
        session := some new.session, discovery := some new.discovery, index := some new.index }
      { c' with
        session := some new'.session, discovery := some new'.discovery, index := some new'.index }
      ρ (socketPairs new new' + ρ) := by
  refine ⟨?_, rfl⟩
  rw [hindex]
  exact congrArg (fun c => { c with
    session := some 0, discovery := some 0, index := some new'.index }) h

lemma alike_bringUp (h : c.Twin c' ρ ρ₁) (requested : Option String) :
    Shared.Alike (SameEnd ρ) ρ₁ (c.bringUp requested) (c'.bringUp requested) := by
  unfold bringUp
  rw [← h.state]
  split
  · exact .pure ⟨rfl, h⟩
  refine (alike_openSockets h requested).bind ?_
  rintro ρ₂ ⟨_, c₁⟩ ⟨_, c₁'⟩ (⟨e, hc⟩ | @⟨new, new', hindex, hc⟩)
  · refine .note ((Shared.Alike.lift (alike_clear hc)).bind ?_)
    rintro _ _ _ hc
    exact .pure ⟨rfl, hc⟩
  · refine (Shared.Alike.lift (alike_release hc)).bind ?_
    rintro _ _ _ rfl
    exact .note (.pure ⟨rfl, twin_up hc.anonymous hindex⟩)

/-! ### The session -/

/-- The results are the same, and nothing has been opened or closed. -/
abbrev SameResult {α : Type} (ρ ρ₁ : Pairs) (r r' : α) : Prop := ρ₁ = ρ ∧ r = r'

/-- The connect itself, after the limit has been set. -/
lemma alike_connectCall {fd fd' : Descriptor} (hm : (fd, fd') ∈ ρ) (sessionId : UInt16)
    (remote : MacAddress) (name : InterfaceName) :
    Program.Alike (SameResult ρ) ρ
      (ExceptT.run (do
        let answer ← Program.call (.connect fd ⟨sessionId, remote, name⟩)
        ofAnswer (.connect sessionId) answer
        Program.note (.connected name sessionId remote) : Fallible Unit))
      (ExceptT.run (do
        let answer ← Program.call (.connect fd' ⟨sessionId, remote, name⟩)
        ofAnswer (.connect sessionId) answer
        Program.note (.connected name sessionId remote) : Fallible Unit)) := by
  refine .use (.connect ⟨sessionId, remote, name⟩) rfl nofun hm fun a => ?_
  cases a with
  | error e => exact .done ⟨rfl, rfl⟩
  | ok _ => exact .tell (.done ⟨rfl, rfl⟩)

lemma alike_connectTo (h : c.Twin c' ρ ρ₁) (sessionId : UInt16) (remote : MacAddress) :
    Program.Alike (SameResult ρ₁) ρ₁ (c.connectTo sessionId remote).run
      (c'.connectTo sessionId remote).run := by
  have hsession := h.session
  have hdiscovery := h.discovery
  unfold connectTo
  rw [← h.name, ← h.timeout]
  split
  · exact .done ⟨rfl, rfl⟩
  -- twins have both their sockets or lack both
  cases hs : c.session <;> cases hs' : c'.session
  case some.some fd fd' =>
    have hm : (fd, fd') ∈ ρ₁ := h.session_mem hs hs'
    cases c.name with
    | none => exact .done ⟨rfl, rfl⟩
    | some name =>
      cases hd : c.discovery <;> cases hd' : c'.discovery
      case some.some =>
        have hconnect := alike_connectCall hm sessionId remote name
        cases c.timeout with
        | none => exact hconnect
        | some limit =>
          refine .use (.setOption (.sendTimeout (.ofDuration limit))) rfl nofun hm fun a => ?_
          cases a with
          | error e => exact .done ⟨rfl, rfl⟩
          | ok _ => exact hconnect
      case none.none => exact .done ⟨rfl, rfl⟩
      all_goals simp [hd, hd'] at hdiscovery
  case none.none => exact .done ⟨rfl, rfl⟩
  all_goals simp [hs, hs'] at hsession

lemma alike_connect (h : c.Twin c' ρ ρ₁) (sessionId : UInt16) :
    Program.Alike (SameResult ρ₁) ρ₁ (c.connect sessionId).run (c'.connect sessionId).run := by
  have hconnect := alike_connectTo h sessionId c.address
  rw [connect, connect, ← h.address]
  exact hconnect

lemma alike_channel (h : c.Twin c' ρ ρ₁) :
    Program.Alike (SameResult ρ₁) ρ₁ c.channel.run c'.channel.run := by
  have hsession := h.session
  unfold channel
  cases hs : c.session <;> cases hs' : c'.session
  case some.some =>
    refine .use .channelIndex rfl nofun (h.session_mem hs hs') fun a => ?_
    cases a <;> exact .done ⟨rfl, rfl⟩
  case none.none => exact .done ⟨rfl, rfl⟩
  all_goals simp [hs, hs'] at hsession

end Connection

end

end PppoeSetup
