import PppoeSetup.Proofs.Course.Discovery
import PppoeSetup.Proofs.Ledger.Rules

/-!
# The ledger along the courses

Every course of an operation has only calls in order, and leads from what its owners hold before
to what they hold afterwards. All else that is held, `m` below, stays as it is.
-/

namespace PppoeSetup

open Kernel Ledger

variable {client : Option Connection} {m : Holdings} {t : Trace}

lemma Closing.carries {fd? : Option Descriptor} {stage : Stage} (h : Closing fd? t)
    (hs : stage ≠ .created) :
    Carries client t (Holds · (holding stage fd? + m)) (Holds · m) := by
  cases h with
  | nothing =>
    rw [holding_none, zero_add]
    exact .nil
  | closed fd answer => exact .closed answer hs

namespace ControlSocket

def holdings (s : ControlSocket) : Holdings := holding .control s.descriptor?

variable {s s' : ControlSocket}

@[simp] lemma holdings_closed : closed.holdings = 0 := rfl

lemma Opening.eq_of_ok {fd : Descriptor} (h : Opening s t (.ok fd) s') : s' = ⟨some fd⟩ := by
  cases h <;> rfl

lemma Opening.carries {r : Except SetupError Descriptor} (h : Opening s t r s') :
    Carries client t (Holds · (s.holdings + m)) (Holds · (s'.holdings + m)) := by
  cases h with
  | held fd => exact .nil
  | refused e => exact .refused .control e
  | opened fd =>
    rw [holdings_closed, zero_add]
    exact .append (.opened .control fd) (.event .nil)

lemma Shutting.carries (h : Shutting s t) :
    Carries client t (Holds · (s.holdings + m)) (Holds · m) := by
  cases h with
  | idle =>
    rw [holdings_closed, zero_add]
    exact .nil
  | closed fd answer => exact .event (.closed answer (by decide))

section

variable {α β : Type} {name : InterfaceName} {entry : Descriptor → Except Errno α → Entry}
  {value : α → β} {event : β → Event}

lemma Asking.carries {r : Except SetupError α}
    (hentry : ∀ {fd a m}, (fd, .control) ∈ m →
      Carries client [entry fd a] (Holds · m) (Holds · m))
    (h : Asking name entry s t r s') :
    Carries client t (Holds · (s.holdings + m)) (Holds · (s'.holdings + m)) := by
  cases h with
  | unopened ho => exact ho.carries
  | failed e ho =>
    refine .append ho.carries (hentry ?_)
    rw [ho.eq_of_ok]
    simp [holdings]
  | answered a ho =>
    refine .append ho.carries (hentry ?_)
    rw [ho.eq_of_ok]
    simp [holdings]

lemma Resolving.carries {r : Except SetupError β}
    (hentry : ∀ {fd a m}, (fd, .control) ∈ m →
      Carries client [entry fd a] (Holds · m) (Holds · m))
    (h : Resolving name entry value event s t r s') :
    Carries client t (Holds · (s.holdings + m)) (Holds · (s'.holdings + m)) := by
  cases h with
  | failed ha => exact ha.carries hentry
  | resolved ha => exact .append (ha.carries hentry) (.event .nil)

end

variable {name : InterfaceName}

lemma ResolvingIndex.carries {r : Except SetupError UInt32} (h : ResolvingIndex name s t r s') :
    Carries client t (Holds · (s.holdings + m)) (Holds · (s'.holdings + m)) := by
  apply Resolving.carries _ h
  intro fd a m hm
  apply Carries.used hm rfl (by simp) rfl
  intro L hL
  exact ⟨hL.allows hm rfl rfl, trivial⟩

lemma ResolvingAddress.carries {r : Except SetupError MacAddress}
    (h : ResolvingAddress name s t r s') :
    Carries client t (Holds · (s.holdings + m)) (Holds · (s'.holdings + m)) := by
  apply Resolving.carries _ h
  intro fd a m hm
  apply Carries.used hm rfl (by simp) rfl
  intro L hL
  exact ⟨hL.allows hm rfl rfl, trivial⟩

/-- Once a discovery socket has been enabled, its index is all that is resolved for it. -/
lemma ResolvingIndex.lead {index : UInt32} (h : ResolvingIndex name s t (.ok index) s')
    {fd : Descriptor} {L : Ledger} (hL : L.lead = .enabled fd) :
    (L.through t).lead = .resolved fd index := by
  generalize hr : Except.ok index = r at h
  cases h with
  | failed => cases hr
  | resolved ha =>
    cases hr
    cases ha with
    | answered _ ho =>
      cases ho <;> simp [after, hL, Lead.after]

lemma ResolvingIndex.carries_resolved {index : UInt32}
    (h : ResolvingIndex name s t (.ok index) s') {fd : Descriptor} :
    Carries client t
      (fun L => L.Holds ({(fd, .enabled)} + (s.holdings + m)) ∧ L.lead = .enabled fd)
      (fun L => L.Holds ({(fd, .enabled)} + (s'.holdings + m)) ∧ L.lead = .resolved fd index) := by
  refine .and_lead (.beside (fun _ => h.carries) _) ?_
  intro L hL
  exact h.lead hL

end ControlSocket

/-! ### Connections -/

def Sockets.holdings (new : Sockets) : Holdings :=
  {(new.session, .session)} + {(new.discovery, .bound)}

namespace Connection

open ControlSocket

def holdings (c : Connection) : Holdings := holding .session c.session + holding .bound c.discovery

variable {c c' : Connection} {s s' : ControlSocket} {e : SetupError}

@[simp] lemma holdings_fresh (timeout : Option Duration) : (fresh timeout).holdings = 0 := rfl

lemma holdings_congr
    (h : c'.session = c.session ∧ c'.discovery = c.discovery ∧ c'.timeout = c.timeout) :
    c'.holdings = c.holdings := by
  obtain ⟨hs, hd, -⟩ := h
  rw [holdings, holdings, hs, hd]

lemma Releasing.carries (h : Releasing c t) :
    Carries client t (Holds · (c.holdings + m)) (Holds · m) := by
  cases h with
  | released hs hd =>
    rw [holdings, add_assoc]
    exact .append (hs.carries (by decide)) (hd.carries (by decide))

lemma SocketClosing.carries {event : Event} {fd? : Option Descriptor} {stage : Stage}
    (h : SocketClosing event fd? t) (hs : stage ≠ .created) :
    Carries client t (Holds · (holding stage fd? + m)) (Holds · m) := by
  cases h with
  | nothing =>
    rw [holding_none, zero_add]
    exact .nil
  | closed fd answer => exact .append (.closed answer hs) (.event .nil)

lemma Clearing.carries (h : Clearing c t) :
    Carries client t (Holds · (c.holdings + m)) (Holds · m) := by
  cases h with
  | cleared hs hd =>
    rw [holdings, add_assoc]
    exact .append (hs.carries (by decide)) (hd.carries (by decide))

lemma Naming.carries {text : String} {r : Except SetupError Unit} (h : Naming c text s t r c' s') :
    Carries client t (Holds · (s.holdings + m)) (Holds · (s'.holdings + m)) := by
  cases h with
  | taken | invalid => exact .nil
  | unresolved _ _ hr => exact hr.carries
  | named _ _ hr => exact .append hr.carries (.event .nil)

lemma Adoption.carries {requested : Option String} {r : Except SetupError Unit}
    (h : Adoption c s requested t r c' s') :
    Carries client t (Holds · (s.holdings + m)) (Holds · (s'.holdings + m)) := by
  cases h with
  | unasked | confirmed => exact .nil
  | applied _ hn => exact hn.carries
  | kept => exact .event .nil

/-! A discovery socket passes through all its stages while it is being opened. -/

lemma DiscoveryOpening.carries_error (h : DiscoveryOpening t (.error e)) :
    Carries client t (Holds · m) (Holds · m) := by
  cases h with
  | refused e => exact .refused .discovery e
  | silenced fd e closing =>
    have hcreated : (fd, Stage.created) ∈ {(fd, Stage.created)} + m := by simp
    have hspoiled : Stage.spoiled ≠ .created := by decide
    have hoption : Carries client [.call (.setOption fd .broadcast) (.error e)]
        (Holds · ({(fd, .created)} + m)) (Holds · ({(fd, .spoiled)} + m)) := by
      apply Carries.call
      intro L hL _
      have hafter := hL.after (.setOption fd .broadcast) (.error e) rfl (by simp)
      exact ⟨⟨hL.allows hcreated rfl rfl, trivial⟩, hafter⟩
    refine .append (t := [_]) (.opened .discovery fd) ?_
    exact .append (t := [_]) hoption (.closed closing hspoiled)

lemma DiscoveryOpening.carries {fd : Descriptor} (h : DiscoveryOpening t (.ok fd)) :
    Carries client t (Holds · m)
      (fun L => L.Holds ({(fd, .enabled)} + m) ∧ L.lead = .enabled fd) := by
  cases h with
  | opened =>
    have hcreated : (fd, Stage.created) ∈ {(fd, Stage.created)} + m := by simp
    refine .append (t := [_]) (.opened .discovery fd) ?_
    apply Carries.call
    intro L hL _
    have hafter := hL.after (.setOption fd .broadcast) (.ok ()) rfl (by simp)
    exact ⟨⟨hL.allows hcreated rfl rfl, trivial⟩, hafter, rfl⟩

/-- The index is resolved for the enabled socket, so the address is the one to bind it to. -/
lemma permits_bind {fd : Descriptor} {index : UInt32} {L : Ledger}
    (hL : L.Holds ({(fd, .enabled)} + m)) (hlead : L.lead = .resolved fd index) :
    L.Permits client (.bind fd (.discoveryOn index)) := by
  have henabled : (fd, Stage.enabled) ∈ {(fd, Stage.enabled)} + m := by simp
  exact ⟨hL.allows henabled rfl rfl, index, hlead, rfl⟩

lemma Binding.carries {fd : Descriptor} {index : UInt32} (h : Binding c fd s t (.ok index) s') :
    Carries client t
      (fun L => L.Holds ({(fd, .enabled)} + (s.holdings + m)) ∧ L.lead = .enabled fd)
      (Holds · ({(fd, .bound)} + (s'.holdings + m))) := by
  cases h with
  | bound _ hr =>
    have hresolved : Carries client _
        (fun L => L.Holds ({(fd, .enabled)} + (s.holdings + m)) ∧ L.lead = .enabled fd) _ :=
      hr.carries_resolved
    refine .append hresolved (.append (t := [_]) ?_ (.event .nil))
    apply Carries.call
    intro L hL _
    have hafter := hL.1.after (.bind fd (.discoveryOn index)) (.ok ()) rfl (by simp)
    exact ⟨permits_bind hL.1 hL.2, hafter⟩

/-- After a failure the socket can only be closed. -/
lemma Binding.carries_error {fd : Descriptor} (h : Binding c fd s t (.error e) s') :
    Carries client t
      (fun L => L.Holds ({(fd, .enabled)} + (s.holdings + m)) ∧ L.lead = .enabled fd)
      (fun L => ∃ stage, stage ≠ .created ∧ L.Holds ({(fd, stage)} + (s'.holdings + m))) := by
  have hspoiled : Stage.spoiled ≠ .created := by decide
  have henabled : Stage.enabled ≠ .created := by decide
  cases h with
  | unnamed =>
    intro L hL _
    exact ⟨trivial, .enabled, henabled, hL.1⟩
  -- the socket stays as it was while a name is resolved beside it
  | unresolved _ hr =>
    intro L hL hfresh
    have hbeside : Carries client _ (Holds · ({(fd, .enabled)} + (s.holdings + m)))
        (Holds · ({(fd, .enabled)} + (s'.holdings + m))) :=
      .beside (fun _ => hr.carries) _
    obtain ⟨halong, hpost⟩ := hbeside L hL.1 hfresh
    exact ⟨halong, .enabled, henabled, hpost⟩
  | @refused _ _ index _ e _ hr =>
    have hresolved : Carries client _
        (fun L => L.Holds ({(fd, .enabled)} + (s.holdings + m)) ∧ L.lead = .enabled fd) _ :=
      hr.carries_resolved
    refine .append hresolved ?_
    apply Carries.call
    intro L hL _
    have hafter := hL.1.after (.bind fd (.discoveryOn index)) (.error e) rfl (by simp)
    exact ⟨permits_bind hL.1 hL.2, .spoiled, hspoiled, hafter⟩

lemma BoundOpening.carries_error (h : BoundOpening c s t (.error e) s') :
    Carries client t (Holds · (s.holdings + m)) (Holds · (s'.holdings + m)) := by
  cases h with
  | unopened hd => exact hd.carries_error
  | unbound closing hd hb =>
    rw [List.append_assoc]
    refine .append hd.carries (.event (.append hb.carries_error ?_))
    exact fun L ⟨stage, hs, hL⟩ => Carries.closed closing hs L hL

lemma BoundOpening.carries {fd : Descriptor} {index : UInt32}
    (h : BoundOpening c s t (.ok (fd, index)) s') :
    Carries client t (Holds · (s.holdings + m)) (Holds · ({(fd, .bound)} + (s'.holdings + m))) := by
  cases h with
  | bound hd hb => exact .append hd.carries (.event hb.carries)

lemma SocketsOpening.carries_error {requested : Option String}
    (h : SocketsOpening c requested s t (.error e) c' s') :
    Carries client t (Holds · (s.holdings + m)) (Holds · (s'.holdings + m)) := by
  have hsession : Stage.session ≠ .created := by decide
  cases h with
  | refused e => exact .refused .session e
  | unnamed closing ha =>
    refine .append (t := [_]) (.opened .session _) (.event ?_)
    exact .append (.beside (fun _ => ha.carries) _) (.closed closing hsession)
  | unbound closing ha hb =>
    refine .append (t := [_]) (.opened .session _) (.event ?_)
    refine .append (.append (.beside (fun _ => ha.carries) _) ?_) (.closed closing hsession)
    exact .beside (fun _ => hb.carries_error) _

lemma SocketsOpening.carries {requested : Option String} {new : Sockets}
    (h : SocketsOpening c requested s t (.ok new) c' s') :
    Carries client t (Holds · (s.holdings + m))
      (Holds · (new.holdings + (s'.holdings + m))) := by
  cases h with
  | opened ha hb =>
    refine .append (t := [_]) (.opened .session _) (.event ?_)
    refine .append (.beside (fun _ => ha.carries) _) (hb.carries.reorder (add_left_comm ..) ?_)
    rw [add_left_comm s'.holdings, add_left_comm, ← add_assoc]
    rfl

/-- New sockets take the place of what the connection held before. -/
lemma BringUp.carries {requested : Option String} {r : Except SetupError Unit}
    (h : BringUp c requested s t r c' s') :
    Carries client t (Holds · (s.holdings + (c.holdings + m)))
      (Holds · (s'.holdings + (c'.holdings + m))) := by
  cases h with
  | already => exact .nil
  | failed _ ho hclear =>
    refine .append ho.carries_error (.event ?_)
    rw [← holdings_congr ho.keeps, add_left_comm, holdings_fresh, zero_add]
    exact hclear.carries
  | @ready _ _ new c₁ _ _ ho hrel =>
    have hreleased : Carries client _ _ (Holds · (s'.holdings + (new.holdings + m))) :=
      hrel.carries
    rw [List.append_assoc]
    refine .append ho.carries (.append (hreleased.reorder ?_ rfl) (.event .nil))
    rw [holdings_congr ho.keeps]
    abel

/-- A socket of the connection that an operation works on. -/
lemma serves {fd discovery : Descriptor} {L : Ledger} (hfd : c.session = some fd)
    (hd : c.discovery = some discovery) (hL : L.Holds (c.holdings + m)) :
    L.Serves (some c) fd :=
  ⟨c, rfl, hfd, discovery, hd, hL.of_mem (by simp [holdings, hd])⟩

lemma Limiting.carries {fd discovery : Descriptor} (h : Limiting fd c.timeout t)
    (hfd : c.session = some fd) (hd : c.discovery = some discovery) :
    Carries (some c) t (Holds · (c.holdings + m))
      (fun L => L.Holds (c.holdings + m) ∧
        ∀ limit, c.timeout = some limit → L.lead = .limited fd (.ofDuration limit)) := by
  have hm : (fd, Stage.session) ∈ c.holdings + m := by simp [holdings, hfd]
  generalize hto : c.timeout = timeout at h
  cases h with
  | unlimited =>
    intro L hL _
    refine ⟨trivial, hL, ?_⟩
    intro limit hlimit
    cases hlimit
  | limited limit =>
    apply Carries.call
    intro L hL _
    refine ⟨⟨hL.allows hm rfl rfl, serves hfd hd hL⟩, hL.stay hm _ _ rfl (by simp) rfl, ?_⟩
    intro _ hlimit
    cases hlimit
    rfl

/-- A session socket is used for its own connection. -/
lemma carries_session {fd discovery : Descriptor} {r : Request} {a : r.Answer}
    (hfd : c.session = some fd) (hd : c.discovery = some discovery)
    (hr : r.descriptor? = some fd) (hclose : r ≠ .close fd) (hallow : Stage.session.allows r)
    (hp : ∀ L : Ledger, L.Allows r → L.Serves (some c) fd → L.Permits (some c) r) :
    Carries (some c) [.call r a] (Holds · (c.holdings + m)) (Holds · (c.holdings + m)) := by
  have hm : (fd, Stage.session) ∈ c.holdings + m := by simp [holdings, hfd]
  apply Carries.used hm hr hclose rfl
  intro L hL
  exact hp L (hL.allows hm hr hallow) (serves hfd hd hL)

/-- The connect itself, once the limit is set. -/
lemma carries_connect {fd discovery : Descriptor} {sessionId : UInt16} {remote : MacAddress}
    {name : InterfaceName} {answer : Except Errno Unit} (hid : sessionId ≠ 0)
    (hfd : c.session = some fd) (hd : c.discovery = some discovery) :
    Carries (some c) [.call (.connect fd ⟨sessionId, remote, name⟩) answer]
      (fun L => L.Holds (c.holdings + m) ∧
        ∀ limit, c.timeout = some limit → L.lead = .limited fd (.ofDuration limit))
      (Holds · (c.holdings + m)) := by
  have hm : (fd, Stage.session) ∈ c.holdings + m := by simp [holdings, hfd]
  apply Carries.call
  rintro L ⟨hL, hlimit⟩ _
  refine ⟨⟨hL.allows hm rfl rfl, serves hfd hd hL, hid, ?_⟩, hL.stay hm _ _ rfl (by simp) rfl⟩
  intro c' hc'
  cases hc'
  exact hlimit

lemma Connecting.carries {sessionId : UInt16} {remote : MacAddress} {r : Except SetupError Unit}
    (h : Connecting c sessionId remote t r) :
    Carries (some c) t (Holds · (c.holdings + m)) (Holds · (c.holdings + m)) := by
  cases h with
  | reserved | notReady => exact .nil
  | unlimited _ _ hfd _ hd =>
    apply carries_session hfd hd rfl (by simp) rfl
    intro L hallows hserves
    exact ⟨hallows, hserves⟩
  | refused e hid hfd _ hd hl => exact .append (hl.carries hfd hd) (carries_connect hid hfd hd)
  | connected hid hfd _ hd hl =>
    refine .append (hl.carries hfd hd) ?_
    exact .append (t := [_]) (carries_connect hid hfd hd) (.event .nil)

lemma Channelling.carries {r : Except SetupError Int32} (h : Channelling c t r)
    (hc : c.session.isSome → c.discovery.isSome) :
    Carries (some c) t (Holds · (c.holdings + m)) (Holds · (c.holdings + m)) := by
  cases h with
  | notReady => exact .nil
  | refused _ hfd | told _ hfd =>
    obtain ⟨discovery, hd⟩ := Option.isSome_iff_exists.mp (hc (by simp [hfd]))
    apply carries_session hfd hd rfl (by simp) rfl
    intro L hallows hserves
    exact ⟨hallows, hserves⟩

end Connection

end PppoeSetup
