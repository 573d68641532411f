import PppoeSetup.Proofs.Course.Workbench
import PppoeSetup.Proofs.Kernel.Descriptors

/-!
# What the courses open and close

The sockets of connections that each course opens, and the descriptors that it closes, in order.
-/

namespace PppoeSetup

open Kernel Trace

variable {t : Trace} {s s' : ControlSocket} {e : SetupError} {fd : Descriptor}

lemma Closing.closed_eq {fd? : Option Descriptor} (h : Closing fd? t) :
    t.acquired = [] ∧ t.closed = fd?.toList := by
  cases h <;> exact ⟨rfl, rfl⟩

namespace ControlSocket

lemma Opening.quiet {r : Except SetupError Descriptor} (h : Opening s t r s') : t.Quiet := by
  cases h <;> exact ⟨rfl, rfl⟩

lemma Shutting.closed_eq (h : Shutting s t) : t.closed = s.descriptor?.toList := by
  cases h <;> rfl

section

variable {α β : Type} {name : InterfaceName} {entry : Descriptor → Except Errno α → Entry}
  {value : α → β} {event : β → Event}

lemma Asking.quiet {r : Except SetupError α} (hentry : ∀ fd a, Quiet [entry fd a])
    (h : Asking name entry s t r s') : t.Quiet := by
  cases h with
  | unopened ho => exact ho.quiet
  | failed _ ho | answered _ ho => exact ho.quiet.append (hentry _ _)

lemma Resolving.quiet {r : Except SetupError β} (hentry : ∀ fd a, Quiet [entry fd a])
    (h : Resolving name entry value event s t r s') : t.Quiet := by
  cases h with
  | failed ha => exact ha.quiet hentry
  | resolved ha => exact (ha.quiet hentry).append ⟨rfl, rfl⟩

end

lemma ResolvingIndex.quiet {name : InterfaceName} {r : Except SetupError UInt32}
    (h : ResolvingIndex name s t r s') : t.Quiet :=
  Resolving.quiet (fun _ _ => ⟨rfl, rfl⟩) h

lemma ResolvingAddress.quiet {name : InterfaceName} {r : Except SetupError MacAddress}
    (h : ResolvingAddress name s t r s') : t.Quiet :=
  Resolving.quiet (fun _ _ => ⟨rfl, rfl⟩) h

end ControlSocket

namespace Connection

open ControlSocket

variable {c c' : Connection}

lemma Naming.quiet {text : String} {r : Except SetupError Unit} (h : Naming c text s t r c' s') :
    t.Quiet := by
  cases h with
  | taken | invalid => exact .nil
  | unresolved _ _ hr => exact hr.quiet
  | named _ _ hr => exact hr.quiet.append ⟨rfl, rfl⟩

lemma Adoption.quiet {requested : Option String} {r : Except SetupError Unit}
    (h : Adoption c s requested t r c' s') : t.Quiet := by
  cases h with
  | applied _ hn => exact hn.quiet
  | _ => exact ⟨rfl, rfl⟩

lemma Binding.quiet {r : Except SetupError UInt32} (h : Binding c fd s t r s') :
    t.Quiet := by
  cases h with
  | unnamed => exact .nil
  | unresolved _ hr => exact hr.quiet
  | refused _ _ hr | bound _ hr => exact hr.quiet.append ⟨rfl, rfl⟩

lemma DiscoveryOpening.undone (h : DiscoveryOpening t (.error e)) : t.Undone := by
  cases h <;> rfl

lemma DiscoveryOpening.opens (h : DiscoveryOpening t (.ok fd)) :
    t.acquired = [fd] ∧ t.closed = [] := by
  cases h
  exact ⟨rfl, rfl⟩

lemma BoundOpening.undone (h : BoundOpening c s t (.error e) s') : t.Undone := by
  cases h with
  | unopened hd => exact hd.undone
  | unbound closing hd hb =>
    obtain ⟨hda, hdc⟩ := hd.opens
    obtain ⟨hba, hbc⟩ := hb.quiet
    simp [Undone, hda, hdc, hba, hbc, Request.acquired?, Request.closing?]

lemma BoundOpening.opens {index : UInt32}
    (h : BoundOpening c s t (.ok (fd, index)) s') : t.acquired = [fd] ∧ t.closed = [] := by
  cases h with
  | bound hd hb =>
    obtain ⟨hda, hdc⟩ := hd.opens
    obtain ⟨hba, hbc⟩ := hb.quiet
    simp [hda, hdc, hba, hbc]

lemma SocketsOpening.undone {requested : Option String}
    (h : SocketsOpening c requested s t (.error e) c' s') : t.Undone := by
  cases h with
  | refused => rfl
  | unnamed closing ha =>
    obtain ⟨haa, hac⟩ := ha.quiet
    simp [Undone, haa, hac, Request.acquired?, Request.closing?]
  | unbound closing ha hb =>
    obtain ⟨haa, hac⟩ := ha.quiet
    have hu : _ = _ := hb.undone
    simp [Undone, haa, hac, hu, Request.acquired?, Request.closing?]

lemma SocketsOpening.opens {requested : Option String} {new : Sockets}
    (h : SocketsOpening c requested s t (.ok new) c' s') :
    t.acquired = [new.session, new.discovery] ∧ t.closed = [] := by
  cases h with
  | opened ha hb =>
    obtain ⟨haa, hac⟩ := ha.quiet
    obtain ⟨hba, hbc⟩ := hb.opens
    simp [haa, hac, hba, hbc, Request.acquired?, Request.closing?]

lemma Releasing.closes (h : Releasing c t) :
    t.acquired = [] ∧ t.closed = c.session.toList ++ c.discovery.toList := by
  cases h with
  | released hs hd =>
    obtain ⟨hsa, hsc⟩ := hs.closed_eq
    obtain ⟨hda, hdc⟩ := hd.closed_eq
    simp [hsa, hsc, hda, hdc]

lemma SocketClosing.closes {event : Event} {fd? : Option Descriptor}
    (h : SocketClosing event fd? t) : t.acquired = [] ∧ t.closed = fd?.toList := by
  cases h <;> exact ⟨rfl, rfl⟩

lemma Clearing.closes (h : Clearing c t) :
    t.acquired = [] ∧ t.closed = c.session.toList ++ c.discovery.toList := by
  cases h with
  | cleared hs hd =>
    obtain ⟨hsa, hsc⟩ := hs.closes
    obtain ⟨hda, hdc⟩ := hd.closes
    simp [hsa, hsc, hda, hdc]

lemma Limiting.quiet {limit : Option Duration} (h : Limiting fd limit t) :
    t.Quiet := by
  cases h <;> exact ⟨rfl, rfl⟩

lemma Connecting.quiet {sessionId : UInt16} {remote : MacAddress} {r : Except SetupError Unit}
    (h : Connecting c sessionId remote t r) : t.Quiet := by
  cases h with
  | reserved | notReady | unlimited => exact ⟨rfl, rfl⟩
  | refused _ _ _ _ _ hl | connected _ _ _ _ hl =>
    exact hl.quiet.append ⟨rfl, rfl⟩

lemma Channelling.quiet {r : Except SetupError Int32} (h : Channelling c t r) : t.Quiet := by
  cases h <;> exact ⟨rfl, rfl⟩

/-- A connection without sockets that comes up has two new ones, and nothing was closed. -/
lemma BringUp.opens {requested : Option String} (h : BringUp c requested s t (.ok ()) c' s')
    (hs : c.session = none) (hd : c.discovery = none) :
    ∃ session discovery index, c'.session = some session ∧ c'.discovery = some discovery ∧
      c'.index = some index ∧ t.acquired = [session, discovery] ∧ t.closed = [] := by
  cases h with
  | @ready _ _ new c₁ _ _ ho hr =>
    obtain ⟨hs₁, hd₁, -⟩ := ho.keeps
    obtain ⟨hoa, hoc⟩ := ho.opens
    obtain ⟨hra, hrc⟩ := hr.closes
    exact ⟨new.session, new.discovery, new.index, rfl, rfl, rfl, by simp [hoa, hra],
      by simp [hoc, hrc, hs₁, hd₁, hs, hd]⟩

/-- If it does not come up, all that was opened on the way is closed again. -/
lemma BringUp.undone {requested : Option String} (h : BringUp c requested s t (.error e) c' s')
    (hs : c.session = none) (hd : c.discovery = none) : t.Undone := by
  cases h with
  | already => rfl
  | failed _ ho hr =>
    obtain ⟨hs₁, hd₁, -⟩ := ho.keeps
    obtain ⟨hra, hrc⟩ := hr.closes
    have hu : _ = _ := ho.undone
    simp [Undone, hu, hra, hrc, hs₁, hd₁, hs, hd]

/-- What is closed while a connection comes up was opened for it, and it does not come up. -/
lemma BringUp.closes_own {requested : Option String} {r : Except SetupError Unit}
    (h : BringUp c requested s t r c' s') (hs : c.session = none) (hd : c.discovery = none)
    (hfd : fd ∈ t.closed) : fd ∈ t.acquired ∧ ∃ e, r = .error e := by
  cases r with
  | error e => exact ⟨(h.undone hs hd).mem_acquired hfd, e, rfl⟩
  | ok _ =>
    obtain ⟨_, _, _, -, -, -, -, hclosed⟩ := h.opens hs hd
    rw [hclosed] at hfd
    cases hfd

end Connection

namespace DiscoverySocket

open Connection

variable {c : Connection} {d d' : DiscoverySocket}

lemma Wrapping.quiet (h : Wrapping c t (.ok d)) : t.Quiet := by
  cases h
  exact .nil

lemma Wrapping.closes (h : Wrapping c t (.error e)) :
    t.acquired = [] ∧ t.closed = c.session.toList ++ c.discovery.toList := by
  cases h with
  | refused _ hr => exact hr.closes

/-- A conversion that closes anything closes what it was to convert, and fails. -/
lemma Wrapping.closes_held {r : Except SetupError DiscoverySocket} (h : Wrapping c t r)
    (hfd : fd ∈ t.closed) :
    fd ∈ c.session.toList ++ c.discovery.toList ∧ ∃ e, r = .error e := by
  cases r with
  | error e => exact ⟨h.closes.2 ▸ hfd, e, rfl⟩
  | ok d => exact absurd hfd h.quiet.notMem_closed

lemma FreshOpening.closes_nothing {timeout : Option Duration} {name : String}
    (h : FreshOpening (.fresh timeout) name s t (.ok d) s') : t.closed = [] := by
  cases h with
  | broughtUp hb hw =>
    obtain ⟨session, discovery, index, -, -, -, -, hbc⟩ := hb.opens rfl rfl
    simp [hbc, hw.quiet.2]

lemma FreshOpening.undone {timeout : Option Duration} {name : String}
    (h : FreshOpening (.fresh timeout) name s t (.error e) s') : t.Undone := by
  cases h with
  | failed hb hr =>
    obtain rfl := hb.eq_fresh (by simp)
    obtain ⟨hra, hrc⟩ := hr.closes
    have hu : _ = _ := hb.undone rfl rfl
    simp [Undone, hu, hra, hrc, Connection.fresh]
  | broughtUp hb hw =>
    obtain ⟨session, discovery, index, hs, hd, -⟩ := hb.opens rfl rfl
    cases hw with
    | refused hc => exact absurd (state_eq_ready.mpr (by simp [hs, hd])) hc

lemma FreshOpening.closes_own {timeout : Option Duration} {name : String}
    {r : Except SetupError DiscoverySocket} (h : FreshOpening (.fresh timeout) name s t r s')
    (hfd : fd ∈ t.closed) : fd ∈ t.acquired ∧ ∃ e, r = .error e := by
  cases r with
  | error e => exact ⟨h.undone.mem_acquired hfd, e, rfl⟩
  | ok d =>
    rw [h.closes_nothing] at hfd
    cases hfd

lemma ModeSetting.quiet {nonblocking : Bool} {r : Except SetupError Unit}
    (h : ModeSetting d nonblocking t r) : t.Quiet := by
  cases h <;> exact ⟨rfl, rfl⟩

/-- A wrapped connection holds the two sockets that have been acquired for it. -/
lemma FreshOpening.acquired_eq {timeout : Option Duration} {name : String}
    (h : FreshOpening (.fresh timeout) name s t (.ok d) s') :
    t.acquired = d.connection.session.toList ++ d.connection.discovery.toList := by
  cases h with
  | broughtUp hb hw =>
    obtain ⟨session, discovery, index, hs, hd, -, hba, -⟩ := hb.opens rfl rfl
    cases hw with
    | wrapped => simp [hba, hs, hd]

lemma ConfiguredOpening.closes_own {config : SetupConfig} {r : Except SetupError DiscoverySocket}
    (h : ConfiguredOpening config s t r s') (hfd : fd ∈ t.closed) :
    fd ∈ t.acquired ∧ ∃ e, r = .error e := by
  cases h with
  | unnamed => cases hfd
  | failed _ hf | blocking _ _ hf => exact hf.closes_own hfd
  | unswitched _ _ hf hm hr =>
    rw [closed_append, closed_append, hf.closes_nothing, hm.quiet.2, hr.closes.2] at hfd
    rw [acquired_append, hf.acquired_eq]
    exact ⟨List.mem_append_left _ hfd, _, rfl⟩
  | switched _ _ hf hm =>
    rw [closed_append, hf.closes_nothing, hm.quiet.2] at hfd
    cases hfd

lemma Transferring.quiet (h : Transferring d t d') : t.Quiet := by
  cases h with
  | sent h =>
    obtain ⟨rfl, -⟩ := yields_send.mp h
    exact ⟨rfl, rfl⟩
  | received h =>
    obtain ⟨_, rfl, -⟩ := yields_receive.mp h
    exact ⟨rfl, rfl⟩

end DiscoverySocket

namespace AsyncSocket

open DiscoverySocket

variable {d d' : DiscoverySocket} {a : AsyncSocket}

lemma Retrying.quiet {α : Type}
    {attempt : DiscoverySocket → Program (Except Errno α × DiscoverySocket)} {n : Nat}
    {r : Poll (Except Errno α)}
    (ha : ∀ {d t r d'}, (attempt d).Yields t (r, d') → Transferring d t d')
    (h : Retrying attempt n d t r d') : t.Quiet := by
  induction h with
  | exhausted => exact .nil
  | putOff h _ ih => exact (ha h).quiet.append ih
  | finished _ h => exact (ha h).quiet

lemma Awaiting.quiet (h : Awaiting d t d') : t.Quiet := by
  cases h with
  | sent h => exact .append (t := [_]) ⟨rfl, rfl⟩ (h.quiet .sent)
  | received h => exact .append (t := [_]) ⟨rfl, rfl⟩ (h.quiet .received)

lemma Watching.quiet (h : Watching d t (.ok a)) : t.Quiet := by
  cases h with
  | watched hm => exact hm.quiet.append ⟨rfl, rfl⟩

lemma Watching.closes (h : Watching d t (.error e)) :
    t.acquired = [] ∧ t.closed = d.connection.session.toList ++ d.connection.discovery.toList := by
  cases h with
  | unswitched hm hr | unwatched _ hm hr =>
    obtain ⟨hma, hmc⟩ := hm.quiet
    obtain ⟨hra, hrc⟩ := hr.closes
    simp [hma, hmc, hra, hrc, Request.acquired?, Request.closing?]

lemma Watching.closes_held {r : Except SetupError AsyncSocket} (h : Watching d t r)
    (hfd : fd ∈ t.closed) :
    fd ∈ d.connection.session.toList ++ d.connection.discovery.toList ∧ ∃ e, r = .error e := by
  cases r with
  | error e => exact ⟨h.closes.2 ▸ hfd, e, rfl⟩
  | ok a => exact absurd hfd h.quiet.notMem_closed

lemma Unwatching.quiet (h : Unwatching a t (.ok d)) : t.Quiet := by
  cases h with
  | switched hm => exact hm.quiet

lemma Unwatching.closes (h : Unwatching a t (.error e)) :
    t.acquired = [] ∧
      t.closed = a.socket.connection.session.toList ++ a.socket.connection.discovery.toList := by
  cases h with
  | unswitched hm hr =>
    obtain ⟨hma, hmc⟩ := hm.quiet
    obtain ⟨hra, hrc⟩ := hr.closes
    simp [hma, hmc, hra, hrc]

lemma Unwatching.closes_held {r : Except SetupError DiscoverySocket} (h : Unwatching a t r)
    (hfd : fd ∈ t.closed) :
    fd ∈ a.socket.connection.session.toList ++ a.socket.connection.discovery.toList ∧
      ∃ e, r = .error e := by
  cases r with
  | error e => exact ⟨h.closes.2 ▸ hfd, e, rfl⟩
  | ok d => exact absurd hfd h.quiet.notMem_closed

end AsyncSocket

end PppoeSetup
