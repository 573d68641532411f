import PppoeSetup.Proofs.Course.Tending
import PppoeSetup.Proofs.Ownership

/-!
# All or nothing

Bringing a connection up opens both sockets or leaves nothing behind, clearing a connection
forgets all about it, and an operation that only uses a connection changes nothing if it fails.
-/

namespace PppoeSetup

open Kernel Trace Workbench

/-- The operations that use a connection and are to leave it as it is if they fail. -/
def Action.uses : Action → Bool
  | setName _ | connect _ | connectTo .. | channel => true
  | _ => false

lemma Action.not_transfers_of_uses {action : Action} (h : action.uses) :
    action.transfers = false := by
  cases action <;> first | rfl | cases h

/-- The connection has come up: two new sockets are open, and nothing was closed on the way. -/
def Connection.HasComeUp (c : Connection) (before u : Trace) : Prop :=
  ∃ session discovery index, c.state = .ready ∧ c.session = some session ∧
    c.discovery = some discovery ∧ c.index = some index ∧
    u.acquired = [session, discovery] ∧ u.closed = [] ∧
    ((before ++ u).Lawful → session ≠ discovery ∧
      (session ∉ before.opened ∧ session ∈ (before ++ u).opened) ∧
      discovery ∉ before.opened ∧ discovery ∈ (before ++ u).opened)

namespace Connection

variable {c c' : Connection} {s s' : ControlSocket} {t u : Trace}

/-! ### The control socket on the way

An operation may find it closed and open it; an open one is used as it is. -/

lemma Naming.eq_of_isOpen {text : String} {r : Except SetupError Unit}
    (h : Naming c text s t r c' s') (hs : s.isOpen) : s' = s := by
  have htends : (⟨s, _⟩ : Moment).Tends {} t ⟨s', false⟩ := h.tends
  exact htends.eq_of_isOpen hs

lemma BringUp.eq_of_isOpen {requested : Option String} {r : Except SetupError Unit}
    (h : BringUp c requested s t r c' s') (hs : s.isOpen) : s' = s :=
  h.tends.eq_of_isOpen hs

/-! ### Clearing -/

/-- A second clearing finds nothing to close and nothing to forget. -/
lemma Clearing.fresh_eq_nil {timeout : Option Duration} (h : Clearing (fresh timeout) u) :
    u = [] := by
  cases h with
  | cleared hs hd =>
    cases hs
    cases hd
    rfl

end Connection

namespace Workbench

variable {slots : Nat} {t u : Trace} {w : Workbench slots} {i : Fin slots} {e : Endpoint}
  {c c' : Connection} {s' : ControlSocket}

/-- Bringing up what a slot holds is an operation. -/
lemma yields_perform_bringUp {requested : Option String} {r : Except SetupError Unit}
    (hi : w.held i = some (.connection c))
    (h : ((c.bringUp requested).run w.control).Yields u ((r, c'), s')) :
    (w.perform (.act i (.bringUp requested))).Yields u
      (.ofResult (fun _ => .done) r,
        ({ w with control := s' } : Workbench slots).put i (some (.connection c'))) := by
  have hact : ((Endpoint.act (w.held i) (.bringUp requested)).run w.control).Yields u
      ((.ofResult (fun _ => .done) r, some (.connection c')), s') := by
    rw [hi]
    exact Shared.yields_bind.mpr ⟨u, [], (r, c'), s', by simp, h, .done _⟩
  exact Program.yields_bind.mpr ⟨u, [], _, by simp, hact, .done _⟩

lemma Reachable.hasComeUp {requested : Option String} (h : w.Reachable t)
    (hi : w.held i = some (.connection c)) (hc : c.state ≠ .ready)
    (hb : ((c.bringUp requested).run w.control).Yields u ((.ok (), c'), s')) :
    c'.HasComeUp t u := by
  -- what is not ready has no sockets, so that both are opened now
  obtain ⟨hs, hd⟩ := Connection.WellFormed.bare (h.wellFormed hi) hc
  obtain ⟨session, discovery, index, hs', hd', hi', hacquired, hclosed⟩ :=
    (Connection.BringUp.of_yields hb).opens hs hd
  have hready : c'.state = .ready := Connection.state_eq_ready.mpr (by simp [hs', hd'])
  refine ⟨session, discovery, index, hready, hs', hd', hi', hacquired, hclosed, ?_⟩
  intro hl
  have hw := h.step (yields_perform_bringUp hi hb)
  have hown : Endpoint.descriptors (some (.connection c')) = ↑[session, discovery] := by
    change (↑(c'.session.toList ++ c'.discovery.toList) : Multiset Descriptor) = _
    rw [hs', hd']
    rfl
  -- they are open because the slot owns them then, and two because it owns each once
  have hopen {fd : Descriptor} (hfd : fd ∈ [session, discovery]) : fd ∈ (t ++ u).opened := by
    refine (hw.mem_opened hl).mpr (.inr ⟨i, ?_⟩)
    rw [held_put_self, hown]
    exact hfd
  have hnew {fd : Descriptor} (hfd : fd ∈ [session, discovery]) : fd ∉ t.opened :=
    hl.notMem_of_acquired hclosed (by rwa [hacquired])
  have hnodup := hw.nodup hl i
  rw [held_put_self, hown, Multiset.coe_nodup] at hnodup
  refine ⟨?_, ⟨hnew ?_, hopen ?_⟩, hnew ?_, hopen ?_⟩
  · simpa using hnodup
  all_goals simp

/-- After a failure the same is open as before, and the control socket, which may have been
opened on the way. -/
lemma Reachable.opened_of_failure {requested : Option String} {err : SetupError}
    (h : w.Reachable t) (hi : w.held i = some (.connection c)) (hc : c.state ≠ .ready)
    (hb : ((c.bringUp requested).run w.control).Yields u ((.error err, c'), s'))
    (hl : (t ++ u).Lawful) : (t ++ u).opened = t.opened ∪ s'.descriptor?.toFinset := by
  have hcourse := Connection.BringUp.of_yields hb
  obtain rfl := hcourse.eq_fresh hc
  obtain ⟨hs, hd⟩ := Connection.WellFormed.bare (h.wellFormed hi) hc
  -- the slot owned nothing before, and owns nothing now
  have hslots (fd : Descriptor) :
      (∃ j, fd ∈ Endpoint.descriptors ((({ w with control := s' } : Workbench slots).put i
        (some (.connection (.fresh c.timeout)))).held j)) ↔
      ∃ j, fd ∈ Endpoint.descriptors (w.held j) := by
    apply exists_congr
    intro j
    by_cases hji : j = i
    · rw [hji, held_put_self, hi, Endpoint.mem_descriptors_some, Endpoint.mem_descriptors_some,
        Endpoint.underlying, Endpoint.underlying, hs, hd]
      rfl
    · rw [held_put_of_ne _ hji]
  -- the control socket can only have been opened, never exchanged
  have hcontrol {fd : Descriptor} (hfd : w.control.descriptor? = some fd) :
      s'.descriptor? = some fd := by
    rw [hcourse.eq_of_isOpen (Option.isSome_of_mem hfd), hfd]
  ext fd
  rw [(h.step (yields_perform_bringUp hi hb)).mem_opened hl, hslots, Finset.mem_union,
    h.mem_opened hl.left, Option.mem_toFinset, Option.mem_def, control_put]
  constructor
  · rintro (hfd | hfd)
    · exact .inr hfd
    · exact .inl (.inr hfd)
  · rintro ((hfd | hfd) | hfd)
    · exact .inl (hcontrol hfd)
    · exact .inr hfd
    · exact .inl hfd

/-- A failed use changes no connection, opens no socket of one and closes nothing. Only naming
asks about an interface, and may open the control socket for that. -/
lemma Performing.unchanged_of_failed {action : Action} {err : SetupError} {w' : Workbench slots}
    (h : Performing w (.act i action) u (.failed err) w') (huse : action.uses) :
    w'.held = w.held ∧ u.Quiet ∧
      ((∀ text, action ≠ .setName text) ∨ w.control.isOpen → w'.control = w.control) := by
  have hput (s : ControlSocket) :
      (({ w with control := s } : Workbench slots).put i (w.held i)).held = w.held := by
    funext j
    by_cases hj : j = i
    · rw [hj, held_put_self]
    · rw [held_put_of_ne _ hj]
  cases h with
  | acted ha =>
    generalize hheld : w.held i = held at ha
    generalize hreply : Reply.failed err = reply at ha
    cases ha with
    | idle =>
      rw [← hheld]
      exact ⟨hput _, .nil, fun _ => rfl⟩
    -- naming alone may have called the kernel, and only for what it asks about the interface
    | @named c c' _ s' text _ r hn =>
      have hc : c' = c := by
        cases r with
        | error e => exact hn.eq_of_error
        | ok _ => cases hreply
      rw [hc, ← hheld]
      refine ⟨hput _, hn.quiet, ?_⟩
      rintro (h | hopen)
      · exact absurd rfl (h text)
      · exact hn.eq_of_isOpen hopen
    | connected hc | connectedTo hc =>
      rw [← hheld]
      exact ⟨hput _, hc.quiet, fun _ => rfl⟩
    | channelled hc =>
      rw [← hheld]
      exact ⟨hput _, hc.quiet, fun _ => rfl⟩
    | transferred htransfer | awaited htransfer =>
      rw [Action.not_transfers_of_uses huse] at htransfer
      cases htransfer
    | _ => cases huse

end Workbench

/-- For every reachable connection and all answers of the kernel. Bringing it up does nothing if
it is ready; otherwise it succeeds in full, or closes all it has opened, last first, and leaves
the connection as good as new. What is open then is what was open before, and the control socket,
which is opened when it is first needed and belongs to no connection. Clearing makes it as good as
new too, closes its sockets, the session socket first, and does nothing the second time. A failed
use of it changes nothing. -/
theorem setup_all_or_nothing {slots : Nat} {t : Trace} {w : Workbench slots} {i : Fin slots}
    {e : Endpoint} (h : w.Reachable t) (hi : w.held i = some e) :
    (∀ requested u r c' s',
      ((e.underlying.bringUp requested).run w.control).Yields u ((r, c'), s') →
      (e.underlying.state = .ready →
        r = .error .alreadyReady ∧ u = [] ∧ c' = e.underlying ∧ s' = w.control) ∧
      (e.underlying.state ≠ .ready →
        r = .ok () ∧ c'.HasComeUp t u ∨
        ∃ err, r = .error err ∧ c' = .fresh e.underlying.timeout ∧ u.Undone ∧
          (w.control.isOpen → s' = w.control) ∧
          ((t ++ u).Lawful → (t ++ u).opened = t.opened ∪ s'.descriptor?.toFinset))) ∧
    (∀ u c', e.underlying.clear.Yields u c' →
      c' = .fresh e.underlying.timeout ∧ u.acquired = [] ∧
        u.closed = e.underlying.session.toList ++ e.underlying.discovery.toList ∧
        ∀ v c'', c'.clear.Yields v c'' → v = [] ∧ c'' = c') ∧
    ∀ action u err w', action.uses → (w.perform (.act i action)).Yields u (.failed err, w') →
      w'.held = w.held ∧ u.Quiet ∧
        ((∀ text, action ≠ .setName text) ∨ w.control.isOpen → w'.control = w.control) := by
  have hw : e.WellFormed := h.wellFormed hi
  refine ⟨?_, ?_, ?_⟩
  · intro requested u r c' s' hb
    have hcourse := Connection.BringUp.of_yields hb
    constructor
    · intro hready
      cases hcourse with
      | already => exact ⟨rfl, rfl, rfl, rfl⟩
      | failed hc | ready hc => exact absurd hready hc
    · intro hc
      -- what is wrapped is ready, so the slot holds the connection itself
      obtain ⟨c, rfl⟩ : ∃ c, e = .connection c := by
        cases e with
        | connection c => exact ⟨c, rfl⟩
        | discovery d | async a => exact absurd hw.ready hc
      cases r with
      | ok _ => exact .inl ⟨rfl, h.hasComeUp hi hc hb⟩
      | error err =>
        obtain ⟨hs, hd⟩ := Connection.WellFormed.bare hw.underlying hc
        refine .inr ⟨err, rfl, hcourse.eq_fresh hc, hcourse.undone hs hd, hcourse.eq_of_isOpen, ?_⟩
        intro hl
        exact h.opened_of_failure hi hc hb hl
  · intro u c' hclear
    obtain ⟨hclearing, rfl⟩ := Connection.Clearing.of_yields hclear
    obtain ⟨hacquired, hclosed⟩ := hclearing.closes
    refine ⟨rfl, hacquired, hclosed, ?_⟩
    intro v c'' hagain
    obtain ⟨hnothing, rfl⟩ := Connection.Clearing.of_yields hagain
    exact ⟨hnothing.fresh_eq_nil, rfl⟩
  · intro action u err w' huse hop
    exact (Workbench.Performing.of_yields hop).unchanged_of_failed huse

/-- A connection is named. -/
def naming {slots : Nat} (slot : Fin slots) : List (Operation slots) :=
  [.act slot .create, .act slot (.setName "eth0")]

/-- What the slot holds after `naming` on a machine with one interface. -/
def named : Connection where
  name := some eth0
  address := eth0Address
  timeout := none

/-- When the named connection does not come up, its name is gone. -/
theorem setup_all_or_nothing_named :
    (simulate (naming (0 : Fin 1)) .oneInterface).value.2.held 0 = some (.connection named) ∧
      named.state = .named ∧
      ∀ u err c' s', ((named.bringUp none).run
        (simulate (naming (0 : Fin 1)) .oneInterface).value.2.control).Yields u
          ((.error err, c'), s') → c' = .fresh none ∧ u.Undone := by
  have hi : (simulate (naming (0 : Fin 1)) .oneInterface).value.2.held 0 =
      some (.connection named) := by
    decide +kernel
  refine ⟨hi, rfl, ?_⟩
  intro u err c' s' hb
  obtain ⟨hbringUp, -, -⟩ := setup_all_or_nothing (reachable_simulate _ _) hi
  obtain ⟨-, hc⟩ := hbringUp none u (.error err) c' s' hb
  rcases hc (by decide) with ⟨hok, -⟩ | ⟨_, -, hfresh, hundone, -⟩
  · cases hok
  · exact ⟨hfresh, hundone⟩

end PppoeSetup
