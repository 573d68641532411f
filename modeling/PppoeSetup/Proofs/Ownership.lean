import Mathlib.Algebra.Order.BigOperators.Group.Finset
import PppoeSetup.Proofs.Course.Closings
import PppoeSetup.Proofs.Ledger.Runs

/-!
# Ownership of descriptors

Every open descriptor has exactly one owner at any time: the control socket, or the connection
that uses it as its session or its discovery socket. It is closed once, when its owner goes away,
gives it up, or never comes to be.
-/

namespace PppoeSetup

open Kernel Ledger Trace

/-! ### What is owned -/

def Connection.descriptors (c : Connection) : Multiset Descriptor :=
  ↑(c.session.toList ++ c.discovery.toList)

def Endpoint.descriptors (held : Option Endpoint) : Multiset Descriptor :=
  held.elim 0 (·.underlying.descriptors)

/-- The descriptors of the control socket and of all that the slots hold. -/
def Workbench.descriptors {slots : Nat} (w : Workbench slots) : Multiset Descriptor :=
  ↑w.control.descriptor?.toList + ∑ i, Endpoint.descriptors (w.held i)

lemma map_holding (stage : Stage) (fd? : Option Descriptor) :
    (holding stage fd?).map Prod.fst = ↑fd?.toList := by
  cases fd? <;> rfl

lemma Connection.map_holdings (c : Connection) : c.holdings.map Prod.fst = c.descriptors := by
  rw [holdings, Multiset.map_add, map_holding, map_holding, Multiset.coe_add]
  rfl

lemma Endpoint.map_holdings (held : Option Endpoint) :
    (holdings held).map Prod.fst = descriptors held := by
  cases held with
  | none => rfl
  | some e => exact e.underlying.map_holdings

lemma Workbench.map_holdings {slots : Nat} (w : Workbench slots) :
    w.holdings.map Prod.fst = w.descriptors := by
  have hsum : (∑ i, Endpoint.holdings (w.held i)).map Prod.fst =
      ∑ i, Endpoint.descriptors (w.held i) := by
    rw [← Multiset.coe_mapAddMonoidHom, map_sum]
    exact Finset.sum_congr rfl fun i _ => Endpoint.map_holdings (w.held i)
  rw [holdings, Multiset.map_add, ControlSocket.holdings, map_holding, hsum]
  rfl

/-! ### Who closes -/

/-- The actions that give up what a slot holds. -/
def Action.givesUp : Action → Bool
  | create | createFrom _ | onInterface _ | setUpFrom _ | drop | clear => true
  | _ => false

/-- The actions that make another endpoint of what a slot holds, which is lost if they fail. -/
def Action.converts : Action → Bool
  | toDiscovery | toAsync | toBlocking => true
  | _ => false

namespace Endpoint

variable {held held' : Option Endpoint} {s s' : ControlSocket} {action : Action} {t : Trace}
  {reply : Reply} {fd : Descriptor}

lemma mem_descriptors_some {e : Endpoint} :
    fd ∈ descriptors (some e) ↔ fd ∈ e.underlying.session.toList ++ e.underlying.discovery.toList :=
  Iff.rfl

lemma Discarding.closes (h : Discarding held t) (hfd : fd ∈ t.closed) : fd ∈ descriptors held := by
  cases h with
  | empty => cases hfd
  | released hr => rwa [hr.closes.2] at hfd

/-- What has been discarded goes first; an attempt after that closes only what it has opened. -/
lemma Discarding.closes_append {u : Trace} {r : Except SetupError DiscoverySocket}
    (h : Discarding held t) (hown : fd ∈ u.closed → fd ∈ u.acquired ∧ ∃ e, r = .error e)
    (hfd : fd ∈ (t ++ u).closed) :
    fd ∈ descriptors held ∨ fd ∈ (t ++ u).acquired ∧ ∃ e, (made .discovery r).1 = .failed e := by
  rw [closed_append, List.mem_append] at hfd
  rcases hfd with hfd | hfd
  · exact .inl (h.closes hfd)
  · obtain ⟨hu, e, rfl⟩ := hown hfd
    rw [acquired_append]
    exact .inr ⟨List.mem_append_right _ hu, e, rfl⟩

/-- An action closes what the slot held if it gives that up or fails to convert it, and what it
has opened itself if it fails. -/
lemma Acting.closes (h : Acting held s action t reply held' s')
    (hw : ∀ e, held = some e → e.WellFormed) (hfd : fd ∈ t.closed) :
    fd ∈ descriptors held ∧ (action.givesUp ∨ action.converts ∧ ∃ e, reply = .failed e) ∨
      fd ∈ t.acquired ∧ ∃ e, reply = .failed e := by
  cases h with
  | idle | timed | unwrapped => cases hfd
  | created hd | configured _ hd | unreadable _ hd | unreadableSetUp _ hd | dropped hd =>
    exact .inl ⟨hd.closes hfd, .inl rfl⟩
  | opened hd hf | setUp _ hd hf =>
    rcases hd.closes_append hf.closes_own hfd with hheld | hown
    · exact .inl ⟨hheld, .inl rfl⟩
    · exact .inr hown
  | named hn | connected hn | connectedTo hn | channelled hn | switched _ hn
  | transferred _ _ hn | awaited _ hn =>
    exact absurd hfd hn.quiet.notMem_closed
  | @broughtUp c _ _ _ _ _ _ hb =>
    -- a connection that is not ready holds nothing, so a bring-up closes only what it opened
    by_cases hready : c.state = .ready
    · cases hb with
      | already => cases hfd
      | failed hc | ready hc => exact absurd hready hc
    · obtain ⟨hs, hd⟩ := Connection.WellFormed.bare (hw _ rfl) hready
      obtain ⟨hown, e, rfl⟩ := hb.closes_own hs hd hfd
      exact .inr ⟨hown, e, rfl⟩
  | cleared hc =>
    rw [hc.closes.2] at hfd
    exact .inl ⟨hfd, .inl rfl⟩
  | wrapped hwrap | watched hwrap | unwatched hwrap =>
    obtain ⟨hheld, e, rfl⟩ := hwrap.closes_held hfd
    exact .inl ⟨hheld, .inr ⟨rfl, e, rfl⟩⟩

end Endpoint

namespace Workbench

variable {slots : Nat} {t u : Trace} {w w' : Workbench slots} {op : Operation slots} {reply : Reply}
  {fd : Descriptor}

/-- Why an operation closes a descriptor. -/
inductive ClosesFor (w : Workbench slots) (u : Trace) (reply : Reply) (fd : Descriptor) :
    Operation slots → Prop
  /-- The control socket is closed. -/
  | control : w.control.descriptor? = some fd → ClosesFor w u reply fd .closeControl
  /-- The connection that owned it is given up, or is lost in a conversion that fails. -/
  | owner {slot : Fin slots} {action : Action} : fd ∈ Endpoint.descriptors (w.held slot) →
    (action.givesUp ∨ action.converts ∧ ∃ e, reply = .failed e) →
    ClosesFor w u reply fd (.act slot action)
  /-- The operation has opened it itself, and fails. -/
  | attempt {slot : Fin slots} {action : Action} : fd ∈ u.acquired →
    (∃ e, reply = .failed e) → ClosesFor w u reply fd (.act slot action)

lemma Performing.closesFor (h : Performing w op u reply w')
    (hw : ∀ i e, w.held i = some e → e.WellFormed) (hfd : fd ∈ u.closed) :
    w.ClosesFor u reply fd op := by
  cases h with
  | opened ho | resolvedIndex _ ho | resolvedAddress _ ho => exact absurd hfd ho.quiet.notMem_closed
  | closed hc =>
    rw [hc.closed_eq, Option.mem_toList] at hfd
    exact .control hfd
  | described | invalidIndex | invalidAddress => cases hfd
  | acted ha =>
    rcases ha.closes (hw _) hfd with ⟨hheld, hwhy⟩ | ⟨hown, hwhy⟩
    · exact .owner hheld hwhy
    · exact .attempt hown hwhy

/-! ### The account -/

lemma mem_descriptors : fd ∈ w.descriptors ↔
    w.control.descriptor? = some fd ∨ ∃ i, fd ∈ Endpoint.descriptors (w.held i) := by
  rw [descriptors, Multiset.mem_add, Multiset.mem_coe, Option.mem_toList, Multiset.mem_sum]
  simp

/-- What is open is what is owned, each descriptor once. -/
lemma Reachable.opened_val (h : w.Reachable t) (hl : t.Lawful) : t.opened.val = w.descriptors := by
  obtain ⟨hn, hs⟩ := h.holds hl
  rw [← w.map_holdings]
  apply (Multiset.Nodup.ext t.opened.nodup hn).mpr
  intro fd
  rw [Finset.mem_val, mem_opened_iff, Option.isSome_iff_exists, Multiset.mem_map]
  simp only [hs, Prod.exists, exists_and_right, exists_eq_right]

lemma Reachable.mem_opened (h : w.Reachable t) (hl : t.Lawful) : fd ∈ t.opened ↔
    w.control.descriptor? = some fd ∨ ∃ i, fd ∈ Endpoint.descriptors (w.held i) := by
  rw [← Finset.mem_val, h.opened_val hl, mem_descriptors]

/-- No connection owns a descriptor twice. -/
lemma Reachable.nodup (h : w.Reachable t) (hl : t.Lawful) (i : Fin slots) :
    (Endpoint.descriptors (w.held i)).Nodup := by
  have hall : w.descriptors.Nodup := h.opened_val hl ▸ t.opened.nodup
  refine Multiset.nodup_of_le ?_ hall
  calc Endpoint.descriptors (w.held i)
      ≤ ∑ j, Endpoint.descriptors (w.held j) :=
        Finset.single_le_sum (fun _ _ => Multiset.zero_le _) (Finset.mem_univ i)
    _ ≤ w.descriptors := Multiset.le_add_left ..

/-- When all is dropped in the end, nothing stays open, and only open descriptors are closed. -/
lemma Reachable.shutDown (h : w.Reachable t) (hl : t.Lawful) (hu : w.shutDown.Yields u ()) :
    (t ++ u).opened = ∅ ∧ (t ++ u).ClosesOpen := by
  obtain ⟨halong, hnothing⟩ := along_shutDown hu (h.holds hl)
  constructor
  · apply Finset.eq_empty_of_forall_notMem
    intro fd hfd
    rw [mem_opened_iff, Option.isSome_iff_exists, through_append] at hfd
    obtain ⟨stage, hs⟩ := hfd
    exact Multiset.notMem_zero _ ((hnothing.stage_iff fd stage).mp hs)
  · have hend := halong.mono fun L r a (hp : L.Permits none r) => hp.1
    exact closesOpen_of_allows (along_append.mpr ⟨h.allows hl, hend⟩)

/-- Against a lawful kernel, whatever it answers and whatever is done: the open descriptors are
those of the control socket and of the connections at hand, each of them owned once; only open
descriptors are closed, and none twice unless the kernel gives it out again in between; each
closing is due to the loss of the owner, or to the failure of the attempt that opened it; and
nothing stays open when all is dropped in the end. -/
theorem descriptors_conserved (h : w.Reachable t) (hl : t.Lawful) :
    t.opened.val = w.descriptors ∧ t.ClosesOpen ∧ t.ClosesOnce ∧
      (∀ op u reply w', (w.perform op).Yields u (reply, w') →
        ∀ fd ∈ u.closed, w.ClosesFor u reply fd op) ∧
      ∀ u, w.shutDown.Yields u () → (t ++ u).opened = ∅ ∧ (t ++ u).ClosesOpen := by
  have hopen := closesOpen_of_allows (h.allows hl)
  refine ⟨h.opened_val hl, hopen, hopen.closesOnce, ?_, ?_⟩
  · intro op u reply w' hop fd hfd
    have hw : ∀ i e, w.held i = some e → e.WellFormed := fun i e hi => h.wellFormed hi
    exact (Performing.of_yields hop).closesFor hw hfd
  · intro u hu
    exact h.shutDown hl hu

/-- One connection comes up, and another one fails for its name. -/
def halfway (first second : Fin slots) : List (Operation slots) :=
  wrapping first ++ [.act second .create, .act second (.bringUp (some "eth1"))]

/-- What comes of `halfway` on a machine with one interface. -/
def halfwayOutcome : Outcome SimulatedState (List Reply × Workbench 2) :=
  simulate (halfway 0 1) .oneInterface

theorem descriptors_conserved_halfway :
    halfwayOutcome.trace.closed = [103] ∧
      halfwayOutcome.value.2.descriptors = {100, 101, 102} ∧
      halfwayOutcome.trace.opened.val = {100, 101, 102} ∧
      halfwayOutcome.trace.ClosesOnce := by
  have hreach : halfwayOutcome.value.2.Reachable halfwayOutcome.trace := reachable_simulate _ _
  obtain ⟨hopened, -, honce, -⟩ := descriptors_conserved hreach (lawful_simulate _ _)
  have hall : halfwayOutcome.value.2.descriptors = {100, 101, 102} := by decide +kernel
  exact ⟨by decide +kernel, hall, hopened.trans hall, honce⟩

end Workbench

end PppoeSetup
