import Mathlib.Data.Multiset.AddSub
import Mathlib.Data.Multiset.MapFold
import Mathlib.Data.Multiset.OrderedMonoid
import Mathlib.Tactic.Abel
import PppoeSetup.Connection
import PppoeSetup.Proofs.Ledger.Stages

/-!
# Rules for traces

A calculus for showing that a trace has only calls in order. What it starts from and what it ends
with are holdings, each of them a descriptor at a stage; the rules are one for each kind of call.
-/

namespace PppoeSetup

open Kernel Ledger

/-- Descriptors with the stages they are at. -/
abbrev Holdings := Multiset (Descriptor × Stage)

/-- What comes of holding a descriptor, or none. -/
def holding (stage : Stage) (fd? : Option Descriptor) : Holdings :=
  fd?.elim 0 fun fd => {(fd, stage)}

@[simp] lemma holding_none (stage : Stage) : holding stage none = 0 := rfl

@[simp] lemma holding_some (stage : Stage) (fd : Descriptor) :
    holding stage (some fd) = {(fd, stage)} := rfl

namespace Kernel.Ledger

/-- The open descriptors are those of the holdings, each of them held once. -/
structure Holds (L : Ledger) (m : Holdings) : Prop where
  nodup : (m.map Prod.fst).Nodup
  stage_iff (fd : Descriptor) (stage : Stage) : L.stage fd = some stage ↔ (fd, stage) ∈ m

variable {L : Ledger} {m : Holdings} {fd : Descriptor} {stage : Stage}

lemma Holds.empty : empty.Holds 0 := by
  constructor
  · simp
  · intro fd stage
    simp [Ledger.empty]

lemma Holds.of_mem (h : L.Holds m) (hm : (fd, stage) ∈ m) : L.stage fd = some stage :=
  (h.stage_iff fd stage).mpr hm

lemma Holds.not_mem (h : L.Holds ({(fd, stage)} + m)) : fd ∉ m.map Prod.fst := by
  have hn := h.nodup
  rw [Multiset.map_add, Multiset.map_singleton, Multiset.singleton_add, Multiset.nodup_cons] at hn
  exact hn.1

lemma Holds.add (h : L.Holds m) (hfd : L.stage fd = none) {L' : Ledger}
    (hL : L'.stage = Function.update L.stage fd (some stage)) : L'.Holds ({(fd, stage)} + m) := by
  have hnot : fd ∉ m.map Prod.fst := by
    rw [Multiset.mem_map]
    rintro ⟨⟨_, st⟩, hm, rfl⟩
    rw [h.of_mem hm] at hfd
    cases hfd
  constructor
  · rw [Multiset.map_add, Multiset.map_singleton, Multiset.singleton_add, Multiset.nodup_cons]
    exact ⟨hnot, h.nodup⟩
  · intro fd' st
    rw [hL, Multiset.singleton_add, Multiset.mem_cons, Prod.mk.injEq]
    by_cases heq : fd' = fd
    · subst heq
      have hnot' : (fd', st) ∉ m := fun hm => hnot (Multiset.mem_map_of_mem Prod.fst hm)
      simp [hnot', eq_comm]
    · rw [Function.update_of_ne heq, h.stage_iff]
      simp [heq]

lemma Holds.remove (h : L.Holds ({(fd, stage)} + m)) {L' : Ledger}
    (hL : L'.stage = Function.update L.stage fd none) : L'.Holds m := by
  have hnot := h.not_mem
  obtain ⟨hn, hs⟩ := h
  rw [Multiset.map_add, Multiset.map_singleton, Multiset.singleton_add, Multiset.nodup_cons] at hn
  refine ⟨hn.2, ?_⟩
  intro fd' st
  rw [hL]
  by_cases heq : fd' = fd
  · subst heq
    have hnot' : (fd', st) ∉ m := fun hm => hnot (Multiset.mem_map_of_mem Prod.fst hm)
    simp [hnot']
  · rw [Function.update_of_ne heq, hs, Multiset.singleton_add, Multiset.mem_cons]
    simp [heq]

/-- A step of a descriptor is its removal at one stage and its return at the next. -/
lemma Holds.step (h : L.Holds ({(fd, stage)} + m)) {stage' : Stage} {L' : Ledger}
    (hL : L'.stage = Function.update L.stage fd (some stage')) :
    L'.Holds ({(fd, stage')} + m) := by
  have hrem : Holds ⟨Function.update L.stage fd none, .nothing⟩ m := h.remove rfl
  refine hrem.add (Function.update_self ..) ?_
  rw [hL]
  exact (Function.update_idem ..).symm

/-- A call on a held descriptor takes it to the next stage. -/
lemma Holds.after (h : L.Holds ({(fd, stage)} + m)) (r : Request) (a : r.Answer)
    (hr : r.descriptor? = some fd) (hclose : r ≠ .close fd) :
    (L.after r a).Holds ({(fd, stage.after r a)} + m) := by
  have hs : L.stage fd = some stage := h.of_mem (by simp)
  exact h.step (stageAfter_of_own hr hclose hs)

/-- A call that leaves its descriptor at the same stage leaves all holdings as they are. -/
lemma Holds.stay (h : L.Holds m) (hm : (fd, stage) ∈ m) (r : Request) (a : r.Answer)
    (hr : r.descriptor? = some fd) (hclose : r ≠ .close fd) (hafter : stage.after r a = stage) :
    (L.after r a).Holds m := by
  obtain ⟨m, rfl⟩ := Multiset.exists_cons_of_mem hm
  rw [← Multiset.singleton_add] at h ⊢
  have h' := h.after r a hr hclose
  rwa [hafter] at h'

lemma Holds.allows (h : L.Holds m) (hm : (fd, stage) ∈ m) {r : Request}
    (hr : r.descriptor? = some fd) (hallow : stage.allows r) : L.Allows r := by
  intro fd' hfd'
  rw [hr] at hfd'
  cases hfd'
  exact ⟨stage, h.of_mem hm, hallow⟩

/-! ### Calls in order -/

/-- A session socket is only used for the connection that an operation works on, and while the
discovery socket of that connection is open and bound. -/
def Serves (L : Ledger) (client : Option Connection) (fd : Descriptor) : Prop :=
  ∃ c ∈ client, c.session = some fd ∧
    ∃ discovery, c.discovery = some discovery ∧ L.stage discovery = some .bound

/-- What is asked of a call beyond the stage of its descriptor: a discovery socket is bound to
the index that has just been resolved for it; a session socket is used for its own connection,
and connected to an id other than zero right after the limit has been set, if there is one. -/
def Permits (client : Option Connection) (L : Ledger) (r : Request) : Prop :=
  L.Allows r ∧
    match r with
    | .bind fd address => ∃ index, L.lead = .resolved fd index ∧ address = .discoveryOn index
    | .setOption fd (.sendTimeout _) => L.Serves client fd
    | .channelIndex fd => L.Serves client fd
    | .connect fd address =>
      L.Serves client fd ∧ address.sessionId ≠ 0 ∧
        ∀ c ∈ client, ∀ limit, c.timeout = some limit → L.lead = .limited fd (.ofDuration limit)
    | _ => True

/-- Nothing more is asked of the calls on a bound discovery socket. -/
lemma permits_of_bound {client : Option Connection} {r : Request} (h : L.Allows r)
    (hr : Stage.bound.allows r) : L.Permits client r := by
  refine ⟨h, ?_⟩
  cases r with
  | bind | connect | channelIndex => cases hr
  | setOption fd option => cases option <;> cases hr
  | _ => trivial

end Kernel.Ledger

/-! ### Traces as steps between holdings -/

/-- If new descriptors are fresh, the trace has only calls in order, and leads from `pre` to
`post`. -/
def Carries (client : Option Connection) (t : Trace) (pre post : Ledger → Prop) : Prop :=
  ∀ L, pre L → L.Along Fresh t → L.Along (fun L r _ => L.Permits client r) t ∧ post (L.through t)

namespace Carries

variable {client : Option Connection} {t u : Trace} {pre mid post : Ledger → Prop} {m : Holdings}
  {fd : Descriptor} {stage : Stage}

lemma nil : Carries client [] pre pre := by
  intro L hpre _
  exact ⟨trivial, hpre⟩

lemma event {e : Event} (h : Carries client t pre post) : Carries client (.event e :: t) pre post :=
  h

lemma append (h : Carries client t pre mid) (h' : Carries client u mid post) :
    Carries client (t ++ u) pre post := by
  intro L hpre hf
  rw [along_append] at hf ⊢
  obtain ⟨ha, hmid⟩ := h L hpre hf.1
  obtain ⟨hb, hpost⟩ := h' _ hmid hf.2
  rw [through_append]
  exact ⟨⟨ha, hb⟩, hpost⟩

lemma call {r : Request} {a : r.Answer}
    (h : ∀ L, pre L → Fresh L r a → L.Permits client r ∧ post (L.after r a)) :
    Carries client [.call r a] pre post := by
  intro L hpre hf
  obtain ⟨hp, hpost⟩ := h L hpre hf.1
  exact ⟨⟨hp, trivial⟩, hpost⟩

lemma reorder {a a' b b' : Holdings} (h : Carries client t (Holds · a) (Holds · b)) (ha : a = a')
    (hb : b = b') : Carries client t (Holds · a') (Holds · b') := by
  subst ha hb
  exact h

/-- What else is held may stand on either side. -/
lemma beside {a b : Holdings} (h : ∀ m, Carries client t (Holds · (a + m)) (Holds · (b + m)))
    (x : Holdings) : Carries client t (Holds · (x + (a + m))) (Holds · (x + (b + m))) := by
  have hx := h (x + m)
  rwa [add_left_comm a, add_left_comm b] at hx

lemma and_lead {l l' : Lead} (h : Carries client t pre post)
    (hl : ∀ L : Ledger, L.lead = l → (L.through t).lead = l') :
    Carries client t (fun L => pre L ∧ L.lead = l) (fun L => post L ∧ L.lead = l') := by
  rintro L ⟨hpre, hlead⟩ hf
  obtain ⟨ha, hpost⟩ := h L hpre hf
  exact ⟨ha, hpost, hl L hlead⟩

/-- Opening a socket is about no descriptor yet. -/
lemma permits_openSocket (L : Ledger) (kind : SocketKind) :
    L.Permits client (.openSocket kind) := by
  refine ⟨?_, trivial⟩
  intro fd hfd
  cases hfd

lemma opened (kind : SocketKind) (fd : Descriptor) :
    Carries client [.call (.openSocket kind) (.ok fd)] (Holds · m)
      (Holds · ({(fd, .first kind)} + m)) := by
  apply call
  intro L hL hfresh
  exact ⟨permits_openSocket L kind, hL.add hfresh rfl⟩

lemma refused (kind : SocketKind) (e : Errno) :
    Carries client [.call (.openSocket kind) (.error e)] (Holds · m) (Holds · m) := by
  apply call
  intro L hL _
  exact ⟨permits_openSocket L kind, hL.nodup, hL.stage_iff⟩

lemma closed (answer : Except Errno Unit) (hs : stage ≠ .created) :
    Carries client [.call (.close fd) answer] (Holds · ({(fd, stage)} + m)) (Holds · m) := by
  have hallow : stage.allows (.close fd) := by
    cases stage with
    | created => exact absurd rfl hs
    | _ => rfl
  apply call
  intro L hL _
  have hallows : L.Allows (.close fd) := hL.allows (by simp) rfl hallow
  exact ⟨⟨hallows, trivial⟩, hL.remove rfl⟩

/-- A call that leaves its descriptor at the same stage. -/
lemma used {r : Request} {a : r.Answer} (hm : (fd, stage) ∈ m) (hr : r.descriptor? = some fd)
    (hclose : r ≠ .close fd) (hafter : stage.after r a = stage)
    (hp : ∀ L : Ledger, L.Holds m → L.Permits client r) :
    Carries client [.call r a] (Holds · m) (Holds · m) := by
  apply call
  intro L hL _
  exact ⟨hp L hL, hL.stay hm r a hr hclose hafter⟩

end Carries

end PppoeSetup
