import Mathlib.Logic.Function.Basic
import Mathlib.Tactic.Common
import PppoeSetup.Kernel.Trace

/-!
# The ledger of descriptors

What a trace tells of every descriptor: whether it is open, and how far it has come since it was
opened. From this follows which calls may come next.
-/

namespace PppoeSetup.Kernel

/-! ### Stages of a descriptor -/

/-- How far an open descriptor has come. -/
inductive Stage
  | control
  | session
  /-- A discovery socket that has just been opened. -/
  | created
  /-- It may send to the broadcast address. -/
  | enabled
  | bound
  /-- A step on the way to being bound has failed. -/
  | spoiled
deriving DecidableEq

namespace Stage

def first : SocketKind → Stage
  | .control => control
  | .session => session
  | .discovery => created

/-- The stage after a call on the descriptor itself. -/
def after : Stage → (r : Request) → r.Answer → Stage
  | created, .setOption _ .broadcast, .ok _ => enabled
  | created, .setOption _ .broadcast, .error _ => spoiled
  | enabled, .bind .., .ok _ => bound
  | enabled, .bind .., .error _ => spoiled
  | stage, _, _ => stage

/-- The calls that may follow on the descriptor itself. -/
def allows : Stage → Request → Bool
  | control, .interfaceIndex .. | control, .hardwareAddress .. => true
  | session, .setOption _ (.sendTimeout _) | session, .connect .. | session, .channelIndex _ => true
  | created, .setOption _ .broadcast => true
  | enabled, .bind .. => true
  | bound, .statusFlags _ | bound, .setStatusFlags .. | bound, .send .. | bound, .receive .. => true
  | bound, .register _ | bound, .notifications .. => true
  | created, .close _ => false
  | _, .close _ => true
  | _, _ => false

end Stage

/-- What the latest calls lead up to. -/
inductive Lead
  | nothing
  /-- A discovery socket has been enabled, and the index is next. -/
  | enabled (fd : Descriptor)
  /-- The index for an enabled discovery socket has just been resolved. -/
  | resolved (fd : Descriptor) (index : UInt32)
  /-- The limit of a session socket has just been set. -/
  | limited (fd : Descriptor) (limit : Wire.TimeInterval)
deriving DecidableEq

/-- Opening the control socket is part of resolving an index. -/
def Lead.after : Lead → (r : Request) → r.Answer → Lead
  | _, .setOption fd .broadcast, .ok _ => enabled fd
  | _, .setOption fd (.sendTimeout limit), .ok _ => limited fd limit
  | enabled fd, .openSocket .control, .ok _ => enabled fd
  | enabled fd, .interfaceIndex .., .ok index => resolved fd index
  | _, _, _ => nothing

structure Ledger where
  /-- The stage of every open descriptor. -/
  stage : Descriptor → Option Stage
  lead : Lead

namespace Ledger

/-- Nothing is open. -/
def empty : Ledger := ⟨fun _ => none, .nothing⟩

/-- A descriptor is gone after it has been closed, whatever the kernel answers. -/
def stageAfter (L : Ledger) : (r : Request) → r.Answer → Descriptor → Option Stage
  | .openSocket kind, .ok fd => Function.update L.stage fd (some (.first kind))
  | .close fd, _ => Function.update L.stage fd none
  | r, a => fun fd => if r.descriptor? = some fd then (L.stage fd).map (·.after r a) else L.stage fd

def after (L : Ledger) (r : Request) (a : r.Answer) : Ledger := ⟨L.stageAfter r a, L.lead.after r a⟩

/-- The ledger after a trace. -/
def through (L : Ledger) : Trace → Ledger
  | [] => L
  | .event _ :: t => L.through t
  | .call r a :: t => (L.after r a).through t

/-- Every call of a trace is as `P` wants it, given the ledger before the call. -/
def Along (P : Ledger → (r : Request) → r.Answer → Prop) (L : Ledger) : Trace → Prop
  | [] => True
  | .event _ :: t => L.Along P t
  | .call r a :: t => P L r a ∧ (L.after r a).Along P t

/-- A new descriptor is one that is not open. -/
def Fresh (L : Ledger) : (r : Request) → r.Answer → Prop
  | .openSocket _, .ok fd => L.stage fd = none
  | _, _ => True

/-- A call is about an open descriptor, at a stage that allows it. -/
def Allows (L : Ledger) (r : Request) : Prop :=
  ∀ fd, r.descriptor? = some fd → ∃ stage, L.stage fd = some stage ∧ stage.allows r

/-- A call on an open descriptor, other than closing it, changes the stage of that one only. -/
lemma stageAfter_of_own {L : Ledger} {r : Request} {a : r.Answer} {fd : Descriptor} {stage : Stage}
    (hr : r.descriptor? = some fd) (hclose : r ≠ .close fd) (hs : L.stage fd = some stage) :
    L.stageAfter r a = Function.update L.stage fd (some (stage.after r a)) := by
  have h : L.stageAfter r a = fun fd' =>
      if r.descriptor? = some fd' then (L.stage fd').map (·.after r a) else L.stage fd' := by
    cases r with
    | openSocket kind => cases hr
    | close fd' =>
      cases hr
      exact absurd rfl hclose
    | _ => rfl
  rw [h]
  funext fd'
  by_cases heq : fd' = fd
  · subst heq
    simp [hr, hs]
  · have hne : some fd ≠ some fd' := fun h => heq (Option.some.inj h).symm
    rw [hr, if_neg hne, Function.update_of_ne heq]

variable {P Q : Ledger → (r : Request) → r.Answer → Prop} {L : Ledger} {t u : Trace}

@[simp] lemma through_nil : L.through [] = L := rfl

@[simp] lemma through_event {e : Event} : L.through (.event e :: t) = L.through t := rfl

@[simp] lemma through_call {r : Request} {a : r.Answer} :
    L.through (.call r a :: t) = (L.after r a).through t := rfl

@[simp] lemma through_append : L.through (t ++ u) = (L.through t).through u := by
  induction t generalizing L with
  | nil => rfl
  | cons entry t ih => cases entry <;> exact ih

@[simp] lemma along_nil : L.Along P [] := trivial

@[simp] lemma along_event {e : Event} : L.Along P (.event e :: t) ↔ L.Along P t := Iff.rfl

@[simp] lemma along_call {r : Request} {a : r.Answer} :
    L.Along P (.call r a :: t) ↔ P L r a ∧ (L.after r a).Along P t := Iff.rfl

@[simp] lemma along_append : L.Along P (t ++ u) ↔ L.Along P t ∧ (L.through t).Along P u := by
  induction t generalizing L with
  | nil => simp
  | cons entry t ih =>
    cases entry with
    | event e => exact ih
    | call r a =>
      rw [List.cons_append, along_call, ih, along_call, and_assoc]
      rfl

/-- What holds along a trace, call by call. -/
lemma along_iff : L.Along P t ↔ ∀ u r a v, t = u ++ .call r a :: v → P (L.through u) r a := by
  constructor
  · rintro h u r a v rfl
    exact (along_append.mp h).2.1
  · intro h
    induction t generalizing L with
    | nil => trivial
    | cons entry t ih =>
      cases entry with
      | event e => exact ih fun u r a v ht => h (.event e :: u) r a v (by rw [ht]; rfl)
      | call r a =>
        refine ⟨h [] r a t rfl, ih ?_⟩
        intro u r' a' v ht
        exact h (.call r a :: u) r' a' v (by rw [ht]; rfl)

lemma Along.mono (h : L.Along P t) (hPQ : ∀ L r a, P L r a → Q L r a) : L.Along Q t :=
  along_iff.mpr fun u r a v ht => hPQ _ _ _ (along_iff.mp h u r a v ht)

end Ledger

end PppoeSetup.Kernel
