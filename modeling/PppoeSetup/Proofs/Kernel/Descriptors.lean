import Mathlib.Data.Finset.Insert
import Mathlib.Data.Finset.Erase
import Mathlib.Data.Finset.Defs
import Mathlib.Tactic.Common
import PppoeSetup.Kernel.Trace

/-!
# Descriptors in a trace

Which descriptors a trace opens, which it closes, and which are open after it.
-/

namespace PppoeSetup.Kernel

/-- The open descriptors after one more call. A descriptor is gone after it has been closed,
whatever the kernel answers. -/
def Request.openAfter (o : Finset Descriptor) : (r : Request) → r.Answer → Finset Descriptor
  | .openSocket _, .ok fd => insert fd o
  | .close fd, _ => o.erase fd
  | _, _ => o

/-- The descriptor that a request closes. -/
def Request.closing? : Request → Option Descriptor
  | .close fd => some fd
  | _ => none

/-- The socket of a connection that a request has opened. -/
def Request.acquired? : (r : Request) → r.Answer → Option Descriptor
  | .openSocket .session, .ok fd | .openSocket .discovery, .ok fd => some fd
  | _, _ => none

namespace Trace

def openFrom (o : Finset Descriptor) : Trace → Finset Descriptor
  | [] => o
  | .event _ :: t => openFrom o t
  | .call r a :: t => openFrom (r.openAfter o a) t

/-- The descriptors that are open after a trace. -/
def opened (t : Trace) : Finset Descriptor := t.openFrom ∅

/-- A new descriptor is one that is not open at that moment. -/
def Lawful (t : Trace) : Prop :=
  ∀ u kind fd v, t = u ++ .call (.openSocket kind) (.ok fd) :: v → fd ∉ opened u

/-- Only descriptors are closed that are open at that moment. -/
def ClosesOpen (t : Trace) : Prop :=
  ∀ u fd answer v, t = u ++ .call (.close fd) answer :: v → fd ∈ opened u

/-- A descriptor is closed again only after it has been opened again. -/
def ClosesOnce (t : Trace) : Prop :=
  ∀ u fd answer v answer' x,
    t = u ++ .call (.close fd) answer :: v ++ .call (.close fd) answer' :: x →
    ∃ kind, .call (.openSocket kind) (.ok fd) ∈ v

/-- Nothing is called but to close. -/
def OnlyCloses (t : Trace) : Prop := ∀ r a, .call r a ∈ t → ∃ fd, r = .close fd

/-- The descriptors that a trace closes, in order. -/
def closed (t : Trace) : List Descriptor :=
  t.filterMap fun
    | .call r _ => r.closing?
    | .event _ => none

/-- The session and discovery sockets that a trace opens, in order. -/
def acquired (t : Trace) : List Descriptor :=
  t.filterMap fun
    | .call r a => r.acquired? a
    | .event _ => none

/-- No socket of a connection is opened, and no descriptor is closed. -/
def Quiet (t : Trace) : Prop := t.acquired = [] ∧ t.closed = []

/-- All that is acquired is closed again, what came last first. -/
def Undone (t : Trace) : Prop := t.closed = t.acquired.reverse

variable {t u : Trace} {o : Finset Descriptor} {fd : Descriptor}

@[simp] lemma openFrom_nil : openFrom o [] = o := rfl

@[simp] lemma openFrom_event {e : Event} : openFrom o (.event e :: t) = openFrom o t := rfl

@[simp] lemma openFrom_call {r : Request} {a : r.Answer} :
    openFrom o (.call r a :: t) = openFrom (r.openAfter o a) t := rfl

@[simp] lemma openFrom_append : openFrom o (t ++ u) = openFrom (openFrom o t) u := by
  induction t generalizing o with
  | nil => rfl
  | cons entry t ih => cases entry <;> exact ih

lemma opened_append : opened (t ++ u) = openFrom t.opened u := openFrom_append

lemma Lawful.left (h : (t ++ u).Lawful) : t.Lawful := by
  rintro v kind fd x rfl
  exact h v kind fd (x ++ u) (by simp)

@[simp] lemma closed_nil : closed [] = [] := rfl

@[simp] lemma closed_event {e : Event} : closed (.event e :: t) = closed t := rfl

@[simp] lemma closed_call {r : Request} {a : r.Answer} :
    closed (.call r a :: t) = r.closing?.toList ++ closed t := by
  cases h : r.closing? <;> simp [closed, h]

@[simp] lemma closed_append : closed (t ++ u) = closed t ++ closed u := List.filterMap_append ..

@[simp] lemma acquired_nil : acquired [] = [] := rfl

@[simp] lemma acquired_event {e : Event} : acquired (.event e :: t) = acquired t := rfl

@[simp] lemma acquired_call {r : Request} {a : r.Answer} :
    acquired (.call r a :: t) = (r.acquired? a).toList ++ acquired t := by
  cases h : r.acquired? a <;> simp [acquired, h]

@[simp] lemma acquired_append : acquired (t ++ u) = acquired t ++ acquired u :=
  List.filterMap_append ..

lemma OnlyCloses.nil : OnlyCloses [] := fun _ _ h => nomatch h

lemma OnlyCloses.append (ht : t.OnlyCloses) (hu : u.OnlyCloses) : (t ++ u).OnlyCloses := by
  intro r a h
  rcases List.mem_append.mp h with h | h
  · exact ht r a h
  · exact hu r a h

lemma Quiet.nil : Quiet [] := ⟨rfl, rfl⟩

lemma Quiet.append (ht : t.Quiet) (hu : u.Quiet) : (t ++ u).Quiet := by
  rw [Quiet, acquired_append, closed_append, ht.1, ht.2]
  exact hu

lemma Quiet.notMem_closed (h : t.Quiet) : fd ∉ t.closed := by
  rw [h.2]
  exact List.not_mem_nil

lemma Undone.mem_acquired (h : t.Undone) (hfd : fd ∈ t.closed) : fd ∈ t.acquired := by
  rwa [h, List.mem_reverse] at hfd

/-- What is open stays open unless it is closed. -/
lemma mem_openFrom_of_mem (ho : fd ∈ o) (hc : fd ∉ closed t) : fd ∈ openFrom o t := by
  induction t generalizing o with
  | nil => exact ho
  | cons entry t ih =>
    cases entry with
    | event e => exact ih ho hc
    | call r a =>
      rw [closed_call, List.mem_append, not_or] at hc
      refine ih ?_ hc.2
      cases r with
      | openSocket kind =>
        cases a with
        | error e => exact ho
        | ok fd' => exact Finset.mem_insert_of_mem ho
      | close fd' =>
        have hne : fd ≠ fd' := fun heq => hc.1 (by simp [Request.closing?, heq])
        exact Finset.mem_erase.mpr ⟨hne, ho⟩
      | _ => exact ho

lemma exists_open_of_acquired (h : fd ∈ t.acquired) :
    ∃ v kind x, t = v ++ .call (.openSocket kind) (.ok fd) :: x := by
  obtain ⟨entry, hentry, hfd⟩ := List.mem_filterMap.mp h
  obtain ⟨v, x, rfl⟩ := List.append_of_mem hentry
  cases entry with
  | event e => cases hfd
  | call r a =>
    cases r with
    | openSocket kind =>
      cases a with
      | error e => cases kind <;> cases hfd
      | ok fd' =>
        cases kind with
        | control => cases hfd
        | session | discovery =>
          cases hfd
          exact ⟨v, _, x, rfl⟩
    | _ => cases hfd

/-- What is acquired while nothing is closed was not open before. -/
lemma Lawful.notMem_of_acquired (h : (t ++ u).Lawful) (hu : u.closed = []) (hfd : fd ∈ u.acquired) :
    fd ∉ t.opened := by
  obtain ⟨v, kind, x, rfl⟩ := exists_open_of_acquired hfd
  have hnew := h (t ++ v) kind fd x (by rw [List.append_assoc])
  rw [opened_append] at hnew
  refine fun ho => hnew (mem_openFrom_of_mem ho ?_)
  rw [closed_append, List.append_eq_nil_iff] at hu
  rw [hu.1]
  exact List.not_mem_nil

/-- What is open after a trace and was not before has been opened by it. -/
lemma exists_open_of_mem (h : fd ∈ openFrom o t) (ho : fd ∉ o) :
    ∃ kind, .call (.openSocket kind) (.ok fd) ∈ t := by
  induction t generalizing o with
  | nil => exact absurd h ho
  | cons entry t ih =>
    cases entry with
    | event e =>
      obtain ⟨kind, hk⟩ := ih h ho
      exact ⟨kind, List.mem_cons_of_mem _ hk⟩
    | call r a =>
      by_cases hr : fd ∈ r.openAfter o a
      · cases r with
        | openSocket kind =>
          cases a with
          | error e => exact absurd hr ho
          | ok fd' =>
            obtain rfl := (Finset.mem_insert.mp hr).resolve_right ho
            exact ⟨kind, List.mem_cons_self⟩
        | close fd' => exact absurd (Finset.mem_of_mem_erase hr) ho
        | _ => exact absurd hr ho
      · obtain ⟨kind, hk⟩ := ih h hr
        exact ⟨kind, List.mem_cons_of_mem _ hk⟩

lemma ClosesOpen.closesOnce (h : t.ClosesOpen) : t.ClosesOnce := by
  intro u fd answer v answer' x ht
  have hfd := h (u ++ .call (.close fd) answer :: v) fd answer' x ht
  rw [opened_append, openFrom_call] at hfd
  exact exists_open_of_mem hfd (Finset.notMem_erase fd _)

end Trace

end PppoeSetup.Kernel
