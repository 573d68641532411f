import PppoeSetup.Proofs.Kernel.Descriptors
import PppoeSetup.Proofs.Ledger.Endpoints

/-!
# The ledger along the runs

Against a lawful kernel the ledger of a run lists what the workbench holds, and every call of the
run is in order.
-/

namespace PppoeSetup

open Kernel Ledger Trace

namespace Kernel.Ledger

variable {L L' : Ledger} {t u : Trace} {o : Finset Descriptor} {fd : Descriptor}

lemma mem_openAfter_iff (h : ∀ fd, fd ∈ o ↔ (L.stage fd).isSome) (r : Request) (a : r.Answer) :
    fd ∈ r.openAfter o a ↔ ((L.after r a).stage fd).isSome := by
  cases r with
  | openSocket kind =>
    cases a with
    | error e => exact h fd
    | ok fd' =>
      by_cases heq : fd = fd'
      · simp [Request.openAfter, after, stageAfter, heq]
      · simp [Request.openAfter, after, stageAfter, heq, h]
  | close fd' =>
    by_cases heq : fd = fd'
    · simp [Request.openAfter, after, stageAfter, heq]
    · simp [Request.openAfter, after, stageAfter, heq, h]
  | _ =>
    simp only [Request.openAfter, after, stageAfter, h]
    split <;> simp

lemma mem_openFrom_iff (h : ∀ fd, fd ∈ o ↔ (L.stage fd).isSome) :
    fd ∈ t.openFrom o ↔ ((L.through t).stage fd).isSome := by
  induction t generalizing o L with
  | nil => exact h fd
  | cons entry t ih =>
    cases entry with
    | event e => exact ih h
    | call r a => exact ih fun _ => mem_openAfter_iff h r a

/-- What is open after a trace is what the ledger has a stage for. -/
lemma mem_opened_iff : fd ∈ t.opened ↔ ((empty.through t).stage fd).isSome :=
  mem_openFrom_iff fun fd => by simp [Ledger.empty]

/-- The stages do not depend on the lead. -/
lemma stage_through_congr (h : L.stage = L'.stage) :
    (L.through t).stage = (L'.through t).stage := by
  induction t generalizing L L' with
  | nil => exact h
  | cons entry t ih =>
    cases entry with
    | event e => exact ih h
    | call r a =>
      refine ih ?_
      cases r <;> cases a <;> simp [after, stageAfter, h]

/-- The ledger at the start of an operation: nothing has been led up to yet. -/
def restart (L : Ledger) : Ledger := { L with lead := .nothing }

lemma along_fresh_of_lawful (h : (t ++ u).Lawful) (hL : L.stage = (empty.through t).stage) :
    L.Along Fresh u := by
  apply along_iff.mpr
  intro v r a x hu
  cases r with
  | openSocket kind =>
    cases a with
    | error e => trivial
    | ok fd =>
      have hfd := h (t ++ v) kind fd x (by rw [hu, List.append_assoc])
      rw [mem_opened_iff, through_append] at hfd
      have hs := stage_through_congr (t := v) hL
      simpa [Fresh, hs] using hfd
  | _ => trivial

lemma along_fresh_of_onlyCloses (h : t.OnlyCloses) : L.Along Fresh t := by
  apply along_iff.mpr
  intro v r a x ht
  obtain ⟨fd, rfl⟩ := h r a (by rw [ht]; simp)
  trivial

lemma closesOpen_of_allows (h : empty.Along (fun L r _ => L.Allows r) t) : t.ClosesOpen := by
  intro v fd answer x ht
  obtain ⟨stage, hs, -⟩ := along_iff.mp h v (.close fd) answer x ht fd rfl
  rw [mem_opened_iff, hs]
  rfl

end Kernel.Ledger

namespace Workbench

variable {slots : Nat} {t u : Trace} {w w' : Workbench slots} {op : Operation slots} {reply : Reply}

/-- After every operation the ledger lists exactly what the workbench holds. -/
theorem Reachable.holds (h : w.Reachable t) (hl : t.Lawful) :
    (Ledger.empty.through t).Holds w.holdings := by
  induction h with
  | start =>
    have hnothing : (empty : Workbench slots).holdings = 0 := by simp [holdings, empty]
    rw [hnothing]
    exact .empty
  | @step t u w w' op reply hr hop ih =>
    have hcarries := (Performing.of_yields hop).carries fun _ _ hi => hr.wellFormed hi
    rw [through_append]
    exact (hcarries _ (ih hl.left) (along_fresh_of_lawful hl rfl)).2

/-- Every call of an operation is in order, whatever has been led up to before. -/
theorem Reachable.permits (h : w.Reachable t) (hop : (w.perform op).Yields u (reply, w'))
    (hl : (t ++ u).Lawful) {L : Ledger} (hL : L.stage = (Ledger.empty.through t).stage) :
    L.Along (fun L r _ => L.Permits (w.client op) r) u := by
  have hcarries := (Performing.of_yields hop).carries fun _ _ hi => h.wellFormed hi
  obtain ⟨hn, hs⟩ := h.holds hl.left
  rw [← hL] at hs
  exact (hcarries L ⟨hn, hs⟩ (along_fresh_of_lawful hl hL)).1

/-- Every call of a run is about an open descriptor, at a stage that allows it. -/
theorem Reachable.allows (h : w.Reachable t) (hl : t.Lawful) :
    Ledger.empty.Along (fun L r _ => L.Allows r) t := by
  induction h with
  | start => trivial
  | step hr hop ih =>
    exact along_append.mpr ⟨ih hl.left, (hr.permits hop hl rfl).mono fun _ _ _ hp => hp.1⟩

/-! ### The end of a run -/

end Workbench

lemma Closing.onlyCloses {fd? : Option Descriptor} {t : Trace} (h : Closing fd? t) :
    t.OnlyCloses := by
  cases h with
  | nothing => exact .nil
  | closed fd answer =>
    intro r a hr
    cases List.mem_singleton.mp hr
    exact ⟨fd, rfl⟩

lemma Connection.Releasing.onlyCloses {c : Connection} {t : Trace} (h : Releasing c t) :
    t.OnlyCloses := by
  cases h with
  | released hs hd => exact hs.onlyCloses.append hd.onlyCloses

lemma Endpoint.Discarding.onlyCloses {held : Option Endpoint} {t : Trace} (h : Discarding held t) :
    t.OnlyCloses := by
  cases h with
  | empty => exact .nil
  | released hr => exact hr.onlyCloses

namespace Workbench

variable {slots : Nat} {u : Trace} {w : Workbench slots} {l : List (Fin slots)} {x : Unit}

lemma onlyCloses_discardAll (h : (l.forM fun i => Endpoint.discard (w.held i)).Yields u x) :
    u.OnlyCloses := by
  induction l generalizing u with
  | nil =>
    cases h
    exact .nil
  | cons i l ih =>
    obtain ⟨u, v, _, rfl, hu, hv⟩ := Program.yields_bind.mp h
    exact (Endpoint.Discarding.of_yields hu).onlyCloses.append (ih hv)

lemma onlyCloses_shutDown (h : w.shutDown.Yields u x) : u.OnlyCloses := by
  obtain ⟨u, v, _, rfl, hu, hv⟩ := Program.yields_bind.mp h
  exact (onlyCloses_discardAll hu).append (Closing.of_yields hv).onlyCloses

lemma carries_discardAll {client : Option Connection} {m : Holdings}
    (h : (l.forM fun i => Endpoint.discard (w.held i)).Yields u x) :
    Carries client u (Holds · ((l.map fun i => Endpoint.holdings (w.held i)).sum + m))
      (Holds · m) := by
  induction l generalizing u with
  | nil =>
    cases h
    rw [List.map_nil, List.sum_nil, zero_add]
    exact .nil
  | cons i l ih =>
    obtain ⟨u, v, _, rfl, hu, hv⟩ := Program.yields_bind.mp h
    rw [List.map_cons, List.sum_cons, add_assoc]
    exact .append (Endpoint.Discarding.of_yields hu).carries (ih hv)

/-- When all is dropped, nothing is held any more. -/
theorem along_shutDown (h : w.shutDown.Yields u x) {L : Ledger} (hL : L.Holds w.holdings) :
    L.Along (fun L r _ => L.Permits none r) u ∧ (L.through u).Holds 0 := by
  have hfresh : L.Along Fresh u := along_fresh_of_onlyCloses (onlyCloses_shutDown h)
  obtain ⟨u, v, _, rfl, hu, hv⟩ := Program.yields_bind.mp h
  have hslots : Carries none u (Holds · w.holdings) (Holds · (w.control.holdings + 0)) := by
    refine (carries_discardAll hu).reorder ?_ rfl
    rw [holdings, Fin.sum_univ_def, add_zero, add_comm]
  exact hslots.append ((Closing.of_yields hv).carries (by decide)) L hL hfresh

end Workbench

end PppoeSetup
