import PppoeSetup.Proofs.Kernel.Use
import PppoeSetup.Proofs.Ownership

/-!
# What operations leave alone

An operation on one slot calls the kernel as if any other slot were empty. So the ledger without
the descriptors of that slot has all the calls of the operation in order, and none of them can be
about those descriptors.
-/

namespace PppoeSetup

open Kernel Ledger Trace

namespace Kernel

/-- No call of the trace is about the descriptor or opens it. -/
def Trace.Spares (fd : Descriptor) (t : Trace) : Prop :=
  t.Calls fun r a =>
    r.descriptor? ≠ some fd ∧ ∀ kind, Entry.call r a ≠ .call (.openSocket kind) (.ok fd)

lemma Trace.Spares.notMem_closed {fd : Descriptor} {t : Trace} (h : t.Spares fd) :
    fd ∉ t.closed := by
  intro hfd
  obtain ⟨entry, hmem, hclosing⟩ := List.mem_filterMap.mp hfd
  cases entry with
  | event e => cases hclosing
  | call r a =>
    cases r with
    | close fd' =>
      cases hclosing
      exact (h _ _ hmem).1 rfl
    | _ => cases hclosing

namespace Ledger

variable {L L₀ : Ledger} {t : Trace} {fd : Descriptor}

/-- The ledger without some of its descriptors. -/
def without (L : Ledger) (fds : Multiset Descriptor) : Ledger where
  stage fd := if fd ∈ fds then none else L.stage fd
  lead := L.lead

lemma Holds.without {a m : Holdings} (h : L.Holds (a + m)) :
    (L.without (a.map Prod.fst)).Holds m := by
  obtain ⟨hnodup, hs⟩ := h
  rw [Multiset.map_add, Multiset.nodup_add] at hnodup
  obtain ⟨-, hm, hdisjoint⟩ := hnodup
  refine ⟨hm, ?_⟩
  intro fd stage
  by_cases hfd : fd ∈ a.map Prod.fst
  · have hnot : (fd, stage) ∉ m := fun hmem =>
      Multiset.disjoint_left.mp hdisjoint hfd (Multiset.mem_map_of_mem Prod.fst hmem)
    simp [Ledger.without, hfd, hnot]
  · have hnot : (fd, stage) ∉ a := fun hmem => hfd (Multiset.mem_map_of_mem Prod.fst hmem)
    simp [Ledger.without, hfd, hs, hnot]

/-- What is open by the one ledger is open by the other. -/
def Within (L₀ L : Ledger) : Prop := ∀ fd, L.stage fd = none → L₀.stage fd = none

lemma within_without (L : Ledger) (fds : Multiset Descriptor) : (L.without fds).Within L := by
  intro fd h
  simp [without, h]

lemma Within.after (h : L₀.Within L) (r : Request) (a : r.Answer) :
    (L₀.after r a).Within (L.after r a) := by
  intro fd hfd
  cases r with
  | openSocket kind =>
    cases a with
    | error e => exact h fd hfd
    | ok fd' =>
      by_cases heq : fd = fd'
      · simp [Ledger.after, stageAfter, heq] at hfd
      · simp only [Ledger.after, stageAfter, Function.update_of_ne heq] at hfd ⊢
        exact h fd hfd
  | close fd' =>
    by_cases heq : fd = fd'
    · simp [Ledger.after, stageAfter, heq]
    · simp only [Ledger.after, stageAfter, Function.update_of_ne heq] at hfd ⊢
      exact h fd hfd
  | _ =>
    simp only [Ledger.after, stageAfter] at hfd ⊢
    split at hfd
    next heq => simp [heq, h fd (by simpa using hfd)]
    next hne => simp [hne, h fd hfd]

/-- What is new by the larger ledger is new by the smaller one. -/
lemma Within.along_fresh (h : L₀.Within L) (hf : L.Along Fresh t) : L₀.Along Fresh t := by
  induction t generalizing L L₀ with
  | nil => trivial
  | cons entry t ih =>
    cases entry with
    | event e => exact ih h hf
    | call r a =>
      refine ⟨?_, ih (h.after r a) hf.2⟩
      cases r with
      | openSocket kind =>
        cases a with
        | error e => trivial
        | ok fd => exact h fd hf.1
      | _ => trivial

lemma stageAfter_of_spares {r : Request} {a : r.Answer} (hr : r.descriptor? ≠ some fd)
    (ha : ∀ kind, Entry.call r a ≠ .call (.openSocket kind) (.ok fd)) :
    (L.after r a).stage fd = L.stage fd := by
  cases r with
  | openSocket kind =>
    cases a with
    | error e => simp [Ledger.after, stageAfter, Request.descriptor?]
    | ok fd' =>
      have hne : fd ≠ fd' := fun heq => ha kind (by rw [heq])
      simp only [Ledger.after, stageAfter, Function.update_of_ne hne]
  | close fd' =>
    have hne : fd ≠ fd' := fun heq => hr (by rw [heq]; rfl)
    simp only [Ledger.after, stageAfter, Function.update_of_ne hne]
  | _ => simp only [Ledger.after, stageAfter, if_neg hr]

/-- Calls that are in order without an open descriptor leave that descriptor alone. -/
lemma spares_of_along (hopen : (L.stage fd).isSome) (hnone : L₀.stage fd = none)
    (hf : L.Along Fresh t) (hp : L₀.Along (fun L r _ => L.Allows r) t) : t.Spares fd := by
  induction t generalizing L L₀ with
  | nil => exact calls_nil
  | cons entry t ih =>
    cases entry with
    | event e => exact calls_event.mpr (ih hopen hnone hf hp)
    | call r a =>
      have hr : r.descriptor? ≠ some fd := by
        intro hr
        obtain ⟨stage, hs, -⟩ := hp.1 fd hr
        cases hnone.symm.trans hs
      have ha : ∀ kind, Entry.call r a ≠ .call (.openSocket kind) (.ok fd) := by
        rintro kind ⟨⟩
        rw [show L.stage fd = none from hf.1] at hopen
        cases hopen
      refine calls_call.mpr ⟨⟨hr, ha⟩, ih ?_ ?_ hf.2 hp.2⟩
      · rwa [stageAfter_of_spares hr ha]
      · rwa [stageAfter_of_spares hr ha]

end Ledger

end Kernel

namespace Workbench

variable {slots : Nat} {w w' : Workbench slots} {t u : Trace} {i : Fin slots}
  {op : Operation slots} {reply : Reply} {fd : Descriptor}

/-- An operation does not look at the slots that it is not about. -/
lemma Performing.put (h : Performing w op u reply w') (hne : ∀ action, op ≠ .act i action)
    (e : Option Endpoint) : Performing (w.put i e) op u reply (w'.put i e) := by
  cases h with
  | opened ho => exact .opened ho
  | closed hc => exact .closed hc
  | described => exact .described
  | invalidIndex hv => exact .invalidIndex hv
  | resolvedIndex hv hr => exact .resolvedIndex hv hr
  | invalidAddress hv => exact .invalidAddress hv
  | resolvedAddress hv hr => exact .resolvedAddress hv hr
  | @acted slot action _ _ held s ha =>
    have hslot : slot ≠ i := by
      rintro rfl
      exact hne action rfl
    have hcomm : (({ w with control := s } : Workbench slots).put slot held).put i e =
        ({ w.put i e with control := s } : Workbench slots).put slot held := by
      -- the two slots are different ones, so the order of the changes does not matter
      simp only [Workbench.put, mk.injEq, true_and]
      funext j
      by_cases hj : j = i
      · simp [hj, hslot.symm]
      · simp [hj]
    rw [hcomm]
    refine .acted ?_
    rwa [held_put_of_ne _ hslot]

/-- An operation that is not about a slot leaves its descriptors alone. -/
theorem Reachable.spares (h : w.Reachable t) (hop : (w.perform op).Yields u (reply, w'))
    (hl : (t ++ u).Lawful) (hne : ∀ action, op ≠ .act i action)
    (hfd : fd ∈ Endpoint.descriptors (w.held i)) : u.Spares fd := by
  have hholds := h.holds hl.left
  have hopen : ((Ledger.empty.through t).stage fd).isSome :=
    mem_opened_iff.mp ((h.mem_opened hl.left).mpr (.inr ⟨i, hfd⟩))
  have hfresh : (Ledger.empty.through t).Along Fresh u := along_fresh_of_lawful hl rfl
  -- the ledger of the same workbench with that slot emptied
  have hemptied : ((Ledger.empty.through t).without (Endpoint.descriptors (w.held i))).Holds
      (w.put i none).holdings := by
    rw [w.holdings_eq i, add_left_comm] at hholds
    rw [holdings_put, Endpoint.holdings_none, zero_add, ← Endpoint.map_holdings]
    exact hholds.without
  have hcarries := ((Performing.of_yields hop).put hne none).carries ?_
  · obtain ⟨hpermits, -⟩ :=
      hcarries _ hemptied ((within_without _ _).along_fresh hfresh)
    refine spares_of_along hopen ?_ hfresh (hpermits.mono fun _ _ _ hp => hp.1)
    simp [Ledger.without, hfd]
  · intro j e hj
    by_cases hji : j = i
    · rw [hji, held_put_self] at hj
      cases hj
    · rw [held_put_of_ne _ hji] at hj
      exact h.wellFormed hj

end Workbench

end PppoeSetup
