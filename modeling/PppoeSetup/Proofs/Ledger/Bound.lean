import PppoeSetup.Proofs.Ownership

/-!
# Bound descriptors

A discovery socket is bound once, and stays bound in the hands of the slot that holds it until it
is closed.
-/

namespace PppoeSetup

open Kernel Ledger Trace

lemma mem_holding {stage stage' : Stage} {fd : Descriptor} {fd? : Option Descriptor} :
    (fd, stage') ∈ holding stage fd? ↔ fd? = some fd ∧ stage' = stage := by
  cases fd? <;> simp [eq_comm]

namespace Kernel.Ledger

variable {L : Ledger} {t u : Trace} {fd : Descriptor} {address address' : Wire.LinkAddress}

lemma stage_before_bind
    (h : L.Along (fun L r _ => L.Allows r) (t ++ .call (.bind fd address) (.ok ()) :: u)) :
    (L.through t).stage fd = some .enabled := by
  obtain ⟨stage, hs, hallows⟩ := along_iff.mp h t _ _ u rfl fd rfl
  cases stage with
  | enabled => exact hs
  | _ => cases hallows

lemma stage_after_bind
    (h : L.Along (fun L r _ => L.Allows r) (t ++ .call (.bind fd address) (.ok ()) :: u)) :
    (L.through (t ++ [.call (.bind fd address) (.ok ())])).stage fd = some .bound := by
  simp [Ledger.after, stageAfter, Request.descriptor?, stage_before_bind h, Stage.after]

/-- A bound descriptor stays bound until it is closed. -/
lemma stage_of_bound (hs : L.stage fd = some .bound) (hf : L.Along Fresh u) (hc : fd ∉ u.closed) :
    (L.through u).stage fd = some .bound := by
  induction u generalizing L with
  | nil => exact hs
  | cons entry u ih =>
    cases entry with
    | event e => exact ih hs hf hc
    | call r a =>
      rw [closed_call, List.mem_append, not_or] at hc
      refine ih ?_ hf.2 hc.2
      -- only an opening, which gives another descriptor, and a closing could end the stage
      cases r with
      | openSocket kind =>
        cases a with
        | error e => exact hs
        | ok fd' =>
          have hne : fd ≠ fd' := by
            rintro rfl
            cases hs.symm.trans hf.1
          simpa [Ledger.after, stageAfter, hne] using hs
      | close fd' =>
        have hne : fd ≠ fd' := by
          rintro rfl
          exact hc.1 (by simp [Request.closing?])
        simpa [Ledger.after, stageAfter, hne] using hs
      | _ =>
        simp only [Ledger.after, stageAfter]
        split <;> simp [hs, Stage.after]

/-- A descriptor is not bound twice without being closed in between. -/
lemma notMem_of_bind
    (h : L.Along (fun L r _ => L.Allows r) (t ++ .call (.bind fd address) (.ok ()) :: u))
    (hf : L.Along Fresh (t ++ .call (.bind fd address) (.ok ()) :: u)) (hc : fd ∉ u.closed)
    (address' : Wire.LinkAddress) : .call (.bind fd address') (.ok ()) ∉ u := by
  intro hmem
  obtain ⟨v, x, rfl⟩ := List.append_of_mem hmem
  have hbound := stage_after_bind h
  have hsplit : t ++ .call (.bind fd address) (.ok ()) ::
        (v ++ .call (.bind fd address') (.ok ()) :: x) =
      t ++ [.call (.bind fd address) (.ok ())] ++
        (v ++ .call (.bind fd address') (.ok ()) :: x) := by simp
  rw [hsplit, along_append] at h hf
  rw [closed_append, List.mem_append, not_or] at hc
  have hlater := stage_of_bound hbound (along_append.mp hf.2).1 hc.1
  cases hlater.symm.trans (stage_before_bind h.2)

/-- There is one place where an open descriptor has been bound. -/
lemma bind_unique {t' u' : Trace}
    (h : L.Along (fun L r _ => L.Allows r) (t ++ .call (.bind fd address) (.ok ()) :: u))
    (hf : L.Along Fresh (t ++ .call (.bind fd address) (.ok ()) :: u)) (hc : fd ∉ u.closed)
    (hc' : fd ∉ u'.closed)
    (heq : t ++ .call (.bind fd address) (.ok ()) :: u =
      t' ++ .call (.bind fd address') (.ok ()) :: u') :
    t ++ [.call (.bind fd address) (.ok ())] = t' ++ [.call (.bind fd address') (.ok ())] := by
  rcases List.append_eq_append_iff.mp heq with ⟨z, rfl, hz⟩ | ⟨z, rfl, hz⟩
  · cases z with
    | nil =>
      cases hz
      rw [List.append_nil]
    | cons entry z =>
      obtain ⟨-, rfl⟩ := List.cons.inj hz
      exact absurd (by simp) (notMem_of_bind h hf hc address')
  · cases z with
    | nil =>
      cases hz
      rw [List.append_nil]
    | cons entry z =>
      obtain ⟨-, rfl⟩ := List.cons.inj hz
      rw [heq] at h hf
      exact absurd (by simp) (notMem_of_bind h hf hc' address)

end Kernel.Ledger

namespace Workbench

variable {slots : Nat} {w w' : Workbench slots} {t u : Trace} {fd : Descriptor}
  {address : Wire.LinkAddress}

/-- The discovery socket of what a slot holds. -/
def discoveryIn (w : Workbench slots) (i : Fin slots) : Option Descriptor :=
  (w.held i).bind (·.underlying.discovery)

lemma discoveryIn_eq_some {i : Fin slots} :
    w.discoveryIn i = some fd ↔ ∃ e, w.held i = some e ∧ e.underlying.discovery = some fd :=
  Option.bind_eq_some_iff

lemma mem_descriptors_of_discoveryIn {i : Fin slots} (h : w.discoveryIn i = some fd) :
    fd ∈ Endpoint.descriptors (w.held i) := by
  obtain ⟨e, he, hfd⟩ := discoveryIn_eq_some.mp h
  rw [he, Endpoint.mem_descriptors_some]
  simp [hfd]

/-- A descriptor that is held as a bound one is the discovery socket of some slot. -/
lemma exists_discoveryIn_of_mem (h : (fd, .bound) ∈ w.holdings) :
    ∃ i, w.discoveryIn i = some fd := by
  rcases Multiset.mem_add.mp h with hcontrol | hslots
  · simp [ControlSocket.holdings, mem_holding] at hcontrol
  · obtain ⟨i, -, hi⟩ := Multiset.mem_sum.mp hslots
    cases he : w.held i with
    | none => simp [he] at hi
    | some e =>
      rw [he, Endpoint.holdings_some, Connection.holdings, Multiset.mem_add] at hi
      simp only [mem_holding, reduceCtorEq, and_false, and_true, false_or] at hi
      exact ⟨i, discoveryIn_eq_some.mpr ⟨e, he, hi⟩⟩

/-- A descriptor that has been bound, and not been closed since, is the discovery socket of some
slot. -/
lemma Reachable.exists_discoveryIn
    (h : w.Reachable (t ++ .call (.bind fd address) (.ok ()) :: u))
    (hl : (t ++ .call (.bind fd address) (.ok ()) :: u).Lawful) (hc : fd ∉ u.closed) :
    ∃ i, w.discoveryIn i = some fd := by
  apply exists_discoveryIn_of_mem
  apply ((h.holds hl).stage_iff fd .bound).mp
  have hfresh : Ledger.empty.Along Fresh (t ++ .call (.bind fd address) (.ok ()) :: u) :=
    along_fresh_of_lawful (t := []) hl rfl
  have hbound := stage_after_bind (h.allows hl)
  have hsplit : t ++ .call (.bind fd address) (.ok ()) :: u =
    t ++ [.call (.bind fd address) (.ok ())] ++ u := by simp
  rw [hsplit, along_append] at hfresh
  rw [hsplit, through_append]
  exact stage_of_bound hbound hfresh.2 hc

lemma Reachable.mem_opened_of_bind
    (h : w.Reachable (t ++ .call (.bind fd address) (.ok ()) :: u))
    (hl : (t ++ .call (.bind fd address) (.ok ()) :: u).Lawful) :
    fd ∈ opened (t ++ [.call (.bind fd address) (.ok ())]) := by
  rw [mem_opened_iff, stage_after_bind (h.allows hl)]
  rfl

end Workbench

end PppoeSetup
