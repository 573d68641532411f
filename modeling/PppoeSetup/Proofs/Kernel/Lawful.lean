import PppoeSetup.Kernel.Simulated
import PppoeSetup.Proofs.Kernel.Descriptors

/-!
# The simulated kernel is lawful

It numbers its descriptors and never goes back, so every descriptor that it gives out is new.
-/

namespace PppoeSetup.Kernel

open Trace

variable {s : SimulatedState} {o : Finset Descriptor}

namespace SimulatedState

lemma takeFault_nextDescriptor (p : FaultPoint) :
    (s.takeFault p).2.nextDescriptor = s.nextDescriptor := by
  unfold takeFault
  split <;> rfl

lemma takeFault_flags (p : FaultPoint) : (s.takeFault p).2.flags = s.flags := by
  unfold takeFault
  split <;> rfl

lemma le_perform_nextDescriptor (r : Request) :
    s.nextDescriptor ≤ (s.perform r).2.nextDescriptor := by
  cases r with
  | openSocket kind => exact Nat.le_succ _
  | setOption | statusFlags | setStatusFlags | close | register => exact le_rfl
  | notifications fd direction => cases direction <;> exact le_rfl
  | _ => grind [perform]

end SimulatedState

/-- A request either is refused or does what it does without faults. -/
lemma respond_eq (s : SimulatedState) (r : Request) :
    ∃ s' : SimulatedState, s'.nextDescriptor = s.nextDescriptor ∧ s'.flags = s.flags ∧
      ((∃ e, SimulatedState.refuse e r = some (simulated.respond s r).1 ∧
          (simulated.respond s r).2 = s') ∨
        simulated.respond s r = s'.perform r) := by
  cases hp : FaultPoint.ofRequest? r with
  | none => exact ⟨s, rfl, rfl, .inr (by simp only [simulated, hp])⟩
  | some p =>
    refine ⟨(s.takeFault p).2, s.takeFault_nextDescriptor p, s.takeFault_flags p, ?_⟩
    cases hf : (s.takeFault p).1.bind fun e => SimulatedState.refuse e r with
    | none => exact .inr (by simp only [simulated, hp, hf])
    | some answer =>
      obtain ⟨e, -, he⟩ := Option.bind_eq_some_iff.mp hf
      refine .inl ⟨e, ?_, ?_⟩ <;> simp only [simulated, hp, hf, he]

/-- What the kernel gives out is the next number. -/
lemma respond_openSocket {kind : SocketKind} {fd : Descriptor}
    (h : (simulated.respond s (.openSocket kind)).1 = .ok fd) :
    fd = s.nextDescriptor ∧
      (simulated.respond s (.openSocket kind)).2.nextDescriptor = s.nextDescriptor + 1 := by
  obtain ⟨s', hs', -, ⟨e, he, -⟩ | hp⟩ := respond_eq s (.openSocket kind)
  · rw [h] at he
    cases he
  · rw [hp] at h ⊢
    cases h
    exact ⟨hs', congrArg (· + 1) hs'⟩

/-- Whatever a request does, the open descriptors have smaller numbers than the next one. -/
lemma lt_nextDescriptor_of_respond (h : ∀ fd ∈ o, fd < s.nextDescriptor) (r : Request) :
    ∀ fd ∈ r.openAfter o (simulated.respond s r).1,
      fd < (simulated.respond s r).2.nextDescriptor := by
  have hle : s.nextDescriptor ≤ (simulated.respond s r).2.nextDescriptor := by
    obtain ⟨s', hs', -, ⟨e, -, hr⟩ | hp⟩ := respond_eq s r
    · rw [hr, hs']
    · rw [hp, ← hs']
      exact s'.le_perform_nextDescriptor r
  intro fd hfd
  -- only an opening adds a descriptor, and that is the one the next number is now above
  cases r with
  | openSocket kind =>
    cases ha : (simulated.respond s (.openSocket kind)).1 with
    | error e =>
      rw [ha] at hfd
      exact (h fd hfd).trans_le hle
    | ok fd' =>
      rw [ha] at hfd
      obtain ⟨rfl, hnext⟩ := respond_openSocket ha
      rw [hnext, Nat.lt_succ_iff]
      rcases Finset.mem_insert.mp hfd with rfl | hfd
      · exact le_rfl
      · exact (h fd hfd).le
  | close fd' => exact (h fd (Finset.mem_of_mem_erase hfd)).trans_le hle
  | _ => exact (h fd hfd).trans_le hle

/-- The induction is on the program; the open descriptors and the next one go on from there. -/
lemma notMem_openFrom_of_run {α : Type} (p : Program α) {s : SimulatedState}
    {o : Finset Descriptor} (h : ∀ fd ∈ o, fd < s.nextDescriptor) :
    ∀ u kind fd v, (p.run simulated s).trace = u ++ .call (.openSocket kind) (.ok fd) :: v →
      fd ∉ openFrom o u := by
  induction p generalizing s o with
  | done a =>
    intro u kind fd v ht
    simp [Program.run] at ht
  | tell e next ih =>
    intro u kind fd v ht
    cases u with
    | nil => cases ht
    | cons entry u =>
      obtain ⟨rfl, htail⟩ := List.cons.inj ht
      exact ih h u kind fd v htail
  | ask r next ih =>
    intro u kind fd v ht
    cases u with
    | nil =>
      obtain ⟨hr, -⟩ := List.cons.inj ht
      obtain ⟨rfl, ha⟩ := Entry.call.inj hr
      obtain ⟨rfl, -⟩ := respond_openSocket (eq_of_heq ha)
      exact fun ho => (h _ ho).false
    | cons entry u =>
      obtain ⟨rfl, htail⟩ := List.cons.inj ht
      exact ih _ (lt_nextDescriptor_of_respond h r) u kind fd v htail

theorem lawful_run_simulated {α : Type} (p : Program α) (s : SimulatedState) :
    (p.run simulated s).trace.Lawful :=
  notMem_openFrom_of_run p fun _ h => absurd h (Finset.notMem_empty _)

end PppoeSetup.Kernel
