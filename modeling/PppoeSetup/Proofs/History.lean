import PppoeSetup.Proofs.Runs

/-!
# Histories

What has been done on a workbench, operation by operation, with what happened in each and the
reply to it. A trace tells what happened in a run; its history also tells who did it.
-/

namespace PppoeSetup

open Kernel

namespace Workbench

/-- One operation of a run, with what happened in it and the reply. -/
structure Step (slots : Nat) where
  operation : Operation slots
  trace : Trace
  reply : Reply

variable {slots : Nat} {w : Workbench slots} {history : List (Step slots)} {t : Trace}

/-- All that happened in a history. -/
def traceOf (history : List (Step slots)) : Trace := history.flatMap (·.trace)

@[simp] lemma traceOf_nil : traceOf ([] : List (Step slots)) = [] := rfl

@[simp] lemma traceOf_cons (step : Step slots) :
    traceOf (step :: history) = step.trace ++ traceOf history := rfl

@[simp] lemma traceOf_concat (step : Step slots) :
    traceOf (history ++ [step]) = traceOf history ++ step.trace := by
  simp [traceOf]

/-- What an empty workbench can come to be through a history. -/
inductive After : List (Step slots) → Workbench slots → Prop
  | start : After [] empty
  | step {history : List (Step slots)} {w w' : Workbench slots} {op : Operation slots} {u : Trace}
    {reply : Reply} :
    After history w → (w.perform op).Yields u (reply, w') → After (history ++ [⟨op, u, reply⟩]) w'

lemma After.reachable (h : w.After history) : w.Reachable (traceOf history) := by
  induction h with
  | start => exact .start
  | step _ hop ih =>
    rw [traceOf_concat]
    exact ih.step hop

/-- Every run has a history. -/
theorem Reachable.exists_after (h : w.Reachable t) :
    ∃ history, w.After history ∧ traceOf history = t := by
  induction h with
  | start => exact ⟨[], .start, rfl⟩
  | @step t u w w' op reply _ hop ih =>
    obtain ⟨history, ha, ht⟩ := ih
    refine ⟨history ++ [⟨op, u, reply⟩], ha.step hop, ?_⟩
    rw [traceOf_concat, ht]

/-- The actions of a history are all of this kind. -/
def Acts (q : Action → Prop) (history : List (Step slots)) : Prop :=
  ∀ step ∈ history, ∀ i action, step.operation = .act i action → q action

@[simp] lemma acts_concat {q : Action → Prop} {step : Step slots} :
    Acts q (history ++ [step]) ↔
      Acts q history ∧ ∀ i action, step.operation = .act i action → q action := by
  simp only [Acts, List.forall_mem_append, List.forall_mem_singleton]

/-- What actions of a kind keep holds of all that the slots come to hold. -/
lemma After.held {P : Endpoint → Prop} {q : Action → Prop}
    (act : ∀ {held held' s s' action t reply}, q action →
      Endpoint.Acting held s action t reply held' s' →
      (∀ e, held = some e → P e) → ∀ e, held' = some e → P e)
    (h : w.After history) (hq : Acts q history) {i : Fin slots} {e : Endpoint}
    (hi : w.held i = some e) : P e := by
  induction h generalizing i e with
  | start => cases hi
  | step hr hop ih =>
    obtain ⟨hbefore, hlast⟩ := acts_concat.mp hq
    refine forall_held_of_perform ?_ hop (fun _ _ he => ih hbefore he) hi
    intro i action _ _ hact ha
    exact act (hlast i action hact) ha fun _ he => ih hbefore he

/-! ### Histories on a simulated kernel -/

/-- The history that comes of the operations on a simulated kernel. -/
def record (w : Workbench slots) (s : SimulatedState) : List (Operation slots) → List (Step slots)
  | [] => []
  | op :: ops =>
    let o := (w.perform op).run simulated s
    ⟨op, o.trace, o.value.1⟩ :: o.value.2.record o.state ops

lemma operations_record (w : Workbench slots) (s : SimulatedState) (ops : List (Operation slots)) :
    (w.record s ops).map (·.operation) = ops := by
  induction ops generalizing w s with
  | nil => rfl
  | cons op ops ih => simp [record, ih]

lemma traceOf_record (w : Workbench slots) (s : SimulatedState) (ops : List (Operation slots)) :
    traceOf (w.record s ops) = ((w.performAll ops).run simulated s).trace := by
  induction ops generalizing w s with
  | nil => rfl
  | cons op ops ih =>
    simp only [record, performAll, Program.run_bind, traceOf_cons, ih]
    exact congrArg _ (List.append_nil _).symm

lemma acts_record {q : Action → Prop} {s : SimulatedState} {ops : List (Operation slots)}
    (h : ∀ i action, .act i action ∈ ops → q action) : Acts q (w.record s ops) := by
  intro step hstep i action hop
  apply h i
  rw [← operations_record w s ops, ← hop]
  exact List.mem_map_of_mem hstep

lemma After.record (h : w.After history) (s : SimulatedState) (ops : List (Operation slots)) :
    ((w.performAll ops).run simulated s).value.2.After (history ++ w.record s ops) := by
  induction ops generalizing w s history with
  | nil =>
    rw [Workbench.record, List.append_nil]
    exact h
  | cons op ops ih =>
    have hop := h.step (Program.yields_run simulated (w.perform op) s)
    have hops := ih hop ((w.perform op).run simulated s).state
    rw [List.append_assoc] at hops
    simp only [performAll, Program.run_bind]
    exact hops

/-- The workbench that `simulate` comes to, with its history. -/
lemma after_simulate (ops : List (Operation slots)) (s : SimulatedState) :
    (simulate ops s).value.2.After (empty.record s ops) :=
  After.start.record s ops

end Workbench

end PppoeSetup
