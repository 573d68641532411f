import PppoeSetup.Proofs.Course.Workbench
import PppoeSetup.Proofs.Kernel.Lawful

/-!
# Runs of the workbench

Every state that a workbench can come to, by any operations in any order and with any answers of
the kernel, together with all that happened on the way.
-/

namespace PppoeSetup

open Kernel

namespace Workbench

variable {slots : Nat} {t u : Trace} {w w' : Workbench slots}

/-- What can become of an empty workbench. -/
inductive Reachable : Trace → Workbench slots → Prop
  | start : Reachable [] empty
  | step {t u : Trace} {w w' : Workbench slots} {op : Operation slots} {reply : Reply} :
    Reachable t w → (w.perform op).Yields u (reply, w') → Reachable (t ++ u) w'

/-- The first operation is performed, and then the others. -/
lemma yields_performAll_cons {op : Operation slots} {ops : List (Operation slots)}
    {replies : List Reply} :
    (w.performAll (op :: ops)).Yields t (replies, w') ↔
      ∃ u v reply rest w₁, t = u ++ v ∧ replies = reply :: rest ∧
        (w.perform op).Yields u (reply, w₁) ∧ (w₁.performAll ops).Yields v (rest, w') := by
  constructor
  · intro h
    obtain ⟨u, v, ⟨reply, w₁⟩, rfl, hop, hk⟩ := Program.yields_bind.mp h
    obtain ⟨v, x, ⟨rest, w₂⟩, rfl, hops, hx⟩ := Program.yields_bind.mp hk
    cases hx
    exact ⟨u, v, reply, rest, w₁, by simp, rfl, hop, hops⟩
  · rintro ⟨u, v, reply, rest, w₁, rfl, rfl, hop, hops⟩
    refine Program.yields_bind.mpr ⟨u, v, (reply, w₁), rfl, hop, ?_⟩
    exact Program.yields_bind.mpr ⟨v, [], (rest, w'), by simp, hops, .done _⟩

lemma Reachable.performAll {ops : List (Operation slots)} {replies : List Reply}
    (hr : Reachable t w) (h : (w.performAll ops).Yields u (replies, w')) :
    Reachable (t ++ u) w' := by
  induction ops generalizing t u w replies with
  | nil =>
    cases h
    rwa [List.append_nil]
  | cons op ops ih =>
    obtain ⟨u, v, reply, rest, w₁, rfl, rfl, hop, hops⟩ := yields_performAll_cons.mp h
    rw [← List.append_assoc]
    exact ih (hr.step hop) hops

lemma performAll_concat {ops : List (Operation slots)} {op : Operation slots}
    {replies : List Reply} {reply : Reply} {w₁ : Workbench slots}
    (h : (w.performAll ops).Yields t (replies, w₁)) (hop : (w₁.perform op).Yields u (reply, w')) :
    (w.performAll (ops ++ [op])).Yields (t ++ u) (replies ++ [reply], w') := by
  induction ops generalizing t w replies with
  | nil =>
    cases h
    exact yields_performAll_cons.mpr ⟨u, [], reply, [], w', by simp, rfl, hop, .done _⟩
  | cons op' ops ih =>
    obtain ⟨u₁, v, reply', rest, w₂, rfl, rfl, hop', hops⟩ := yields_performAll_cons.mp h
    refine yields_performAll_cons.mpr ⟨u₁, v ++ u, reply', rest ++ [reply], w₂, ?_⟩
    exact ⟨List.append_assoc .., rfl, hop', ih hops⟩

/-- The reachable states are those that some list of operations leads to. -/
theorem reachable_iff :
    Reachable t w ↔ ∃ ops replies, (empty.performAll ops).Yields t (replies, w) := by
  constructor
  · intro h
    induction h with
    | start => exact ⟨[], [], .done _⟩
    | step hr hop ih =>
      obtain ⟨ops, replies, h⟩ := ih
      exact ⟨_, _, performAll_concat h hop⟩
  · rintro ⟨ops, replies, h⟩
    simpa using Reachable.start.performAll h

/-- The connection that an operation works on. -/
def client (w : Workbench slots) : Operation slots → Option Connection
  | .act slot _ => (w.held slot).map (·.underlying)
  | _ => none

/-! ### One slot -/

@[simp] lemma held_put_self (i : Fin slots) (e : Option Endpoint) : (w.put i e).held i = e := by
  simp [put]

lemma held_put_of_ne {i j : Fin slots} (e : Option Endpoint) (h : j ≠ i) :
    (w.put i e).held j = w.held j := by
  simp [put, h]

@[simp] lemma control_put (i : Fin slots) (e : Option Endpoint) : (w.put i e).control = w.control :=
  rfl

/-- An action on a slot, by what the slot holds and how the control socket is before and after
it. -/
lemma yields_act_control {i : Fin slots} {action : Action} {reply : Reply}
    (h : (w.perform (.act i action)).Yields u (reply, w')) :
    ((Endpoint.act (w.held i) action).run w.control).Yields u
      ((reply, w'.held i), w'.control) := by
  obtain ⟨u, v, ⟨⟨_, held⟩, s⟩, rfl, ha, hr⟩ := Program.yields_bind.mp h
  cases hr
  rwa [List.append_nil, held_put_self, control_put]

lemma yields_act {i : Fin slots} {action : Action} {reply : Reply}
    (h : (w.perform (.act i action)).Yields u (reply, w')) :
    ∃ s, ((Endpoint.act (w.held i) action).run w.control).Yields u ((reply, w'.held i), s) :=
  ⟨w'.control, yields_act_control h⟩

/-- An operation leaves a slot as it is, or acts on it. -/
lemma held_eq_or_acts {op : Operation slots} {reply : Reply}
    (h : (w.perform op).Yields u (reply, w')) (i : Fin slots) :
    (w'.held i = w.held i ∧ ∀ action, op ≠ .act i action) ∨ ∃ action, op = .act i action := by
  cases Performing.of_yields h with
  | @acted slot action _ _ held s ha =>
    by_cases hslot : i = slot
    · subst hslot
      exact .inr ⟨action, rfl⟩
    · refine .inl ⟨held_put_of_ne _ hslot, ?_⟩
      rintro _ ⟨⟩
      exact hslot rfl
  | _ => exact .inl ⟨rfl, fun _ hop => nomatch hop⟩

/-- What an operation leaves in the slots, it has found there or an action has put it there. -/
lemma forall_held_of_perform {P : Endpoint → Prop} {op : Operation slots} {reply : Reply}
    (act : ∀ {i action held' s'}, op = .act i action →
      Endpoint.Acting (w.held i) w.control action u reply held' s' →
      ∀ e, held' = some e → P e)
    (h : (w.perform op).Yields u (reply, w')) (hw : ∀ i e, w.held i = some e → P e)
    {i : Fin slots} {e : Endpoint} (hi : w'.held i = some e) : P e := by
  rcases held_eq_or_acts h i with ⟨heq, -⟩ | ⟨action, rfl⟩
  · exact hw i e (heq.symm.trans hi)
  · obtain ⟨s, ha⟩ := yields_act h
    exact act rfl (.of_yields ha) e hi

/-- What every action keeps holds of all that the slots ever hold. -/
lemma Reachable.held {P : Endpoint → Prop}
    (act : ∀ {held held' s s' action t reply}, Endpoint.Acting held s action t reply held' s' →
      (∀ e, held = some e → P e) → ∀ e, held' = some e → P e)
    (h : Reachable t w) {i : Fin slots} {e : Endpoint} (hi : w.held i = some e) : P e := by
  induction h generalizing i e with
  | start => cases hi
  | step hr hop ih =>
    exact forall_held_of_perform (fun _ ha => act ha fun _ he => ih he) hop (fun _ _ he => ih he) hi

/-! ### Runs on a simulated kernel -/

/-- What becomes of an empty workbench when the operations meet a simulated kernel. -/
def simulate (ops : List (Operation slots)) (s : SimulatedState) :
    Outcome SimulatedState (List Reply × Workbench slots) :=
  (empty.performAll ops).run simulated s

lemma yields_simulate (ops : List (Operation slots)) (s : SimulatedState) :
    (empty.performAll ops).Yields (simulate ops s).trace
      ((simulate ops s).value.1, (simulate ops s).value.2) :=
  Program.yields_run simulated (empty.performAll ops) s

lemma reachable_simulate (ops : List (Operation slots)) (s : SimulatedState) :
    (simulate ops s).value.2.Reachable (simulate ops s).trace :=
  Reachable.start.performAll (yields_simulate ops s)

lemma lawful_simulate (ops : List (Operation slots)) (s : SimulatedState) :
    (simulate ops s).trace.Lawful :=
  lawful_run_simulated _ s

/-- A connection is brought up and wrapped. -/
def wrapping (slot : Fin slots) : List (Operation slots) :=
  [.act slot .create, .act slot (.bringUp (some "eth0")), .act slot .toDiscovery]

end Workbench

/-- The interface of the simulated machine. -/
def eth0 : InterfaceName := ⟨"eth0", by decide⟩

def eth0Address : MacAddress := ⟨#v[2, 0, 0, 0, 0, 1]⟩

/-- A machine with one interface. -/
def Kernel.SimulatedState.oneInterface : SimulatedState where
  interfaces := [⟨eth0.text, 3, Wire.zeroPadded 14 eth0Address.octets.toList⟩]

/-- What comes of `wrapping` on that machine. -/
def wrappingOutcome : Outcome SimulatedState (List Reply × Workbench 1) :=
  Workbench.simulate (Workbench.wrapping 0) .oneInterface

end PppoeSetup
