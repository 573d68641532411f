import Mathlib.Algebra.Ring.Nat
import PppoeSetup.Traffic

/-!
# Sums on the counters

A counter gains, modulo 2^64, what the steps have directed at it. So the counters tell neither in
which order the steps were taken nor by whom.
-/

namespace PppoeSetup

namespace Traffic

variable {t t' t'' : Traffic} {c : Counter} {steps steps' : List Step}

lemma eq_of_get (h : ∀ c, t.get c = t'.get c) : t = t' := by
  obtain ⟨a, b, c, d, e, f⟩ := t
  obtain ⟨a', b', c', d', e', f'⟩ := t'
  have ha : a = a' := h .rxPackets
  have hb : b = b' := h .rxBytes
  have hc : c = c' := h .txPackets
  have hd : d = d' := h .txBytes
  have he : e = e' := h .rxErrors
  have hf : f = f' := h .txErrors
  rw [ha, hb, hc, hd, he, hf]

lemma toNat_get_none (c : Counter) : (Traffic.none.get c).toNat = 0 := by
  cases c <;> rfl

/-! ### Gains -/

/-- The counters of `t'` are those of `t` with the shares added, modulo 2^64. -/
def Gains (t t' : Traffic) (share : Counter → Nat) : Prop :=
  ∀ c, (t'.get c).toNat = ((t.get c).toNat + share c) % 2 ^ 64

lemma Gains.zero (t : Traffic) : t.Gains t fun _ => 0 := by
  intro c
  rw [Nat.add_zero, Nat.mod_eq_of_lt (t.get c).toNat_lt]

lemma Gains.unique {share : Counter → Nat} (h : t.Gains t' share) (h' : t.Gains t'' share) :
    t' = t'' := by
  apply eq_of_get
  intro c
  apply UInt64.toNat_inj.mp
  rw [h c, h' c]

lemma gains_add (t : Traffic) (c : Counter) (n : UInt64) :
    t.Gains (t.add c n) fun d => if d = c then n.toNat else 0 := by
  intro d
  by_cases hd : d = c
  · simp only [get_add, if_pos hd, UInt64.toNat_add]
  · simp only [get_add, if_neg hd]
    exact Gains.zero t d

lemma Gains.trans {share share' : Counter → Nat} (h : t.Gains t' share)
    (h' : t'.Gains t'' share') : t.Gains t'' fun c => share c + share' c := by
  intro c
  rw [h' c, h c, Nat.mod_add_mod, Nat.add_assoc]

/-- Shares count modulo 2^64. -/
lemma Gains.congr {share share' : Counter → Nat} (h : t.Gains t' share)
    (hs : ∀ c, share c % 2 ^ 64 = share' c % 2 ^ 64) : t.Gains t' share' := by
  intro c
  rw [h c, Nat.add_mod, hs c, ← Nat.add_mod]

/-! ### Steps -/

namespace Step

/-- What a step directs at a counter. -/
def share : Step → Counter → Nat
  | received _, .rxPackets => 1
  | received n, .rxBytes => n.toNat
  | sent _, .txPackets => 1
  | sent n, .txBytes => n.toNat
  | increment c, d => if d = c then 1 else 0
  | add c n, d => if d = c then n.toNat else 0
  | _, _ => 0

/-- The counters that a step is directed at. -/
def counters : Step → List Counter
  | received _ => [.rxPackets, .rxBytes]
  | sent _ => [.txPackets, .txBytes]
  | increment c | add c _ => [c]

/-- The steps, on one counter each, that a step is made of. Others may come between them. -/
def parts : Step → List Step
  | received n => [increment .rxPackets, add .rxBytes n]
  | sent n => [increment .txPackets, add .txBytes n]
  | step => [step]

lemma share_eq_zero {step : Step} (h : c ∉ step.counters) : step.share c = 0 := by
  cases step <;> cases c <;> simp_all [share, counters]

end Step

lemma apply_parts (t : Traffic) (step : Step) : step.parts.foldl apply t = t.apply step := by
  cases step <;> rfl

lemma gains_apply (t : Traffic) (step : Step) : t.Gains (t.apply step) step.share := by
  cases step with
  | received n =>
    refine ((gains_add t .rxPackets 1).trans (gains_add _ .rxBytes n)).congr ?_
    intro c
    cases c <;> simp [Step.share]
  | sent n =>
    refine ((gains_add t .txPackets 1).trans (gains_add _ .txBytes n)).congr ?_
    intro c
    cases c <;> simp [Step.share]
  | increment c => exact gains_add t c 1
  | add c n => exact gains_add t c n

/-- A step leaves the counters alone that it is not directed at. -/
lemma get_apply_of_notMem {step : Step} (h : c ∉ step.counters) :
    (t.apply step).get c = t.get c := by
  apply UInt64.toNat_inj.mp
  rw [gains_apply t step c, Step.share_eq_zero h]
  exact (Gains.zero t c).symm

/-! ### Runs -/

/-- The steps one after another. -/
def applyAll (t : Traffic) (steps : List Step) : Traffic := steps.foldl apply t

/-- What the steps direct at a counter, taken together. -/
def total (steps : List Step) (c : Counter) : Nat := (steps.map (·.share c)).sum

/-- What one step gains and what the others gain after it add up. -/
lemma gains_applyAll (t : Traffic) (steps : List Step) :
    t.Gains (t.applyAll steps) (total steps) := by
  induction steps generalizing t with
  | nil => exact .zero t
  | cons step steps ih => exact (gains_apply t step).trans (ih (t.apply step))

lemma total_perm (h : steps.Perm steps') : total steps = total steps' := by
  funext c
  exact (h.map (·.share c)).sum_nat

lemma applyAll_perm (h : steps.Perm steps') (t : Traffic) :
    t.applyAll steps = t.applyAll steps' := by
  have hsteps := gains_applyAll t steps
  rw [total_perm h] at hsteps
  exact hsteps.unique (gains_applyAll t steps')

lemma applyAll_parts (t : Traffic) (steps : List Step) :
    t.applyAll (steps.flatMap Step.parts) = t.applyAll steps := by
  rw [applyAll, List.foldl_flatMap]
  simp only [apply_parts, applyAll]

/-! ### Clients -/

/-- The steps of several clients come in this order: each client takes its own one after another,
and whoever has steps left may be the next to take one. -/
inductive Interleaves : List (List Step) → List Step → Prop
  | done {clients : List (List Step)} :
    (∀ client ∈ clients, client = []) → Interleaves clients []
  | step (before : List (List Step)) {after : List (List Step)} {rest steps : List Step}
    {step : Step} :
    Interleaves (before ++ rest :: after) steps →
      Interleaves (before ++ (step :: rest) :: after) (step :: steps)

lemma Interleaves.perm {clients : List (List Step)} (h : Interleaves clients steps) :
    steps.Perm clients.flatten := by
  induction h with
  | done hclients => rw [List.flatten_eq_nil_iff.mpr hclients]
  | @step before after rest steps step _ ih =>
    rw [List.flatten_append, List.flatten_cons] at ih ⊢
    -- In the list of all steps, this one stands where its client's steps begin.
    exact (ih.cons step).trans List.perm_middle.symm

/-- Whatever the counters stand at and whatever steps are taken:

* every counter ends up, modulo 2^64, at what the steps have directed at it, added to what it
  stood at; if it stood at zero, at their sum alone;
* no step changes a counter that it is not directed at;
* the same steps in another order come to the same;
* so do the steps of several clients in any order in which they may come together, and even if
  others come between the parts of a step: it is as if the clients went one after another. -/
theorem steps_add_up (t : Traffic) :
    (∀ steps c, ((t.applyAll steps).get c).toNat = ((t.get c).toNat + total steps c) % 2 ^ 64) ∧
      (∀ steps c, ((none.applyAll steps).get c).toNat = total steps c % 2 ^ 64) ∧
      (∀ step c, c ∉ step.counters → (t.apply step).get c = t.get c) ∧
      (∀ steps steps', steps.Perm steps' → t.applyAll steps = t.applyAll steps') ∧
      (∀ clients steps, Interleaves clients steps →
        t.applyAll steps = t.applyAll clients.flatten) ∧
      ∀ (clients : List (List Step)) parts,
        Interleaves (clients.map (·.flatMap Step.parts)) parts →
          t.applyAll parts = t.applyAll clients.flatten := by
  refine ⟨gains_applyAll t, ?_, ?_, ?_, ?_, ?_⟩
  · intro steps c
    rw [gains_applyAll none steps c, toNat_get_none, Nat.zero_add]
  · intro step c h
    exact get_apply_of_notMem h
  · intro steps steps' h
    exact applyAll_perm h t
  · intro clients steps h
    exact applyAll_perm h.perm t
  · intro clients parts h
    -- cutting steps into parts and joining clients come to the same in either order
    have hflatten : (clients.map (·.flatMap Step.parts)).flatten =
        clients.flatten.flatMap Step.parts := by
      rw [← List.flatMap_def, ← List.flatMap_id, List.flatMap_assoc]
      rfl
    rw [applyAll_perm h.perm t, hflatten, applyAll_parts]

/-- Two clients, whose bytes go past the end of a counter: their steps by turns, and with one
client between the parts of the other's step. -/
theorem steps_add_up_wrapped :
    let clients : List (List Step) :=
      [[.received 0xFFFFFFFFFFFFFFFF, .increment .rxErrors], [.received 3, .sent 60]]
    let steps : List Step :=
      [.received 3, .received 0xFFFFFFFFFFFFFFFF, .sent 60, .increment .rxErrors]
    let parts : List Step :=
      [.increment .rxPackets, .increment .rxPackets, .add .rxBytes 3, .increment .txPackets,
        .add .rxBytes 0xFFFFFFFFFFFFFFFF, .increment .rxErrors, .add .txBytes 60]
    let traffic : Traffic :=
      { rxPackets := 2, rxBytes := 2, txPackets := 1, txBytes := 60, rxErrors := 1 }
    Interleaves clients steps ∧ Interleaves (clients.map (·.flatMap Step.parts)) parts ∧
      none.applyAll clients.flatten = traffic ∧ none.applyAll clients.flatten.reverse = traffic ∧
      none.applyAll steps = traffic ∧ none.applyAll parts = traffic ∧
      (none.apply (.sent 60)).get .rxBytes = none.get .rxBytes ∧
      (traffic.get .rxBytes).toNat = total clients.flatten .rxBytes % 2 ^ 64 := by
  intro clients steps parts traffic
  obtain ⟨-, hsums, hothers, horder, hclients, hparts⟩ := steps_add_up none
  have hsteps : Interleaves clients steps :=
    .step [_] (.step [] (.step [_] (.step [] (.done (by simp)))))
  have hsplit : Interleaves (clients.map (·.flatMap Step.parts)) parts :=
    .step [] (.step [_] (.step [_] (.step [_] (.step [] (.step [] (.step [_] (.done (by simp))))))))
  have hflatten : none.applyAll clients.flatten = traffic := by decide
  refine ⟨hsteps, hsplit, hflatten, ?_, ?_, ?_, ?_, ?_⟩
  · rw [horder _ _ (List.reverse_perm _), hflatten]
  · rw [hclients clients steps hsteps, hflatten]
  · rw [hparts clients parts hsplit, hflatten]
  · exact hothers (.sent 60) .rxBytes (by decide)
  · rw [← hflatten]
    exact hsums clients.flatten .rxBytes

end Traffic

end PppoeSetup
