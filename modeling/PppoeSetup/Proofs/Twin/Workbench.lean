import PppoeSetup.Proofs.Ownership
import PppoeSetup.Proofs.Twin.Endpoint
import PppoeSetup.Proofs.Twin.Machine

/-!
# Slots keep apart

On a kernel that follows a machine the slots of a workbench hold sockets of their own, and an
operation leaves the sockets of all slots as they are that it is not about.
-/

namespace PppoeSetup

open Kernel

/-- The operation is about the slot. -/
def Operation.isOn {slots : Nat} (i : Fin slots) : Operation slots → Bool
  | .act slot _ => slot = i
  | _ => false

/-! ### The two sides of pairs -/

section

variable {ρ ρ₁ : Pairs} {o o' : Option Descriptor}

lemma map_fst_pairUp (h : o.isSome = o'.isSome) : (pairUp o o').map Prod.fst = ↑o.toList := by
  obtain _ | fd := o <;> obtain _ | fd' := o' <;> cases h <;> rfl

lemma map_snd_pairUp (h : o.isSome = o'.isSome) : (pairUp o o').map Prod.snd = ↑o'.toList := by
  obtain _ | fd := o <;> obtain _ | fd' := o' <;> cases h <;> rfl

lemma Connection.Twin.map_fst {c c' : Connection} (h : c.Twin c' ρ ρ₁) :
    (c.pairs c').map Prod.fst = c.descriptors := by
  rw [pairs, Multiset.map_add, map_fst_pairUp h.session, map_fst_pairUp h.discovery,
    Multiset.coe_add]
  rfl

lemma Connection.Twin.map_snd {c c' : Connection} (h : c.Twin c' ρ ρ₁) :
    (c.pairs c').map Prod.snd = c'.descriptors := by
  rw [pairs, Multiset.map_add, map_snd_pairUp h.session, map_snd_pairUp h.discovery,
    Multiset.coe_add]
  rfl

variable {held held' : Option Endpoint}

lemma Endpoint.Twins.map_fst (h : Twins ρ ρ₁ held held') :
    (pairs held held').map Prod.fst = descriptors held := by
  cases h with
  | empty => rfl
  | held h => exact h.underlying.map_fst

lemma Endpoint.Twins.map_snd (h : Twins ρ ρ₁ held held') :
    (pairs held held').map Prod.snd = descriptors held' := by
  cases h with
  | empty => rfl
  | held h => exact h.underlying.map_snd

end

namespace Workbench

variable {slots : Nat} {w w' : Workbench slots} {i : Fin slots} {op : Operation slots}

/-! ### Operations that do the same -/

/-- The same action on slots that differ in the numbers of their descriptors only. -/
lemma similar_act {ρ : Pairs} (h : Endpoint.Twins 0 ρ (w.held i) (w'.held i)) (action : Action) :
    Program.Similar
      (fun B x y => B.left = x.2.control ∧ B.right = y.2.control ∧ x.1.Alike y.1 ∧
        Endpoint.Twins 0 B.pairs (x.2.held i) (y.2.held i))
      ⟨ρ, w.control, w'.control⟩ (w.perform (.act i action)) (w'.perform (.act i action)) := by
  refine (Endpoint.alike_act h action w.control w'.control).bind ?_
  rintro B ⟨⟨r, e⟩, s⟩ ⟨⟨r', e'⟩, s'⟩ ⟨hl, hr, hreply, hheld⟩
  exact .done ⟨hl, hr, hreply, by simpa using hheld⟩

lemma similar_withControl {p : Shared Reply} (h : Shared.Alike (fun ρ _ _ => ρ = 0) 0 p p) :
    Program.Similar (fun B x _ => B.pairs = 0 ∧ B.left = x.2.control)
      ⟨0, w.control, w.control⟩ (w.withControl p) (w.withControl p) := by
  refine (h w.control w.control).bind ?_
  rintro B ⟨r, s⟩ ⟨r', s'⟩ ⟨hl, -, hρ⟩
  exact .done ⟨hρ, hl⟩

/-- Looking something up on behalf of no slot. -/
lemma alike_resolve {α : Type} {question : InterfaceName → Attempt α}
    (hq : ∀ name,
      Shared.Alike (ControlSocket.SameFinding 0) 0 (question name).run (question name).run)
    (text : String) (reply : α → Reply) :
    Shared.Alike (fun ρ _ _ => ρ = 0) 0 (resolve text reply question)
      (resolve text reply question) := by
  unfold resolve
  cases InterfaceName.validate text with
  | error e => exact .pure rfl
  | ok name =>
    refine (hq name).bind ?_
    rintro ρ _ _ (⟨e, rfl⟩ | ⟨rfl, rfl⟩)
    · exact .pure rfl
    · exact .pure rfl

/-- What is done with the control socket alone, short of closing it. -/
lemma similar_control (hop : ∀ i, op.isOn i = false) (hclose : op ≠ .closeControl) :
    Program.Similar (fun B x _ => B.pairs = 0 ∧ B.left = x.2.control)
      ⟨0, w.control, w.control⟩ (w.perform op) (w.perform op) := by
  cases op with
  | openControl =>
    refine similar_withControl fun s s' => ?_
    refine (ControlSocket.similar_ensureOpen s s').bind ?_
    rintro _ _ _ ⟨fd, fd', rfl, rfl, rfl⟩
    exact .done ⟨rfl, rfl, rfl⟩
  | closeControl => exact absurd rfl hclose
  | describeControl => exact similar_withControl fun s s' => .done ⟨rfl, rfl, rfl⟩
  | resolveIndex text =>
    exact similar_withControl (alike_resolve ControlSocket.alike_resolveIndex text _)
  | resolveAddress text =>
    exact similar_withControl (alike_resolve ControlSocket.alike_resolveAddress text _)
  | act slot action => cases (decide_eq_false_iff_not.mp (hop slot)) rfl

/-! ### Sockets of their own -/

/-- The descriptors of all slots but one. -/
def others (w : Workbench slots) (i : Fin slots) : Multiset Descriptor :=
  ∑ j ∈ Finset.univ.erase i, Endpoint.descriptors (w.held j)

lemma descriptors_eq (w : Workbench slots) (i : Fin slots) :
    w.descriptors = w.control.descriptors + Endpoint.descriptors (w.held i) + w.others i := by
  have hsum : Endpoint.descriptors (w.held i) + w.others i =
      ∑ j, Endpoint.descriptors (w.held j) :=
    Finset.add_sum_erase _ (fun j => Endpoint.descriptors (w.held j)) (Finset.mem_univ i)
  rw [descriptors, add_assoc, hsum]
  rfl

lemma others_congr (h : ∀ j ≠ i, w'.held j = w.held j) : w'.others i = w.others i :=
  Finset.sum_congr rfl fun j hj => by rw [h j (Finset.ne_of_mem_erase hj)]

/-- All that is held is open, no two owners have the same, and what each slot holds is fit to be
paired. -/
structure Apart (w : Workbench slots) (T : Table) : Prop where
  holds : T.Holds w.descriptors
  twins (i : Fin slots) :
    Endpoint.Twins 0 (Endpoint.pairs (w.held i) (w.held i)) (w.held i) (w.held i)

/-- Operations leave the slots as they are that they are not about. -/
lemma held_of_perform {t : Trace} {reply : Reply} (h : (w.perform op).Yields t (reply, w'))
    (hop : op.isOn i = false) : w'.held i = w.held i := by
  cases Performing.of_yields h with
  | acted => exact held_put_of_ne _ (Ne.symm (decide_eq_false_iff_not.mp hop))
  | _ => rfl

section

variable {σ : Type} {M : Machine} {K : Kernel σ} {table : σ → Table} {s : σ}

/-- What becomes of an operation on a kernel. -/
abbrev outcome (K : Kernel σ) (w : Workbench slots) (s : σ) (op : Operation slots) :
    Outcome σ (Reply × Workbench slots) :=
  (w.perform op).run K s

lemma held_outcome (hop : op.isOn i = false) :
    (w.outcome K s op).value.2.held i = w.held i :=
  held_of_perform (Program.yields_run K _ s) hop

lemma lefts_eq {ρ : Pairs} {held held' : Option Endpoint} {right : ControlSocket}
    (h : Endpoint.Twins 0 ρ held held') :
    Pairing.lefts ⟨ρ, w.control, right⟩ = w.control.descriptors + Endpoint.descriptors held := by
  rw [Pairing.lefts, h.pairs_eq, add_zero, h.map_fst]

lemma rights_eq {ρ : Pairs} {held held' : Option Endpoint} {left : ControlSocket}
    (h : Endpoint.Twins 0 ρ held held') :
    Pairing.rights ⟨ρ, left, w.control⟩ = w.control.descriptors + Endpoint.descriptors held' := by
  rw [Pairing.rights, h.pairs_eq, add_zero, h.map_snd]

/-- A run beside itself. -/
lemma Apart.linked_self (h : w.Apart (table s)) (i : Fin slots) :
    Pairing.Linked ⟨Endpoint.pairs (w.held i) (w.held i), w.control, w.control⟩ (table s)
      (table s) := by
  have hholds := h.holds
  rw [descriptors_eq w i] at hholds
  refine ⟨lefts_eq (h.twins i) ▸ hholds.of_add, rights_eq (h.twins i) ▸ hholds.of_add, ?_⟩
  intro fd fd' hm
  rw [Endpoint.eq_of_mem_pairs_self hm]

lemma Apart.act (h : w.Apart (table s)) (hK : K.Follows M table) (i : Fin slots) (action : Action) :
    (w.outcome K s (.act i action)).value.2.Apart (table (w.outcome K s (.act i action)).state) ∧
      ∀ fd ∈ w.others i, table (w.outcome K s (.act i action)).state fd = table s fd := by
  obtain ⟨⟨ρ, _, _⟩, ⟨rfl, -, -, htwins⟩, hlinked, -, hspares, -⟩ :=
    (similar_act (h.twins i) action).run hK hK (h.linked_self i)
  have hheld : ∀ j ≠ i, (w.outcome K s (.act i action)).value.2.held j = w.held j :=
    fun j hj => held_outcome (decide_eq_false hj.symm)
  have hholds := h.holds
  -- what the other slots hold is the frame of this action
  rw [descriptors_eq w i, ← lefts_eq (h.twins i)] at hholds
  obtain ⟨hafter, hothers⟩ := hholds.frame hlinked.left hspares
  rw [lefts_eq htwins] at hafter
  refine ⟨⟨?_, ?_⟩, hothers⟩
  · rw [descriptors_eq _ i, others_congr hheld]
    exact hafter
  · intro j
    by_cases hj : j = i
    · subst hj
      have hpairs := htwins.pairs_eq
      rw [add_zero] at hpairs
      rwa [hpairs] at htwins
    · rw [hheld j hj]
      exact h.twins j

/-- A change of the control socket leaves alone what the slots hold. -/
lemma Apart.of_control {T T' : Table} (h : w.Apart T) (hheld : ∀ i, w'.held i = w.held i)
    (hcontrol : T'.Holds w'.control.descriptors)
    (hspares : T.Spares w.control.descriptors T' w'.control.descriptors) :
    w'.Apart T' ∧ ∀ i, ∀ fd ∈ Endpoint.descriptors (w.held i), T' fd = T fd := by
  obtain ⟨hafter, hslots⟩ := h.holds.frame hcontrol hspares
  refine ⟨⟨?_, ?_⟩, ?_⟩
  · rw [descriptors, Finset.sum_congr rfl fun i _ => congrArg Endpoint.descriptors (hheld i)]
    exact hafter
  · intro i
    rw [hheld i]
    exact h.twins i
  · intro i fd hfd
    exact hslots fd (Multiset.mem_sum.mpr ⟨i, Finset.mem_univ i, hfd⟩)

lemma Apart.control (h : w.Apart (table s)) (hK : K.Follows M table)
    (hop : ∀ i, op.isOn i = false) :
    (w.outcome K s op).value.2.Apart (table (w.outcome K s op).state) ∧
      ∀ i, ∀ fd ∈ Endpoint.descriptors (w.held i),
        table (w.outcome K s op).state fd = table s fd := by
  have hheld : ∀ i, (w.outcome K s op).value.2.held i = w.held i := fun i => held_outcome (hop i)
  have hholds : (table s).Holds w.control.descriptors := h.holds.of_add
  -- closing is apart: its descriptor must be known to be open
  by_cases hclose : op = .closeControl
  · subst hclose
    obtain ⟨⟨_ | fd⟩, held⟩ := w
    · exact h.of_control hheld hholds .refl
    · obtain ⟨i, hi⟩ := hholds.exists_of_mem (Multiset.mem_singleton_self fd)
      obtain ⟨-, htable⟩ := hK.closes hi
      have hholds : (table s).Holds ({fd} + 0) := hholds
      have hclosed := hholds.closed
      have hspares : (table s).Spares ({fd} + 0) _ 0 := spares_closed
      rw [← htable] at hclosed hspares
      exact h.of_control hheld hclosed hspares
  · have hlinked : Pairing.Linked ⟨0, w.control, w.control⟩ (table s) (table s) := by
      refine ⟨?_, ?_, fun _ _ hm => absurd hm (Multiset.notMem_zero _)⟩
      · rwa [Pairing.lefts_nil]
      · rwa [Pairing.rights_nil]
    obtain ⟨⟨_, _, _⟩, ⟨rfl, rfl⟩, hafter, -, hspares, -⟩ :=
      (similar_control hop hclose).run hK hK hlinked
    have hcontrol := hafter.left
    rw [Pairing.lefts_nil] at hcontrol hspares
    rw [Pairing.lefts_nil] at hspares
    exact h.of_control hheld hcontrol hspares

lemma mem_others {i j : Fin slots} (hij : i ≠ j) {fd : Descriptor}
    (hfd : fd ∈ Endpoint.descriptors (w.held i)) : fd ∈ w.others j :=
  Multiset.mem_sum.mpr ⟨i, Finset.mem_erase.mpr ⟨hij, Finset.mem_univ i⟩, hfd⟩

/-- Every operation keeps the slots apart. -/
lemma Apart.perform (h : w.Apart (table s)) (hK : K.Follows M table) (op : Operation slots) :
    (w.outcome K s op).value.2.Apart (table (w.outcome K s op).state) := by
  cases op with
  | act j action => exact (h.act hK j action).1
  | _ => exact (h.control hK fun _ => rfl).1

/-- An operation leaves the sockets alone of the slots that it is not about. -/
lemma Apart.perform_elsewhere (h : w.Apart (table s)) (hK : K.Follows M table)
    (hop : op.isOn i = false) {fd : Descriptor} (hfd : fd ∈ Endpoint.descriptors (w.held i)) :
    table (w.outcome K s op).state fd = table s fd := by
  cases op with
  | act j action =>
    exact (h.act hK j action).2 fd (mem_others (Ne.symm (decide_eq_false_iff_not.mp hop)) hfd)
  | _ => exact (h.control hK fun _ => rfl).2 i fd hfd

end

end Workbench

end PppoeSetup
