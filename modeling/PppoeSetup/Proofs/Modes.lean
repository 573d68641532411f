import PppoeSetup.Proofs.Course.Modes
import PppoeSetup.Proofs.History
import PppoeSetup.Proofs.Ledger.Bound
import PppoeSetup.Proofs.Ledger.Frame

/-!
# Modes of discovery sockets

Against a kernel that keeps flag words, the mode of a discovery socket is the one that was asked
for last, and none of its other flags ever changes.
-/

namespace PppoeSetup

open Kernel Ledger Trace

/-- The mode that an operation asks for. -/
def Operation.mode? {slots : Nat} : Operation slots → Option Bool
  | act _ action => action.mode?
  | _ => none

namespace Workbench

variable {slots : Nat} {w w' : Workbench slots} {history since : List (Step slots)}
  {step : Step slots} {i : Fin slots} {op : Operation slots} {action : Action} {reply : Reply}
  {t u v x : Trace} {fd : Descriptor} {word : Trace → Descriptor → UInt32} {start : UInt32}
  {asked : Option Bool}

/-! ### Requests of a history -/

/-- The mode that an action on the slot has asked for and set. -/
def Step.request? (i : Fin slots) (step : Step slots) : Option Bool :=
  match step.operation, step.reply with
  | .act slot action, .done => if slot = i then action.mode? else none
  | _, _ => none

/-- The last mode that has been asked for and set in the slot. -/
def lastRequest (i : Fin slots) (steps : List (Step slots)) : Option Bool :=
  (steps.filterMap (·.request? i)).getLast?

@[simp] lemma lastRequest_singleton : lastRequest i [step] = step.request? i := by
  cases hr : step.request? i <;> simp [lastRequest, hr]

@[simp] lemma lastRequest_concat :
    lastRequest i (history ++ [step]) = (step.request? i).or (lastRequest i history) := by
  cases hr : step.request? i <;> simp [lastRequest, hr]

lemma request?_eq_none (h : ∀ action, step.operation ≠ .act i action) : step.request? i = none := by
  obtain ⟨op, u, reply⟩ := step
  cases op with
  | act slot action =>
    have hslot : slot ≠ i := by
      rintro rfl
      exact h action rfl
    cases reply <;> simp [Step.request?, hslot]
  | _ => rfl

lemma request?_done : Step.request? i ⟨.act i action, u, .done⟩ = action.mode? := by
  simp [Step.request?]

lemma request?_of_ne_done (h : reply ≠ .done) :
    Step.request? i ⟨.act i action, u, reply⟩ = none := by
  cases reply with
  | done => exact absurd rfl h
  | _ => rfl

/-- In a history, slot `i` has come to hold the discovery socket `fd`, which had been bound when
`t` had happened; and `since` is what has been done from the operation on that bound it, with the
socket in the slot after each. -/
inductive HeldSince (i : Fin slots) (fd : Descriptor) :
    Trace → List (Step slots) → List (Step slots) → Workbench slots → Prop
  | bound {history : List (Step slots)} {w w' : Workbench slots} {op : Operation slots}
    {x y : Trace} {address : Wire.LinkAddress} {reply : Reply} :
    w.After history →
    (w.perform op).Yields (x ++ [.call (.bind fd address) (.ok ())] ++ y) (reply, w') →
    fd ∉ y.closed → w'.discoveryIn i = some fd →
    HeldSince i fd (traceOf history ++ (x ++ [.call (.bind fd address) (.ok ())]))
      (history ++ [⟨op, x ++ [.call (.bind fd address) (.ok ())] ++ y, reply⟩])
      [⟨op, x ++ [.call (.bind fd address) (.ok ())] ++ y, reply⟩] w'
  | kept {t u : Trace} {history since : List (Step slots)} {w w' : Workbench slots}
    {op : Operation slots} {reply : Reply} :
    HeldSince i fd t history since w → (w.perform op).Yields u (reply, w') →
    fd ∉ u.closed → w'.discoveryIn i = some fd →
    HeldSince i fd t (history ++ [⟨op, u, reply⟩]) (since ++ [⟨op, u, reply⟩]) w'

lemma HeldSince.exists_bind (h : HeldSince i fd t history since w) :
    ∃ (x : Trace) (address : Wire.LinkAddress) (y : Trace),
      t = x ++ [.call (.bind fd address) (.ok ())] ∧
        traceOf history = x ++ .call (.bind fd address) (.ok ()) :: y ∧ fd ∉ y.closed := by
  induction h with
  | @bound history _ _ _ x y address _ _ _ hc =>
    exact ⟨traceOf history ++ x, address, y, by simp, by simp, hc⟩
  | @kept t u _ _ _ _ _ _ _ _ hc _ ih =>
    obtain ⟨x, address, y, ht, hsplit, hy⟩ := ih
    refine ⟨x, address, y ++ u, ht, by simp [hsplit], ?_⟩
    rw [closed_append, List.mem_append, not_or]
    exact ⟨hy, hc⟩

/-! ### Words -/

lemma word_eq_of_spares (h : u.Spares fd) (hk : (t ++ u).KeepsFlags word) :
    word (t ++ u) fd = word t fd := by
  apply hk.word_eq_of_not_rewrites
  rintro _ hmem ⟨kind⟩
  · exact (h _ _ hmem).2 _ rfl
  · exact (h _ _ hmem).1 rfl

/-- What an action on a slot does to the word of the discovery socket that the slot then holds, from
a time on at which this one is open and its flags have not been set in the action. -/
lemma follows_of_acting (hs : (u ++ v).Switches action.mode?)
    (hl : (t ++ (u ++ v)).Lawful) (hk : (t ++ (u ++ v)).KeepsFlags word)
    (ho : fd ∈ (t ++ u).opened) (hc : fd ∉ v.closed)
    (hsets : v.SetsFlags fd ↔ reply = .done ∧ action.mode?.isSome)
    (hf : Request.Follows asked start (word (t ++ u) fd)) (x : Trace) :
    Request.Follows ((Step.request? i ⟨.act i action, x, reply⟩).or asked) start
      (word (t ++ (u ++ v)) fd) := by
  have hs' : (u ++ (v ++ [])).Switches action.mode? := by rwa [List.append_nil]
  rcases hs'.word_cases hl hk ho hc with ⟨hnot, hsame⟩ | ⟨on, hmode, hset, hword⟩
  · have hrequest : Step.request? i ⟨.act i action, x, reply⟩ = none := by
      by_cases hdone : reply = .done
      · rw [hdone, request?_done]
        by_contra hmode
        exact hnot (hsets.mpr ⟨hdone, Option.isSome_iff_ne_none.mpr hmode⟩)
      · exact request?_of_ne_done hdone
    rw [hrequest, Option.none_or, hsame]
    exact hf
  · obtain ⟨rfl, -⟩ := hsets.mp hset
    rw [request?_done, hmode, Option.some_or, hword]
    exact hf.withMode on

/-- What an action does to the word of a discovery socket that the slot holds before and after it,
if it does not close this one. -/
lemma follows_of_act (hr : w.Reachable t) (hop : (w.perform (.act i action)).Yields u (reply, w'))
    (hl : (t ++ u).Lawful) (hk : (t ++ u).KeepsFlags word) (hi : w.discoveryIn i = some fd)
    (hi' : w'.discoveryIn i = some fd) (hc : fd ∉ u.closed)
    (hf : Request.Follows asked start (word t fd)) :
    Request.Follows ((Step.request? i ⟨.act i action, u, reply⟩).or asked) start
      (word (t ++ u) fd) := by
  obtain ⟨s, hact⟩ := yields_act hop
  obtain ⟨e, he, hfd⟩ := discoveryIn_eq_some.mp hi'
  rw [he] at hact
  have hacting := Endpoint.Acting.of_yields hact
  have hsets := hacting.setsFlags_iff (fun _ he => hr.wellFormed he) hfd
  have ho : fd ∈ t.opened :=
    (hr.mem_opened hl.left).mpr (.inr ⟨i, mem_descriptors_of_discoveryIn hi⟩)
  exact follows_of_acting (u := []) hacting.switches hl hk (by simpa using ho) hc hsets
    (by simpa using hf) u

/-- A discovery socket in a slot was bound in the history, and its mode is the one that was asked
for last since then. The induction is on the history; an operation that is not about the slot
leaves the socket alone. -/
lemma After.exists_heldSince (h : w.After history) (hl : (traceOf history).Lawful)
    (hk : (traceOf history).KeepsFlags word) (hi : w.discoveryIn i = some fd) :
    ∃ t since, HeldSince i fd t history since w ∧
      Request.Follows (lastRequest i since) (word t fd) (word (traceOf history) fd) := by
  induction h with
  | start => cases hi
  | @step history w w' op u reply hr hop ih =>
    have hbefore := hr.reachable
    rw [traceOf_concat] at hl hk ⊢
    -- an operation elsewhere asks nothing of this slot and closes nothing in it
    rcases held_eq_or_acts hop i with ⟨heq, hne⟩ | ⟨action, rfl⟩
    · have hi₀ : w.discoveryIn i = some fd := by rwa [discoveryIn, ← heq]
      obtain ⟨t, since, hsince, hfollows⟩ := ih hl.left hk.left hi₀
      have hspares := hbefore.spares hop hl hne (mem_descriptors_of_discoveryIn hi₀)
      refine ⟨t, _, hsince.kept hop (Spares.notMem_closed hspares) hi, ?_⟩
      rw [lastRequest_concat, request?_eq_none hne, Option.none_or]
      rwa [word_eq_of_spares hspares hk]
    · obtain ⟨s, hact⟩ := yields_act hop
      obtain ⟨e, he, hfd⟩ := discoveryIn_eq_some.mp hi
      rw [he] at hact
      have hacting := Endpoint.Acting.of_yields hact
      have hw : ∀ e, w.held i = some e → e.WellFormed := fun e he => hbefore.wellFormed he
      have hsets := hacting.setsFlags_iff hw hfd
      cases hacting.settling hw hfd with
      | kept he₀ hfd₀ hc =>
        have hi₀ : w.discoveryIn i = some fd := discoveryIn_eq_some.mpr ⟨_, he₀, hfd₀⟩
        obtain ⟨t, since, hsince, hfollows⟩ := ih hl.left hk.left hi₀
        have hnot : fd ∉ u.closed := by simp [hc]
        refine ⟨t, _, hsince.kept hop hnot hi, ?_⟩
        rw [lastRequest_concat]
        exact follows_of_act hbefore hop hl hk hi₀ hi hnot hfollows
      | @bound u v ht hends hleaves hv =>
        obtain ⟨x, address, y, rfl, hy⟩ := hends.exists_bind
        rw [List.append_assoc] at ht
        subst ht
        have hnot : fd ∉ (y ++ v).closed := by simp [hy, hv]
        have hleaves' : LeavesFlags (x ++ [.call (.bind fd address) (.ok ())]) :=
          (asks_append.mp hleaves).1
        have ho : fd ∈ opened (traceOf history ++ (x ++ [.call (.bind fd address) (.ok ())])) := by
          -- in any history of a workbench a descriptor is open when it is bound
          have hafter : w'.Reachable
              (traceOf history ++ x ++ .call (.bind fd address) (.ok ()) :: (y ++ v)) := by
            simpa using hbefore.step hop
          simpa using hafter.mem_opened_of_bind (by simpa using hl)
        rw [setsFlags_append, or_iff_right hleaves'.not_setsFlags] at hsets
        refine ⟨_, _, .bound hr hop hnot hi, ?_⟩
        rw [lastRequest_singleton, ← Option.or_none (o := Step.request? _ _)]
        exact follows_of_acting hacting.switches hl hk ho hnot hsets (.refl _) _

/-- An operation sets no mode but the one that it asks for. -/
lemma Performing.switches (h : Performing w op u reply w') : u.Switches op.mode? := by
  cases h with
  | opened ho => exact LeavesFlags.switches (ho.asks trivial) _
  | closed hc => exact hc.onlyCloses.leavesFlags.switches _
  | described | invalidIndex | invalidAddress => exact LeavesFlags.switches asks_nil _
  | resolvedIndex _ hr | resolvedAddress _ hr => exact (hr.prepares rfl).leavesFlags.switches _
  | acted ha => exact ha.switches

/-- Take any history of a workbench, with any answers of a kernel that keeps flag words. The
discovery socket of a slot has been bound in it and been in the slot since then. The word of every
descriptor that has been bound and not been closed is the one that it was bound with, apart from
the nonblocking flag, and this one is as the last successful request has asked for, if there was
one. And at every moment of any next operation: the word of a descriptor is as it was while this
one is open, unless the operation asks for a mode and nothing about flags is refused; then it can be
in that mode, with all other flags as they were; and asking for the mode that it is in changes
nothing. -/
theorem mode_follows_requests (h : w.After history) (hl : (traceOf history).Lawful)
    (hk : (traceOf history).KeepsFlags word) :
    (∀ i fd, w.discoveryIn i = some fd → ∃ t since, HeldSince i fd t history since w) ∧
    (∀ (t : Trace) (fd : Descriptor) (address : Wire.LinkAddress) (u : Trace),
      traceOf history = t ++ .call (.bind fd address) (.ok ()) :: u → fd ∉ u.closed →
      ∃ i since, HeldSince i fd (t ++ [.call (.bind fd address) (.ok ())]) history since w ∧
        Request.Follows (lastRequest i since) (word (t ++ [.call (.bind fd address) (.ok ())]) fd)
          (word (traceOf history) fd)) ∧
    ∀ op u reply w', (w.perform op).Yields u (reply, w') → (traceOf history ++ u).Lawful →
      (traceOf history ++ u).KeepsFlags word →
      ∀ (v v' x : Trace) (fd : Descriptor), u = v ++ (v' ++ x) →
      fd ∈ (traceOf history ++ v).opened → fd ∉ v'.closed →
      (op.mode? = none ∨ u.RefusesFlags →
        word (traceOf history ++ (v ++ v')) fd = word (traceOf history ++ v) fd) ∧
      ∀ on, op.mode? = some on →
        (word (traceOf history ++ (v ++ v')) fd = word (traceOf history ++ v) fd ∨
          word (traceOf history ++ (v ++ v')) fd =
            DiscoverySocket.withMode (word (traceOf history ++ v) fd) on) ∧
        (word (traceOf history ++ v) fd &&& Request.nonblockingFlag = Request.modeFlag on →
          word (traceOf history ++ (v ++ v')) fd = word (traceOf history ++ v) fd) := by
  refine ⟨?_, ?_, ?_⟩
  · intro i fd hi
    obtain ⟨t, since, hsince, -⟩ := h.exists_heldSince hl hk hi
    exact ⟨t, since, hsince⟩
  · intro t fd address u ht hc
    have hreach := h.reachable
    have hallows := hreach.allows hl
    have hfresh : Ledger.empty.Along Fresh (traceOf history) :=
      along_fresh_of_lawful (t := []) hl rfl
    rw [ht] at hreach hallows hfresh
    -- a descriptor that has been bound and not closed is in some slot
    obtain ⟨i, hi⟩ := hreach.exists_discoveryIn (ht ▸ hl) hc
    obtain ⟨t', since, hsince, hfollows⟩ := h.exists_heldSince hl hk hi
    obtain ⟨x, address', y, rfl, hsplit, hy⟩ := hsince.exists_bind
    -- and it was bound once, so the bind that the slot knows of is the one at hand
    rw [bind_unique hallows hfresh hc hy (ht.symm.trans hsplit)]
    exact ⟨i, since, hsince, hfollows⟩
  · rintro op u reply w' hop hlaw hkeeps v v' x fd rfl ho hc
    have hswitches := (Performing.of_yields hop).switches
    rw [← List.append_assoc v, ← List.append_assoc (traceOf history)] at hlaw hkeeps
    rcases hswitches.word_cases hlaw.left hkeeps.left ho hc with
      ⟨-, hsame⟩ | ⟨on, hmode, hset, hword⟩
    · exact ⟨fun _ => hsame, fun _ _ => ⟨.inl hsame, fun _ => hsame⟩⟩
    · refine ⟨?_, ?_⟩
      · rintro (hnone | hrefused)
        · cases hmode.symm.trans hnone
        · refine absurd ?_ (hswitches.refused fd hrefused)
          rw [setsFlags_append, setsFlags_append]
          exact .inr (.inl hset)
      · intro on' hmode'
        obtain rfl : on = on' := Option.some.inj (hmode.symm.trans hmode')
        refine ⟨.inr hword, ?_⟩
        intro hflag
        rw [hword, withMode_eq_self hflag]

/-- A socket is set up in nonblocking mode, watched, and given back in blocking mode. -/
def switching (slot : Fin slots) : List (Operation slots) :=
  [.act slot (.setUpFrom (.settings { interface? := some "eth0", nonblocking := true })),
    .act slot .toAsync, .act slot .toBlocking]

/-- What comes of the first steps of `switching` on a machine with one interface. -/
def switched (slot : Fin slots) (n : Nat) :
    Outcome SimulatedState (List Reply × Workbench slots) :=
  simulate ((switching slot).take n) .oneInterface

def switchedHistory (slot : Fin slots) (n : Nat) : List (Step slots) :=
  empty.record .oneInterface ((switching slot).take n)

theorem mode_follows_requests_switched :
    (switched (0 : Fin 1) 2).value.2.discoveryIn 0 = some 102 ∧
      (traceOf (switchedHistory (0 : Fin 1) 2)).writtenWord SimulatedState.newFlags 102 = 0x802 ∧
      (switched (0 : Fin 1) 3).value.2.discoveryIn 0 = some 102 ∧
      (traceOf (switchedHistory (0 : Fin 1) 3)).writtenWord SimulatedState.newFlags 102 = 2 ∧
      ∃ i t since,
        HeldSince i 102 t (switchedHistory (0 : Fin 1) 3) since (switched 0 3).value.2 ∧
          Request.Follows (lastRequest i since) (t.writtenWord SimulatedState.newFlags 102) 2 := by
  have hafter : (switched (0 : Fin 1) 3).value.2.After (switchedHistory 0 3) := after_simulate _ _
  have htrace : traceOf (switchedHistory 0 3) = (switched (0 : Fin 1) 3).trace :=
    traceOf_record _ _ _
  have hlaw : (traceOf (switchedHistory (0 : Fin 1) 3)).Lawful := htrace ▸ lawful_simulate _ _
  have hkeeps : (traceOf (switchedHistory (0 : Fin 1) 3)).KeepsFlags
      (Trace.writtenWord SimulatedState.newFlags) := htrace ▸ keepsFlags_run_simulated _ rfl
  obtain ⟨hslots, hbound, -⟩ := mode_follows_requests hafter hlaw hkeeps
  have hslot : (switched (0 : Fin 1) 3).value.2.discoveryIn 0 = some 102 := by decide +kernel
  have hword : (traceOf (switchedHistory (0 : Fin 1) 3)).writtenWord SimulatedState.newFlags 102 =
      2 := by
    decide +kernel
  obtain ⟨_, _, hheld⟩ := hslots 0 102 hslot
  obtain ⟨x, address, y, -, hsplit, hy⟩ := hheld.exists_bind
  obtain ⟨i, since, hsince, hfollows⟩ := hbound x 102 address y hsplit hy
  rw [hword] at hfollows
  exact ⟨by decide +kernel, by decide +kernel, hslot, hword, i, _, since, hsince, hfollows⟩

end Workbench

end PppoeSetup
