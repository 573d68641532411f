import PppoeSetup.Proofs.Twin.Workbench

/-!
# Slots do not interfere

Connections share a control socket, and that is all that they share. As long as the kernel answers
by what is asked, by its table of interfaces and by what has been asked of the same socket before,
each connection fares in company as it does alone, however often the control socket is closed.
-/

namespace PppoeSetup

open Kernel

namespace Workbench

variable {slots : Nat} {w w' : Workbench slots} {i : Fin slots}

/-! ### What operations come to -/

section

variable {σ : Type} (K : Kernel σ)

/-- One operation after the other, each with what it came to. -/
def journal (w : Workbench slots) (s : σ) :
    List (Operation slots) → List (Operation slots × Outcome σ (Reply × Workbench slots))
  | [] => []
  | op :: ops =>
    let o := w.outcome K s op
    (op, o) :: o.value.2.journal o.state ops

/-- The journal tells of the one run of all operations. -/
theorem run_performAll (w : Workbench slots) (s : σ) (ops : List (Operation slots)) :
    ((w.performAll ops).run K s).value.1 = (w.journal K s ops).map (·.2.value.1) ∧
      ((w.performAll ops).run K s).trace = (w.journal K s ops).flatMap (·.2.trace) := by
  induction ops generalizing w s with
  | nil => exact ⟨rfl, rfl⟩
  | cons op ops ih =>
    obtain ⟨hreplies, htrace⟩ := ih (w.outcome K s op).value.2 (w.outcome K s op).state
    simp only [performAll, Program.run_bind, journal, List.map_cons, List.flatMap_cons]
    rw [← hreplies, ← htrace]
    exact ⟨rfl, congrArg _ (List.append_nil _)⟩

end

/-- What an operation on a slot came to: what happened, the reply, and what the slot holds now. -/
structure Deed where
  trace : Trace
  reply : Reply
  held : Option Endpoint

/-- What the operations on one slot came to. -/
def deeds {σ : Type} (i : Fin slots)
    (journal : List (Operation slots × Outcome σ (Reply × Workbench slots))) : List Deed :=
  (journal.filter (·.1.isOn i)).map fun entry =>
    ⟨entry.2.trace, entry.2.value.1, entry.2.value.2.held i⟩

section

variable {σ : Type} {K : Kernel σ} {s : σ} {op : Operation slots} {ops : List (Operation slots)}

lemma deeds_cons_of_on (hop : op.isOn i = true) :
    deeds i (w.journal K s (op :: ops)) =
      ⟨(w.outcome K s op).trace, (w.outcome K s op).value.1, (w.outcome K s op).value.2.held i⟩ ::
        deeds i ((w.outcome K s op).value.2.journal K (w.outcome K s op).state ops) := by
  simp [deeds, journal, hop]

lemma deeds_cons_of_not_on (hop : op.isOn i = false) :
    deeds i (w.journal K s (op :: ops)) =
      deeds i ((w.outcome K s op).value.2.journal K (w.outcome K s op).state ops) := by
  simp [deeds, journal, hop]

end

/-- The deeds are the same but for the numbers of descriptors, which go on from those that the slot
has at the start: the calls that are not for the control socket, the replies, and what the slot
holds after each. -/
inductive SameDeeds : Option Endpoint → Option Endpoint → List Deed → List Deed → Prop
  | nil {held held' : Option Endpoint} : SameDeeds held held' [] []
  | cons {held held' : Option Endpoint} {d d' : Deed} {l l' : List Deed} :
    d.trace.ownCalls.SameCalls (Endpoint.pairs held held') d'.trace.ownCalls
      (Endpoint.pairs d.held d'.held) →
    d.reply.Alike d'.reply →
    d.held.map Endpoint.anonymous = d'.held.map Endpoint.anonymous →
    SameDeeds d.held d'.held l l' → SameDeeds held held' (d :: l) (d' :: l')

/-! ### In company and alone -/

/-- What the slot holds in one run and in the other differs in the numbers only, and its sockets
have been asked the same. -/
structure Tied (i : Fin slots) (w w' : Workbench slots) (T T' : Table) : Prop where
  twins : Endpoint.Twins 0 (Endpoint.pairs (w.held i) (w'.held i)) (w.held i) (w'.held i)
  holds : T'.Holds (w'.control.descriptors + Endpoint.descriptors (w'.held i))
  same : ∀ fd fd', (fd, fd') ∈ Endpoint.pairs (w.held i) (w'.held i) → T fd = T' fd'

section

variable {σ τ : Type} {M : Machine} {K : Kernel σ} {K' : Kernel τ} {table : σ → Table}
  {table' : τ → Table} {s : σ} {s' : τ}

/-- The slot is acted on in both runs. -/
lemma Tied.act (h : Tied i w w' (table s) (table' s')) (hw : w.Apart (table s))
    (hK : K.Follows M table) (hK' : K'.Follows M table') (action : Action) :
    let o := w.outcome K s (.act i action)
    let o' := w'.outcome K' s' (.act i action)
    o.trace.ownCalls.SameCalls (Endpoint.pairs (w.held i) (w'.held i)) o'.trace.ownCalls
        (Endpoint.pairs (o.value.2.held i) (o'.value.2.held i)) ∧
      o.value.1.Alike o'.value.1 ∧
      Tied i o.value.2 o'.value.2 (table o.state) (table' o'.state) := by
  have hholds := hw.holds
  rw [descriptors_eq w i] at hholds
  have hlinked : Pairing.Linked ⟨Endpoint.pairs (w.held i) (w'.held i), w.control, w'.control⟩
      (table s) (table' s') :=
    ⟨lefts_eq h.twins ▸ hholds.of_add, rights_eq h.twins ▸ h.holds, h.same⟩
  obtain ⟨⟨ρ, _, _⟩, ⟨rfl, rfl, hreply, htwins⟩, hlinked', hcalls, -, -⟩ :=
    (similar_act h.twins action).run hK hK' hlinked
  have hpairs := htwins.pairs_eq
  rw [add_zero] at hpairs
  subst hpairs
  exact ⟨hcalls, hreply, htwins, rights_eq htwins ▸ hlinked'.right, hlinked'.same⟩

/-- The slot is not acted on, and only one run goes on. -/
lemma Tied.elsewhere {T T₁ T' : Table} {w₁ : Workbench slots} (h : Tied i w w' T T')
    (hheld : w₁.held i = w.held i)
    (hT : ∀ fd ∈ Endpoint.descriptors (w.held i), T₁ fd = T fd) : Tied i w₁ w' T₁ T' := by
  obtain ⟨htwins, hholds, hsame⟩ := h
  rw [← hheld] at htwins hsame hT
  refine ⟨htwins, hholds, ?_⟩
  intro fd fd' hm
  rw [hT fd (htwins.map_fst ▸ Multiset.mem_map_of_mem Prod.fst hm)]
  exact hsame fd fd' hm

lemma sameDeeds_journal (hK : K.Follows M table) (hK' : K'.Follows M table')
    (hw : w.Apart (table s)) (h : Tied i w w' (table s) (table' s'))
    (ops : List (Operation slots)) :
    SameDeeds (w.held i) (w'.held i) (deeds i (w.journal K s ops))
      (deeds i (w'.journal K' s' (ops.filter (·.isOn i)))) := by
  -- on the operations, with both workbenches and both states general: the slots stay twins, and
  -- what is done elsewhere only happens on the left
  induction ops generalizing w w' s s' with
  | nil => exact .nil
  | cons op ops ih =>
    cases hop : op.isOn i with
    | true =>
      cases op with
      | act j action =>
        obtain rfl : j = i := of_decide_eq_true hop
        obtain ⟨hcalls, hreply, htied⟩ := h.act hw hK hK' action
        rw [List.filter_cons_of_pos hop, deeds_cons_of_on hop, deeds_cons_of_on hop]
        exact .cons hcalls hreply htied.twins.anonymous (ih (hw.perform hK _) htied)
      | _ => cases hop
    | false =>
      have hheld : (w.outcome K s op).value.2.held i = w.held i := held_outcome hop
      have htied := h.elsewhere hheld fun fd => hw.perform_elsewhere hK hop
      have hrest := ih (hw.perform hK op) htied
      rw [hheld] at hrest
      rw [List.filter_cons_of_neg (by simp [hop]), deeds_cons_of_not_on hop]
      exact hrest

lemma descriptors_empty : (empty : Workbench slots).descriptors = 0 :=
  (zero_add _).trans (Finset.sum_eq_zero fun _ _ => rfl)

lemma apart_empty (T : Table) : (empty : Workbench slots).Apart T := by
  refine ⟨?_, fun i => .empty rfl⟩
  rw [descriptors_empty]
  exact .nothing T

lemma tied_empty (T T' : Table) : Tied i empty empty T T' :=
  ⟨.empty rfl, .nothing T', fun _ _ hm => absurd hm (Multiset.notMem_zero _)⟩

/-- Whatever is done with all slots and with the control socket, in whatever order: each slot fares
as it does if what is done with it is done alone, on a control socket of its own and on any kernel
that follows the same machine. Its calls, the replies and what it holds are the same then, but for
the numbers of descriptors. -/
theorem no_interference (hK : K.Follows M table) (hK' : K'.Follows M table')
    (ops : List (Operation slots)) (i : Fin slots) (s : σ) (s' : τ) :
    SameDeeds none none (deeds i (empty.journal K s ops))
      (deeds i (empty.journal K' s' (ops.filter (·.isOn i)))) :=
  sameDeeds_journal hK hK' (apart_empty _) (tied_empty _ _) ops

end

end Workbench

/-! ### A kernel that keeps books -/

namespace Kernel

/-- The open sockets, and the next number to give out. -/
structure Books where
  next : Descriptor
  table : Table
  unused : ∀ fd, next ≤ fd → table fd = none

namespace Books

/-- The books of a kernel that has opened nothing yet. -/
def start (next : Descriptor) : Books := ⟨next, fun _ => none, fun _ _ => rfl⟩

def opened (b : Books) (kind : SocketKind) : Books where
  next := b.next + 1
  table := Function.update b.table b.next (some ⟨kind, []⟩)
  unused fd hfd := by
    rw [Function.update_of_ne (Nat.ne_of_gt hfd)]
    exact b.unused fd (Nat.le_of_succ_le hfd)

def used (b : Books) (u : Use) (fd : Descriptor) : Books where
  next := b.next
  table := Function.update b.table fd ((b.table fd).bind (·.after u))
  unused fd' hfd' := by
    by_cases heq : fd' = fd
    · subst heq
      rw [Function.update_self, b.unused fd' hfd']
      rfl
    · rw [Function.update_of_ne heq]
      exact b.unused fd' hfd'

end Books

/-- The kernel that answers as the machine does and numbers descriptors one after another. What is
asked of no open socket is answered as if it were asked of a new one. -/
def Machine.kernel (M : Machine) : Kernel Books :=
  dispatch
    (fun b kind => match M.opens kind with
      | .error e => (.error e, b)
      | .ok () => (.ok b.next, b.opened kind))
    (fun b u fd => (M.answer ((b.table fd).getD ⟨.control, []⟩) u, b.used u fd))

lemma Machine.follows_kernel (M : Machine) : M.kernel.Follows M Books.table where
  opens b kind := by
    have hrespond : M.kernel.respond b (.openSocket kind) = match M.opens kind with
        | .error e => (.error e, b)
        | .ok () => (.ok b.next, b.opened kind) := rfl
    rw [hrespond]
    cases hopens : M.opens kind with
    | error e => exact .refused hopens
    | ok _ => exact .opened hopens (b.unused b.next le_rfl)
  answers {b fd i} u hi := by
    rw [kernel, respond_dispatch, hi]
    refine ⟨rfl, ?_⟩
    change Function.update b.table fd ((b.table fd).bind (·.after u)) = _
    rw [hi]
    rfl

/-- A machine with one interface, where no session socket is connected to the same peer twice. -/
def Machine.oneInterface : Machine where
  opens _ := .ok ()
  answer i
    | .interfaceIndex _ => .ok 3
    | .hardwareAddress _ => .ok (Wire.zeroPadded 14 eth0Address.octets.toList)
    | .connect address => if .connect address ∈ i.earlier then .error .busy else .ok ()
    | .channelIndex => .ok 0
    | .setOption _ | .bind _ | .setStatusFlags _ | .close | .register => .ok ()
    | .statusFlags => .ok 2
    | .send frame => .ok frame.length
    | .receive _ => .error .again
    | .notifications _ => (1 : Nat)
  opens_control := rfl
  answer_lookup i j u hu := by cases u <;> first | rfl | cases hu

end Kernel

namespace Workbench

/-- Two slots are used by turns, and the control socket is closed in between. -/
def sharing (i j : Fin slots) : List (Operation slots) :=
  [.act i (.onInterface "eth0"), .closeControl, .act j .create, .act j (.setName "eth0"),
    .resolveIndex "eth0", .act i (.connect 7), .closeControl, .act j (.bringUp none),
    .act j (.connect 7)]

/-- What the second slot has in the end, with the numbers that the kernel gave out. -/
def connected (session discovery : Descriptor) : Endpoint :=
  .connection
    { session := some session, discovery := some discovery, name := some eth0,
      address := eth0Address, index := some 3, timeout := none }

/-- The second slot has other numbers in company than alone, and all else is the same. -/
theorem no_interference_sharing :
    SameDeeds none none
        (deeds 1 (empty.journal Machine.oneInterface.kernel (.start 3) (sharing (0 : Fin 2) 1)))
        (deeds 1 (empty.journal Machine.oneInterface.kernel (.start 3)
          ((sharing (0 : Fin 2) 1).filter (·.isOn 1)))) ∧
      ((empty.performAll (sharing (0 : Fin 2) 1)).run Machine.oneInterface.kernel
        (.start 3)).value.2.held 1 = some (connected 7 8) ∧
      ((empty.performAll ((sharing (0 : Fin 2) 1).filter (·.isOn 1))).run
        Machine.oneInterface.kernel (.start 3)).value.2.held 1 = some (connected 4 5) := by
  have hK := Machine.oneInterface.follows_kernel
  refine ⟨no_interference hK hK (sharing 0 1) 1 _ _, ?_, ?_⟩
  · decide +kernel
  · decide +kernel

end Workbench

end PppoeSetup
