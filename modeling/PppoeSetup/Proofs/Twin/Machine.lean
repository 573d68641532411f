import Mathlib.Data.Multiset.UnionInter
import PppoeSetup.Proofs.Twin.Similar

/-!
# Machines

A machine answers a call by what is asked and by what has been asked of the same socket before; the
table of its interfaces is fixed. Programs that do the same come to the same on kernels that follow
one machine, whatever else is open on these kernels and however they number their descriptors.
-/

namespace PppoeSetup

open Kernel Program

namespace Kernel

/-- An open socket: its kind, and all that has been asked of it. -/
structure Instance where
  kind : SocketKind
  earlier : List Use

structure Machine where
  opens : SocketKind → Except Errno Unit
  answer : Instance → (u : Use) → u.Answer
  opens_control : opens .control = .ok ()
  /-- There is one table of interfaces, whatever socket is asked and whatever went before. -/
  answer_lookup (i j : Instance) (u : Use) : u.isLookup → answer i u = answer j u

/-- The open sockets by their descriptors. -/
abbrev Table := Descriptor → Option Instance

/-- What becomes of a socket that something is asked of. -/
def Instance.after (i : Instance) : Use → Option Instance
  | .close => none
  | u => some { i with earlier := i.earlier ++ [u] }

variable {σ τ : Type} {M : Machine} {K : Kernel σ} {K' : Kernel τ}

/-- What the machine makes of opening a socket, with the table before and after. -/
inductive Machine.Opens (M : Machine) (kind : SocketKind) (T : Table) :
    Except Errno Descriptor → Table → Prop
  | refused {e : Errno} : M.opens kind = .error e → Opens M kind T (.error e) T
  /-- The descriptor that is given out is not in use. -/
  | opened {fd : Descriptor} : M.opens kind = .ok () → T fd = none →
    Opens M kind T (.ok fd) (Function.update T fd (some ⟨kind, []⟩))

/-- The kernel answers as the machine does; `table` tells which sockets are open in a state. -/
structure Follows (K : Kernel σ) (M : Machine) (table : σ → Table) : Prop where
  opens (s : σ) (kind : SocketKind) :
    M.Opens kind (table s) (K.respond s (.openSocket kind)).1
      (table (K.respond s (.openSocket kind)).2)
  answers {s : σ} {fd : Descriptor} {i : Instance} (u : Use) : table s fd = some i →
    (K.respond s (u.on fd)).1 = u.answerOn fd (M.answer i u) ∧
      table (K.respond s (u.on fd)).2 = Function.update (table s) fd (i.after u)

section

variable {table : σ → Table}

lemma Follows.opens_or (hK : K.Follows M table) (s : σ) (kind : SocketKind) :
    (∃ e, M.opens kind = .error e ∧ (K.respond s (.openSocket kind)).1 = .error e ∧
        table (K.respond s (.openSocket kind)).2 = table s) ∨
      ∃ fd, M.opens kind = .ok () ∧ (K.respond s (.openSocket kind)).1 = .ok fd ∧
        table s fd = none ∧ table (K.respond s (.openSocket kind)).2 =
          Function.update (table s) fd (some ⟨kind, []⟩) := by
  have h := hK.opens s kind
  generalize (K.respond s (.openSocket kind)).1 = a at h ⊢
  generalize table (K.respond s (.openSocket kind)).2 = T at h ⊢
  cases h with
  | refused he => exact .inl ⟨_, he, rfl, rfl⟩
  | opened hok hfd => exact .inr ⟨_, hok, rfl, hfd, rfl⟩

lemma Follows.opens_control (hK : K.Follows M table) (s : σ) :
    ∃ fd, (K.respond s (.openSocket .control)).1 = .ok fd ∧ table s fd = none ∧
      table (K.respond s (.openSocket .control)).2 =
        Function.update (table s) fd (some ⟨.control, []⟩) := by
  obtain ⟨e, he, -⟩ | ⟨fd, -, hfd⟩ := hK.opens_or s .control
  · cases he.symm.trans M.opens_control
  · exact ⟨fd, hfd⟩

lemma Follows.closes (hK : K.Follows M table) {s : σ} {fd : Descriptor} {i : Instance}
    (hi : table s fd = some i) :
    (K.respond s (.close fd)).1 = M.answer i .close ∧
      table (K.respond s (.close fd)).2 = Function.update (table s) fd none :=
  hK.answers .close hi

end

/-! ### Holding sockets -/

/-- All descriptors are open, and they are different. -/
structure Table.Holds (T : Table) (m : Multiset Descriptor) : Prop where
  nodup : m.Nodup
  isOpen : ∀ fd ∈ m, (T fd).isSome

/-- What is open besides `m` is as it was, and is not in `m'`. -/
def Table.Spares (T : Table) (m : Multiset Descriptor) (T' : Table) (m' : Multiset Descriptor) :
    Prop :=
  ∀ fd ∉ m, (T fd).isSome → T' fd = T fd ∧ fd ∉ m'

section

variable {T T' T'' : Table} {m m' m'' r : Multiset Descriptor} {fd : Descriptor} {i j : Instance}

lemma Table.Holds.nothing (T : Table) : T.Holds 0 :=
  ⟨Multiset.nodup_zero, fun _ hfd => absurd hfd (Multiset.notMem_zero _)⟩

lemma Table.Spares.refl : T.Spares m T m := fun _ hfd _ => ⟨rfl, hfd⟩

lemma Table.Spares.trans (h : T.Spares m T' m') (h' : T'.Spares m' T'' m'') :
    T.Spares m T'' m'' := by
  intro fd hfd ho
  obtain ⟨heq, hfd'⟩ := h fd hfd ho
  obtain ⟨heq', hfd''⟩ := h' fd hfd' (heq ▸ ho)
  exact ⟨heq'.trans heq, hfd''⟩

/-- What is held besides stays held besides, and is as it was. -/
lemma Table.Holds.frame (h : T.Holds (m + r)) (h' : T'.Holds m') (hs : T.Spares m T' m') :
    T'.Holds (m' + r) ∧ ∀ fd ∈ r, T' fd = T fd := by
  obtain ⟨-, hr, hdisjoint⟩ := Multiset.nodup_add.mp h.nodup
  have hbeside : ∀ fd ∈ r, T' fd = T fd ∧ fd ∉ m' := by
    intro fd hfd
    refine hs fd (fun hm => Multiset.disjoint_left.mp hdisjoint hm hfd) ?_
    exact h.isOpen fd (Multiset.mem_add.mpr (.inr hfd))
  refine ⟨⟨?_, ?_⟩, fun fd hfd => (hbeside fd hfd).1⟩
  · refine Multiset.nodup_add.mpr ⟨h'.nodup, hr, ?_⟩
    exact Multiset.disjoint_left.mpr fun hm hfd => (hbeside _ hfd).2 hm
  · intro fd hfd
    rcases Multiset.mem_add.mp hfd with hfd | hfd
    · exact h'.isOpen fd hfd
    · rw [(hbeside fd hfd).1]
      exact h.isOpen fd (Multiset.mem_add.mpr (.inr hfd))

lemma Table.Holds.of_add (h : T.Holds (m + r)) : T.Holds m := by
  refine ⟨(Multiset.nodup_add.mp h.nodup).1, ?_⟩
  intro fd hfd
  exact h.isOpen fd (Multiset.mem_add.mpr (.inl hfd))

lemma Table.Holds.exists_of_mem (h : T.Holds m) (hm : fd ∈ m) : ∃ i, T fd = some i :=
  Option.isSome_iff_exists.mp (h.isOpen fd hm)

lemma Table.Holds.not_mem (h : T.Holds m) (hfd : T fd = none) : fd ∉ m := by
  intro hm
  have ho := h.isOpen fd hm
  rw [hfd] at ho
  cases ho

lemma Table.Holds.opened (h : T.Holds m) (hfd : T fd = none) :
    Table.Holds (Function.update T fd (some i)) ({fd} + m) := by
  constructor
  · exact Multiset.nodup_cons.mpr ⟨h.not_mem hfd, h.nodup⟩
  · intro fd' hfd'
    by_cases heq : fd' = fd
    · simp [heq]
    · rw [Function.update_of_ne heq]
      exact h.isOpen fd' (by simpa [heq] using hfd')

lemma spares_opened (hfd : T fd = none) :
    T.Spares m (Function.update T fd (some i)) ({fd} + m) := by
  intro fd' hm ho
  have hne : fd' ≠ fd := by
    rintro rfl
    rw [hfd] at ho
    cases ho
  rw [Function.update_of_ne hne]
  exact ⟨rfl, by simpa [hne] using hm⟩

lemma Table.Holds.used (h : T.Holds m) : Table.Holds (Function.update T fd (some i)) m := by
  refine ⟨h.nodup, ?_⟩
  intro fd' hm
  by_cases heq : fd' = fd
  · simp [heq]
  · rw [Function.update_of_ne heq]
    exact h.isOpen fd' hm

lemma spares_used {o : Option Instance} (hm : fd ∈ m) : T.Spares m (Function.update T fd o) m := by
  intro fd' hm' ho
  rw [Function.update_of_ne (ne_of_mem_of_not_mem hm hm').symm]
  exact ⟨rfl, hm'⟩

lemma Table.Holds.closed (h : T.Holds ({fd} + m)) : Table.Holds (Function.update T fd none) m := by
  obtain ⟨hfd, hm⟩ := Multiset.nodup_cons.mp h.nodup
  refine ⟨hm, ?_⟩
  intro fd' hm'
  rw [Function.update_of_ne (ne_of_mem_of_not_mem hm' hfd)]
  exact h.isOpen fd' (Multiset.mem_cons_of_mem hm')

lemma spares_closed : T.Spares ({fd} + m) (Function.update T fd none) m := by
  intro fd' hm' ho
  rw [Multiset.singleton_add, Multiset.mem_cons, not_or] at hm'
  rw [Function.update_of_ne hm'.1]
  exact ⟨rfl, hm'.2⟩

end

/-! ### Calls that are the same -/

/-- The call is not one for the control socket. -/
def Request.isOwn : Request → Bool
  | .openSocket kind => kind ≠ .control
  | .interfaceIndex .. | .hardwareAddress .. => false
  | _ => true

@[simp] lemma Request.isOwn_on (u : Use) (fd : Descriptor) : (u.on fd).isOwn = !u.isLookup := by
  cases u <;> rfl

namespace Trace

/-- The calls that are not for the control socket. -/
def ownCalls (t : Trace) : Trace :=
  t.filter fun
    | .call r _ => r.isOwn
    | .event _ => false

/-- The calls are the same, with the same answers, but for the numbers of descriptors; the pairs
are those before and after. -/
inductive SameCalls : Pairs → Trace → Trace → Pairs → Prop
  | nil (ρ : Pairs) : SameCalls ρ [] [] ρ
  | refused {ρ ρ' : Pairs} {t t' : Trace} (kind : SocketKind) (e : Errno) :
    SameCalls ρ t t' ρ' →
    SameCalls ρ (.call (.openSocket kind) (.error e) :: t)
      (.call (.openSocket kind) (.error e) :: t') ρ'
  | opened {ρ ρ' : Pairs} {t t' : Trace} (kind : SocketKind) (fd fd' : Descriptor) :
    SameCalls ({(fd, fd')} + ρ) t t' ρ' →
    SameCalls ρ (.call (.openSocket kind) (.ok fd) :: t)
      (.call (.openSocket kind) (.ok fd') :: t') ρ'
  | used {ρ ρ' : Pairs} {t t' : Trace} {fd fd' : Descriptor} (u : Use) (a : u.Answer) :
    u ≠ .close → (fd, fd') ∈ ρ → SameCalls ρ t t' ρ' →
    SameCalls ρ (.call (u.on fd) (u.answerOn fd a) :: t)
      (.call (u.on fd') (u.answerOn fd' a) :: t') ρ'
  | closed {ρ ρ' : Pairs} {t t' : Trace} (fd fd' : Descriptor) (a : Except Errno Unit) :
    SameCalls ρ t t' ρ' →
    SameCalls ({(fd, fd')} + ρ) (.call (.close fd) a :: t) (.call (.close fd') a :: t') ρ'

lemma SameCalls.append {ρ ρ' ρ'' : Pairs} {t t' u u' : Trace} (h : SameCalls ρ t t' ρ')
    (h' : SameCalls ρ' u u' ρ'') : SameCalls ρ (t ++ u) (t' ++ u') ρ'' := by
  induction h with
  | nil => exact h'
  | refused kind e _ ih => exact .refused kind e (ih h')
  | opened kind fd fd' _ ih => exact .opened kind fd fd' (ih h')
  | used v a hv hm _ ih => exact .used v a hv hm (ih h')
  | closed fd fd' a _ ih => exact .closed fd fd' a (ih h')

end Trace

end Kernel

/-! ### Steps of two runs -/

/-- The descriptor of the control socket, if it is open. -/
def ControlSocket.descriptors (s : ControlSocket) : Multiset Descriptor := ↑s.descriptor?.toList

namespace Pairing

/-- The descriptors of one run. -/
def lefts (B : Pairing) : Multiset Descriptor := B.left.descriptors + B.pairs.map Prod.fst

/-- The descriptors of the other run. -/
def rights (B : Pairing) : Multiset Descriptor := B.right.descriptors + B.pairs.map Prod.snd

/-- Each run holds its descriptors, and sockets that are paired have been asked the same. -/
structure Linked (B : Pairing) (T T' : Table) : Prop where
  left : T.Holds B.lefts
  right : T'.Holds B.rights
  same : ∀ fd fd', (fd, fd') ∈ B.pairs → T fd = T' fd'

/-- The runs go on in the same way, and leave alone what they do not hold. -/
structure Steps (B : Pairing) (T T' : Table) (t t' : Trace) (B₁ : Pairing) (T₁ T₁' : Table) :
    Prop where
  linked : B₁.Linked T₁ T₁'
  calls : t.ownCalls.SameCalls B.pairs t'.ownCalls B₁.pairs
  spares_left : T.Spares B.lefts T₁ B₁.lefts
  spares_right : T'.Spares B.rights T₁' B₁.rights

section

variable {B B₁ B₂ : Pairing} {T T' T₁ T₁' T₂ T₂' : Table} {t t' u u' : Trace} {ρ : Pairs}
  {left right : ControlSocket} {fd fd' : Descriptor} {i j : Instance}

@[simp] lemma lefts_nil : lefts ⟨0, left, right⟩ = left.descriptors := add_zero _

@[simp] lemma rights_nil : rights ⟨0, left, right⟩ = right.descriptors := add_zero _

lemma lefts_add : (B.add fd fd').lefts = {fd} + B.lefts := by
  simp [lefts, add]

lemma rights_add : (B.add fd fd').rights = {fd'} + B.rights := by
  simp [rights, add]

lemma lefts_open : lefts ⟨ρ, ⟨some fd⟩, right⟩ = {fd} + lefts ⟨ρ, .closed, right⟩ := by
  simp [lefts, ControlSocket.descriptors, ControlSocket.closed]

lemma rights_open : rights ⟨ρ, left, ⟨some fd⟩⟩ = {fd} + rights ⟨ρ, left, .closed⟩ := by
  simp [rights, ControlSocket.descriptors, ControlSocket.closed]

lemma mem_lefts (h : (fd, fd') ∈ B.pairs) : fd ∈ B.lefts :=
  Multiset.mem_add.mpr (.inr (Multiset.mem_map_of_mem Prod.fst h))

lemma mem_rights (h : (fd, fd') ∈ B.pairs) : fd' ∈ B.rights :=
  Multiset.mem_add.mpr (.inr (Multiset.mem_map_of_mem Prod.snd h))

/-- No descriptor has two counterparts. -/
lemma Linked.eq_iff (h : B.Linked T T') {a a' : Descriptor} (ha : (a, a') ∈ B.pairs)
    (hm : (fd, fd') ∈ B.pairs) : a = fd ↔ a' = fd' := by
  have hl := (Multiset.nodup_add.mp h.left.nodup).2.1
  have hr := (Multiset.nodup_add.mp h.right.nodup).2.1
  constructor
  · intro heq
    exact congrArg Prod.snd (Multiset.inj_on_of_nodup_map hl _ ha _ hm heq)
  · intro heq
    exact congrArg Prod.fst (Multiset.inj_on_of_nodup_map hr _ ha _ hm heq)

lemma Steps.trans (h : Steps B T T' t t' B₁ T₁ T₁') (h' : Steps B₁ T₁ T₁' u u' B₂ T₂ T₂') :
    Steps B T T' (t ++ u) (t' ++ u') B₂ T₂ T₂' where
  linked := h'.linked
  calls := by
    simp only [Trace.ownCalls, List.filter_append]
    exact h.calls.append h'.calls
  spares_left := h.spares_left.trans h'.spares_left
  spares_right := h.spares_right.trans h'.spares_right

/-- Events are no calls. -/
lemma Linked.idle (h : B.Linked T T') (l l' : List Event) :
    Steps B T T' (l.map .event) (l'.map .event) B T T' where
  linked := h
  calls := by
    have hown (l : List Event) : Trace.ownCalls (l.map .event) = [] := by simp [Trace.ownCalls]
    rw [hown, hown]
    exact .nil _
  spares_left := .refl
  spares_right := .refl

lemma Linked.openLeft (h : Linked ⟨ρ, .closed, right⟩ T T') (hfd : T fd = none) :
    Steps ⟨ρ, .closed, right⟩ T T' [.call (.openSocket .control) (.ok fd)] []
      ⟨ρ, ⟨some fd⟩, right⟩ (Function.update T fd (some i)) T' where
  linked := by
    refine ⟨lefts_open ▸ h.left.opened hfd, h.right, ?_⟩
    intro a a' ha
    have hmem := mem_lefts (B := ⟨ρ, .closed, right⟩) ha
    rw [Function.update_of_ne (ne_of_mem_of_not_mem hmem (h.left.not_mem hfd))]
    exact h.same a a' ha
  calls := .nil ρ
  spares_left := lefts_open ▸ spares_opened hfd
  spares_right := .refl

lemma Linked.openRight (h : Linked ⟨ρ, left, .closed⟩ T T') (hfd : T' fd = none) :
    Steps ⟨ρ, left, .closed⟩ T T' [] [.call (.openSocket .control) (.ok fd)]
      ⟨ρ, left, ⟨some fd⟩⟩ T (Function.update T' fd (some i)) where
  linked := by
    refine ⟨h.left, rights_open ▸ h.right.opened hfd, ?_⟩
    intro a a' ha
    have hmem := mem_rights (B := ⟨ρ, left, .closed⟩) ha
    rw [Function.update_of_ne (ne_of_mem_of_not_mem hmem (h.right.not_mem hfd))]
    exact h.same a a' ha
  calls := .nil ρ
  spares_left := .refl
  spares_right := rights_open ▸ spares_opened hfd

/-- What is asked of the control sockets does not touch the sockets that are paired. -/
lemma Linked.lookUp (h : Linked ⟨ρ, ⟨some fd⟩, ⟨some fd'⟩⟩ T T') {u : Use} (hu : u.isLookup)
    {a : u.Answer} :
    Steps ⟨ρ, ⟨some fd⟩, ⟨some fd'⟩⟩ T T' [.call (u.on fd) (u.answerOn fd a)]
      [.call (u.on fd') (u.answerOn fd' a)] ⟨ρ, ⟨some fd⟩, ⟨some fd'⟩⟩
      (Function.update T fd (some i)) (Function.update T' fd' (some j)) where
  linked := by
    refine ⟨h.left.used, h.right.used, ?_⟩
    have hl := h.left.nodup
    have hr := h.right.nodup
    rw [lefts_open] at hl
    rw [rights_open] at hr
    intro a a' ha
    have hmem := mem_lefts (B := ⟨ρ, .closed, ⟨some fd'⟩⟩) ha
    have hmem' := mem_rights (B := ⟨ρ, ⟨some fd⟩, .closed⟩) ha
    rw [Function.update_of_ne (ne_of_mem_of_not_mem hmem (Multiset.nodup_cons.mp hl).1),
      Function.update_of_ne (ne_of_mem_of_not_mem hmem' (Multiset.nodup_cons.mp hr).1)]
    exact h.same a a' ha
  calls := by
    simp only [Trace.ownCalls, List.filter, Request.isOwn_on, hu]
    exact .nil ρ
  spares_left := spares_used (by simp [lefts_open])
  spares_right := spares_used (by simp [rights_open])

lemma Linked.refused (h : B.Linked T T') {kind : SocketKind} (hk : kind ≠ .control) (e : Errno)
    (hT : T₁ = T) (hT' : T₁' = T') :
    Steps B T T' [.call (.openSocket kind) (.error e)] [.call (.openSocket kind) (.error e)] B
      T₁ T₁' where
  linked := by rwa [hT, hT']
  calls := by
    simp only [Trace.ownCalls, List.filter, Request.isOwn, decide_eq_true hk]
    exact .refused kind e (.nil _)
  spares_left := hT ▸ .refl
  spares_right := hT' ▸ .refl

lemma Linked.opened (h : B.Linked T T') {kind : SocketKind} (hk : kind ≠ .control)
    (hfd : T fd = none) (hfd' : T' fd' = none) :
    Steps B T T' [.call (.openSocket kind) (.ok fd)] [.call (.openSocket kind) (.ok fd')]
      (B.add fd fd') (Function.update T fd (some i)) (Function.update T' fd' (some i)) where
  linked := by
    refine ⟨lefts_add ▸ h.left.opened hfd, rights_add ▸ h.right.opened hfd', ?_⟩
    intro a a' ha
    rcases Multiset.mem_cons.mp ha with heq | ha
    · cases heq
      simp
    · rw [Function.update_of_ne (ne_of_mem_of_not_mem (mem_lefts ha) (h.left.not_mem hfd)),
        Function.update_of_ne (ne_of_mem_of_not_mem (mem_rights ha) (h.right.not_mem hfd'))]
      exact h.same a a' ha
  calls := by
    simp only [Trace.ownCalls, List.filter, Request.isOwn, decide_eq_true hk]
    exact .opened kind fd fd' (.nil _)
  spares_left := lefts_add ▸ spares_opened hfd
  spares_right := rights_add ▸ spares_opened hfd'

lemma Linked.used (h : B.Linked T T') {u : Use} (hu : u.isLookup = false) (hc : u ≠ .close)
    (hm : (fd, fd') ∈ B.pairs) (a : u.Answer) :
    Steps B T T' [.call (u.on fd) (u.answerOn fd a)] [.call (u.on fd') (u.answerOn fd' a)] B
      (Function.update T fd (some i)) (Function.update T' fd' (some i)) where
  linked := by
    refine ⟨h.left.used, h.right.used, ?_⟩
    intro a a' ha
    have hiff := h.eq_iff ha hm
    by_cases heq : a = fd
    · simp [heq, hiff.mp heq]
    · rw [Function.update_of_ne heq, Function.update_of_ne (mt hiff.mpr heq)]
      exact h.same a a' ha
  calls := by
    simp only [Trace.ownCalls, List.filter, Request.isOwn_on, hu]
    exact .used u a hc hm (.nil _)
  spares_left := spares_used (mem_lefts hm)
  spares_right := spares_used (mem_rights hm)

lemma Linked.closed (h : (B.add fd fd').Linked T T') (a : Except Errno Unit) :
    Steps (B.add fd fd') T T' [.call (.close fd) a] [.call (.close fd') a] B
      (Function.update T fd none) (Function.update T' fd' none) where
  linked := by
    have hl := lefts_add ▸ h.left
    have hr := rights_add ▸ h.right
    refine ⟨hl.closed, hr.closed, ?_⟩
    intro a a' ha
    rw [Function.update_of_ne, Function.update_of_ne]
    · exact h.same a a' (Multiset.mem_cons_of_mem ha)
    · exact ne_of_mem_of_not_mem (mem_rights ha) (Multiset.nodup_cons.mp hr.nodup).1
    · exact ne_of_mem_of_not_mem (mem_lefts ha) (Multiset.nodup_cons.mp hl.nodup).1
  calls := .closed fd fd' a (.nil _)
  spares_left := lefts_add ▸ spares_closed
  spares_right := rights_add ▸ spares_closed

end

end Pairing

/-! ### Runs of programs that do the same -/

section

variable {σ τ α β : Type} {M : Machine} {K : Kernel σ} {K' : Kernel τ} {table : σ → Table}
  {table' : τ → Table}

lemma Kernel.Instance.after_of_ne {i : Instance} {u : Use} (hu : u ≠ .close) :
    i.after u = some { i with earlier := i.earlier ++ [u] } := by
  cases u <;> first | rfl | exact absurd rfl hu

/-- On kernels that follow one machine, programs that do the same come to the same. -/
theorem Kernel.Program.Similar.run {Q : Pairing → α → β → Prop} {B : Pairing} {p : Program α}
    {p' : Program β} (h : Similar Q B p p') (hK : K.Follows M table) (hK' : K'.Follows M table')
    {s : σ} {s' : τ} (hs : B.Linked (table s) (table' s')) :
    ∃ B₁, Q B₁ (p.run K s).value (p'.run K' s').value ∧
      B.Steps (table s) (table' s') (p.run K s).trace (p'.run K' s').trace B₁
        (table (p.run K s).state) (table' (p'.run K' s').state) := by
  -- on how the two programs resemble each other; after every step the tables are linked again, and
  -- the rest is run from there
  induction h generalizing s s' with
  | @done B a b hq => exact ⟨B, hq, hs.idle [] []⟩
  | @tellLeft B e _ _ _ ih =>
    -- an event leaves both tables as they are
    obtain ⟨B₁, hq, hsteps⟩ := ih hs
    exact ⟨B₁, hq, (hs.idle [e] []).trans hsteps⟩
  | @tellRight B e _ _ _ ih =>
    obtain ⟨B₁, hq, hsteps⟩ := ih hs
    exact ⟨B₁, hq, (hs.idle [] [e]).trans hsteps⟩
  | openLeft _ ih =>
    -- a control socket of one side alone is paired with nothing
    obtain ⟨fd, hfd, hnew, htable⟩ := hK.opens_control s
    have hopen := hs.openLeft (i := ⟨.control, []⟩) hnew
    rw [← htable] at hopen
    obtain ⟨B₁, hq, hsteps⟩ := ih fd hopen.linked
    simp only [Program.run, hfd]
    exact ⟨B₁, hq, hopen.trans hsteps⟩
  | openRight _ ih =>
    obtain ⟨fd, hfd, hnew, htable⟩ := hK'.opens_control s'
    have hopen := hs.openRight (i := ⟨.control, []⟩) hnew
    rw [← htable] at hopen
    obtain ⟨B₁, hq, hsteps⟩ := ih fd hopen.linked
    simp only [Program.run, hfd]
    exact ⟨B₁, hq, hopen.trans hsteps⟩
  | @lookUp ρ fd fd' u next next' hu _ ih =>
    -- the two control sockets may have been asked different questions before; what they answer now
    -- is given by the machine alone
    have hc : u ≠ .close := by
      rintro rfl
      cases hu
    obtain ⟨i, hi⟩ := hs.left.exists_of_mem (by simp [Pairing.lefts_open] : fd ∈ _)
    obtain ⟨j, hj⟩ := hs.right.exists_of_mem (by simp [Pairing.rights_open] : fd' ∈ _)
    obtain ⟨ha, htable⟩ := hK.answers u hi
    obtain ⟨ha', htable'⟩ := hK'.answers u hj
    rw [Instance.after_of_ne hc] at htable htable'
    have hlook := hs.lookUp hu (i := { i with earlier := i.earlier ++ [u] })
      (j := { j with earlier := j.earlier ++ [u] }) (a := M.answer i u)
    rw [← htable, ← htable'] at hlook
    obtain ⟨B₁, hq, hsteps⟩ := ih (M.answer i u) hlook.linked
    simp only [Program.run, ha, ha', M.answer_lookup j i u hu]
    exact ⟨B₁, hq, hlook.trans hsteps⟩
  | @openSocket B kind next next' hk _ _ ihe ih =>
    -- whether a socket can be opened depends on its kind alone, so that both sides open one or
    -- neither does
    obtain ⟨e, he, ha, htable⟩ | ⟨fd, hok, ha, hfd, htable⟩ := hK.opens_or s kind
    · obtain ⟨e', he', ha', htable'⟩ | ⟨fd', hok', -⟩ := hK'.opens_or s' kind
      · cases he.symm.trans he'
        -- both are refused, with the same error
        have hrefused := hs.refused hk e htable htable'
        obtain ⟨B₁, hq, hsteps⟩ := ihe e hrefused.linked
        simp only [Program.run, ha, ha']
        exact ⟨B₁, hq, hrefused.trans hsteps⟩
      · cases he.symm.trans hok'
    · obtain ⟨e', he', -⟩ | ⟨fd', -, ha', hfd', htable'⟩ := hK'.opens_or s' kind
      · cases hok.symm.trans he'
      -- both descriptors are new, and become a pair
      · have hopened := hs.opened hk (i := ⟨kind, []⟩) hfd hfd'
        rw [← htable, ← htable'] at hopened
        obtain ⟨B₁, hq, hsteps⟩ := ih fd fd' hopened.linked
        simp only [Program.run, ha, ha']
        exact ⟨B₁, hq, hopened.trans hsteps⟩
  | @use B fd fd' u next next' hu hc hm _ ih =>
    -- the sockets of a pair have the same past, and so the same answer
    obtain ⟨i, hi⟩ := hs.left.exists_of_mem (Pairing.mem_lefts hm)
    obtain ⟨ha, htable⟩ := hK.answers u hi
    obtain ⟨ha', htable'⟩ := hK'.answers u ((hs.same fd fd' hm).symm.trans hi)
    rw [Instance.after_of_ne hc] at htable htable'
    have hused := hs.used hu hc hm (M.answer i u) (i := { i with earlier := i.earlier ++ [u] })
    rw [← htable, ← htable'] at hused
    obtain ⟨B₁, hq, hsteps⟩ := ih (M.answer i u) hused.linked
    simp only [Program.run, ha, ha']
    exact ⟨B₁, hq, hused.trans hsteps⟩
  | @close B fd fd' next next' _ ih =>
    have hm : (fd, fd') ∈ (B.add fd fd').pairs := Multiset.mem_cons_self _ _
    obtain ⟨i, hi⟩ := hs.left.exists_of_mem (Pairing.mem_lefts hm)
    obtain ⟨ha, htable⟩ := hK.closes hi
    obtain ⟨ha', htable'⟩ := hK'.closes ((hs.same fd fd' hm).symm.trans hi)
    -- the pair is given up on both sides at once
    have hclosed := hs.closed (M.answer i .close)
    rw [← htable, ← htable'] at hclosed
    obtain ⟨B₁, hq, hsteps⟩ := ih (M.answer i .close) hclosed.linked
    simp only [Program.run, ha, ha']
    exact ⟨B₁, hq, hclosed.trans hsteps⟩

end

end PppoeSetup
