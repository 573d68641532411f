import PppoeSetup.Proofs.CallOrder
import PppoeSetup.Proofs.Course.Tending
import PppoeSetup.Proofs.FirstRefusal

/-!
# The life of the control socket

All operations share one control socket. It is opened when an operation needs it and it is closed,
stays open whatever fails afterwards, and goes when it is told to, which no connection notices.
-/

namespace PppoeSetup

open Kernel Ledger Trace

lemma ControlSocket.eq_closed_or_open (s : ControlSocket) :
    s = .closed ∨ ∃ fd, s = ⟨some fd⟩ := by
  obtain ⟨_ | fd⟩ := s
  · exact .inl rfl
  · exact .inr ⟨fd, rfl⟩

lemma ControlSocket.isOpen_iff (s : ControlSocket) : s.isOpen ↔ ∃ fd, s = ⟨some fd⟩ := by
  obtain ⟨_ | fd⟩ := s <;> simp [isOpen]

/-! ### Descriptors of control sockets -/

lemma Kernel.Stage.eq_control_of_after {stage : Stage} {r : Request} {a : r.Answer}
    (h : stage.after r a = .control) : stage = .control := by
  cases stage with
  | created =>
    cases r with
    | setOption fd option => cases option <;> cases a <;> cases h
    | _ => cases h
  | enabled =>
    cases r with
    | bind fd address => cases a <;> cases h
    | _ => cases h
  | _ => exact h

namespace Kernel.Ledger

variable {L : Ledger} {t : Trace} {fd : Descriptor} {d : Demand} {m m' : Moment}

/-- Only opening a control socket makes a descriptor one of a control socket. -/
lemma control_of_after {r : Request} {a : r.Answer}
    (h : (L.after r a).stage fd = some .control) :
    L.stage fd = some .control ∨ Entry.call r a = .call (.openSocket .control) (.ok fd) := by
  -- all requests but two at most move the stage of their own descriptor
  have hkeep {r : Request} {a : r.Answer} (h : (if r.descriptor? = some fd then
      (L.stage fd).map (·.after r a) else L.stage fd) = some .control) :
      L.stage fd = some .control := by
    split at h
    · obtain ⟨stage, hs, hstage⟩ := Option.map_eq_some_iff.mp h
      rw [hs, Stage.eq_control_of_after hstage]
    · exact h
  cases r with
  | openSocket kind =>
    cases a with
    | error e => exact .inl (hkeep (r := .openSocket kind) (a := .error e) h)
    | ok fd' =>
      by_cases heq : fd = fd'
      · subst heq
        cases kind
        case control => exact .inr rfl
        all_goals simp [after, stageAfter, Stage.first] at h
      · left
        simpa [after, stageAfter, heq] using h
  | close fd' =>
    by_cases heq : fd = fd'
    · simp [after, stageAfter, heq] at h
    · left
      simpa [after, stageAfter, heq] using h
  | _ => exact .inl (hkeep h)

lemma control_of_through (hopen : ∀ fd, .call (.openSocket .control) (.ok fd) ∉ t)
    (h : (L.through t).stage fd = some .control) : L.stage fd = some .control := by
  induction t generalizing L with
  | nil => exact h
  | cons entry t ih =>
    have hrest (fd : Descriptor) : .call (.openSocket .control) (.ok fd) ∉ t :=
      fun hcall => hopen fd (List.mem_cons_of_mem _ hcall)
    cases entry with
    | event e => exact ih hrest h
    | call r a =>
      rcases control_of_after (ih hrest h) with hbefore | hcall
      · exact hbefore
      · rw [hcall] at hopen
        exact absurd List.mem_cons_self (hopen fd)

/-- No descriptor but the one of the control socket is one of a control socket. -/
def Sole (L : Ledger) (s : ControlSocket) : Prop :=
  ∀ fd, L.stage fd = some .control → s = ⟨some fd⟩

lemma Sole.after {r : Request} {a : r.Answer} (h : L.Sole m.control) (hr : m.Minds r) :
    (L.after r a).Sole (m.after d r a).control := by
  intro fd hfd
  rcases control_of_after hfd with hbefore | hcall
  · have hm := h fd hbefore
    rw [Moment.control_after, hm]
    rintro fd' ⟨⟩
    cases hm.symm.trans hr.eq_closed
  · cases hcall
    rfl

/-- The invariant of every step on the way through an operation. -/
lemma Sole.through (h : L.Sole m.control) (ht : m.Tends d t m') {v x : Trace} (hv : t = v ++ x) :
    (L.through v).Sole (m.through d v).control := by
  -- on the course; whoever opens a control socket has found it closed
  induction ht generalizing L v with
  | nil =>
    obtain ⟨rfl, -⟩ := List.append_eq_nil_iff.mp hv.symm
    exact h
  | event e _ ih =>
    cases v with
    | nil => exact h
    | cons entry v =>
      obtain ⟨rfl, htail⟩ := List.cons.inj hv
      exact ih (v := v) h htail
  | call a hr _ ih =>
    cases v with
    | nil => exact h
    | cons entry v =>
      obtain ⟨rfl, htail⟩ := List.cons.inj hv
      exact ih (v := v) (h.after hr) htail

end Kernel.Ledger

/-! ### Runs -/

namespace Workbench

variable {slots : Nat} {w w' : Workbench slots} {t u : Trace} {op : Operation slots}
  {reply : Reply} {fd : Descriptor}

/-- The control socket after a part of an operation, and whether it is needed next. -/
def moment (w : Workbench slots) (op : Operation slots) (v : Trace) : Moment :=
  (⟨w.control, (w.demand op).atOnce⟩ : Moment).through (w.demand op) v

/-- How an operation other than closing it treats the control socket. -/
structure Minding (w : Workbench slots) (op : Operation slots) (u : Trace) (reply : Reply)
    (w' : Workbench slots) : Prop where
  /-- It is opened where it is needed and closed, and nowhere else. -/
  opens {v : Trace} {r : Request} {a : r.Answer} {x : Trace} : u = v ++ .call r a :: x →
    (r = .openSocket .control ↔ (w.moment op v).needed ∧ (w.moment op v).control = .closed)
  /-- If it is still needed in the end, it is open. -/
  served : (w.moment op u).needed → w'.control.isOpen
  /-- An open one is kept, whatever fails. -/
  kept {fd : Descriptor} : w.control = ⟨some fd⟩ → w'.control = ⟨some fd⟩
  /-- What is opened is kept. -/
  opened {fd : Descriptor} : .call (.openSocket .control) (.ok fd) ∈ u →
    w.control = .closed ∧ w'.control = ⟨some fd⟩
  /-- If it cannot be opened, the operation fails, and the next one finds it closed. -/
  refused {e : Errno} : .call (.openSocket .control) (.error e) ∈ u →
    w'.control = .closed ∧ reply = .failed (.socketCreate .control (.os e))
  /-- Every question goes through it, and leaves it open whatever the answer. -/
  asked {r : Request} {a : r.Answer} {fd : Descriptor} : .call r a ∈ u → r.question? = some fd →
    w'.control = ⟨some fd⟩
  /-- Opening it gives its descriptor. -/
  given {fd : Descriptor} : op = .openControl →
    (reply = .descriptor fd ↔ w'.control = ⟨some fd⟩)

/-- That the control socket cannot be opened counts: what waits for its turn does not open it. -/
lemma counts_of_opens (h : (w.perform op).Yields u (reply, w')) {a : Except Errno Descriptor}
    (hcall : .call (.openSocket .control) a ∈ u) (e : Errno) : w.Counts op e := by
  cases op with
  | act slot action =>
    intro hawaits
    have hidle : action.setsUp = false := by
      cases action <;> first | rfl | exact hawaits.elim
    obtain ⟨hplain, -⟩ := (Endpoint.Acting.of_yields (yields_act_control h)).plain hidle
    exact (hplain _ _ hcall).elim
  | _ => trivial

/-- After a refusal there is nothing but closing, so the socket is not opened after all. -/
lemma closed_of_refused (h : (w.perform op).Yields u (reply, w')) (hop : op ≠ .closeControl)
    {e : Errno} (hcall : .call (.openSocket .control) (.error e) ∈ u) :
    w'.control = .closed ∧ reply = .failed (.socketCreate .control (.os e)) := by
  obtain ⟨n, ht, -⟩ := tends_perform h hop
  obtain ⟨v, x, hu⟩ := List.append_of_mem hcall
  obtain ⟨hx, hreply⟩ := decides_perform h v _ _ x e hu rfl (counts_of_opens h hcall e)
  obtain ⟨hr, hrest⟩ := ht.split hu
  have hnot (fd : Descriptor) : .call (.openSocket .control) (.ok fd) ∉ x := by
    intro hopen
    obtain ⟨_, ⟨⟩⟩ := hx _ _ hopen
  constructor
  · exact (hrest.control_eq hnot).trans hr.eq_closed
  · rw [Reply.eq_failed hreply, Asker.blame_openSocket]

lemma descriptor_iff (h : (w.perform .openControl).Yields u (reply, w')) :
    reply = .descriptor fd ↔ w'.control = ⟨some fd⟩ := by
  cases Performing.of_yields h with
  | opened ho =>
    generalize w.control = s at ho
    cases ho with
    | held fd' | opened fd' => simp [Reply.ofResult]
    | refused e => simp [Reply.ofResult, ControlSocket.closed]

lemma minding_of_perform (h : (w.perform op).Yields u (reply, w')) (hop : op ≠ .closeControl) :
    w.Minding op u reply w' := by
  -- all is read off the way through the moments that the operation tends
  obtain ⟨n, ht, hn⟩ := tends_perform h hop
  constructor
  case opens => exact fun hu => (ht.split hu).1.opens
  case served =>
    intro hneeded
    rw [moment, ht.through_eq] at hneeded
    exact hn hneeded
  case kept => exact fun hw => ht.control_eq_of_open hw
  case opened =>
    intro fd hcall
    refine ⟨?_, ht.opened hcall⟩
    obtain hw | ⟨fd', hw⟩ := w.control.eq_closed_or_open
    · exact hw
    · exact absurd hcall (ht.not_opens hw _)
  case refused => exact closed_of_refused h hop
  case asked => exact fun hcall hq => ht.asked hcall hq
  case given =>
    rintro fd rfl
    exact descriptor_iff h

/-- How the control socket is closed. -/
structure Closes (w : Workbench slots) (u : Trace) (reply : Reply) (w' : Workbench slots) :
    Prop where
  done : reply = .done
  control : w'.control = .closed
  held : w'.held = w.held
  /-- Nothing is called if it is closed already. -/
  idle : w.control = .closed → u = []
  /-- Otherwise there is one call, whatever the answer. -/
  once {fd : Descriptor} : w.control = ⟨some fd⟩ →
    ∃ answer, u = [.event (.controlClosing fd), .call (.close fd) answer]

lemma closes_of_perform (h : (w.perform .closeControl).Yields u (reply, w')) :
    w.Closes u reply w' := by
  cases Performing.of_yields h with
  | closed hc =>
    refine ⟨rfl, rfl, rfl, ?_, ?_⟩
    · intro hw
      rw [hw] at hc
      cases hc
      rfl
    · intro fd hw
      rw [hw] at hc
      cases hc with
      | closed _ answer => exact ⟨answer, rfl⟩

/-! ### One descriptor at a time -/

/-- Closing the control socket leaves no descriptor of one. -/
lemma Closes.sole {L : Ledger} (h : w.Closes u reply w') (hL : L.Sole w.control) :
    (L.through u).Sole .closed := by
  obtain hw | ⟨fd, hw⟩ := w.control.eq_closed_or_open
  · rw [h.idle hw]
    rwa [hw] at hL
  -- its descriptor has no stage any more, and no other was one of a control socket
  · obtain ⟨answer, rfl⟩ := h.once hw
    intro fd' hfd'
    by_cases heq : fd' = fd
    · simp [after, stageAfter, heq] at hfd'
    · have hbefore : L.stage fd' = some .control := by
        simpa [after, stageAfter, heq] using hfd'
      cases hw.symm.trans (hL fd' hbefore)
      exact absurd rfl heq

lemma Closes.not_opens (h : w.Closes u reply w') (a : Except Errno Descriptor) :
    .call (.openSocket .control) a ∉ u := by
  obtain hw | ⟨fd, hw⟩ := w.control.eq_closed_or_open
  · simp [h.idle hw]
  · obtain ⟨answer, rfl⟩ := h.once hw
    simp

/-- What one operation preserves, at its end and at every point on the way. -/
lemma sole_of_perform {L : Ledger} (h : (w.perform op).Yields u (reply, w'))
    (hL : L.Sole w.control) :
    (L.through u).Sole w'.control ∧ ∀ v x, u = v ++ x → ∃ s, (L.through v).Sole s := by
  by_cases hop : op = .closeControl
  -- before the only call the ledger is that of before
  · subst hop
    have hc := closes_of_perform h
    rw [hc.control]
    refine ⟨hc.sole hL, ?_⟩
    rintro v x rfl
    refine ⟨w.control, fun fd hfd => hL fd (control_of_through ?_ hfd)⟩
    exact fun fd hcall => hc.not_opens _ (List.mem_append_left x hcall)
  · obtain ⟨n, ht, -⟩ := tends_perform h hop
    constructor
    · have hthrough := hL.through ht (List.append_nil u).symm
      rwa [ht.through_eq] at hthrough
    · exact fun v x hu => ⟨_, hL.through ht hu⟩

/-- At any time there is at most one open descriptor of a control socket, which is that of the
workbench between operations. -/
lemma Reachable.sole (h : w.Reachable t) : (Ledger.empty.through t).Sole w.control ∧
    ∀ v x, t = v ++ x → ∃ s, (Ledger.empty.through v).Sole s := by
  induction h with
  | start =>
    have hempty : Ledger.empty.Sole .closed := fun fd hfd => by simp [Ledger.empty] at hfd
    refine ⟨hempty, fun v x hv => ?_⟩
    obtain ⟨rfl, -⟩ := List.append_eq_nil_iff.mp hv.symm
    exact ⟨_, hempty⟩
  | @step t u w w' op reply hr hop ih =>
    obtain ⟨hsole, hprefix⟩ := ih
    obtain ⟨hend, hway⟩ := sole_of_perform hop hsole
    rw [through_append]
    refine ⟨hend, fun v x hv => ?_⟩
    -- the point is within the last operation or before it
    rcases List.append_eq_append_iff.mp hv with ⟨v', rfl, hu⟩ | ⟨x', ht, -⟩
    · rw [through_append]
      exact hway v' x hu
    · exact hprefix v x' ht

lemma Reachable.control_iff (h : w.Reachable t) (hl : t.Lawful) :
    w.control = ⟨some fd⟩ ↔ t.stage fd = some .control := by
  constructor
  · intro hw
    refine (h.holds hl).of_mem ?_
    simp [holdings, hw, ControlSocket.holdings]
  · exact h.sole.1 fd

/-- From being open to being closed the control socket is the same, and all questions go through
it. -/
lemma minding_of_performAll {ops : List (Operation slots)} {replies : List Reply}
    (hops : .closeControl ∉ ops) (h : (w.performAll ops).Yields u (replies, w'))
    (hw : w.control = ⟨some fd⟩) :
    w'.control = ⟨some fd⟩ ∧
      (∀ a, .call (.openSocket .control) a ∉ u) ∧
      (∀ r a fd', .call r a ∈ u → r.question? = some fd' → fd' = fd) ∧
      ∀ reply, (.openControl, reply) ∈ ops.zip replies → reply = .descriptor fd := by
  -- on the operations: each of them keeps the open control socket for the next one
  induction ops generalizing u w replies with
  | nil =>
    cases h
    exact ⟨hw, by simp, by simp, by simp⟩
  | cons op ops ih =>
    obtain ⟨u, v, reply, rest, w₁, rfl, rfl, hop, hrest⟩ := yields_performAll_cons.mp h
    obtain ⟨hne, hops⟩ := not_or.mp (List.mem_cons.not.mp hops)
    obtain ⟨n, ht, -⟩ := tends_perform hop (Ne.symm hne)
    have hw₁ := ht.control_eq_of_open hw
    obtain ⟨hw', hnot, hasked, hgiven⟩ := ih hops hrest hw₁
    refine ⟨hw', ?_, ?_, ?_⟩
    · intro a hcall
      rcases List.mem_append.mp hcall with hcall | hcall
      · exact ht.not_opens hw a hcall
      · exact hnot a hcall
    · intro r a fd' hcall hq
      rcases List.mem_append.mp hcall with hcall | hcall
      · cases hw₁.symm.trans (ht.asked hcall hq)
        rfl
      · exact hasked r a fd' hcall hq
    · intro reply' hreply
      rcases List.mem_cons.mp hreply with heq | hreply
      · cases heq
        exact (descriptor_iff hop).mpr hw₁
      · exact hgiven reply' hreply

/-- The one control socket of all connections, whatever is done and whatever the kernel answers:

* at any time at most one descriptor of a control socket is open, and if the kernel gives out no
  open descriptor, the control socket is open between operations exactly if one is, and has it;
* an operation opens it at the points where it needs it and finds it closed, and at no others; it
  keeps it if it is open, also after a question that fails, and puts all its questions to it; if
  it cannot be opened, the operation fails and leaves it closed;
* closing it is one call if it is open and nothing otherwise, and leaves all slots as they are;
* from the time that it is open, and until it is closed, it is not opened again, all questions go
  through the same descriptor, and whoever asks for it is given this one. -/
theorem control_socket_life (h : w.Reachable t) :
    (∀ v x, t = v ++ x → ∀ fd fd', v.stage fd = some .control → v.stage fd' = some .control →
      fd = fd') ∧
    (t.Lawful → (w.control.isOpen ↔ ∃ fd, t.stage fd = some .control) ∧
      ∀ fd, w.control = ⟨some fd⟩ ↔ t.stage fd = some .control) ∧
    (∀ op u reply w', op ≠ .closeControl → (w.perform op).Yields u (reply, w') →
      w.Minding op u reply w') ∧
    (∀ u reply w', (w.perform .closeControl).Yields u (reply, w') → w.Closes u reply w') ∧
    ∀ ops u replies w' fd, .closeControl ∉ ops → (w.performAll ops).Yields u (replies, w') →
      w.control = ⟨some fd⟩ →
      w'.control = ⟨some fd⟩ ∧
        (∀ a, .call (.openSocket .control) a ∉ u) ∧
        (∀ r a fd', .call r a ∈ u → r.question? = some fd' → fd' = fd) ∧
        ∀ reply, (.openControl, reply) ∈ ops.zip replies → reply = .descriptor fd := by
  refine ⟨?_, ?_, fun _ _ _ _ hop hy => minding_of_perform hy hop, fun _ _ _ => closes_of_perform,
    fun _ _ _ _ _ hops hy hw => minding_of_performAll hops hy hw⟩
  · intro v x hv fd fd' hfd hfd'
    obtain ⟨s, hs⟩ := h.sole.2 v x hv
    cases (hs fd hfd).symm.trans (hs fd' hfd')
    rfl
  · intro hl
    have hiff (fd : Descriptor) : w.control = ⟨some fd⟩ ↔ t.stage fd = some .control :=
      h.control_iff hl
    exact ⟨w.control.isOpen_iff.trans (exists_congr hiff), hiff⟩

/-- What has come up on the simulated machine has opened the control socket, which can be closed
under it. -/
theorem control_socket_life_wrapped :
    wrappingOutcome.trace.stage 101 = some .control ∧
      ∃ answer, ((wrappingOutcome.value.2.perform .closeControl).run simulated
          wrappingOutcome.state).trace =
        [.event (.controlClosing 101), .call (.close 101) answer] := by
  have hcontrol : wrappingOutcome.value.2.control = ⟨some 101⟩ := by
    decide +kernel
  obtain ⟨-, hopen, -, hcloses, -⟩ := control_socket_life (reachable_simulate _ _)
  obtain ⟨-, hiff⟩ := hopen (lawful_simulate _ _)
  exact ⟨(hiff 101).mp hcontrol, (hcloses _ _ _ (Program.yields_run _ _ _)).once hcontrol⟩

end Workbench

end PppoeSetup
