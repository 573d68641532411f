import PppoeSetup.Proofs.Readiness

/-!
# Asynchronous transfers

What an asynchronous transfer comes to if the kernel puts it off any number of times and then
answers: the same as one transfer on the blocking socket that is answered at once.
-/

namespace PppoeSetup

open Kernel DiscoverySocket AsyncSocket Workbench

variable {σ τ : Type}

/-! ### Scripts -/

namespace Kernel

/-- The kernel refuses a request `k` times on end and then answers it. -/
inductive Answers (K : Kernel σ) (r : Request) (refusal answer : r.Answer) : Nat → σ → σ → Prop
  | now {s s' : σ} : K.respond s r = (answer, s') → Answers K r refusal answer 0 s s'
  | later {k : Nat} {s s₁ s' : σ} :
    K.respond s r = (refusal, s₁) → Answers K r refusal answer k s₁ s' →
    Answers K r refusal answer (k + 1) s s'

/-- The reactor reports a descriptor ready often enough for the kernel to refuse a request `k`
times and then answer it. -/
def AnswersAwaited (K : Kernel σ) (fd : Descriptor) (direction : Direction) (r : Request)
    (refusal answer : r.Answer) (k : Nat) (s s' : σ) : Prop :=
  ∃ n s₁, K.respond s (.notifications fd direction) = (n, s₁) ∧ k < n ∧
    K.Answers r refusal answer k s₁ s'

/-- A request that is refused `k` times and then answered. -/
def Trace.insisting (r : Request) (refusal answer : r.Answer) (k : Nat) : Trace :=
  List.replicate k (.call r refusal) ++ [.call r answer]

/-- What a buffer holds after a run that receives into it: a datagram overwrites the first bytes,
and nothing else touches it. -/
def Trace.filled (buffer : List UInt8) : Trace → List UInt8
  | .call (.receive ..) (.ok d) :: t =>
    filled (d.payload.take buffer.length ++ buffer.drop d.payload.length) t
  | _ :: t => filled buffer t
  | [] => buffer

end Kernel

/-! ### Retrying -/

namespace AsyncSocket

variable {α : Type} {K : Kernel σ}

/-- Attempts that are put off leave the socket as it was, so that the answer decides alone. -/
lemma run_retry {attempt : DiscoverySocket → Program (Except Errno α × DiscoverySocket)}
    {r : Request} {refusal answer : r.Answer} {value : r.Answer → Except Errno α}
    {after : r.Answer → DiscoverySocket} {d : DiscoverySocket} {k n : Nat} {s s' : σ}
    (hattempt : attempt d = .ask r fun x => .done (value x, after x))
    (hrefusal : value refusal = .error .again) (hafter : after refusal = d)
    (hanswer : value answer ≠ .error .again) (h : K.Answers r refusal answer k s s')
    (hn : k < n) :
    (retry attempt n d).run K s =
      ⟨(.finished (value answer), after answer), Trace.insisting r refusal answer k, s'⟩ := by
  obtain ⟨n, rfl⟩ : ∃ m, n = m + 1 := Nat.exists_eq_succ_of_ne_zero (Nat.ne_zero_of_lt hn)
  -- on the refusals; each of them uses up one notification
  induction h generalizing n with
  | now hr =>
    simp only [retry, hattempt, Program.ask_bind, Program.done_bind, Program.run, hr]
    cases hv : value answer with
    | ok a => rfl
    | error e =>
      have he : e ≠ .again := by
        rintro rfl
        exact hanswer hv
      simp only [if_neg he]
      rfl
  | later hr _ ih =>
    obtain ⟨n, rfl⟩ : ∃ m, n = m + 1 :=
      Nat.exists_eq_succ_of_ne_zero (Nat.ne_zero_of_lt (Nat.lt_of_succ_lt_succ hn))
    have hrest := ih n (Nat.lt_of_succ_lt_succ hn)
    rw [retry, hattempt]
    simp only [Program.ask_bind, Program.done_bind, Program.run, hr, hrefusal, hafter, ↓reduceIte,
      hrest]
    rfl

end AsyncSocket

/-! ### Refinement -/

namespace Kernel.Trace

variable {r : Request} {refusal answer : r.Answer} {call : SystemCall}

lemma systemCalls_insisting (h : r.systemCall? = some call) (k : Nat) :
    (insisting r refusal answer k).systemCalls =
      List.replicate k (call, r.returnValue refusal) ++ [(call, r.returnValue answer)] := by
  simp [systemCalls, insisting, List.filterMap_append, h]

lemma filled_insisting (h : ∀ buffer t, filled buffer (.call r refusal :: t) = filled buffer t)
    (buffer : List UInt8) (k : Nat) :
    filled buffer (insisting r refusal answer k) = filled buffer [.call r answer] := by
  induction k with
  | zero => rfl
  | succ k ih =>
    rw [← ih]
    exact h buffer _

end Kernel.Trace

/-- An asynchronous transfer has come to the same as a blocking one: the result, the socket with
its counters and the buffer are those of the blocking one, and so is the last system call, which
`k` others came before that were put off. -/
structure Kernel.Outcome.Refines {α : Type}
    (o : Outcome σ (Poll (Except Errno α) × AsyncSocket))
    (b : Outcome τ (Except Errno α × DiscoverySocket)) (buffer : List UInt8) (k : Nat) : Prop where
  result : o.value.1 = .finished b.value.1
  socket : o.value.2.socket = b.value.2
  buffer : o.trace.filled buffer = b.trace.filled buffer
  calls : ∃ call returned, b.trace.systemCalls = [(call, returned)] ∧
    o.trace.systemCalls =
      List.replicate k (call, -Errno.again.code) ++ [(call, returned)]

/-- An attempt that asks one thing, and leaves the socket as it was if that is refused, can be made
once for each notification. -/
lemma AsyncSocket.retry_refines {α : Type} {K : Kernel σ} {L : Kernel τ}
    (attempt : DiscoverySocket → Program (Except Errno α × DiscoverySocket)) {r : Request}
    (value : r.Answer → Except Errno α) {after : r.Answer → DiscoverySocket} {refusal : r.Answer}
    {d : DiscoverySocket} {direction : Direction} {buffer : List UInt8} {call : SystemCall}
    {k : Nat} {s s' : σ} {u : τ}
    (hattempt : attempt d = .ask r fun x => .done (value x, after x))
    (hvalue : value refusal = .error .again) (hafter : after refusal = d)
    (hcall : r.systemCall? = some call) (hreturned : r.returnValue refusal = -Errno.again.code)
    (hfilled : ∀ buffer t, Trace.filled buffer (.call r refusal :: t) = Trace.filled buffer t)
    (hanswer : value (L.respond u r).1 ≠ .error .again)
    (h : K.AnswersAwaited d.rawFd direction r refusal (L.respond u r).1 k s s') :
    Outcome.Refines
      ((do
        let n ← Program.call (.notifications d.rawFd direction)
        let (result, socket) ← retry attempt n d
        return (result, (⟨socket⟩ : AsyncSocket)) : Program _).run K s)
      ((attempt d).run L u) buffer k := by
  obtain ⟨n, s₁, hn, hk, h⟩ := h
  have hrun := run_retry hattempt hvalue hafter hanswer h hk
  simp only [Program.call, Program.ask_bind, Program.done_bind, Program.run, hn, Program.run_bind,
    hrun, hattempt, Program.pure_eq_done, List.append_nil]
  refine ⟨rfl, rfl, Trace.filled_insisting hfilled buffer k, call, r.returnValue (L.respond u r).1,
    by simp [Trace.systemCalls, hcall], ?_⟩
  rw [← hreturned]
  exact Trace.systemCalls_insisting hcall k

/-- Whatever the kernel answers in the end and however often it puts the transfer off before that,
an asynchronous transfer ends, and it refines the blocking one that is answered at once. -/
theorem asynchronous_refines_blocking (K : Kernel σ) (L : Kernel τ) (a : AsyncSocket) (k : Nat)
    (s : σ) (u : τ) :
    (∀ (buffer : List UInt8) (answer : Except Errno Datagram) (s' : σ), answer ≠ .error .again →
      K.AnswersAwaited a.socket.rawFd .reading (.receive a.socket.rawFd buffer.length)
        (.error .again) answer k s s' →
      (L.respond u (.receive a.socket.rawFd buffer.length)).1 = answer →
      ((a.receive buffer.length).run K s).Refines ((a.socket.receive buffer.length).run L u)
        buffer k) ∧
    (∀ (frame buffer : List UInt8) (answer : Except Errno Nat) (s' : σ), answer ≠ .error .again →
      K.AnswersAwaited a.socket.rawFd .writing (.send a.socket.rawFd frame)
        (.error .again) answer k s s' →
      (L.respond u (.send a.socket.rawFd frame)).1 = answer →
      ((a.send frame).run K s).Refines ((a.socket.send frame).run L u) buffer k) ∧
    Capture.receive a = a.receive ∧ Capture.send a = a.send := by
  refine ⟨?_, ?_, rfl, rfl⟩
  · rintro buffer answer s' hanswer hscript rfl
    refine retry_refines (·.receive buffer.length)
      (fun x : Except Errno Datagram => x.map Received.ofDatagram) rfl rfl rfl rfl rfl
      (fun _ _ => rfl) ?_ hscript
    intro hagain
    cases hanswered : (L.respond u (.receive a.socket.rawFd buffer.length)).1 with
    | ok d =>
      rw [hanswered] at hagain
      cases hagain
    | error e =>
      rw [hanswered] at hagain hanswer
      cases hagain
      exact hanswer rfl
  · rintro frame buffer answer s' hanswer hscript rfl
    exact retry_refines (·.send frame) id rfl rfl rfl rfl rfl (fun _ _ => rfl) hanswer hscript

/-- A frame of three bytes. -/
def datagram : Datagram := ⟨[1, 2, 3], Vector.replicate 20 0⟩

/-- Both transfers are put off twice; then a frame comes in, and sending is interrupted. -/
def puttingOff : SimulatedState where
  toReceive := [.error .again, .error .again, .ok datagram]
  toSend := [.fails .again, .fails .again, .fails ⟨4⟩]

/-- A frame comes in at once, and sending is interrupted at once. -/
def answering : SimulatedState where
  toReceive := [.ok datagram]
  toSend := [.fails ⟨4⟩]

theorem asynchronous_refines_blocking_twice :
    (((⟨wrapped⟩ : AsyncSocket).receive 2).run simulated puttingOff).Refines
        ((wrapped.receive 2).run simulated answering) [7, 8] 2 ∧
      (((⟨wrapped⟩ : AsyncSocket).send [9]).run simulated puttingOff).Refines
        ((wrapped.send [9]).run simulated answering) [] 2 := by
  obtain ⟨hreceive, hsend, -, -⟩ :=
    asynchronous_refines_blocking simulated simulated ⟨wrapped⟩ 2 puttingOff answering
  have hreceived : simulated.AnswersAwaited wrapped.rawFd .reading (.receive wrapped.rawFd 2)
      (.error .again) (.ok ⟨[1, 2], datagram.sender⟩) 2 puttingOff
      { puttingOff with toReceive := [] } :=
    ⟨4, puttingOff, rfl, by decide, .later rfl (.later rfl (.now rfl))⟩
  have hsent : simulated.AnswersAwaited wrapped.rawFd .writing (.send wrapped.rawFd [9])
      (.error .again) (.error ⟨4⟩) 2 puttingOff { puttingOff with toSend := [] } :=
    ⟨4, puttingOff, rfl, by decide, .later rfl (.later rfl (.now rfl))⟩
  exact ⟨hreceive [7, 8] (.ok _) _ (fun h => nomatch h) hreceived rfl,
    hsend [9] [] _ _ (by decide) hsent rfl⟩

end PppoeSetup
