import Mathlib.Tactic.Common
import PppoeSetup.Kernel.Trace

/-!
# Calls and what they ask

Properties of all calls of a run, and what a call asks of a descriptor apart from which
descriptor it is.
-/

namespace PppoeSetup.Kernel

/-! ### All calls of a trace -/

namespace Trace

/-- All calls are of one sort, with their answers. -/
def Calls (p : (r : Request) → r.Answer → Prop) (t : Trace) : Prop :=
  ∀ r a, .call r a ∈ t → p r a

/-- All calls are of one sort, whatever the answers. -/
def Asks (p : Request → Prop) (t : Trace) : Prop := t.Calls fun r _ => p r

section

variable {t u : Trace} {p : (r : Request) → r.Answer → Prop}

@[simp] lemma calls_nil : Calls p [] := fun _ _ h => nomatch h

@[simp] lemma calls_event {e : Event} : Calls p (.event e :: t) ↔ t.Calls p := by
  simp [Calls]

@[simp] lemma calls_call {r : Request} {a : r.Answer} :
    Calls p (.call r a :: t) ↔ p r a ∧ t.Calls p := by
  constructor
  · intro h
    exact ⟨h r a List.mem_cons_self, fun r' a' h' => h r' a' (List.mem_cons_of_mem _ h')⟩
  · rintro ⟨hr, ht⟩ r' a' h'
    rcases List.mem_cons.mp h' with h' | h'
    · cases h'
      exact hr
    · exact ht r' a' h'

@[simp] lemma calls_append : Calls p (t ++ u) ↔ t.Calls p ∧ u.Calls p := by
  simp only [Calls, List.mem_append]
  grind

end

section

variable {t u : Trace} {p : Request → Prop}

@[simp] lemma asks_nil : Asks p [] := calls_nil

@[simp] lemma asks_event {e : Event} : Asks p (.event e :: t) ↔ t.Asks p := calls_event

@[simp] lemma asks_call {r : Request} {a : r.Answer} :
    Asks p (.call r a :: t) ↔ p r ∧ t.Asks p := calls_call

@[simp] lemma asks_append : Asks p (t ++ u) ↔ t.Asks p ∧ u.Asks p := calls_append

lemma Asks.mono {q : Request → Prop} (h : t.Asks p) (hpq : ∀ r, p r → q r) : t.Asks q :=
  fun r a hcall => hpq r (h r a hcall)

end

end Trace

/-- The call transfers a frame through the descriptor, or asks how often this can be tried. -/
def Request.Exchanges (fd : Descriptor) : Request → Prop
  | .send fd' _ | .receive fd' _ | .notifications fd' _ => fd' = fd
  | _ => False

/-- Every answer in a run is one that the kernel gives in some state. -/
lemma Program.calls_run {σ α : Type} (kernel : Kernel σ) (p : Program α) (s : σ) :
    (p.run kernel s).trace.Calls fun r a => ∃ s, (kernel.respond s r).1 = a := by
  induction p generalizing s with
  | done a => exact Trace.calls_nil
  | ask r next ih => exact Trace.calls_call.mpr ⟨⟨s, rfl⟩, ih _ _⟩
  | tell e next ih => exact Trace.calls_event.mpr (ih s)

/-! ### Uses -/

/-- What a call asks of the descriptor that it is on. -/
inductive Use
  | interfaceIndex (name : Vector UInt8 16)
  | hardwareAddress (name : Vector UInt8 16)
  | channelIndex
  | setOption (option : SocketOption)
  | bind (address : Wire.LinkAddress)
  | connect (address : Wire.SessionAddress)
  | statusFlags
  | setStatusFlags (flags : UInt32)
  | send (frame : List UInt8)
  | receive (capacity : Nat)
  | close
  | register
  | notifications (direction : Direction)
deriving DecidableEq

namespace Use

/-- The call on a descriptor. -/
def on : Use → Descriptor → Request
  | interfaceIndex name, fd => .interfaceIndex fd name
  | hardwareAddress name, fd => .hardwareAddress fd name
  | channelIndex, fd => .channelIndex fd
  | setOption option, fd => .setOption fd option
  | bind address, fd => .bind fd address
  | connect address, fd => .connect fd address
  | statusFlags, fd => .statusFlags fd
  | setStatusFlags flags, fd => .setStatusFlags fd flags
  | send frame, fd => .send fd frame
  | receive capacity, fd => .receive fd capacity
  | close, fd => .close fd
  | register, fd => .register fd
  | notifications direction, fd => .notifications fd direction

/-- The answers do not depend on the descriptor. -/
@[reducible] def Answer (u : Use) : Type := (u.on 0).Answer

/-- The answer to the call on a descriptor. -/
def answerOn (u : Use) (fd : Descriptor) (a : u.Answer) : (u.on fd).Answer :=
  match u, a with
  | interfaceIndex _, a | hardwareAddress _, a | channelIndex, a | setOption _, a | bind _, a
  | connect _, a | statusFlags, a | setStatusFlags _, a | send _, a | receive _, a | close, a
  | register, a | notifications _, a => a

end Use

/-- A kernel that takes a call apart into what is asked and the descriptor that it is asked of. -/
def dispatch {σ : Type} (opens : σ → SocketKind → Except Errno Descriptor × σ)
    (use : σ → (u : Use) → Descriptor → u.Answer × σ) : Kernel σ where
  respond s
    | .openSocket kind => opens s kind
    | .interfaceIndex fd name => use s (.interfaceIndex name) fd
    | .hardwareAddress fd name => use s (.hardwareAddress name) fd
    | .channelIndex fd => use s .channelIndex fd
    | .setOption fd option => use s (.setOption option) fd
    | .bind fd address => use s (.bind address) fd
    | .connect fd address => use s (.connect address) fd
    | .statusFlags fd => use s .statusFlags fd
    | .setStatusFlags fd flags => use s (.setStatusFlags flags) fd
    | .send fd frame => use s (.send frame) fd
    | .receive fd capacity => use s (.receive capacity) fd
    | .close fd => use s .close fd
    | .register fd => use s .register fd
    | .notifications fd direction => use s (.notifications direction) fd

lemma respond_dispatch {σ : Type} (opens : σ → SocketKind → Except Errno Descriptor × σ)
    (use : σ → (u : Use) → Descriptor → u.Answer × σ) (s : σ) (u : Use) (fd : Descriptor) :
    (dispatch opens use).respond s (u.on fd) = (u.answerOn fd (use s u fd).1, (use s u fd).2) := by
  cases u <;> rfl

end PppoeSetup.Kernel
