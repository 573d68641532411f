import PppoeSetup.Kernel.Program
import PppoeSetup.Kernel.SystemCall

/-!
# Kernels and traces

A kernel answers requests, and its answers may depend on all that happened before. Running a
program against a kernel gives the program's value, the trace of what was asked, answered and
told, and the kernel afterwards.
-/

namespace PppoeSetup.Kernel

/-- One thing that happened during a run. -/
inductive Entry
  | call (request : Request) (answer : request.Answer)
  | event (event : Event)

abbrev Trace := List Entry

namespace Trace

/-- The events of a run, in order. -/
def events (t : Trace) : List Event :=
  t.filterMap fun
    | .event e => some e
    | .call .. => none

/-- The system calls of a run with what they returned, in order. -/
def systemCalls (t : Trace) : List (SystemCall × Int) :=
  t.filterMap fun
    | .call r answer => r.systemCall?.map (·, r.returnValue answer)
    | .event _ => none

end Trace

end PppoeSetup.Kernel

namespace PppoeSetup

open Kernel

/-- A kernel whose states are of type `σ`. -/
structure Kernel (σ : Type) where
  respond : σ → (r : Request) → r.Answer × σ

/-- What a program came to: its value, what happened, and the kernel's state afterwards. -/
structure Kernel.Outcome (σ α : Type) where
  value : α
  trace : Trace
  state : σ

namespace Kernel.Program

variable {σ α β : Type}

def run (kernel : Kernel σ) : Program α → σ → Outcome σ α
  | done a, s => ⟨a, [], s⟩
  | ask r next, s =>
    let answered := kernel.respond s r
    let rest := (next answered.1).run kernel answered.2
    { rest with trace := .call r answered.1 :: rest.trace }
  | tell e next, s =>
    let rest := next.run kernel s
    { rest with trace := .event e :: rest.trace }

/-- `p.Yields t a`: with the answers of the trace `t`, the program ends with `a`. -/
inductive Yields : Program α → Trace → α → Prop
  | done (a : α) : Yields (done a) [] a
  | ask {r : Request} {next : r.Answer → Program α} {t : Trace} {a : α} (answer : r.Answer) :
    Yields (next answer) t a → Yields (ask r next) (.call r answer :: t) a
  | tell {e : Event} {next : Program α} {t : Trace} {a : α} :
    Yields next t a → Yields (tell e next) (.event e :: t) a

theorem run_bind (kernel : Kernel σ) (p : Program α) (f : α → Program β) (s : σ) :
    (p >>= f).run kernel s =
      let first := p.run kernel s
      let second := (f first.value).run kernel first.state
      { second with trace := first.trace ++ second.trace } := by
  induction p generalizing s with
  | done a => rfl
  | ask r next ih => simp [run, ih]
  | tell e next ih => simp [run, ih]

theorem yields_run (kernel : Kernel σ) (p : Program α) (s : σ) :
    p.Yields (p.run kernel s).trace (p.run kernel s).value := by
  induction p generalizing s with
  | done a => exact .done a
  | ask r next ih => exact .ask _ (ih _ _)
  | tell e next ih => exact .tell (ih _)

end Kernel.Program

end PppoeSetup
