import PppoeSetup.Kernel.Event

/-!
# Programs

A program asks the kernel for one thing after another, tells about events on the way, and ends
with a value. How it goes on may depend on every answer, and it ends whatever the answers are.
-/

namespace PppoeSetup.Kernel

inductive Program (α : Type) where
  | done (value : α)
  | ask (request : Request) (next : request.Answer → Program α)
  | tell (event : Event) (next : Program α)

namespace Program

variable {α β γ : Type}

def bind : Program α → (α → Program β) → Program β
  | done a, f => f a
  | ask r next, f => ask r fun answer => (next answer).bind f
  | tell e next, f => tell e (next.bind f)

instance : Monad Program where
  pure := done
  bind := bind

/-- Asks for one thing and gives the answer. -/
def call (r : Request) : Program r.Answer := ask r done

/-- Tells about one event. -/
def note (e : Event) : Program Unit := tell e (done ())

/-- Closes a descriptor, whatever the kernel answers. -/
def close (fd : Descriptor) : Program Unit := ask (.close fd) fun _ => done ()

/-- Closes what is held, if anything is. -/
def closeHeld : Option Descriptor → Program Unit
  | none => done ()
  | some fd => close fd

@[simp] theorem pure_eq_done (a : α) : (pure a : Program α) = done a := rfl

@[simp] theorem done_bind (a : α) (f : α → Program β) : done a >>= f = f a := rfl

@[simp] theorem ask_bind (r : Request) (next : r.Answer → Program α) (f : α → Program β) :
    ask r next >>= f = ask r fun answer => next answer >>= f := rfl

@[simp] theorem tell_bind (e : Event) (next : Program α) (f : α → Program β) :
    tell e next >>= f = tell e (next >>= f) := rfl

theorem bind_done (p : Program α) : p >>= done = p := by
  induction p with
  | done a => rfl
  | ask r next ih => simp only [ask_bind, ih]
  | tell e next ih => simp only [tell_bind, ih]

theorem bind_assoc (p : Program α) (f : α → Program β) (g : β → Program γ) :
    p >>= f >>= g = p >>= fun a => f a >>= g := by
  induction p with
  | done a => rfl
  | ask r next ih => simp only [ask_bind, ih]
  | tell e next ih => simp only [tell_bind, ih]

instance : LawfulMonad Program :=
  LawfulMonad.mk' Program (fun p => bind_done p) (fun _ _ => rfl) bind_assoc

end Program

end PppoeSetup.Kernel
