import PppoeSetup.Proofs.Kernel.Inversion

/-!
# Courses of the control socket

How the operations of the control socket can go. Each relation lists the traces of one operation,
with the result and the socket afterwards, and holds of every run of that operation.
-/

namespace PppoeSetup

open Kernel

variable {α β : Type}

/-- A held descriptor is closed, whatever the kernel answers. -/
inductive Closing : Option Descriptor → Trace → Prop
  | nothing : Closing none []
  | closed (fd : Descriptor) (answer : Except Errno Unit) :
    Closing (some fd) [.call (.close fd) answer]

lemma Closing.of_yields {held : Option Descriptor} {t : Trace} {u : Unit}
    (h : (Program.closeHeld held).Yields t u) : Closing held t := by
  cases held with
  | none =>
    cases h
    exact .nothing
  | some fd =>
    obtain ⟨answer, rfl⟩ := Program.yields_close.mp h
    exact .closed fd answer

namespace ControlSocket

/-- The descriptor is at hand, or the socket has to be opened. -/
inductive Opening : ControlSocket → Trace → Except SetupError Descriptor → ControlSocket → Prop
  | held (fd : Descriptor) : Opening ⟨some fd⟩ [] (.ok fd) ⟨some fd⟩
  | refused (e : Errno) :
    Opening closed [.call (.openSocket .control) (.error e)]
      (.error (.socketCreate .control (.os e))) closed
  | opened (fd : Descriptor) :
    Opening closed [.call (.openSocket .control) (.ok fd), .event (.controlOpened fd)]
      (.ok fd) ⟨some fd⟩

lemma Opening.of_yields {s s' : ControlSocket} {t : Trace} {r : Except SetupError Descriptor}
    (h : (ensureOpen.run.run s).Yields t (r, s')) : Opening s t r s' := by
  obtain ⟨_ | fd⟩ := s
  · cases h with
    | ask answer h =>
      cases answer with
      | error e =>
        cases h
        exact .refused e
      | ok fd =>
        cases h with
        | tell h =>
          cases h
          exact .opened fd
  · cases h
    exact .held fd

/-- The socket is closed, and says so first. -/
inductive Shutting : ControlSocket → Trace → Prop
  | idle : Shutting closed []
  | closed (fd : Descriptor) (answer : Except Errno Unit) :
    Shutting ⟨some fd⟩ [.event (.controlClosing fd), .call (.close fd) answer]

lemma Shutting.of_yields {s s' : ControlSocket} {t : Trace} {u : Unit}
    (h : (close.run s).Yields t (u, s')) :
    Shutting s t ∧ s' = ControlSocket.closed := by
  obtain ⟨_ | fd⟩ := s
  · cases h
    exact ⟨.idle, rfl⟩
  · cases h with
    | tell h =>
      cases h with
      | ask answer h =>
        cases h
        exact ⟨.closed fd answer, rfl⟩

/-! ### Questions about an interface -/

/-- A question to the kernel about one interface; `entry` is the question with its answer. -/
inductive Asking (name : InterfaceName) (entry : Descriptor → Except Errno α → Entry)
    (s : ControlSocket) : Trace → Except SetupError α → ControlSocket → Prop
  | unopened {t : Trace} {e : SetupError} {s' : ControlSocket} :
    Opening s t (.error e) s' → Asking name entry s t (.error e) s'
  | failed {t : Trace} {fd : Descriptor} {s' : ControlSocket} (e : Errno) :
    Opening s t (.ok fd) s' →
    Asking name entry s (t ++ [entry fd (.error e)])
      (.error (.interfaceNotFound name.text (.os e))) s'
  | answered {t : Trace} {fd : Descriptor} {s' : ControlSocket} (a : α) :
    Opening s t (.ok fd) s' →
    Asking name entry s (t ++ [entry fd (.ok a)]) (.ok a) s'

/-- A question whose answer is worked out and told. -/
inductive Resolving (name : InterfaceName) (entry : Descriptor → Except Errno α → Entry)
    (value : α → β) (event : β → Event) (s : ControlSocket) :
    Trace → Except SetupError β → ControlSocket → Prop
  | failed {t : Trace} {e : SetupError} {s' : ControlSocket} :
    Asking name entry s t (.error e) s' → Resolving name entry value event s t (.error e) s'
  | resolved {t : Trace} {a : α} {s' : ControlSocket} : Asking name entry s t (.ok a) s' →
    Resolving name entry value event s (t ++ [.event (event (value a))]) (.ok (value a)) s'

section

variable {name : InterfaceName} {s s' : ControlSocket} {t : Trace}

lemma Asking.of_yields {question : Descriptor → Program (Except Errno α)}
    {entry : Descriptor → Except Errno α → Entry} {r : Except SetupError α}
    (hq : ∀ {fd u a}, (question fd).Yields u a → u = [entry fd a])
    (h : ((query name question).run.run s).Yields t (r, s')) : Asking name entry s t r s' := by
  rcases Attempt.yields_bind.mp h with ⟨e, rfl, ho⟩ | ⟨u, v, fd, s₁, rfl, ho, ha⟩
  · exact .unopened (.of_yields ho)
  · obtain ⟨v, w, a, rfl, hv, hr⟩ := Attempt.yields_lift_bind.mp ha
    obtain ⟨rfl, rfl, rfl⟩ := Attempt.yields_ofAnswer.mp hr
    obtain rfl := hq hv
    cases a with
    | error e => exact .failed e (.of_yields ho)
    | ok a => exact .answered a (.of_yields ho)

lemma Resolving.of_yields {question : Descriptor → Program (Except Errno α)}
    {entry : Descriptor → Except Errno α → Entry} {value : α → β} {event : β → Event}
    {r : Except SetupError β} (hq : ∀ {fd u a}, (question fd).Yields u a → u = [entry fd a])
    (h : (ExceptT.run (query name question >>= fun a => do
      Program.note (event (value a))
      return value a) |>.run s).Yields t (r, s')) :
    Resolving name entry value event s t r s' := by
  rcases Attempt.yields_bind.mp h with ⟨e, rfl, ha⟩ | ⟨u, v, a, s₁, rfl, ha, hn⟩
  · exact .failed (.of_yields hq ha)
  · obtain ⟨v, w, _, rfl, hv, hr⟩ := Attempt.yields_lift_bind.mp hn
    obtain rfl := Program.yields_note.mp hv
    obtain ⟨rfl, rfl, rfl⟩ := Attempt.yields_pure.mp hr
    exact .resolved (.of_yields hq ha)

end

/-- The course of resolving an index. -/
abbrev ResolvingIndex (name : InterfaceName) :
    ControlSocket → Trace → Except SetupError UInt32 → ControlSocket → Prop :=
  Resolving name (fun fd a => .call (.interfaceIndex fd name.buffer) a) id (.indexResolved name)

/-- The course of resolving a hardware address. -/
abbrev ResolvingAddress (name : InterfaceName) :
    ControlSocket → Trace → Except SetupError MacAddress → ControlSocket → Prop :=
  Resolving name (fun fd a => .call (.hardwareAddress fd name.buffer) a) addressOf
    (.addressResolved name)

section

variable {name : InterfaceName} {s s' : ControlSocket} {t : Trace}

lemma ResolvingIndex.of_yields {r : Except SetupError UInt32}
    (h : ((resolveIndex name).run.run s).Yields t (r, s')) : ResolvingIndex name s t r s' :=
  Resolving.of_yields Program.yields_call.mp h

lemma ResolvingAddress.of_yields {r : Except SetupError MacAddress}
    (h : ((resolveAddress name).run.run s).Yields t (r, s')) : ResolvingAddress name s t r s' :=
  Resolving.of_yields Program.yields_call.mp h

end

end ControlSocket

end PppoeSetup
