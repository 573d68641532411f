import Mathlib.Tactic.Common
import PppoeSetup.ControlSocket

/-!
# Inversion of runs

What it means for a composed program to end with a value after a trace, read off the parts it is
composed of: for programs, for those that may fail, and for those that share the control socket.
-/

namespace PppoeSetup

open Kernel

variable {α β : Type} {t : Trace}

/-! ### Programs -/

namespace Kernel.Program

@[simp] lemma yields_done {a b : α} : (done a).Yields t b ↔ t = [] ∧ b = a := by
  constructor
  · intro h
    cases h
    exact ⟨rfl, rfl⟩
  · rintro ⟨rfl, rfl⟩
    exact .done _

@[simp] lemma yields_ask {r : Request} {next : r.Answer → Program α} {b : α} :
    (ask r next).Yields t b ↔
      ∃ answer u, t = .call r answer :: u ∧ (next answer).Yields u b := by
  constructor
  · intro h
    cases h with
    | ask answer h => exact ⟨answer, _, rfl, h⟩
  · rintro ⟨answer, u, rfl, h⟩
    exact .ask answer h

@[simp] lemma yields_tell {e : Event} {next : Program α} {b : α} :
    (tell e next).Yields t b ↔ ∃ u, t = .event e :: u ∧ next.Yields u b := by
  constructor
  · intro h
    cases h with
    | tell h => exact ⟨_, rfl, h⟩
  · rintro ⟨u, rfl, h⟩
    exact .tell h

lemma yields_bind {p : Program α} {f : α → Program β} {b : β} :
    (p >>= f).Yields t b ↔ ∃ u v a, t = u ++ v ∧ p.Yields u a ∧ (f a).Yields v b := by
  induction p generalizing t with
  | done a => simp
  | ask r next ih =>
    simp only [ask_bind, yields_ask, ih]
    constructor
    · rintro ⟨answer, _, rfl, u, v, a, rfl, hp, hf⟩
      exact ⟨.call r answer :: u, v, a, rfl, ⟨answer, u, rfl, hp⟩, hf⟩
    · rintro ⟨_, v, a, rfl, ⟨answer, u, rfl, hp⟩, hf⟩
      exact ⟨answer, u ++ v, rfl, u, v, a, rfl, hp, hf⟩
  | tell e next ih =>
    simp only [tell_bind, yields_tell, ih]
    constructor
    · rintro ⟨_, rfl, u, v, a, rfl, hp, hf⟩
      exact ⟨.event e :: u, v, a, rfl, ⟨u, rfl, hp⟩, hf⟩
    · rintro ⟨_, v, a, rfl, ⟨u, rfl, hp⟩, hf⟩
      exact ⟨u ++ v, rfl, u, v, a, rfl, hp, hf⟩

@[simp] lemma yields_call {r : Request} {answer : r.Answer} :
    (call r).Yields t answer ↔ t = [.call r answer] := by
  simp only [call, yields_ask, yields_done]
  constructor
  · rintro ⟨_, _, rfl, rfl, rfl⟩
    rfl
  · rintro rfl
    exact ⟨answer, [], rfl, rfl, rfl⟩

@[simp] lemma yields_note {e : Event} {b : Unit} : (note e).Yields t b ↔ t = [.event e] := by
  simp [note]

@[simp] lemma yields_close {fd : Descriptor} {b : Unit} :
    (close fd).Yields t b ↔ ∃ answer, t = [.call (.close fd) answer] := by
  simp [close]

end Kernel.Program

/-! ### Programs that may fail -/

section

variable {m : Type → Type} [Monad m] [LawfulMonad m] [MonadLiftT Program m]

lemma run_lift_bind (p : Program α) (f : α → ExceptT SetupError m β) :
    ((liftM p : ExceptT SetupError m α) >>= f).run = (liftM p : m α) >>= fun a => (f a).run := by
  rw [ExceptT.run_bind]
  change (Except.ok <$> (liftM p : m α)) >>= _ = _
  simp only [map_eq_pure_bind, bind_assoc, pure_bind]

lemma run_onFailure (release : Program Unit) (x : ExceptT SetupError m β) :
    (onFailure release x).run = x.run >>= fun
      | .ok b => pure (.ok b)
      | .error e => (liftM release : m Unit) >>= fun _ => pure (.error e) := by
  change x.run >>= _ = _
  congr 1
  funext result
  cases result with
  | ok b => rfl
  | error e => exact run_lift_bind release fun _ => throw e

end

namespace Fallible

variable {s : ControlSocket} {r : Except SetupError β}

lemma yields_bind {x : Fallible α} {f : α → Fallible β} :
    (x >>= f).run.Yields t r ↔
      (∃ e, r = .error e ∧ x.run.Yields t (.error e)) ∨
      ∃ u v a, t = u ++ v ∧ x.run.Yields u (.ok a) ∧ (f a).run.Yields v r := by
  rw [ExceptT.run_bind, Program.yields_bind]
  constructor
  · rintro ⟨u, v, a, rfl, hx, hf⟩
    cases a with
    | ok a => exact Or.inr ⟨u, v, a, rfl, hx, hf⟩
    | error e =>
      obtain ⟨rfl, rfl⟩ := Program.yields_done.mp hf
      exact Or.inl ⟨e, rfl, by simpa using hx⟩
  · rintro (⟨e, rfl, hx⟩ | ⟨u, v, a, rfl, hx, hf⟩)
    · exact ⟨t, [], .error e, by simp, hx, .done _⟩
    · exact ⟨u, v, .ok a, rfl, hx, hf⟩

@[simp] lemma yields_pure {b : β} : (pure b : Fallible β).run.Yields t r ↔ t = [] ∧ r = .ok b :=
  Program.yields_done

@[simp] lemma yields_throw {e : SetupError} :
    (throw e : Fallible β).run.Yields t r ↔ t = [] ∧ r = .error e :=
  Program.yields_done

@[simp] lemma yields_ofAnswer {wrap : IoError → SetupError} {answer : Except Errno β} :
    (ofAnswer wrap answer : Fallible β).run.Yields t r ↔
      t = [] ∧ r = answer.mapError fun e => wrap (.os e) := by
  cases answer <;> exact Program.yields_done

/-- A failure costs what was owned, and success leaves it alone. -/
lemma yields_onFailure {release : Program Unit} {x : Fallible β} :
    (onFailure release x).run.Yields t r ↔
      (∃ b, r = .ok b ∧ x.run.Yields t (.ok b)) ∨
      ∃ u v e, t = u ++ v ∧ r = .error e ∧ x.run.Yields u (.error e) ∧ release.Yields v () := by
  rw [run_onFailure, Program.yields_bind]
  constructor
  · rintro ⟨u, v, result, rfl, hx, hr⟩
    cases result with
    | ok b =>
      obtain ⟨rfl, rfl⟩ := Program.yields_done.mp hr
      exact Or.inl ⟨b, rfl, by simpa using hx⟩
    | error e =>
      obtain ⟨v, w, _, rfl, hv, hw⟩ := Program.yields_bind.mp hr
      obtain ⟨rfl, rfl⟩ := Program.yields_done.mp hw
      exact Or.inr ⟨u, v, e, by simp, rfl, hx, hv⟩
  · rintro (⟨b, rfl, hx⟩ | ⟨u, v, e, rfl, rfl, hx, hr⟩)
    · exact ⟨t, [], .ok b, by simp, hx, .done _⟩
    · exact ⟨u, v, .error e, rfl, hx, Program.yields_bind.mpr ⟨v, [], (), by simp, hr, .done _⟩⟩

end Fallible

/-! ### Programs that share the control socket -/

namespace Shared

variable {s : ControlSocket} {b : β × ControlSocket}

lemma yields_bind {x : Shared α} {f : α → Shared β} :
    ((x >>= f).run s).Yields t b ↔
      ∃ u v a s₁, t = u ++ v ∧ (x.run s).Yields u (a, s₁) ∧ ((f a).run s₁).Yields v b := by
  rw [StateT.run_bind, Program.yields_bind]
  constructor
  · rintro ⟨u, v, ⟨a, s₁⟩, rfl, hx, hf⟩
    exact ⟨u, v, a, s₁, rfl, hx, hf⟩
  · rintro ⟨u, v, a, s₁, rfl, hx, hf⟩
    exact ⟨u, v, (a, s₁), rfl, hx, hf⟩

@[simp] lemma yields_pure {a : β} : ((pure a : Shared β).run s).Yields t b ↔ t = [] ∧ b = (a, s) :=
  Program.yields_done

lemma yields_lift {p : Program β} {a : β} {s' : ControlSocket} :
    ((liftM p : Shared β).run s).Yields t (a, s') ↔ p.Yields t a ∧ s' = s := by
  change (p >>= fun a => pure (a, s)).Yields t (a, s') ↔ _
  simp only [Program.yields_bind, Program.pure_eq_done, Program.yields_done, Prod.mk.injEq]
  constructor
  · rintro ⟨u, _, a, rfl, hp, rfl, rfl, rfl⟩
    exact ⟨by simpa using hp, rfl⟩
  · rintro ⟨hp, rfl⟩
    exact ⟨t, [], a, by simp, hp, rfl, rfl, rfl⟩

lemma yields_lift_bind {p : Program α} {f : α → Shared β} :
    (((liftM p : Shared α) >>= f).run s).Yields t b ↔
      ∃ u v a, t = u ++ v ∧ p.Yields u a ∧ ((f a).run s).Yields v b := by
  have h : ((liftM p : Shared α) >>= f).run s = p >>= fun a => (f a).run s := by
    rw [StateT.run_bind]
    change (p >>= fun a => pure (a, s)) >>= _ = _
    simp only [bind_assoc, pure_bind]
  rw [h, Program.yields_bind]

/-- A program whose result is only looked at. -/
lemma yields_map {x : Shared α} {f : α → β} {b : β} {s' : ControlSocket} :
    ((do return f (← x) : Shared β).run s).Yields t (b, s') ↔
      ∃ a, (x.run s).Yields t (a, s') ∧ b = f a := by
  rw [yields_bind]
  constructor
  · rintro ⟨u, v, a, s₁, rfl, hx, hf⟩
    obtain ⟨rfl, ⟨⟩⟩ := yields_pure.mp hf
    exact ⟨a, by rwa [List.append_nil], rfl⟩
  · rintro ⟨a, hx, rfl⟩
    exact ⟨t, [], a, s', (List.append_nil t).symm, hx, yields_pure.mpr ⟨rfl, rfl⟩⟩

lemma yields_lift_map {p : Program α} {f : α → β} {b : β} {s' : ControlSocket} :
    ((do return f (← p) : Shared β).run s).Yields t (b, s') ↔
      ∃ a, p.Yields t a ∧ b = f a ∧ s' = s := by
  rw [yields_map]
  constructor
  · rintro ⟨a, hlift, rfl⟩
    obtain ⟨hp, rfl⟩ := yields_lift.mp hlift
    exact ⟨a, hp, rfl, rfl⟩
  · rintro ⟨a, hp, rfl, rfl⟩
    exact ⟨a, yields_lift.mpr ⟨hp, rfl⟩, rfl⟩

end Shared

namespace Attempt

variable {s s' : ControlSocket} {r : Except SetupError β}

lemma yields_bind {x : Attempt α} {f : α → Attempt β} :
    ((x >>= f).run.run s).Yields t (r, s') ↔
      (∃ e, r = .error e ∧ (x.run.run s).Yields t (.error e, s')) ∨
      ∃ u v a s₁, t = u ++ v ∧ (x.run.run s).Yields u (.ok a, s₁) ∧
        ((f a).run.run s₁).Yields v (r, s') := by
  rw [ExceptT.run_bind, Shared.yields_bind]
  constructor
  · rintro ⟨u, v, a, s₁, rfl, hx, hf⟩
    cases a with
    | ok a => exact Or.inr ⟨u, v, a, s₁, rfl, hx, hf⟩
    | error e =>
      obtain ⟨rfl, h⟩ := Shared.yields_pure.mp hf
      cases h
      exact Or.inl ⟨e, rfl, by simpa using hx⟩
  · rintro (⟨e, rfl, hx⟩ | ⟨u, v, a, s₁, rfl, hx, hf⟩)
    · exact ⟨t, [], .error e, s', by simp, hx, .done _⟩
    · exact ⟨u, v, .ok a, s₁, rfl, hx, hf⟩

@[simp] lemma yields_pure {b : β} :
    ((pure b : Attempt β).run.run s).Yields t (r, s') ↔ t = [] ∧ r = .ok b ∧ s' = s := by
  change ((pure (.ok b) : Shared _).run s).Yields t (r, s') ↔ _
  simp

@[simp] lemma yields_throw {e : SetupError} :
    ((throw e : Attempt β).run.run s).Yields t (r, s') ↔ t = [] ∧ r = .error e ∧ s' = s := by
  change ((pure (.error e) : Shared _).run s).Yields t (r, s') ↔ _
  simp

@[simp] lemma yields_ofAnswer {wrap : IoError → SetupError} {answer : Except Errno β} :
    ((ofAnswer wrap answer : Attempt β).run.run s).Yields t (r, s') ↔
      t = [] ∧ r = (answer.mapError fun e => wrap (.os e)) ∧ s' = s := by
  cases answer with
  | ok b => exact yields_pure
  | error e => exact yields_throw

@[simp] lemma yields_ofFallible {x : Fallible β} :
    ((Attempt.ofFallible x).run.run s).Yields t (r, s') ↔ x.run.Yields t r ∧ s' = s :=
  Shared.yields_lift

lemma run_adapt (g : SetupError → SetupError) (x : Attempt β) :
    (ExceptT.adapt g x).run = x.run >>= fun r => pure (r.mapError g) := by
  change Except.mapError g <$> x.run = _
  rw [map_eq_pure_bind]

lemma yields_adapt {g : SetupError → SetupError} {x : Attempt β} :
    ((ExceptT.adapt g x).run.run s).Yields t (r, s') ↔
      ∃ r', (x.run.run s).Yields t (r', s') ∧ r = r'.mapError g := by
  rw [run_adapt, Shared.yields_bind]
  simp only [Shared.yields_pure, Prod.mk.injEq]
  constructor
  · rintro ⟨u, _, r', _, rfl, hx, rfl, rfl, rfl⟩
    exact ⟨r', by simpa using hx, rfl⟩
  · rintro ⟨r', hx, rfl⟩
    exact ⟨t, [], r', s', by simp, hx, rfl, rfl, rfl⟩

lemma yields_lift_bind {p : Program α} {f : α → Attempt β} :
    (((liftM p : Attempt α) >>= f).run.run s).Yields t (r, s') ↔
      ∃ u v a, t = u ++ v ∧ p.Yields u a ∧ ((f a).run.run s).Yields v (r, s') := by
  rw [run_lift_bind, Shared.yields_lift_bind]

lemma run_shared_bind (p : Shared α) (f : α → Attempt β) :
    ((liftM p : Attempt α) >>= f).run = p >>= fun a => (f a).run := by
  rw [ExceptT.run_bind]
  change (Except.ok <$> p) >>= _ = _
  simp only [map_eq_pure_bind, bind_assoc, pure_bind]

/-- A program that shares the control socket and cannot fail, at the start of one that may. -/
lemma yields_shared_bind {p : Shared α} {f : α → Attempt β} :
    (((liftM p : Attempt α) >>= f).run.run s).Yields t (r, s') ↔
      ∃ u v a s₁, t = u ++ v ∧ (p.run s).Yields u (a, s₁) ∧
        ((f a).run.run s₁).Yields v (r, s') := by
  rw [run_shared_bind, Shared.yields_bind]

lemma yields_onFailure {release : Program Unit} {x : Attempt β} :
    ((onFailure release x).run.run s).Yields t (r, s') ↔
      (∃ b, r = .ok b ∧ (x.run.run s).Yields t (.ok b, s')) ∨
      ∃ u v e, t = u ++ v ∧ r = .error e ∧ (x.run.run s).Yields u (.error e, s') ∧
        release.Yields v () := by
  rw [run_onFailure, Shared.yields_bind]
  constructor
  · rintro ⟨u, v, result, s₁, rfl, hx, hr⟩
    cases result with
    | ok b =>
      obtain ⟨rfl, hr⟩ := Shared.yields_pure.mp hr
      cases hr
      exact Or.inl ⟨b, rfl, by simpa using hx⟩
    | error e =>
      obtain ⟨v, w, _, rfl, hv, hw⟩ := Shared.yields_lift_bind.mp hr
      obtain ⟨rfl, hw⟩ := Shared.yields_pure.mp hw
      cases hw
      exact Or.inr ⟨u, v, e, by simp, rfl, hx, hv⟩
  · rintro (⟨b, rfl, hx⟩ | ⟨u, v, e, rfl, rfl, hx, hv⟩)
    · exact ⟨t, [], .ok b, s', by simp, hx, .done _⟩
    · exact ⟨u, v, .error e, s', rfl, hx,
        Shared.yields_lift_bind.mpr ⟨v, [], (), by simp, hv, .done _⟩⟩

end Attempt

end PppoeSetup
