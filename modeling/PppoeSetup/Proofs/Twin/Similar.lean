import Mathlib.Data.Multiset.AddSub
import Mathlib.Data.Multiset.MapFold
import Mathlib.Data.Multiset.OrderedMonoid
import Mathlib.Tactic.Abel
import PppoeSetup.Proofs.Kernel.Inversion
import PppoeSetup.Proofs.Kernel.Use

/-!
# Programs that do the same

Two programs do the same if they ask for the same things in the same order, each with descriptors
of its own and each with a control socket of its own. What is told, and when a control socket is
opened, may differ.
-/

namespace PppoeSetup

open Kernel

/-- Descriptors of one run, each with its counterpart in another. -/
abbrev Pairs := Multiset (Descriptor × Descriptor)

/-- The descriptors that two runs hold, with the control socket of either. -/
structure Pairing where
  pairs : Pairs
  left : ControlSocket
  right : ControlSocket

/-- One more pair. -/
def Pairing.add (B : Pairing) (fd fd' : Descriptor) : Pairing :=
  { B with pairs := {(fd, fd')} + B.pairs }

/-- The questions about an interface. -/
def Kernel.Use.isLookup : Use → Bool
  | .interfaceIndex _ | .hardwareAddress _ => true
  | _ => false

section

variable {α β γ δ : Type}

/-! ### Programs -/

namespace Kernel.Program

/-- The programs go through the same calls, whatever the answers, as long as these are the same on
both sides and control sockets can be opened; what they end with is as `Q` has it. -/
inductive Similar (Q : Pairing → α → β → Prop) : Pairing → Program α → Program β → Prop
  | done {B : Pairing} {a : α} {b : β} : Q B a b → Similar Q B (.done a) (.done b)
  | tellLeft {B : Pairing} {e : Event} {p : Program α} {p' : Program β} :
    Similar Q B p p' → Similar Q B (.tell e p) p'
  | tellRight {B : Pairing} {e : Event} {p : Program α} {p' : Program β} :
    Similar Q B p p' → Similar Q B p (.tell e p')
  | openLeft {ρ : Pairs} {right : ControlSocket} {next : Except Errno Descriptor → Program α}
    {p' : Program β} :
    (∀ fd, Similar Q ⟨ρ, ⟨some fd⟩, right⟩ (next (.ok fd)) p') →
    Similar Q ⟨ρ, .closed, right⟩ (.ask (.openSocket .control) next) p'
  | openRight {ρ : Pairs} {left : ControlSocket} {p : Program α}
    {next' : Except Errno Descriptor → Program β} :
    (∀ fd, Similar Q ⟨ρ, left, ⟨some fd⟩⟩ p (next' (.ok fd))) →
    Similar Q ⟨ρ, left, .closed⟩ p (.ask (.openSocket .control) next')
  | lookUp {ρ : Pairs} {fd fd' : Descriptor} (u : Use) {next : (u.on fd).Answer → Program α}
    {next' : (u.on fd').Answer → Program β} : u.isLookup = true →
    (∀ a, Similar Q ⟨ρ, ⟨some fd⟩, ⟨some fd'⟩⟩ (next (u.answerOn fd a))
      (next' (u.answerOn fd' a))) →
    Similar Q ⟨ρ, ⟨some fd⟩, ⟨some fd'⟩⟩ (.ask (u.on fd) next) (.ask (u.on fd') next')
  | openSocket {B : Pairing} {kind : SocketKind} {next : Except Errno Descriptor → Program α}
    {next' : Except Errno Descriptor → Program β} : kind ≠ .control →
    (∀ e, Similar Q B (next (.error e)) (next' (.error e))) →
    (∀ fd fd', Similar Q (B.add fd fd') (next (.ok fd)) (next' (.ok fd'))) →
    Similar Q B (.ask (.openSocket kind) next) (.ask (.openSocket kind) next')
  | use {B : Pairing} {fd fd' : Descriptor} (u : Use) {next : (u.on fd).Answer → Program α}
    {next' : (u.on fd').Answer → Program β} : u.isLookup = false → u ≠ .close →
    (fd, fd') ∈ B.pairs →
    (∀ a, Similar Q B (next (u.answerOn fd a)) (next' (u.answerOn fd' a))) →
    Similar Q B (.ask (u.on fd) next) (.ask (u.on fd') next')
  | close {B : Pairing} {fd fd' : Descriptor} {next : Except Errno Unit → Program α}
    {next' : Except Errno Unit → Program β} :
    (∀ a, Similar Q B (next a) (next' a)) →
    Similar Q (B.add fd fd') (.ask (.close fd) next) (.ask (.close fd') next')

lemma Similar.bind {Q : Pairing → α → β → Prop} {R : Pairing → γ → δ → Prop} {B : Pairing}
    {p : Program α} {p' : Program β} {f : α → Program γ} {f' : β → Program δ}
    (h : Similar Q B p p') (hf : ∀ B a b, Q B a b → Similar R B (f a) (f' b)) :
    Similar R B (p >>= f) (p' >>= f') := by
  induction h with
  | done hq => exact hf _ _ _ hq
  | tellLeft _ ih => exact .tellLeft ih
  | tellRight _ ih => exact .tellRight ih
  | openLeft _ ih => exact .openLeft ih
  | openRight _ ih => exact .openRight ih
  | lookUp u hu _ ih => exact .lookUp u hu ih
  | openSocket hk _ _ ihe ih => exact .openSocket hk ihe ih
  | use u hu hc hm _ ih => exact .use u hu hc hm ih
  | close _ ih => exact .close ih

variable {Q Q' : Pairs → α → β → Prop} {R : Pairs → γ → δ → Prop} {ρ : Pairs}

/-- The programs do the same and leave the control sockets alone. -/
def Alike (Q : Pairs → α → β → Prop) (ρ : Pairs) (p : Program α) (p' : Program β) : Prop :=
  ∀ s s', Similar (fun B a b => B.left = s ∧ B.right = s' ∧ Q B.pairs a b) ⟨ρ, s, s'⟩ p p'

lemma Alike.done {a : α} {b : β} (h : Q ρ a b) : Alike Q ρ (.done a) (.done b) :=
  fun _ _ => .done ⟨rfl, rfl, h⟩

lemma Alike.tell {e e' : Event} {p : Program α} {p' : Program β} (h : Alike Q ρ p p') :
    Alike Q ρ (.tell e p) (.tell e' p') :=
  fun s s' => .tellLeft (.tellRight (h s s'))

lemma Alike.openSocket {kind : SocketKind} {next : Except Errno Descriptor → Program α}
    {next' : Except Errno Descriptor → Program β} (hk : kind ≠ .control)
    (he : ∀ e, Alike Q ρ (next (.error e)) (next' (.error e)))
    (h : ∀ fd fd', Alike Q ({(fd, fd')} + ρ) (next (.ok fd)) (next' (.ok fd'))) :
    Alike Q ρ (.ask (.openSocket kind) next) (.ask (.openSocket kind) next') :=
  fun s s' => .openSocket hk (fun e => he e s s') fun fd fd' => h fd fd' s s'

lemma Alike.use {fd fd' : Descriptor} (u : Use) {next : (u.on fd).Answer → Program α}
    {next' : (u.on fd').Answer → Program β} (hu : u.isLookup = false) (hc : u ≠ .close)
    (hm : (fd, fd') ∈ ρ)
    (h : ∀ a, Alike Q ρ (next (u.answerOn fd a)) (next' (u.answerOn fd' a))) :
    Alike Q ρ (.ask (u.on fd) next) (.ask (u.on fd') next') :=
  fun s s' => .use u hu hc hm fun a => h a s s'

lemma Alike.close {fd fd' : Descriptor} {next : Except Errno Unit → Program α}
    {next' : Except Errno Unit → Program β} (h : ∀ a, Alike Q ρ (next a) (next' a)) :
    Alike Q ({(fd, fd')} + ρ) (.ask (.close fd) next) (.ask (.close fd') next') :=
  fun s s' => .close fun a => h a s s'

lemma Alike.bind {p : Program α} {p' : Program β} {f : α → Program γ} {f' : β → Program δ}
    (h : Alike Q ρ p p') (hf : ∀ ρ a b, Q ρ a b → Alike R ρ (f a) (f' b)) :
    Alike R ρ (p >>= f) (p' >>= f') := by
  intro s s'
  refine (h s s').bind ?_
  rintro ⟨ρ₁, left, right⟩ a b ⟨rfl, rfl, hq⟩
  exact hf ρ₁ a b hq left right

lemma Alike.mono {p : Program α} {p' : Program β} (h : Alike Q ρ p p')
    (hq : ∀ ρ a b, Q ρ a b → Q' ρ a b) : Alike Q' ρ p p' := by
  rw [← bind_done p, ← bind_done p']
  exact h.bind fun ρ a b hab => .done (hq ρ a b hab)

end Kernel.Program

open Program

/-! ### Programs that share a control socket -/

namespace Shared

variable {Q : Pairs → α → β → Prop} {R : Pairs → γ → δ → Prop} {ρ : Pairs}

/-- The programs do the same, whatever the control sockets are like. -/
def Alike (Q : Pairs → α → β → Prop) (ρ : Pairs) (p : Shared α) (p' : Shared β) : Prop :=
  ∀ s s', Similar (fun B x y => B.left = x.2 ∧ B.right = y.2 ∧ Q B.pairs x.1 y.1) ⟨ρ, s, s'⟩
    (p.run s) (p'.run s')

lemma Alike.pure {a : α} {b : β} (h : Q ρ a b) :
    Alike Q ρ (Pure.pure a : Shared α) (Pure.pure b : Shared β) :=
  fun _ _ => .done ⟨rfl, rfl, h⟩

lemma Alike.bind {p : Shared α} {p' : Shared β} {f : α → Shared γ} {f' : β → Shared δ}
    (h : Alike Q ρ p p') (hf : ∀ ρ a b, Q ρ a b → Alike R ρ (f a) (f' b)) :
    Alike R ρ (p >>= f) (p' >>= f') := by
  intro s s'
  refine (h s s').bind ?_
  rintro ⟨ρ₁, left, right⟩ ⟨a, _⟩ ⟨b, _⟩ ⟨rfl, rfl, hq⟩
  exact hf ρ₁ a b hq left right

lemma Alike.lift {p : Program α} {p' : Program β} (h : Program.Alike Q ρ p p') :
    Alike Q ρ (liftM p : Shared α) (liftM p' : Shared β) := by
  intro s s'
  refine (h s s').bind ?_
  rintro B a b ⟨hl, hr, hq⟩
  exact .done ⟨hl, hr, hq⟩

lemma Alike.note {e e' : Event} {p : Shared α} {p' : Shared β} (h : Alike Q ρ p p') :
    Alike Q ρ (do Program.note e; p) (do Program.note e'; p') :=
  fun s s' => .tellLeft (.tellRight (h s s'))

end Shared

/-! ### Programs that may fail -/

/-- Both results are values, or they are the same error. -/
inductive Both (E : Pairs → Prop) (Q : Pairs → α → β → Prop) (ρ : Pairs) :
    Except SetupError α → Except SetupError β → Prop
  | failed (e : SetupError) : E ρ → Both E Q ρ (.error e) (.error e)
  | succeeded {a : α} {b : β} : Q ρ a b → Both E Q ρ (.ok a) (.ok b)

section

variable {E E' : Pairs → Prop} {Q : Pairs → α → β → Prop} {R : Pairs → γ → δ → Prop} {ρ : Pairs}

namespace Fallible

lemma alike_bind {x : Fallible α} {x' : Fallible β} {f : α → Fallible γ} {f' : β → Fallible δ}
    (h : Program.Alike (Both E Q) ρ x.run x'.run)
    (hf : ∀ ρ a b, Q ρ a b → Program.Alike (Both E R) ρ (f a).run (f' b).run) :
    Program.Alike (Both E R) ρ (x >>= f).run (x' >>= f').run := by
  rw [ExceptT.run_bind, ExceptT.run_bind]
  refine h.bind ?_
  rintro ρ _ _ (⟨e, he⟩ | hq)
  · exact .done (.failed e he)
  · exact hf _ _ _ hq

lemma alike_onFailure {x : Fallible α} {x' : Fallible β} {release release' : Program Unit}
    (h : Program.Alike (Both E Q) ρ x.run x'.run)
    (hr : ∀ ρ, E ρ → release.Alike (fun ρ _ _ => E' ρ) ρ release') :
    Program.Alike (Both E' Q) ρ (onFailure release x).run (onFailure release' x').run := by
  rw [run_onFailure, run_onFailure]
  refine h.bind ?_
  rintro ρ _ _ (⟨e, he⟩ | hq)
  · exact (hr ρ he).bind fun _ _ _ he' => .done (.failed e he')
  · exact .done (.succeeded hq)

end Fallible

namespace Attempt

lemma alike_pure {a : α} {b : β} (h : Q ρ a b) :
    Shared.Alike (Both E Q) ρ (pure a : Attempt α).run (pure b : Attempt β).run :=
  .pure (.succeeded h)

lemma alike_throw (e : SetupError) (h : E ρ) :
    Shared.Alike (Both E Q) ρ (throw e : Attempt α).run (throw e : Attempt β).run :=
  .pure (.failed e h)

lemma alike_bind {x : Attempt α} {x' : Attempt β} {f : α → Attempt γ} {f' : β → Attempt δ}
    (h : Shared.Alike (Both E Q) ρ x.run x'.run)
    (hf : ∀ ρ a b, Q ρ a b → Shared.Alike (Both E R) ρ (f a).run (f' b).run) :
    Shared.Alike (Both E R) ρ (x >>= f).run (x' >>= f').run := by
  rw [ExceptT.run_bind, ExceptT.run_bind]
  refine h.bind ?_
  rintro ρ _ _ (⟨e, he⟩ | hq)
  · exact .pure (.failed e he)
  · exact hf _ _ _ hq

lemma alike_note {S : Pairs → Except SetupError α → Except SetupError β → Prop} {e e' : Event}
    {x : Attempt α} {x' : Attempt β} (h : Shared.Alike S ρ x.run x'.run) :
    Shared.Alike S ρ (ExceptT.run do Program.note e; x) (ExceptT.run do Program.note e'; x') := by
  rw [run_lift_bind, run_lift_bind]
  exact .note h

lemma alike_shared_bind {p : Shared α} {p' : Shared β} {f : α → Attempt γ} {f' : β → Attempt δ}
    {S : Pairs → Except SetupError γ → Except SetupError δ → Prop} (h : Shared.Alike Q ρ p p')
    (hf : ∀ ρ a b, Q ρ a b → Shared.Alike S ρ (f a).run (f' b).run) :
    Shared.Alike S ρ ((liftM p : Attempt α) >>= f).run ((liftM p' : Attempt β) >>= f').run := by
  rw [run_shared_bind, run_shared_bind]
  exact h.bind hf

lemma alike_ofFallible {x : Fallible α} {x' : Fallible β}
    (h : Program.Alike (Both E Q) ρ x.run x'.run) :
    Shared.Alike (Both E Q) ρ (ofFallible x).run (ofFallible x').run :=
  .lift h

lemma alike_onFailure {x : Attempt α} {x' : Attempt β} {release release' : Program Unit}
    (h : Shared.Alike (Both E Q) ρ x.run x'.run)
    (hr : ∀ ρ, E ρ → release.Alike (fun ρ _ _ => E' ρ) ρ release') :
    Shared.Alike (Both E' Q) ρ (onFailure release x).run (onFailure release' x').run := by
  rw [run_onFailure, run_onFailure]
  refine h.bind ?_
  rintro ρ _ _ (⟨e, he⟩ | hq)
  · exact (Shared.Alike.lift (hr ρ he)).bind fun _ _ _ he' => .pure (.failed e he')
  · exact .pure (.succeeded hq)

lemma alike_adapt {x : Attempt α} {x' : Attempt β} (g : SetupError → SetupError)
    (h : Shared.Alike (Both E Q) ρ x.run x'.run) :
    Shared.Alike (Both E Q) ρ (ExceptT.adapt g x).run (ExceptT.adapt g x').run := by
  rw [run_adapt, run_adapt]
  refine h.bind ?_
  rintro ρ _ _ (⟨e, he⟩ | hq)
  · exact .pure (.failed (g e) he)
  · exact .pure (.succeeded hq)

end Attempt

end

end

end PppoeSetup
