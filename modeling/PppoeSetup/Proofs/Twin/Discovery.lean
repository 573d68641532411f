import PppoeSetup.Discovery.Configured
import PppoeSetup.Proofs.Twin.Connection

/-!
# Discovery sockets that do the same

The discovery sockets, asynchronous ones too, that differ in the numbers of their descriptors only.
-/

namespace PppoeSetup

open Kernel Connection

section

variable {ρ ρ₁ : Pairs}

namespace DiscoverySocket

/-- The sockets differ in the numbers of their descriptors only, their pairs are held, and what is
lent to the wrappers is one of them. -/
structure Twin (d d' : DiscoverySocket) (ρ ρ₁ : Pairs) : Prop where
  connection : d.connection.Twin d'.connection ρ ρ₁
  lent : (d.rawFd, d'.rawFd) ∈ d.connection.pairs d'.connection
  traffic : d.traffic = d'.traffic

variable {c c' : Connection} {d d' : DiscoverySocket}

lemma Twin.anonymous (h : d.Twin d' ρ ρ₁) : d.anonymous = d'.anonymous := by
  simp only [DiscoverySocket.anonymous, h.connection.anonymous, h.traffic]

lemma Twin.lent_mem (h : d.Twin d' ρ ρ₁) : (d.rawFd, d'.rawFd) ∈ ρ₁ := by
  rw [h.connection.pairs_eq]
  exact Multiset.mem_add.mpr (.inl h.lent)

/-- Either run has a discovery socket, or there is the same error and nothing is held for it. -/
abbrev SameSocket (ρ : Pairs) :
    Pairs → Except SetupError DiscoverySocket → Except SetupError DiscoverySocket → Prop :=
  Both (· = ρ) fun ρ₁ d d' => d.Twin d' ρ ρ₁

lemma alike_releaseOnFailure {α : Type} (h : c.Twin c' ρ ρ₁) {Q : Pairs → α → α → Prop}
    {x x' : Fallible α} (hx : Program.Alike (Both (· = ρ₁) Q) ρ₁ x.run x'.run) :
    Program.Alike (Both (· = ρ) Q) ρ₁ (onFailure c.release x).run
      (onFailure c'.release x').run := by
  refine Fallible.alike_onFailure hx ?_
  rintro _ rfl
  exact alike_release h

lemma alike_ofConnection (h : c.Twin c' ρ ρ₁) :
    Program.Alike (SameSocket ρ) ρ₁ (ofConnection c).run (ofConnection c').run := by
  have hdiscovery := h.discovery
  have hnotReady : Program.Alike (SameSocket ρ) ρ₁
      (onFailure c.release (throw .notReady) : Fallible DiscoverySocket).run
      (onFailure c'.release (throw .notReady) : Fallible DiscoverySocket).run :=
    alike_releaseOnFailure h (.done (.failed _ rfl))
  unfold ofConnection
  rw [← h.state]
  cases hd : c.discovery <;> cases hd' : c'.discovery
  case some.some =>
    cases c.state with
    | ready => exact .done (.succeeded ⟨h, by simp [pairs, hd, hd'], rfl⟩)
    | _ => exact hnotReady
  case none.none => cases c.state <;> exact hnotReady
  all_goals simp [hd, hd'] at hdiscovery

lemma alike_ofFresh (h : c.Twin c' ρ ρ₁) (name : String) :
    Shared.Alike (SameSocket ρ) ρ₁ (ofFresh c name).run (ofFresh c' name).run := by
  refine Attempt.alike_shared_bind (alike_bringUp h (some name)) ?_
  rintro ρ₂ ⟨_ | _, c₁⟩ ⟨_, c₁'⟩ ⟨rfl, hc⟩
  · refine Attempt.alike_onFailure (E := (· = ρ₂)) (Attempt.alike_throw _ rfl) ?_
    rintro _ rfl
    exact alike_release hc
  · exact Attempt.alike_ofFallible (alike_ofConnection hc)

lemma alike_setNonblocking (h : d.Twin d' ρ ρ₁) (nonblocking : Bool) :
    Program.Alike (Both (· = ρ₁) fun ρ₂ _ _ => ρ₂ = ρ₁) ρ₁ (d.setNonblocking nonblocking).run
      (d'.setNonblocking nonblocking).run := by
  refine .use .statusFlags rfl nofun h.lent_mem fun a => ?_
  cases a with
  | error e => exact .done (.failed _ rfl)
  | ok flags =>
    refine .use (.setStatusFlags (withMode flags nonblocking)) rfl nofun h.lent_mem fun a => ?_
    cases a with
    | error e => exact .done (.failed _ rfl)
    | ok _ => exact .tell (.done (.succeeded rfl))

lemma alike_switch (h : d.Twin d' ρ ρ₁) (nonblocking : Bool) :
    Program.Alike (SameResult ρ₁) ρ₁ (d.setNonblocking nonblocking).run
      (d'.setNonblocking nonblocking).run := by
  refine (alike_setNonblocking h nonblocking).mono ?_
  rintro _ _ _ (⟨e, rfl⟩ | rfl)
  · exact ⟨rfl, rfl⟩
  · exact ⟨rfl, rfl⟩

lemma alike_ofConfig (config : SetupConfig) :
    Shared.Alike (SameSocket ρ) ρ (ofConfig config).run (ofConfig config).run := by
  unfold ofConfig
  cases config.interface? with
  | none => exact Attempt.alike_throw _ rfl
  | some name =>
    refine Attempt.alike_bind (alike_ofFresh (.fresh _) name) ?_
    intro ρ₁ d d' hd
    cases config.nonblocking with
    | false => exact Attempt.alike_pure hd
    | true =>
      refine Attempt.alike_bind (Q := fun ρ₂ _ _ => ρ₂ = ρ₁) (Attempt.alike_ofFallible ?_) ?_
      · exact alike_releaseOnFailure hd.connection (alike_setNonblocking hd true)
      · rintro _ _ _ rfl
        exact Attempt.alike_pure hd

/-! ### Transfers -/

/-- The result of a transfer is the same, and so is the socket but for the numbers. -/
abbrev SameTransfer {α : Type} (ρ ρ₁ : Pairs) (x y : α × DiscoverySocket) : Prop :=
  x.1 = y.1 ∧ x.2.Twin y.2 ρ ρ₁

lemma alike_send (h : d.Twin d' ρ ρ₁) (frame : List UInt8) :
    Program.Alike (SameTransfer ρ) ρ₁ (d.send frame) (d'.send frame) := by
  refine .use (.send frame) rfl nofun h.lent_mem fun a => .done ⟨rfl, h.connection, h.lent, ?_⟩
  exact congrArg (countSent · _) h.traffic

lemma alike_receive (h : d.Twin d' ρ ρ₁) (capacity : Nat) :
    Program.Alike (SameTransfer ρ) ρ₁ (d.receive capacity) (d'.receive capacity) := by
  refine .use (.receive capacity) rfl nofun h.lent_mem fun a =>
    .done ⟨rfl, h.connection, h.lent, ?_⟩
  exact congrArg (countReceived · _) h.traffic

end DiscoverySocket

namespace AsyncSocket

open DiscoverySocket

variable {α : Type} {d d' : DiscoverySocket} {a a' : AsyncSocket}

lemma alike_ofSocket (h : d.Twin d' ρ ρ₁) :
    Program.Alike (Both (· = ρ) fun ρ₁ a a' => a.socket.Twin a'.socket ρ ρ₁) ρ₁
      (ofSocket d).run (ofSocket d').run := by
  refine alike_releaseOnFailure h.connection ?_
  refine Fallible.alike_bind (alike_setNonblocking h true) ?_
  rintro _ _ _ rfl
  refine .use .register rfl nofun h.lent_mem fun a => ?_
  cases a with
  | error e => exact .done (.failed _ rfl)
  | ok _ => exact .done (.succeeded h)

lemma alike_toSocket (h : a.socket.Twin a'.socket ρ ρ₁) :
    Program.Alike (SameSocket ρ) ρ₁ a.toSocket.run a'.toSocket.run := by
  refine alike_releaseOnFailure h.connection ?_
  refine Fallible.alike_bind (alike_setNonblocking h false) ?_
  rintro _ _ _ rfl
  exact .done (.succeeded h)

lemma alike_retry {attempt : DiscoverySocket → Program (Except Errno α × DiscoverySocket)}
    (hattempt : ∀ {d d' ρ₁}, d.Twin d' ρ ρ₁ →
      Program.Alike (SameTransfer ρ) ρ₁ (attempt d) (attempt d'))
    (n : Nat) (h : d.Twin d' ρ ρ₁) :
    Program.Alike (SameTransfer ρ) ρ₁ (retry attempt n d) (retry attempt n d') := by
  induction n generalizing d d' ρ₁ with
  | zero => exact .done ⟨rfl, h⟩
  | succ n ih =>
    refine (hattempt h).bind ?_
    rintro ρ₂ ⟨r, d₁⟩ ⟨_, d₁'⟩ ⟨rfl, hd⟩
    cases r with
    | ok a => exact .done ⟨rfl, hd⟩
    | error e =>
      by_cases he : e = .again
      · simp only [if_pos he]
        exact ih hd
      · simp only [if_neg he]
        exact .done ⟨rfl, hd⟩

/-- The results of both runs are the same, and so are the sockets but for the numbers. -/
abbrev SameWait {β : Type} (ρ ρ₁ : Pairs) (x y : β × AsyncSocket) : Prop :=
  x.1 = y.1 ∧ x.2.socket.Twin y.2.socket ρ ρ₁

lemma alike_send (h : a.socket.Twin a'.socket ρ ρ₁) (frame : List UInt8) :
    Program.Alike (SameWait ρ) ρ₁ (a.send frame) (a'.send frame) := by
  refine .use (.notifications .writing) rfl nofun h.lent_mem fun n => ?_
  refine (alike_retry (DiscoverySocket.alike_send · frame) n h).bind ?_
  rintro _ _ _ ⟨hr, hd⟩
  exact .done ⟨hr, hd⟩

lemma alike_receive (h : a.socket.Twin a'.socket ρ ρ₁) (capacity : Nat) :
    Program.Alike (SameWait ρ) ρ₁ (a.receive capacity) (a'.receive capacity) := by
  refine .use (.notifications .reading) rfl nofun h.lent_mem fun n => ?_
  refine (alike_retry (DiscoverySocket.alike_receive · capacity) n h).bind ?_
  rintro _ _ _ ⟨hr, hd⟩
  exact .done ⟨hr, hd⟩

end AsyncSocket

end

end PppoeSetup
