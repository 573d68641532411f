import PppoeSetup.Proofs.Twin.Discovery
import PppoeSetup.Workbench.Operation

/-!
# Slots that do the same

An action does the same on two slots if what they hold differs in the numbers of descriptors only.
-/

namespace PppoeSetup

open Kernel

/-- The replies are the same, or both describe an endpoint, and the endpoints differ in the numbers
of their descriptors only. A description has these numbers in it and the control socket. -/
inductive Reply.Alike : Reply → Reply → Prop
  | same (reply : Reply) : Alike reply reply
  | described {e e' : Endpoint} (control control' : ControlSocket) : e.anonymous = e'.anonymous →
    Alike (.text (e.description control)) (.text (e'.description control'))

namespace Endpoint

variable {ρ ρ₁ : Pairs} {e e' : Endpoint} {held held' : Option Endpoint}

/-- The endpoints differ in the numbers of their descriptors only. -/
inductive Twin (ρ ρ₁ : Pairs) : Endpoint → Endpoint → Prop
  | connection {c c' : Connection} : c.Twin c' ρ ρ₁ → Twin ρ ρ₁ (.connection c) (.connection c')
  | discovery {d d' : DiscoverySocket} : d.Twin d' ρ ρ₁ → Twin ρ ρ₁ (.discovery d) (.discovery d')
  | async {a a' : AsyncSocket} : a.socket.Twin a'.socket ρ ρ₁ → Twin ρ ρ₁ (.async a) (.async a')

/-- Both slots are empty, or what they hold differs in the numbers of descriptors only. -/
inductive Twins (ρ ρ₁ : Pairs) : Option Endpoint → Option Endpoint → Prop
  | empty : ρ₁ = ρ → Twins ρ ρ₁ none none
  | held {e e' : Endpoint} : Twin ρ ρ₁ e e' → Twins ρ ρ₁ (some e) (some e')

/-- The pairs that the descriptors of two slots make. -/
def pairs : Option Endpoint → Option Endpoint → Pairs
  | some e, some e' => e.underlying.pairs e'.underlying
  | _, _ => 0

lemma Twin.underlying (h : Twin ρ ρ₁ e e') : e.underlying.Twin e'.underlying ρ ρ₁ := by
  cases h with
  | connection h => exact h
  | discovery h => exact h.connection
  | async h => exact h.connection

lemma Twin.anonymous (h : Twin ρ ρ₁ e e') : e.anonymous = e'.anonymous := by
  cases h with
  | connection h => exact congrArg Endpoint.connection h.anonymous
  | discovery h => exact congrArg Endpoint.discovery h.anonymous
  | async h => exact congrArg (fun d => Endpoint.async ⟨d⟩) h.anonymous

lemma Twins.anonymous (h : Twins ρ ρ₁ held held') :
    held.map Endpoint.anonymous = held'.map Endpoint.anonymous := by
  cases h with
  | empty => rfl
  | held h => exact congrArg some h.anonymous

lemma Twins.pairs_eq (h : Twins ρ ρ₁ held held') : ρ₁ = pairs held held' + ρ := by
  cases h with
  | empty hρ => exact hρ.trans (zero_add ρ).symm
  | held h => exact h.underlying.pairs_eq

/-- A slot makes pairs of the same with itself. -/
lemma eq_of_mem_pairs_self {fd fd' : Descriptor} (h : (fd, fd') ∈ pairs held held) : fd = fd' := by
  obtain _ | e := held
  · cases Multiset.notMem_zero _ h
  · rcases Multiset.mem_add.mp h with h | h <;> exact eq_of_mem_pairUp h

/-! ### Parts of actions -/

/-- The replies are alike, and so is what the slots hold. -/
abbrev SameOutcome (ρ ρ₁ : Pairs) (x y : Reply × Option Endpoint) : Prop :=
  x.1.Alike y.1 ∧ Twins ρ ρ₁ x.2 y.2

section

variable {α : Type} {Q : Pairs → α → α → Prop}

lemma alike_discard (h : Twins ρ ρ₁ held held') :
    Program.Alike (fun ρ₁ _ _ => ρ₁ = ρ) ρ₁ (discard held) (discard held') := by
  cases h with
  | empty hρ => exact .done hρ
  | held h => exact Connection.alike_release h.underlying

lemma sameOutcome_made (wrap : α → Endpoint)
    (hwrap : ∀ ρ₁ a a', Q ρ₁ a a' → Twin ρ ρ₁ (wrap a) (wrap a')) {r r' : Except SetupError α}
    (h : Both (· = ρ) Q ρ₁ r r') : SameOutcome ρ ρ₁ (made wrap r) (made wrap r') := by
  cases h with
  | failed e hρ => exact ⟨.same _, .empty hρ⟩
  | succeeded hq => exact ⟨.same _, .held (hwrap _ _ _ hq)⟩

lemma alike_remake (h : Twins ρ ρ₁ held held') (wrap : α → Endpoint)
    (hwrap : ∀ ρ₁ a a', Q ρ₁ a a' → Twin ρ ρ₁ (wrap a) (wrap a')) {attempt : Attempt α}
    (hattempt : Shared.Alike (Both (· = ρ) Q) ρ attempt.run attempt.run) :
    Shared.Alike (SameOutcome ρ) ρ₁ (remake held wrap attempt) (remake held' wrap attempt) := by
  refine (Shared.Alike.lift (alike_discard h)).bind ?_
  rintro _ _ _ rfl
  refine hattempt.bind ?_
  intro ρ₁ r r' hr
  exact .pure (sameOutcome_made wrap hwrap hr)

/-- What is made of an endpoint takes its place. -/
lemma alike_made (wrap : α → Endpoint) (hwrap : ∀ ρ₁ a a', Q ρ₁ a a' → Twin ρ ρ₁ (wrap a) (wrap a'))
    {x x' : Fallible α} (hx : Program.Alike (Both (· = ρ) Q) ρ₁ x.run x'.run) :
    Shared.Alike (SameOutcome ρ) ρ₁
      (do return made wrap (← x.run) : Shared (Reply × Option Endpoint))
      (do return made wrap (← x'.run) : Shared (Reply × Option Endpoint)) := by
  refine (Shared.Alike.lift hx).bind ?_
  intro ρ₂ r r' hr
  exact .pure (sameOutcome_made wrap hwrap hr)

/-- An action that leaves the endpoint as it is. -/
lemma alike_ask {reply : α → Reply} (h : Twin ρ ρ₁ e e') {x x' : Fallible α}
    (hx : Program.Alike (Connection.SameResult ρ₁) ρ₁ x.run x'.run) :
    Shared.Alike (SameOutcome ρ) ρ₁
      (do return (.ofResult reply (← x.run), some e) : Shared (Reply × Option Endpoint))
      (do return (.ofResult reply (← x'.run), some e') : Shared (Reply × Option Endpoint)) := by
  refine (Shared.Alike.lift hx).bind ?_
  rintro _ r _ ⟨rfl, rfl⟩
  exact .pure ⟨.same _, .held h⟩

/-- An action on a connection, which stays in the slot. -/
lemma alike_end {p p' : Shared (Except SetupError Unit × Connection)}
    (hp : Shared.Alike (Connection.SameEnd ρ) ρ₁ p p') :
    Shared.Alike (SameOutcome ρ) ρ₁
      (do
        let (result, c) ← p
        return (.ofResult (fun _ => .done) result, some (.connection c)))
      (do
        let (result, c) ← p'
        return (.ofResult (fun _ => .done) result, some (.connection c))) := by
  refine hp.bind ?_
  rintro ρ₂ ⟨r, c⟩ ⟨_, c'⟩ ⟨rfl, hc⟩
  exact .pure ⟨.same _, .held (.connection hc)⟩

/-- A transfer that waits for its turn. -/
lemma alike_await {reply : α → Reply} {p p' : Program (Poll (Except Errno α) × AsyncSocket)}
    (hp : Program.Alike (AsyncSocket.SameWait ρ) ρ₁ p p') :
    Shared.Alike (SameOutcome ρ) ρ₁
      (do
        let (result, a) ← p
        return (.ofPoll reply result, some (.async a)) : Shared (Reply × Option Endpoint))
      (do
        let (result, a) ← p'
        return (.ofPoll reply result, some (.async a)) : Shared (Reply × Option Endpoint)) := by
  refine (Shared.Alike.lift hp).bind ?_
  rintro ρ₂ ⟨r, a⟩ ⟨_, a'⟩ ⟨rfl, ha⟩
  exact .pure ⟨.same _, .held (.async ha)⟩

lemma alike_transfer (h : Twins ρ ρ₁ held held') (reply : α → Reply)
    {attempt : DiscoverySocket → Program (Except Errno α × DiscoverySocket)}
    (hattempt : ∀ {d d' ρ₁}, d.Twin d' ρ ρ₁ →
      Program.Alike (DiscoverySocket.SameTransfer ρ) ρ₁ (attempt d) (attempt d')) :
    Program.Alike (SameOutcome ρ) ρ₁ (transfer held reply attempt)
      (transfer held' reply attempt) := by
  cases h with
  | empty hρ => exact .done ⟨.same _, .empty hρ⟩
  | held h =>
    cases h with
    | connection h => exact .done ⟨.same _, .held (.connection h)⟩
    | discovery h =>
      refine (hattempt h).bind ?_
      rintro ρ₂ ⟨r, d⟩ ⟨_, d'⟩ ⟨rfl, hd⟩
      exact .done ⟨.same _, .held (.discovery hd)⟩
    | async h =>
      refine (hattempt h).bind ?_
      rintro ρ₂ ⟨r, d⟩ ⟨_, d'⟩ ⟨rfl, hd⟩
      exact .done ⟨.same _, .held (.async hd)⟩

/-! ### Which slots an action is for -/

lemma alike_pure (h : Twins ρ ρ₁ held held') (reply : Reply) :
    Shared.Alike (SameOutcome ρ) ρ₁ (pure (reply, held) : Shared (Reply × Option Endpoint))
      (pure (reply, held') : Shared (Reply × Option Endpoint)) :=
  .pure ⟨.same reply, h⟩

/-- An action on connections only. -/
lemma alike_on_connection {f f' : Connection → Shared (Reply × Option Endpoint)}
    (hf : ∀ {c c' : Connection}, c.Twin c' ρ ρ₁ →
      Shared.Alike (SameOutcome ρ) ρ₁ (f c) (f' c')) :
    Twins ρ ρ₁ held held' → Shared.Alike (SameOutcome ρ) ρ₁
      (match held with
        | some (.connection c) => f c
        | _ => return (.inapplicable, held) : Shared _)
      (match held' with
        | some (.connection c) => f' c
        | _ => return (.inapplicable, held') : Shared _) := by
  intro h
  have hidle := alike_pure h .inapplicable
  obtain hρ | @⟨_, _, hc | hd | ha⟩ := h
  case held.connection => exact hf hc
  all_goals exact hidle

/-- An action on discovery sockets only. -/
lemma alike_on_discovery {f f' : DiscoverySocket → Shared (Reply × Option Endpoint)}
    (hf : ∀ {d d' : DiscoverySocket}, d.Twin d' ρ ρ₁ →
      Shared.Alike (SameOutcome ρ) ρ₁ (f d) (f' d')) :
    Twins ρ ρ₁ held held' → Shared.Alike (SameOutcome ρ) ρ₁
      (match held with
        | some (.discovery d) => f d
        | _ => return (.inapplicable, held) : Shared _)
      (match held' with
        | some (.discovery d) => f' d
        | _ => return (.inapplicable, held') : Shared _) := by
  intro h
  have hidle := alike_pure h .inapplicable
  obtain hρ | @⟨_, _, hc | hd | ha⟩ := h
  case held.discovery => exact hf hd
  all_goals exact hidle

/-- An action that asynchronous sockets take in a way of their own. -/
lemma alike_on_async {f f' : AsyncSocket → Shared (Reply × Option Endpoint)}
    {other other' : Shared (Reply × Option Endpoint)}
    (hf : ∀ {a a' : AsyncSocket}, a.socket.Twin a'.socket ρ ρ₁ →
      Shared.Alike (SameOutcome ρ) ρ₁ (f a) (f' a'))
    (hother : Shared.Alike (SameOutcome ρ) ρ₁ other other') :
    Twins ρ ρ₁ held held' → Shared.Alike (SameOutcome ρ) ρ₁
      (match held with
        | some (.async a) => f a
        | _ => other)
      (match held' with
        | some (.async a) => f' a
        | _ => other') := by
  rintro (hρ | @⟨_, _, hc | hd | ha⟩)
  case held.async => exact hf ha
  all_goals exact hother

/-- A question to whatever is in the slot, which stays as it is. -/
lemma alike_on_endpoint {reply : α → Reply} {x x' : Endpoint → Fallible α}
    (hx : ∀ {e e' : Endpoint}, Twin ρ ρ₁ e e' →
      Program.Alike (Connection.SameResult ρ₁) ρ₁ (x e).run (x' e').run) :
    Twins ρ ρ₁ held held' → Shared.Alike (SameOutcome ρ) ρ₁
      (match held with
        | some e => do return (.ofResult reply (← (x e).run), held)
        | none => return (.inapplicable, held) : Shared _)
      (match held' with
        | some e => do return (.ofResult reply (← (x' e).run), held')
        | none => return (.inapplicable, held') : Shared _) := by
  rintro (hρ | h)
  · exact alike_pure (.empty hρ) _
  · exact alike_ask h (hx h)

end

/-! ### Actions -/

theorem alike_act (h : Twins ρ ρ₁ held held') (action : Action) :
    Shared.Alike (SameOutcome ρ) ρ₁ (act held action) (act held' action) := by
  cases action with
  | create =>
    refine alike_remake h .connection (fun _ _ _ => .connection) ?_
    exact Attempt.alike_pure (.fresh none)
  | createFrom source =>
    refine alike_remake h .connection (fun _ _ _ => .connection) ?_
    cases source.read with
    | error e => exact Attempt.alike_throw e rfl
    | ok config => exact Attempt.alike_pure (.fresh _)
  | onInterface name =>
    refine alike_remake h .discovery (fun _ _ _ => .discovery) ?_
    exact DiscoverySocket.alike_ofFresh (.fresh none) name
  | setUpFrom source =>
    refine alike_remake h .discovery (fun _ _ _ => .discovery) ?_
    cases source.read with
    | error e => exact Attempt.alike_throw e rfl
    | ok config => exact DiscoverySocket.alike_ofConfig config
  | drop =>
    refine (Shared.Alike.lift (alike_discard h)).bind ?_
    intro ρ₂ _ _ hρ
    exact .pure ⟨.same _, .empty hρ⟩
  | setName name =>
    exact alike_on_connection (fun hc => alike_end (Connection.alike_setName hc name)) h
  | bringUp requested =>
    exact alike_on_connection (fun hc => alike_end (Connection.alike_bringUp hc requested)) h
  | clear =>
    refine alike_on_connection (fun hc => ?_) h
    refine (Shared.Alike.lift (Connection.alike_clear hc)).bind ?_
    intro ρ₂ c c' hc
    exact .pure ⟨.same _, .held (.connection hc)⟩
  | setTimeout timeout =>
    refine alike_on_connection (fun hc => ?_) h
    exact alike_pure (.held (.connection (hc.timed timeout))) _
  | connect sessionId =>
    exact alike_on_endpoint (fun h => Connection.alike_connect h.underlying sessionId) h
  | connectTo sessionId remote =>
    refine alike_on_endpoint (fun h => ?_) h
    exact Connection.alike_connectTo h.underlying sessionId remote
  | channel => exact alike_on_endpoint (fun h => Connection.alike_channel h.underlying) h
  | sharesControl =>
    cases h with
    | empty hρ => exact alike_pure (.empty hρ) _
    | held h => exact alike_pure (.held h) _
  | describe =>
    cases h with
    | empty hρ => exact alike_pure (.empty hρ) _
    | held h => exact fun s s' => .done ⟨rfl, rfl, .described s s' h.anonymous, .held h⟩
  | toDiscovery =>
    refine alike_on_connection (fun hc => ?_) h
    exact alike_made .discovery (fun _ _ _ => .discovery) (DiscoverySocket.alike_ofConnection hc)
  | toConnection =>
    exact alike_on_discovery (fun hd => alike_pure (.held (.connection hd.connection)) _) h
  | toAsync =>
    refine alike_on_discovery (fun hd => ?_) h
    exact alike_made .async (fun _ _ _ => .async) (AsyncSocket.alike_ofSocket hd)
  | toBlocking =>
    refine alike_on_async (fun ha => ?_) (alike_pure h _) h
    exact alike_made .discovery (fun _ _ _ => .discovery) (AsyncSocket.alike_toSocket ha)
  | setNonblocking on =>
    obtain hρ | @⟨_, _, hc | hd | ha⟩ := h
    case held.discovery => exact alike_ask (.discovery hd) (DiscoverySocket.alike_switch hd on)
    case held.async => exact alike_ask (.async ha) (DiscoverySocket.alike_switch ha on)
    -- there is no socket to switch
    case empty => exact alike_pure (.empty hρ) _
    case held.connection => exact alike_pure (.held (.connection hc)) _
  | send frame =>
    exact alike_on_async (fun ha => alike_await (AsyncSocket.alike_send ha frame))
      (.lift (alike_transfer h .sent (DiscoverySocket.alike_send · frame))) h
  | receive capacity =>
    exact alike_on_async (fun ha => alike_await (AsyncSocket.alike_receive ha capacity))
      (.lift (alike_transfer h .received (DiscoverySocket.alike_receive · capacity))) h
  | sendNow frame => exact .lift (alike_transfer h .sent (DiscoverySocket.alike_send · frame))
  | receiveNow capacity =>
    exact .lift (alike_transfer h .received (DiscoverySocket.alike_receive · capacity))

end Endpoint

end PppoeSetup
