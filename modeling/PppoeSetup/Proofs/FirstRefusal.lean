import PppoeSetup.Proofs.Course.Refusals

/-!
# The first refusal

The first call that the kernel refuses ends an operation: what follows only closes, and the error
that comes out is decided by that call.
-/

namespace PppoeSetup

open Kernel Trace Connection DiscoverySocket AsyncSocket

/-- The session that an action connects to. -/
def Action.sessionId : Action → UInt16
  | connect id | connectTo id _ => id
  | _ => 0

namespace Endpoint

/-- The interface that an action is about. -/
def interface (held : Option Endpoint) : Action → String
  | .setName name | .onInterface name => name
  | .bringUp requested =>
    match held with
    | some e => e.underlying.interfaceFor requested
    | none => ""
  | .setUpFrom source =>
    match source.read with
    | .ok config => config.interface?.getD ""
    | .error _ => ""
  | _ => ""

/-- Whether the action waits for the reactor, and tries again when it is put off. -/
def Awaits (held : Option Endpoint) : Action → Prop
  | .send _ | .receive _ => ∃ a, held = some (.async a)
  | _ => False

/-- In whose name an action calls the kernel. -/
def asker (held : Option Endpoint) (action : Action) : Asker :=
  .connection (interface held action) action.sessionId

/-- The refusals that count: all of them, unless the action waits for its turn. -/
def Counts (held : Option Endpoint) (action : Action) (e : Errno) : Prop :=
  Awaits held action → e ≠ .again

variable {held held' : Option Endpoint} {s s' : ControlSocket} {t : Trace} {reply : Reply}
  {counts : Errno → Prop} {asker : Asker}

lemma error?_ofTransfer {α : Type} {answer : α → Reply} (h : ∀ a, (answer a).error? = none)
    (r : Except Errno α) : (Reply.ofTransfer answer r).error? = transferError? r := by
  cases r with
  | ok a => exact h a
  | error e => rfl

lemma error?_ofPoll {α : Type} {answer : α → Reply} (h : ∀ a, (answer a).error? = none)
    (r : Poll (Except Errno α)) : (Reply.ofPoll answer r).error? = pollError? r := by
  cases r with
  | finished r => exact error?_ofTransfer h r
  | pending => rfl

lemma error?_ofResult {α : Type} {answer : α → Reply} (h : ∀ a, (answer a).error? = none)
    (r : Except SetupError α) : (Reply.ofResult answer r).error? = errorOf r := by
  cases r with
  | ok a => exact h a
  | error e => rfl

lemma error?_made {α : Type} {wrap : α → Endpoint} (r : Except SetupError α) :
    (made wrap r).1.error? = errorOf r := by
  cases r <;> rfl

/-- A transfer at once. -/
lemma decides_transfer {α : Type} {answer : α → Reply}
    {attempt : DiscoverySocket → Program (Except Errno α × DiscoverySocket)}
    (hanswer : ∀ a, (answer a).error? = none)
    (ha : ∀ {d t r d'}, (attempt d).Yields t (r, d') →
      t.Decides counts asker.blame (transferError? r))
    (h : ((liftM (transfer held answer attempt) : Shared _).run s).Yields t
      ((reply, held'), s')) :
    t.Decides counts asker.blame reply.error? := by
  obtain ⟨-, ⟨rfl, rfl, -⟩ | ⟨e, d, r, d', -, -, hr, rfl, -⟩⟩ := yields_transfer h
  · exact Granted.nil.decides
  · rw [error?_ofTransfer hanswer]
    exact ha hr

lemma Acting.decides {action : Action} (h : Acting held s action t reply held' s')
    (htransfers : action.transfers = false) :
    t.Decides counts (Endpoint.asker held action).blame reply.error? := by
  -- closing what the slot held before is never refused, so the course after it decides
  cases h with
  | idle | timed | unwrapped => exact Granted.nil.decides
  | created hd | configured _ hd | unreadable _ hd | unreadableSetUp _ hd | dropped hd =>
    exact hd.onlyCloses.granted.decides
  | opened hd hf =>
    rw [error?_made]
    exact .after hf.decides hd.onlyCloses.granted
  | setUp hread hd hc =>
    rw [error?_made]
    simp only [Endpoint.asker, interface, hread]
    exact .after hc.decides hd.onlyCloses.granted
  | named hn | broughtUp hn | connected hn | connectedTo hn | channelled hn | switched _ hn =>
    rw [error?_ofResult fun _ => rfl]
    exact hn.decides
  | cleared hc => exact hc.onlyCloses.granted.decides
  | wrapped hw | watched hw | unwatched hw =>
    rw [error?_made]
    exact hw.decides
  | transferred ht | awaited ht =>
    rw [htransfers] at ht
    cases ht

/-- What counts in a transfer that waits for its turn. -/
lemma decides_awaits {a : AsyncSocket} {action : Action}
    (hawaits : Awaits (some (.async a)) action)
    (h : t.Decides (· ≠ .again) (Endpoint.asker held action).blame reply.error?) :
    t.Decides (Counts (some (.async a)) action) (Endpoint.asker held action).blame
      reply.error? :=
  fun v r a x e ht he hcounts => h v r a x e ht he (hcounts hawaits)

theorem decides_act {action : Action}
    (h : ((act held action).run s).Yields t ((reply, held'), s')) :
    t.Decides (Counts held action) (Endpoint.asker held action).blame reply.error? := by
  cases htransfers : action.transfers with
  | false => exact (Acting.of_yields h).decides htransfers
  | true =>
    cases action with
    | sendNow frame => exact decides_transfer (fun _ => rfl) send_decides h
    | receiveNow capacity => exact decides_transfer (fun _ => rfl) receive_decides h
    | send frame =>
      obtain _ | ⟨c | d | a⟩ := held
      case some.async =>
        obtain ⟨⟨r, a'⟩, hu, ⟨⟩, rfl⟩ := Shared.yields_lift_map.mp h
        refine decides_awaits ⟨a, rfl⟩ ?_
        rw [error?_ofPoll fun _ => rfl]
        exact decides_notified send_decides hu
      all_goals exact decides_transfer (fun _ => rfl) send_decides h
    | receive capacity =>
      obtain _ | ⟨c | d | a⟩ := held
      case some.async =>
        obtain ⟨⟨r, a'⟩, hu, ⟨⟩, rfl⟩ := Shared.yields_lift_map.mp h
        refine decides_awaits ⟨a, rfl⟩ ?_
        rw [error?_ofPoll fun _ => rfl]
        exact decides_notified receive_decides hu
      all_goals exact decides_transfer (fun _ => rfl) receive_decides h
    | _ => cases htransfers

end Endpoint

namespace Workbench

variable {slots : Nat} {w w' : Workbench slots} {op : Operation slots} {u : Trace} {reply : Reply}

/-- In whose name an operation calls the kernel. -/
def asker (w : Workbench slots) : Operation slots → Asker
  | .resolveIndex name | .resolveAddress name => .caller name
  | .act slot action => Endpoint.asker (w.held slot) action
  | .openControl | .closeControl | .describeControl => .caller ""

/-- The refusals that count: all of them, unless the operation waits for its turn. -/
def Counts (w : Workbench slots) : Operation slots → Errno → Prop
  | .act slot action, e => Endpoint.Counts (w.held slot) action e
  | _, _ => True

lemma decides_perform (h : (w.perform op).Yields u (reply, w')) :
    u.Decides (w.Counts op) (w.asker op).blame reply.error? := by
  cases Performing.of_yields h with
  | opened ho =>
    rw [Endpoint.error?_ofResult fun _ => rfl]
    exact ho.decides
  | closed hc => exact hc.granted.decides
  | described | invalidIndex | invalidAddress => exact Granted.nil.decides
  | resolvedIndex hv hr | resolvedAddress hv hr =>
    obtain rfl := InterfaceName.text_of_validate hv
    rw [Endpoint.error?_ofResult fun _ => rfl]
    exact hr.decides_caller
  | acted =>
    obtain ⟨s, ha⟩ := yields_act h
    exact Endpoint.decides_act ha

/-- Whatever has been done before and whatever the kernel answers: if it refuses a call of an
operation, nothing but closing follows, and the operation fails with the error that this call
comes to, and with its error number. As nothing else can be refused after that, the call is the
first one that was. -/
theorem first_refusal_decides (hop : (w.perform op).Yields u (reply, w')) {v x : Trace}
    {r : Request} {a : r.Answer} {e : Errno} (hu : u = v ++ .call r a :: x)
    (he : r.refusal? a = some e) (hcounts : w.Counts op e) :
    reply = .failed ((w.asker op).blame r (.os e)) ∧
      ((w.asker op).blame r (.os e)).source? = some (.os e) ∧
      v.Granted (w.Counts op) ∧ x.OnlyCloses := by
  have hdecides := decides_perform hop
  obtain ⟨hx, hreply⟩ := hdecides v r a x e hu he hcounts
  refine ⟨Reply.eq_failed hreply, Asker.source?_blame _ r _, ?_, hx⟩
  -- an earlier refusal would be followed by this call, which does not close
  intro r' a' e' hr' he' hcounts'
  obtain ⟨v, y, rfl⟩ := List.append_of_mem hr'
  obtain ⟨hy, -⟩ := hdecides v r' a' (y ++ .call r a :: x) e' (by simp [hu]) he' hcounts'
  exact hy.granted r a e (by simp) he hcounts

/-- The discovery socket of a new connection cannot be bound, as its address is in use. -/
def unbindable (slot : Fin slots) : Outcome SimulatedState (Reply × Workbench slots) :=
  (empty.perform (.act slot (.onInterface "eth0"))).run simulated
    { SimulatedState.oneInterface with faults := [(.bind, ⟨98⟩)] }

/-- After the bind both sockets are closed, and the bind is what the error tells of. -/
theorem first_refusal_decides_bind :
    ∃ (v : Trace) (a : _) (x : Trace),
      (unbindable (0 : Fin 1)).trace = v ++ .call (.bind 102 (.discoveryOn 3)) a :: x ∧
      (unbindable (0 : Fin 1)).value.1 = .failed (.bind "eth0" (.os ⟨98⟩)) ∧ x.OnlyCloses := by
  have hmem :
      (.bind 102 (.discoveryOn 3), ⟨98⟩) ∈ (unbindable (0 : Fin 1)).trace.refusals := by
    decide +kernel
  obtain ⟨v, a, x, ht, he⟩ := exists_of_mem_refusals hmem
  obtain ⟨hreply, -, -, hx⟩ :=
    first_refusal_decides (Program.yields_run _ _ _) ht he fun hawaits => nomatch hawaits
  exact ⟨v, a, x, ht, hreply, hx⟩

end Workbench

end PppoeSetup
