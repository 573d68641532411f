import PppoeSetup.Proofs.Counters
import PppoeSetup.Proofs.History
import PppoeSetup.Proofs.OneInterface

/-!
# Traffic accounting

The counters of a discovery socket say what its transfers have come to since the connection was
wrapped, blocking or not: every transfer counts once, with what the kernel has answered, and
nothing else counts.
-/

namespace PppoeSetup

open Kernel Connection DiscoverySocket AsyncSocket

/-! ### Shares -/

/-- What receiving with this reply adds to a counter. -/
def Reply.receivedShare : Reply → Counter → Nat
  | received _, .rxPackets => 1
  | received frame, .rxBytes => frame.payload.length
  | failed (.io (.os e)), .rxErrors => if e = .again then 0 else 1
  | _, _ => 0

/-- What sending with this reply adds to a counter. -/
def Reply.sentShare : Reply → Counter → Nat
  | sent _, .txPackets => 1
  | sent length, .txBytes => length
  | failed (.io (.os e)), .txErrors => if e = .again then 0 else 1
  | _, _ => 0

namespace Action

/-- What an action with this reply adds to a counter. -/
def share : Action → Reply → Counter → Nat
  | receive _ | receiveNow _ => Reply.receivedShare
  | send _ | sendNow _ => Reply.sentShare
  | _ => fun _ _ => 0

/-- The actions that wrap a connection for discovery. -/
def wraps : Action → Bool
  | toDiscovery | onInterface _ | setUpFrom _ => true
  | _ => false

variable {action : Action} {reply : Reply} {c : Counter}

lemma share_eq_zero (h : action.transfers = false) : action.share reply c = 0 := by
  cases action with
  | send _ | receive _ | sendNow _ | receiveNow _ => cases h
  | _ => rfl

end Action

/-! ### Counting -/

namespace DiscoverySocket

variable {t : Traffic}

/-- A transfer that is put off leaves the socket as it was. -/
lemma eq_of_send_again {d d' : DiscoverySocket} {frame : List UInt8} {u : Trace}
    (h : (d.send frame).Yields u (.error .again, d')) : d' = d := by
  obtain ⟨-, rfl⟩ := yields_send.mp h
  rfl

lemma eq_of_receive_again {d d' : DiscoverySocket} {capacity : Nat} {u : Trace}
    (h : (d.receive capacity).Yields u (.error .again, d')) : d' = d := by
  obtain ⟨_, -, -, rfl⟩ := yields_receive.mp h
  rfl

end DiscoverySocket

/-- The last attempt decides, and it finds the socket as it was before the first one. -/
lemma AsyncSocket.Retrying.pending_or_last {α : Type}
    {attempt : DiscoverySocket → Program (Except Errno α × DiscoverySocket)} {n : Nat}
    {d d' : DiscoverySocket} {t : Trace} {p : Poll (Except Errno α)}
    (hagain : ∀ {d t d'}, (attempt d).Yields t (.error .again, d') → d' = d)
    (h : Retrying attempt n d t p d') :
    (p = .pending ∧ d' = d) ∨
      ∃ u v r, t = u ++ v ∧ p = .finished r ∧ (attempt d).Yields v (r, d') := by
  induction h with
  | exhausted => exact .inl ⟨rfl, rfl⟩
  | putOff ha _ ih =>
    obtain rfl := hagain ha
    rcases ih with ⟨rfl, rfl⟩ | ⟨u, v, r, rfl, rfl, hv⟩
    · exact .inl ⟨rfl, rfl⟩
    · exact .inr ⟨_ ++ u, v, r, (List.append_assoc ..).symm, rfl, hv⟩
  | finished _ ha => exact .inr ⟨[], _, _, rfl, rfl, ha⟩

/-! ### Actions -/

namespace Endpoint

/-- How an action that transfers a frame ends: with what the kernel has answered to a call, or
not at all. -/
inductive Exchanging (action : Action) (t : Trace) :
    Option Endpoint → Reply → Option Endpoint → Prop
  | inapplicable {held : Option Endpoint} : Exchanging action t held .inapplicable held
  | pending {held : Option Endpoint} : Exchanging action t held .pending held
  | sent {e : Endpoint} {d : DiscoverySocket} {frame : List UInt8} {r : Except Errno Nat} :
    action = .send frame ∨ action = .sendNow frame → e.socket? = some d →
    .call (.send d.rawFd frame) r ∈ t →
    Exchanging action t (some e) (.ofTransfer .sent r)
      (some (e.withSocket { d with traffic := countSent d.traffic r }))
  | received {e : Endpoint} {d : DiscoverySocket} {capacity : Nat}
    {answer : Except Errno Datagram} :
    action = .receive capacity ∨ action = .receiveNow capacity → e.socket? = some d →
    .call (.receive d.rawFd capacity) answer ∈ t →
    Exchanging action t (some e) (.ofTransfer .received (answer.map Received.ofDatagram))
      (some (e.withSocket
        { d with traffic := countReceived d.traffic (answer.map Received.ofDatagram) }))

section

variable {held held' : Option Endpoint} {s s' : ControlSocket} {t : Trace} {reply : Reply}
  {action : Action} {e : Endpoint} {d d' : DiscoverySocket}

lemma Exchanging.of_send {frame : List UInt8} {r : Except Errno Nat} {u v : Trace}
    (ha : action = .send frame ∨ action = .sendNow frame) (hd : e.socket? = some d)
    (h : (d.send frame).Yields v (r, d')) :
    Exchanging action (u ++ v) (some e) (.ofTransfer .sent r) (some (e.withSocket d')) := by
  obtain ⟨rfl, rfl⟩ := yields_send.mp h
  exact .sent ha hd (by simp)

lemma Exchanging.of_receive {capacity : Nat} {r : Except Errno Received} {u v : Trace}
    (ha : action = .receive capacity ∨ action = .receiveNow capacity) (hd : e.socket? = some d)
    (h : (d.receive capacity).Yields v (r, d')) :
    Exchanging action (u ++ v) (some e) (.ofTransfer .received r) (some (e.withSocket d')) := by
  obtain ⟨answer, rfl, rfl, rfl⟩ := yields_receive.mp h
  exact .received ha hd (by simp)

/-- A transfer at once. -/
lemma Exchanging.of_transfer {α : Type} {answer : α → Reply}
    {attempt : DiscoverySocket → Program (Except Errno α × DiscoverySocket)}
    (hattempt : ∀ {e d r d'}, e.socket? = some d → (attempt d).Yields t (r, d') →
      Exchanging action t (some e) (.ofTransfer answer r) (some (e.withSocket d')))
    (h : ((liftM (transfer held answer attempt) : Shared _).run s).Yields t
      ((reply, held'), s')) :
    Exchanging action t held reply held' := by
  obtain ⟨-, ⟨-, rfl, rfl⟩ | ⟨e, d, r, d', rfl, he, hr, rfl, rfl⟩⟩ := yields_transfer h
  · exact .inapplicable
  · exact hattempt he hr

/-- A transfer as the notifications come in. -/
lemma Exchanging.of_retrying {α : Type} {answer : α → Reply} {a : AsyncSocket}
    {attempt : DiscoverySocket → Program (Except Errno α × DiscoverySocket)} {n : Nat}
    {entry : Entry} {p : Poll (Except Errno α)}
    (hagain : ∀ {d t d'}, (attempt d).Yields t (.error .again, d') → d' = d)
    (hattempt : ∀ {u v r d'}, (attempt a.socket).Yields v (r, d') →
      Exchanging action (u ++ v) (some (.async a)) (.ofTransfer answer r) (some (.async ⟨d'⟩)))
    (h : Retrying attempt n a.socket t p d') :
    Exchanging action (entry :: t) (some (.async a)) (.ofPoll answer p)
      (some (.async ⟨d'⟩)) := by
  rcases h.pending_or_last hagain with ⟨rfl, rfl⟩ | ⟨u, v, r, rfl, rfl, hv⟩
  · exact .pending
  · exact hattempt (u := entry :: u) hv

/-- An action that transfers a frame does so through the socket in its slot. -/
lemma Exchanging.of_yields (ha : action.transfers)
    (h : ((act held action).run s).Yields t ((reply, held'), s')) :
    Exchanging action t held reply held' := by
  cases action with
  | send frame =>
    obtain _ | ⟨c | d | a⟩ := held
    case some.async =>
      obtain ⟨⟨p, a'⟩, hu, ⟨⟩, rfl⟩ := Shared.yields_lift_map.mp h
      obtain ⟨n, u, rfl, hr⟩ := exists_retrying hu
      exact .of_retrying eq_of_send_again (.of_send (.inl rfl) rfl) hr
    all_goals exact .of_transfer (fun hd hr => .of_send (u := []) (.inl rfl) hd hr) h
  | receive capacity =>
    obtain _ | ⟨c | d | a⟩ := held
    case some.async =>
      obtain ⟨⟨p, a'⟩, hu, ⟨⟩, rfl⟩ := Shared.yields_lift_map.mp h
      obtain ⟨n, u, rfl, hr⟩ := exists_retrying hu
      exact .of_retrying eq_of_receive_again (.of_receive (.inl rfl) rfl) hr
    all_goals exact .of_transfer (fun hd hr => .of_receive (u := []) (.inl rfl) hd hr) h
  | sendNow frame => exact .of_transfer (fun hd hr => .of_send (u := []) (.inr rfl) hd hr) h
  | receiveNow capacity =>
    exact .of_transfer (fun hd hr => .of_receive (u := []) (.inr rfl) hd hr) h
  | _ => cases ha

/-- A frame that is told was the kernel's answer. -/
lemma Exchanging.exists_receive {frame : Received}
    (h : Exchanging action t (some e) (.received frame) held') (hd : e.socket? = some d) :
    ∃ capacity datagram, (action = .receive capacity ∨ action = .receiveNow capacity) ∧
      .call (.receive d.rawFd capacity) (.ok datagram) ∈ t ∧ frame = .ofDatagram datagram := by
  generalize hheld : some e = held at h
  generalize hreply : Reply.received frame = reply at h
  cases h with
  | inapplicable | pending => cases hreply
  | @sent _ _ _ r => cases r <;> cases hreply
  | @received _ _ _ answer ha hd' hcall =>
    cases hheld
    cases hd.symm.trans hd'
    cases answer with
    | error e => cases hreply
    | ok datagram =>
      cases hreply
      exact ⟨_, _, ha, hcall, rfl⟩

/-! ### Counting actions -/

/-- What becomes of the counters in a slot: a connection that is wrapped starts at zero, and
everything else adds its share. -/
inductive Counting (held : Option Endpoint) (action : Action) (reply : Reply)
    (d : DiscoverySocket) : Prop
  | wrapped : action.wraps → reply = .done → d.traffic = .none → Counting held action reply d
  | added {e : Endpoint} {d₀ : DiscoverySocket} : ¬(action.wraps ∧ reply = .done) →
    held = some e → e.socket? = some d₀ → d₀.traffic.Gains d.traffic (action.share reply) →
    Counting held action reply d

/-- A slot that keeps its counters. -/
lemma Counting.kept {d₀ : DiscoverySocket} (hwraps : ¬(action.wraps ∧ reply = .done))
    (hshare : ∀ c, action.share reply c = 0) (he : held = some e) (hd : e.socket? = some d₀)
    (htraffic : d.traffic = d₀.traffic) : Counting held action reply d := by
  refine .added hwraps he hd ?_
  rw [htraffic]
  exact (Traffic.Gains.zero _).congr fun c => by rw [hshare c]

end

end Endpoint

/-! ### Histories -/

namespace Workbench

variable {slots : Nat} {w w' : Workbench slots} {i : Fin slots} {history : List (Step slots)}
  {op : Operation slots} {u : Trace} {reply : Reply} {e e' : Endpoint} {d d' : DiscoverySocket}

/-- Whether an operation has wrapped a connection in the slot. -/
def Step.wraps (i : Fin slots) (step : Step slots) : Bool :=
  match step.operation, step.reply with
  | .act j action, .done => j = i && action.wraps
  | _, _ => false

/-- What an operation adds to a counter of the slot. -/
def Step.share (i : Fin slots) (c : Counter) (step : Step slots) : Nat :=
  match step.operation with
  | .act j action => if j = i then action.share step.reply c else 0
  | _ => 0

/-- The operations since a connection in the slot was wrapped for the last time. -/
def sinceWrapped (i : Fin slots) (history : List (Step slots)) : List (Step slots) :=
  history.foldl (fun past step => if step.wraps i then [] else past ++ [step]) []

lemma Step.share_eq_zero (h : ∀ action, op ≠ .act i action) (c : Counter) :
    (Step.mk op u reply).share i c = 0 := by
  cases op with
  | act j action =>
    have hj : j ≠ i := fun hj => h action (by rw [hj])
    simp [Step.share, hj]
  | _ => rfl

/-- What a counter of the slot should be. -/
def total (i : Fin slots) (c : Counter) (history : List (Step slots)) : Nat :=
  ((sinceWrapped i history).map (·.share i c)).sum

end Workbench

end PppoeSetup
