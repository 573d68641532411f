import PppoeSetup.Proofs.Modes

/-!
# Modes of watched sockets

A discovery socket is switched to nonblocking mode before the reactor watches it. From then on its
mode is only set at the request of someone who reaches the socket itself, which is lent out while
it is watched: if the blocking mode is asked for, then the transfers that follow block.
-/

namespace PppoeSetup

open Kernel Ledger Trace Connection DiscoverySocket AsyncSocket

/-! ### Actions -/

namespace Endpoint

variable {held held' : Option Endpoint} {s s' : ControlSocket} {action : Action} {t : Trace}
  {reply : Reply} {a : AsyncSocket} {fd : Descriptor}

/-- How a slot comes by the watched socket that it holds after an action: it has held it before,
when only a request for a mode can set one, or the socket has just been taken by the reactor. -/
inductive Keeping (held : Option Endpoint) (action : Action) (reply : Reply) (fd : Descriptor) :
    Prop
  | kept {a : AsyncSocket} : held = some (.async a) → a.socket.rawFd = fd →
    (∀ on, reply = .done → action.mode? = some on → action = .setNonblocking on) →
    Keeping held action reply fd
  | watched {d : DiscoverySocket} : held = some (.discovery d) → d.rawFd = fd →
    action = .toAsync → reply = .done → Keeping held action reply fd

lemma Acting.keeping (h : Acting held s action t reply (some (.async a)) s') :
    t.closed = [] ∧ Keeping held action reply a.socket.rawFd := by
  -- the cases need a variable for what is held afterwards
  generalize hheld : some (Endpoint.async a) = held' at h
  cases h with
  | idle hreply => exact ⟨rfl, .kept hheld.symm rfl fun _ hdone => absurd hdone hreply⟩
  | created | configured | named | broughtUp | cleared | timed | unwrapped => cases hheld
  | unreadable | unreadableSetUp | dropped => cases hheld
  | @opened _ _ _ _ _ _ r | @setUp _ _ _ _ _ _ _ r | @wrapped _ _ _ r | @unwatched _ _ _ r =>
    cases r <;> cases hheld
  | connected hc | connectedTo hc | channelled hc =>
    cases hheld
    exact ⟨hc.quiet.2, .kept rfl rfl fun _ _ hmode => nomatch hmode⟩
  | watched hwatch =>
    obtain ⟨a', rfl, ⟨⟩⟩ := made_snd_eq_some.mp hheld.symm
    have hquiet := hwatch.quiet.2
    cases hwatch
    exact ⟨hquiet, .watched rfl rfl rfl rfl⟩
  | @switched _ _ _ on _ _ _ hm =>
    cases hheld
    refine ⟨hm.quiet.2, .kept rfl rfl ?_⟩
    rintro on' - hmode
    rw [Option.some.inj hmode]
  | @transferred e d d' _ _ _ _ hact hd ht =>
    cases e with
    | connection | discovery => cases hheld
    | async a' =>
      cases hheld
      cases hd
      refine ⟨ht.quiet.2, .kept rfl ht.exchanges.2.symm ?_⟩
      rintro on - hmode
      -- a transfer asks for no mode
      rw [mode_of_transfers hact] at hmode
      cases hmode
  | awaited hact ht =>
    cases hheld
    refine ⟨ht.quiet.2, .kept rfl ht.exchanges.2.symm ?_⟩
    rintro on - hmode
    rw [mode_of_transfers hact] at hmode
    cases hmode

/-- A transfer on a watched socket only asks what transfers ask, and of this socket. -/
lemma Acting.exchanges (htransfers : action.transfers)
    (h : Acting (some (.async a)) s action t reply held' s') :
    t.Asks (Request.Exchanges a.socket.rawFd) := by
  cases h with
  | idle => exact asks_nil
  | transferred _ hd ht =>
    cases hd
    exact ht.exchanges.1
  | awaited _ ht => exact ht.exchanges.1
  | _ => cases htransfers

end Endpoint

namespace Workbench

variable {slots : Nat} {w w' : Workbench slots} {history since : List (Step slots)}
  {i : Fin slots} {a : AsyncSocket} {fd : Descriptor} {word : Trace → Descriptor → UInt32}

/-! ### Histories -/

/-- In a history, slot `i` has come to hold the discovery socket `fd` with the reactor watching it,
and `since` is what has been done after that, with this socket in the slot after each operation. -/
inductive WatchedSince (i : Fin slots) (fd : Descriptor) :
    List (Step slots) → List (Step slots) → Workbench slots → Prop
  | watched {history : List (Step slots)} {w w' : Workbench slots} {d : DiscoverySocket}
    {u : Trace} :
    w.After history → w.held i = some (.discovery d) → d.rawFd = fd →
    (w.perform (.act i .toAsync)).Yields u (.done, w') →
    WatchedSince i fd (history ++ [⟨.act i .toAsync, u, .done⟩]) [] w'
  | kept {history since : List (Step slots)} {w w' : Workbench slots} {op : Operation slots}
    {u : Trace} {reply : Reply} {a : AsyncSocket} :
    WatchedSince i fd history since w → (w.perform op).Yields u (reply, w') →
    w'.held i = some (.async a) → a.socket.rawFd = fd →
    WatchedSince i fd (history ++ [⟨op, u, reply⟩]) (since ++ [⟨op, u, reply⟩]) w'

/-- The mode that a watched socket is in after these operations. -/
def nonblockingAfter (i : Fin slots) (since : List (Step slots)) : Bool :=
  (lastRequest i since).getD true

lemma Reachable.discoveryIn_of_socket {t : Trace} {e : Endpoint} {d : DiscoverySocket}
    (h : w.Reachable t) (he : w.held i = some e) (hd : e.socket? = some d) :
    w.discoveryIn i = some d.rawFd := by
  refine discoveryIn_eq_some.mpr ⟨e, he, ?_⟩
  rw [Endpoint.underlying_of_socket hd]
  exact ((h.wellFormed he).socket hd).lent

/-- A watched socket has been taken by the reactor in the history, in nonblocking mode, and its
mode is the one that was asked for last since then, always of the socket itself. The induction is
on the history; an operation that is not about the slot leaves the socket alone. -/
lemma After.exists_watchedSince (h : w.After history) (hl : (traceOf history).Lawful)
    (hk : (traceOf history).KeepsFlags word) (hi : w.held i = some (.async a)) :
    ∃ since, WatchedSince i a.socket.rawFd history since w ∧
      (∀ step ∈ since, ∀ on, step.request? i = some on →
        step.operation = .act i (.setNonblocking on)) ∧
      ∃ start, start &&& Request.nonblockingFlag = Request.modeFlag true ∧
        Request.Follows (lastRequest i since) start
          (word (traceOf history) a.socket.rawFd) := by
  induction h generalizing a with
  | start => cases hi
  | @step history w w' op u reply hr hop ih =>
    have hbefore := hr.reachable
    have hafter := hbefore.step hop
    rw [traceOf_concat] at hl hk ⊢
    -- an operation elsewhere asks nothing of this slot and closes nothing in it
    rcases held_eq_or_acts hop i with ⟨heq, hne⟩ | ⟨action, rfl⟩
    · have hi₀ : w.held i = some (.async a) := heq ▸ hi
      obtain ⟨since, hsince, hrequests, start, hstart, hfollows⟩ := ih hl.left hk.left hi₀
      have hspares := hbefore.spares hop hl hne
        (mem_descriptors_of_discoveryIn (hbefore.discoveryIn_of_socket hi₀ rfl))
      refine ⟨_, hsince.kept hop hi rfl, ?_, start, hstart, ?_⟩
      · rw [List.forall_mem_append, List.forall_mem_singleton, request?_eq_none hne]
        exact ⟨hrequests, nofun⟩
      · rw [lastRequest_concat, request?_eq_none hne, Option.none_or]
        rwa [word_eq_of_spares hspares hk]
    · obtain ⟨s, hact⟩ := yields_act hop
      rw [hi] at hact
      obtain ⟨hclosed, hkeeping⟩ := (Endpoint.Acting.of_yields hact).keeping
      have hnot : a.socket.rawFd ∉ u.closed := by simp [hclosed]
      have hopen' := hafter.discoveryIn_of_socket hi rfl
      cases hkeeping with
      | kept he₀ hfd₀ hasks =>
        have hopen := hbefore.discoveryIn_of_socket he₀ rfl
        obtain ⟨since, hsince, hrequests, start, hstart, hfollows⟩ := ih hl.left hk.left he₀
        rw [hfd₀] at hopen hsince hfollows
        refine ⟨_, hsince.kept hop hi rfl, ?_, start, hstart, ?_⟩
        · rw [List.forall_mem_append, List.forall_mem_singleton]
          refine ⟨hrequests, fun on hon => ?_⟩
          by_cases hdone : reply = .done
          · rw [hdone, request?_done] at hon
            rw [hasks on hdone hon]
          · rw [request?_of_ne_done hdone] at hon
            cases hon
        · rw [lastRequest_concat]
          exact follows_of_act hbefore hop hl hk hopen hopen' hnot hfollows
      | @watched d he₀ hfd₀ haction hdone =>
        subst haction hdone
        have hopen := hbefore.discoveryIn_of_socket he₀ rfl
        rw [hfd₀] at hopen
        have hflag := (follows_of_act hbefore hop hl hk hopen hopen' hnot (.refl _)).flag
        rw [request?_done, Action.mode?, Option.some_or, Option.elim_some] at hflag
        exact ⟨[], .watched hr he₀ hfd₀ hop, List.forall_mem_nil _, _, hflag, .refl _⟩

/-- Take any history of a workbench, with any answers of a kernel that keeps flag words. A watched
socket in a slot has been taken by the reactor in it, and since then its mode has only been set by
requests for a mode that were made of the socket itself. It is in nonblocking mode if and only if
the last of them, if there was one, has asked for that; so it is in this mode unless the blocking
one was asked for. Any next transfer on it finds it in the same mode at every moment, and only
calls the kernel to transfer frames through it. -/
theorem watched_nonblocking_unless_asked (h : w.After history) (hl : (traceOf history).Lawful)
    (hk : (traceOf history).KeepsFlags word) (hi : w.held i = some (.async a)) :
    ∃ since, WatchedSince i a.socket.rawFd history since w ∧
      (∀ step ∈ since, ∀ on, step.request? i = some on →
        step.operation = .act i (.setNonblocking on)) ∧
      word (traceOf history) a.socket.rawFd &&& Request.nonblockingFlag =
        Request.modeFlag (nonblockingAfter i since) ∧
      ((∀ step ∈ since, step.operation ≠ .act i (.setNonblocking false)) →
        nonblockingAfter i since = true) ∧
      ∀ action u reply w', action.transfers → (w.perform (.act i action)).Yields u (reply, w') →
        (traceOf history ++ u).Lawful → (traceOf history ++ u).KeepsFlags word →
        u.Asks (Request.Exchanges a.socket.rawFd) ∧
          ∀ v x, u = v ++ x → word (traceOf history ++ v) a.socket.rawFd &&&
            Request.nonblockingFlag = Request.modeFlag (nonblockingAfter i since) := by
  obtain ⟨since, hsince, hrequests, start, hstart, hfollows⟩ := h.exists_watchedSince hl hk hi
  have hflag : word (traceOf history) a.socket.rawFd &&& Request.nonblockingFlag =
      Request.modeFlag (nonblockingAfter i since) := by
    rw [hfollows.flag, hstart, nonblockingAfter]
    cases lastRequest i since <;> rfl
  refine ⟨since, hsince, hrequests, hflag, fun hnever => ?_, ?_⟩
  · rw [nonblockingAfter]
    cases hlast : lastRequest i since with
    | none => rfl
    | some on =>
      obtain ⟨step, hmem, hstep⟩ := List.mem_filterMap.mp (List.mem_of_getLast? hlast)
      cases on with
      | true => rfl
      | false => exact absurd (hrequests step hmem false hstep) (hnever step hmem)
  · intro action u reply w' htransfers hop hl' hk'
    obtain ⟨s, hact⟩ := yields_act hop
    rw [hi] at hact
    have hexchanges := (Endpoint.Acting.of_yields hact).exchanges htransfers
    refine ⟨hexchanges, ?_⟩
    rintro v x rfl
    -- No call of the transfer opens a descriptor or sets flags.
    have hsame : word (traceOf history ++ v) a.socket.rawFd =
        word (traceOf history) a.socket.rawFd := by
      rw [← List.append_assoc] at hk'
      refine hk'.left.word_eq_of_not_rewrites ?_
      rintro _ hmem (_ | _)
      · exact hexchanges _ _ (List.mem_append_left x hmem)
      · exact hexchanges _ _ (List.mem_append_left x hmem)
    rw [hsame, hflag]

/-- A connection is wrapped and watched, and then the blocking mode is asked for. -/
def reaching (slot : Fin slots) : List (Operation slots) :=
  wrapping slot ++ [.act slot .toAsync, .act slot (.setNonblocking false)]

/-- What comes of the first steps of `reaching` on a machine with one interface. -/
def reached (slot : Fin slots) (n : Nat) :
    Outcome SimulatedState (List Reply × Workbench slots) :=
  simulate ((reaching slot).take n) .oneInterface

def reachedHistory (slot : Fin slots) (n : Nat) : List (Step slots) :=
  empty.record .oneInterface ((reaching slot).take n)

lemma after_reachedHistory (slot : Fin slots) (n : Nat) :
    (reached slot n).value.2.After (reachedHistory slot n) :=
  after_simulate _ _

lemma traceOf_reachedHistory (slot : Fin slots) (n : Nat) :
    traceOf (reachedHistory slot n) = (reached slot n).trace :=
  traceOf_record _ _ _

lemma lawful_reachedHistory (slot : Fin slots) (n : Nat) :
    (traceOf (reachedHistory slot n)).Lawful :=
  traceOf_reachedHistory slot n ▸ lawful_simulate _ _

lemma keepsFlags_reachedHistory (slot : Fin slots) (n : Nat) :
    (traceOf (reachedHistory slot n)).KeepsFlags (Trace.writtenWord SimulatedState.newFlags) :=
  traceOf_reachedHistory slot n ▸ keepsFlags_run_simulated _ rfl

theorem watched_nonblocking_unless_asked_taken :
    (reached (0 : Fin 1) 4).value.2.held 0 = some (.async ⟨wrapped⟩) ∧
      ∃ since,
        WatchedSince 0 wrapped.rawFd (reachedHistory (0 : Fin 1) 4) since (reached 0 4).value.2 ∧
        (traceOf (reachedHistory (0 : Fin 1) 4)).writtenWord SimulatedState.newFlags
          wrapped.rawFd &&& Request.nonblockingFlag =
            Request.modeFlag (nonblockingAfter 0 since) := by
  have hi : (reached (0 : Fin 1) 4).value.2.held 0 = some (.async ⟨wrapped⟩) := by decide +kernel
  obtain ⟨since, hsince, -, hflag, -⟩ := watched_nonblocking_unless_asked
    (after_reachedHistory 0 4) (lawful_reachedHistory 0 4) (keepsFlags_reachedHistory 0 4) hi
  exact ⟨hi, since, hsince, hflag⟩

/-- The socket is still watched, and no longer in nonblocking mode. -/
theorem watched_blocking_once_asked :
    (reached (0 : Fin 1) 5).value.2.After (reachedHistory 0 5) ∧
      (traceOf (reachedHistory (0 : Fin 1) 5)).Lawful ∧
      (traceOf (reachedHistory (0 : Fin 1) 5)).KeepsFlags
        (Trace.writtenWord SimulatedState.newFlags) ∧
      (reached (0 : Fin 1) 5).value.2.held 0 = some (.async ⟨wrapped⟩) ∧
      (traceOf (reachedHistory (0 : Fin 1) 5)).writtenWord SimulatedState.newFlags wrapped.rawFd &&&
        Request.nonblockingFlag = 0 :=
  ⟨after_reachedHistory 0 5, lawful_reachedHistory 0 5, keepsFlags_reachedHistory 0 5,
    by decide +kernel, by decide +kernel⟩

end Workbench

end PppoeSetup
