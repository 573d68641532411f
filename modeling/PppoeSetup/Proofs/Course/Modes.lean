import PppoeSetup.Proofs.Course.Closings
import PppoeSetup.Proofs.Course.StatusFlags
import PppoeSetup.Proofs.Ledger.Endpoints

/-!
# Modes that actions ask for

An action sets no mode but the one that it asks for, and it is done if and only if it has set that
of the discovery socket that it leaves in its slot.
-/

namespace PppoeSetup

open Kernel Trace Connection DiscoverySocket AsyncSocket

/-- The mode that an action asks for: nonblocking if this is true. -/
def Action.mode? : Action → Option Bool
  | setNonblocking on => some on
  | toAsync => some true
  | toBlocking => some false
  | setUpFrom source =>
    match source.read with
    | .ok config => if config.nonblocking then some true else none
    | .error _ => none
  | _ => none

namespace Endpoint

variable {held : Option Endpoint} {e : Endpoint} {s s' : ControlSocket} {action : Action}
  {t : Trace} {reply : Reply} {held' : Option Endpoint} {fd : Descriptor}

lemma mode_of_transfers (h : action.transfers) : action.mode? = none := by
  cases action <;> first | rfl | cases h

lemma mode_setUpFrom {source : Source} {config : SetupConfig} (h : source.read = .ok config) :
    (Action.setUpFrom source).mode? = if config.nonblocking then some true else none := by
  simp only [Action.mode?, h]

/-- An action sets no mode but the one that it asks for. -/
lemma Acting.switches (h : Acting held s action t reply held' s') : t.Switches action.mode? := by
  cases h with
  | idle | timed | unwrapped => exact LeavesFlags.switches asks_nil _
  | created hd | configured _ hd | unreadable _ hd | unreadableSetUp _ hd | dropped hd =>
    exact hd.onlyCloses.leavesFlags.switches _
  | opened hd hf => exact (hf.prepares_after hd.onlyCloses).leavesFlags.switches _
  | setUp hread hd hc =>
    -- a mode is set, if at all, between the opening and the release, and neither of these touches
    -- any flags
    rw [mode_setUpFrom hread]
    cases hc with
    | unnamed => simpa using hd.onlyCloses.leavesFlags.switches _
    | failed _ hf | blocking _ _ hf =>
      exact (hf.prepares_after hd.onlyCloses).leavesFlags.switches _
    | unswitched _ hon hf hm hr =>
      rw [if_pos hon, ← List.append_assoc]
      exact hm.switches (hf.prepares_after hd.onlyCloses).leavesFlags
        hr.onlyCloses.leavesFlags
    | switched _ hon hf hm =>
      rw [if_pos hon, ← List.append_assoc]
      simpa using hm.switches (hf.prepares_after hd.onlyCloses).leavesFlags asks_nil
  | named hn | broughtUp hn => exact hn.prepares.leavesFlags.switches _
  | cleared hc | wrapped hc => exact hc.onlyCloses.leavesFlags.switches _
  | connected hc | connectedTo hc => exact hc.connects.leavesFlags.switches _
  | channelled hc | transferred _ _ hc | awaited _ hc => exact hc.leavesFlags.switches _
  | watched hwatch =>
    cases hwatch with
    | unswitched hm hr => exact hm.switches asks_nil hr.onlyCloses.leavesFlags
    -- registering comes after the mode has been set, and sets none
    | unwatched e hm hr =>
      exact hm.switches asks_nil (by simp [Request.LeavesFlags, hr.onlyCloses.leavesFlags])
    | watched hm => exact hm.switches asks_nil (by simp [Request.LeavesFlags])
  | unwatched hunwatch =>
    cases hunwatch with
    | unswitched hm hr => exact hm.switches asks_nil hr.onlyCloses.leavesFlags
    | switched hm => simpa [Action.mode?] using hm.switches asks_nil asks_nil
  | switched _ hm => simpa [Action.mode?] using hm.switches asks_nil asks_nil

end Endpoint

/-- Nothing is closed after a discovery socket has been bound. -/
lemma Kernel.Trace.EndsBound.exists_bind {t : Trace} {fd : Descriptor} (h : t.EndsBound fd) :
    ∃ (x : Trace) (address : Wire.LinkAddress) (y : Trace),
      t = x ++ [.call (.bind fd address) (.ok ())] ++ y ∧ y.closed = [] := by
  obtain ⟨x, address, events, rfl, hevents⟩ := h
  refine ⟨x, address, events, by simp, ?_⟩
  apply List.filterMap_eq_nil_iff.mpr
  intro entry hentry
  cases entry with
  | event e => rfl
  | call r a => exact (hevents r a hentry).elim

namespace Endpoint

variable {held : Option Endpoint} {e : Endpoint} {s s' : ControlSocket} {action : Action}
  {t : Trace} {reply : Reply} {held' : Option Endpoint} {fd : Descriptor}

/-- How a slot comes by the discovery socket that it holds after an action: it keeps the one that
it has held before, or holds one that has just been bound. -/
inductive Settling (held : Option Endpoint) (fd : Descriptor) (t : Trace) : Prop
  | kept {e : Endpoint} : held = some e → e.underlying.discovery = some fd → t.closed = [] →
    Settling held fd t
  | bound {u v : Trace} : t = u ++ v → u.EndsBound fd → u.LeavesFlags → v.closed = [] →
    Settling held fd t

lemma Acting.settling (h : Acting held s action t reply (some e) s')
    (hw : ∀ e, held = some e → e.WellFormed) (hfd : e.underlying.discovery = some fd) :
    Settling held fd t := by
  -- something is in the slot afterwards, so that the courses which empty it fall away
  generalize hheld : some e = held' at h
  cases h with
  | idle => exact .kept hheld.symm hfd rfl
  | timed | unwrapped =>
    cases hheld
    exact .kept rfl hfd rfl
  | created | configured | cleared =>
    cases hheld
    cases hfd
  | unreadable | unreadableSetUp | dropped => cases hheld
  -- a new discovery socket: binding it is the last call of its opening
  | opened hd hf =>
    obtain ⟨d, rfl, rfl⟩ := made_snd_eq_some.mp hheld.symm
    have hleaves := (hf.prepares_after hd.onlyCloses).leavesFlags
    exact .bound (List.append_nil _).symm ((hf.endsBound hfd).after _) hleaves rfl
  | setUp _ hd hc =>
    obtain ⟨d, rfl, rfl⟩ := made_snd_eq_some.mp hheld.symm
    cases hc with
    | blocking _ _ hf =>
      have hleaves := (hf.prepares_after hd.onlyCloses).leavesFlags
      exact .bound (List.append_nil _).symm ((hf.endsBound hfd).after _) hleaves rfl
    -- only the mode has been set since the bind
    | switched _ _ hf hm =>
      have hleaves := (hf.prepares_after hd.onlyCloses).leavesFlags
      exact .bound (List.append_assoc ..).symm ((hf.endsBound hfd).after _) hleaves hm.quiet.2
  | named hn =>
    cases hheld
    exact .kept rfl (hn.keeps.2.1.symm.trans hfd) hn.quiet.2
  | @broughtUp c _ _ _ _ _ r hb =>
    cases hheld
    -- a ready connection is left as it is; any other one has no sockets, being well-formed, so that
    -- the socket is the one that has just been bound
    by_cases hc : c.state = .ready
    · cases hb with
      | already => exact .kept rfl hfd rfl
      | failed hready | ready hready => exact absurd hc hready
    · obtain ⟨hs, hd⟩ := Connection.WellFormed.bare (hw _ rfl) hc
      cases r with
      | error e =>
        obtain rfl := hb.eq_fresh hc
        cases hfd
      | ok _ =>
        exact .bound (List.append_nil _).symm (hb.endsBound hs hd hfd) hb.prepares.leavesFlags rfl
  | connected hc | connectedTo hc | channelled hc | switched _ hc =>
    cases hheld
    exact .kept rfl hfd hc.quiet.2
  | wrapped hw | watched hw | unwatched hw =>
    obtain ⟨_, rfl, rfl⟩ := made_snd_eq_some.mp hheld.symm
    -- the socket is handed over within the slot
    refine .kept rfl ?_ hw.quiet.2
    cases hw
    exact hfd
  | transferred _ hd ht =>
    cases hheld
    -- a transfer changes counters, and not the connection
    rw [underlying_withSocket hd, ht.connection_eq, ← underlying_of_socket hd] at hfd
    exact .kept rfl hfd ht.quiet.2
  | awaited _ ha =>
    cases hheld
    exact .kept rfl ((congrArg Connection.discovery ha.connection_eq).symm.trans hfd) ha.quiet.2

/-- The flags of a discovery socket that a slot holds after an action have been set in it if and
only if a mode was asked for, and the action has been done. -/
lemma Acting.setsFlags_iff (h : Acting held s action t reply (some e) s')
    (hw : ∀ e, held = some e → e.WellFormed) (hfd : e.underlying.discovery = some fd) :
    t.SetsFlags fd ↔ reply = .done ∧ action.mode?.isSome := by
  -- most courses leave all flags alone, and then it is enough that no mode has been asked for or
  -- that the action has not been done
  have hleaves (ht : t.LeavesFlags) (hmode : action.mode? = none ∨ reply ≠ .done) :
      t.SetsFlags fd ↔ reply = .done ∧ action.mode?.isSome := by
    simp only [ht.not_setsFlags, false_iff, not_and]
    rintro rfl
    simp [hmode.resolve_right (not_not.mpr rfl)]
  generalize hheld : some e = held' at h
  cases h with
  | idle hreply => exact hleaves asks_nil (.inr hreply)
  | created hd | configured _ hd | unreadable _ hd | dropped hd =>
    exact hleaves hd.onlyCloses.leavesFlags (.inl rfl)
  | unreadableSetUp => cases hheld
  | opened hd hf =>
    exact hleaves (hf.prepares_after hd.onlyCloses).leavesFlags (.inl rfl)
  | setUp hread hd hc =>
    obtain ⟨d, rfl, rfl⟩ := made_snd_eq_some.mp hheld.symm
    cases hc with
    | blocking _ hoff hf =>
      refine hleaves (hf.prepares_after hd.onlyCloses).leavesFlags (.inl ?_)
      simp [mode_setUpFrom hread, hoff]
    | switched _ hon hf hm =>
      -- the mode is set on the descriptor that the connection has lent to its discovery socket
      have hlent := (hf.wellFormed (.fresh _)).lent
      have hraw : fd = d.rawFd := Option.some.inj (hfd.symm.trans hlent)
      simp [mode_setUpFrom hread, hon, setsFlags_append, hm.setsFlags_iff, hraw, made]
  | named hn | broughtUp hn => exact hleaves hn.prepares.leavesFlags (.inl rfl)
  | cleared hc | wrapped hc => exact hleaves hc.onlyCloses.leavesFlags (.inl rfl)
  | timed | unwrapped => exact hleaves asks_nil (.inl rfl)
  | connected hc | connectedTo hc => exact hleaves hc.connects.leavesFlags (.inl rfl)
  | channelled hc => exact hleaves hc.leavesFlags (.inl rfl)
  | @watched d _ _ _ hwatch =>
    obtain ⟨a, rfl, rfl⟩ := made_snd_eq_some.mp hheld.symm
    cases hwatch with
    | watched hm =>
      have hlent := DiscoverySocket.WellFormed.lent (hw _ rfl)
      have hraw : fd = d.rawFd := Option.some.inj (hfd.symm.trans hlent)
      simp [Action.mode?, setsFlags_append, hm.setsFlags_iff, hraw, made]
  | @unwatched a _ _ _ hunwatch =>
    obtain ⟨d, rfl, rfl⟩ := made_snd_eq_some.mp hheld.symm
    cases hunwatch with
    | switched hm =>
      have hlent := DiscoverySocket.WellFormed.lent (hw _ rfl)
      have hraw : fd = a.socket.rawFd := Option.some.inj (hfd.symm.trans hlent)
      simp [Action.mode?, hm.setsFlags_iff, hraw, made]
  | @switched e d _ _ _ r hd hm =>
    cases hheld
    have hlent := ((hw _ rfl).socket hd).lent
    rw [underlying_of_socket hd] at hfd
    have hraw : fd = d.rawFd := Option.some.inj (hfd.symm.trans hlent)
    cases r <;> simp [Action.mode?, hm.setsFlags_iff, hraw, Reply.ofResult]
  | transferred ha _ ht | awaited ha ht =>
    exact hleaves ht.leavesFlags (.inl (mode_of_transfers ha))

end Endpoint

end PppoeSetup
