import PppoeSetup.Proofs.Course.Facts
import PppoeSetup.Proofs.Kernel.StatusFlags

/-!
# Status flags in the courses

Only the setting of a mode is about status flags, and it is one reading and one writing of them.
When a connection comes up, nothing is called after its discovery socket has been bound.
-/

namespace PppoeSetup

open Kernel Trace Connection DiscoverySocket AsyncSocket ControlSocket

namespace Kernel

/-- The call is not about status flags. -/
def Request.LeavesFlags : Request → Prop
  | .statusFlags _ | .setStatusFlags .. => False
  | _ => True

lemma Request.Prepares.leavesFlags {interface : String} {r : Request} (h : r.Prepares interface) :
    r.LeavesFlags := by
  cases r <;> trivial

lemma Request.Connects.leavesFlags {r : Request} (h : r.Connects) : r.LeavesFlags := by
  cases r <;> trivial

lemma Request.Exchanges.leavesFlags {fd : Descriptor} {r : Request} (h : r.Exchanges fd) :
    r.LeavesFlags := by
  cases r <;> trivial

namespace Trace

variable {t u : Trace} {fd : Descriptor}

/-- No call is about status flags. -/
abbrev LeavesFlags (t : Trace) : Prop := t.Asks Request.LeavesFlags

lemma LeavesFlags.notMem_statusFlags (h : t.LeavesFlags) (fd : Descriptor)
    (a : Except Errno UInt32) : .call (.statusFlags fd) a ∉ t := h (.statusFlags fd) a

lemma LeavesFlags.notMem_setStatusFlags (h : t.LeavesFlags) (fd : Descriptor) (flags : UInt32)
    (a : Except Errno Unit) : .call (.setStatusFlags fd flags) a ∉ t :=
  h (.setStatusFlags fd flags) a

lemma LeavesFlags.not_setsFlags (h : t.LeavesFlags) : ¬ t.SetsFlags fd := by
  rintro ⟨flags, hcall⟩
  exact h.notMem_setStatusFlags _ _ _ hcall

lemma LeavesFlags.switches (h : t.LeavesFlags) (mode : Option Bool) : t.Switches mode where
  written {_ fd flags _} ht := absurd (by simp [ht]) (h.notMem_setStatusFlags fd flags (.ok ()))
  refused _ _ := h.not_setsFlags

lemma OnlyCloses.leavesFlags (h : t.OnlyCloses) : t.LeavesFlags := h.asks fun _ => trivial

lemma Prepares.leavesFlags {interface : String} (h : t.Prepares interface) : t.LeavesFlags :=
  h.mono fun _ => Request.Prepares.leavesFlags

lemma Connects.leavesFlags (h : t.Connects) : t.LeavesFlags :=
  h.mono fun _ => Request.Connects.leavesFlags

/-- The descriptor is bound, and nothing is called after that. -/
def EndsBound (fd : Descriptor) (t : Trace) : Prop :=
  ∃ (x : Trace) (address : Wire.LinkAddress) (events : Trace),
    t = x ++ .call (.bind fd address) (.ok ()) :: events ∧ events.Asks fun _ => False

lemma EndsBound.after (h : u.EndsBound fd) (t : Trace) : (t ++ u).EndsBound fd := by
  obtain ⟨x, address, events, rfl, hevents⟩ := h
  exact ⟨t ++ x, address, events, by simp, hevents⟩

lemma EndsBound.event (h : t.EndsBound fd) (e : Event) : EndsBound fd (t ++ [.event e]) := by
  obtain ⟨x, address, events, rfl, hevents⟩ := h
  exact ⟨x, address, events ++ [.event e], by simp, by simpa using hevents⟩

end Trace

end Kernel

variable {s s' : ControlSocket} {t : Trace} {fd : Descriptor}

/-! ### Courses that leave the flags alone -/

lemma Connection.Channelling.leavesFlags {c : Connection} {r : Except SetupError Int32}
    (h : Channelling c t r) : t.LeavesFlags := by
  cases h <;> simp [Request.LeavesFlags]

lemma DiscoverySocket.Transferring.leavesFlags {d d' : DiscoverySocket}
    (h : Transferring d t d') : t.LeavesFlags :=
  h.exchanges.1.mono fun _ => Request.Exchanges.leavesFlags

lemma AsyncSocket.Awaiting.leavesFlags {d d' : DiscoverySocket} (h : Awaiting d t d') :
    t.LeavesFlags :=
  h.exchanges.1.mono fun _ => Request.Exchanges.leavesFlags

/-! ### Modes -/

namespace DiscoverySocket

variable {d : DiscoverySocket} {on : Bool} {r : Except SetupError Unit} {t u v : Trace}

lemma ModeSetting.setsFlags_iff (h : ModeSetting d on t r) :
    t.SetsFlags fd ↔ fd = d.rawFd ∧ r = .ok () := by
  cases h <;> simp [SetsFlags]

/-- Setting a mode is one reading and one writing of the flags. -/
lemma ModeSetting.switches (h : ModeSetting d on u r) (ht : t.LeavesFlags) (hv : v.LeavesFlags) :
    Switches (some on) (t ++ (u ++ v)) := by
  -- only this setting writes flags, and only in a run that succeeds
  have hsets (fd : Descriptor) (hfd : SetsFlags fd (t ++ (u ++ v))) : r = .ok () := by
    rw [setsFlags_append, setsFlags_append, h.setsFlags_iff] at hfd
    simp only [ht.not_setsFlags, hv.not_setsFlags, false_or, or_false] at hfd
    exact hfd.2
  constructor
  case written =>
    intro x fd flags' y hsplit
    have hr := hsets fd ⟨flags', by simp [hsplit]⟩
    cases h with
    | unread | refused => cases hr
    | set flags =>
      have hsplit' : (t ++ [.call (.statusFlags d.rawFd) (.ok flags)]) ++
          .call (.setStatusFlags d.rawFd (withMode flags on)) (.ok ()) ::
            (.event (.modeSet d.connection.name on) :: v) =
          x ++ .call (.setStatusFlags fd flags') (.ok ()) :: y := by
        rw [← hsplit]
        simp
      -- neither part beside it writes flags, so the written word stands in one place only
      obtain ⟨rfl, hcall, -⟩ := (List.append_cons_inj_of_notMem
        (by simp [ht.notMem_setStatusFlags]) (by simp [hv.notMem_setStatusFlags])).mp hsplit'
      cases hcall
      exact ⟨t, flags, on, rfl, rfl, rfl⟩
  case refused =>
    rintro fd ⟨fd', e, hrefused⟩ hset
    have hr := hsets fd hset
    cases h with
    | unread | refused => cases hr
    | set flags =>
      simp [ht.notMem_statusFlags, hv.notMem_statusFlags, ht.notMem_setStatusFlags,
        hv.notMem_setStatusFlags] at hrefused

end DiscoverySocket

/-! ### Courses that bind a discovery socket -/

namespace Connection

variable {c c' : Connection} {requested : Option String}

lemma Binding.endsBound {index : UInt32} (h : Binding c fd s t (.ok index) s') :
    t.EndsBound fd := by
  cases h with
  | bound => exact ⟨_, _, _, rfl, by simp⟩

lemma BoundOpening.endsBound {index : UInt32} (h : BoundOpening c s t (.ok (fd, index)) s') :
    t.EndsBound fd := by
  cases h with
  | bound _ hb =>
    rw [← List.singleton_append, ← List.append_assoc]
    exact hb.endsBound.after _

lemma SocketsOpening.endsBound {new : Sockets}
    (h : SocketsOpening c requested s t (.ok new) c' s') : t.EndsBound new.discovery := by
  cases h with
  | opened _ hb => exact hb.endsBound.after _

/-- A connection without sockets that comes up has just bound its discovery socket. -/
lemma BringUp.endsBound (h : BringUp c requested s t (.ok ()) c' s') (hs : c.session = none)
    (hd : c.discovery = none) (hfd : c'.discovery = some fd) : t.EndsBound fd := by
  cases h with
  | ready _ ho hr =>
    cases hfd
    obtain ⟨hs₁, hd₁, -⟩ := ho.keeps
    obtain rfl := hr.eq_nil (hs₁.trans hs) (hd₁.trans hd)
    rw [List.append_nil]
    exact ho.endsBound.event _

end Connection

namespace DiscoverySocket

variable {d : DiscoverySocket}

lemma FreshOpening.endsBound {timeout : Option Duration} {name : String}
    (h : FreshOpening (.fresh timeout) name s t (.ok d) s')
    (hfd : d.connection.discovery = some fd) : t.EndsBound fd :=
  h.broughtUp_of_ok.endsBound rfl rfl hfd

end DiscoverySocket

end PppoeSetup
