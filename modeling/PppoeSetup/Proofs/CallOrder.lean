import PppoeSetup.Proofs.Ledger.Runs

/-!
# The order of calls

What may be called on a descriptor depends on what has been called on it since it was opened, and
on what its owner has done right before. Every run keeps to this order.
-/

namespace PppoeSetup

open Kernel Ledger

/-! ### What comes right before a call -/

namespace Kernel.Trace

/-- The stage of a descriptor after a trace, if it is open. -/
def stage (t : Trace) (fd : Descriptor) : Option Stage := (Ledger.empty.through t).stage fd

/-- Every call is about an open descriptor, at a stage that allows it. -/
def KeepsStages (t : Trace) : Prop :=
  ∀ v r answer x, t = v ++ .call r answer :: x → ∀ fd, r.descriptor? = some fd →
    ∃ stage, Trace.stage v fd = some stage ∧ stage.allows r

/-- A discovery socket has just been enabled; opening the control socket may have followed. -/
inductive EndsEnabled (fd : Descriptor) : Trace → Prop
  | enabled {t : Trace} : EndsEnabled fd (t ++ [.call (.setOption fd .broadcast) (.ok ())])
  | control {t : Trace} {control : Descriptor} : EndsEnabled fd t →
    EndsEnabled fd (t ++ [.call (.openSocket .control) (.ok control)])
  | event {t : Trace} {e : Event} : EndsEnabled fd t → EndsEnabled fd (t ++ [.event e])

/-- The index for a discovery socket that has just been enabled was resolved by the last call. -/
inductive EndsResolved (fd : Descriptor) (index : UInt32) : Trace → Prop
  | resolved {t : Trace} {control : Descriptor} {name : Vector UInt8 16} : EndsEnabled fd t →
    EndsResolved fd index (t ++ [.call (.interfaceIndex control name) (.ok index)])
  | event {t : Trace} {e : Event} : EndsResolved fd index t →
    EndsResolved fd index (t ++ [.event e])

/-- The limit of a session socket was set by the last call. -/
inductive EndsLimited (fd : Descriptor) (limit : Wire.TimeInterval) : Trace → Prop
  | limited {t : Trace} :
    EndsLimited fd limit (t ++ [.call (.setOption fd (.sendTimeout limit)) (.ok ())])
  | event {t : Trace} {e : Event} : EndsLimited fd limit t → EndsLimited fd limit (t ++ [.event e])

end Kernel.Trace

open Trace

/-- What a lead tells about the trace that led up to it. -/
def Kernel.Lead.Describes : Lead → Trace → Prop
  | .nothing, _ => True
  | .enabled fd, t => EndsEnabled fd t
  | .resolved fd index, t => EndsResolved fd index t
  | .limited fd limit, t => EndsLimited fd limit t

lemma Kernel.Lead.Describes.event {l : Lead} {t : Trace} (h : l.Describes t) (e : Event) :
    l.Describes (t ++ [.event e]) := by
  cases l with
  | nothing => trivial
  | enabled fd => exact EndsEnabled.event h
  | resolved fd index => exact EndsResolved.event h
  | limited fd limit => exact EndsLimited.event h

lemma Kernel.Lead.Describes.call {l : Lead} {t : Trace} (h : l.Describes t) (r : Request)
    (a : r.Answer) : (l.after r a).Describes (t ++ [.call r a]) := by
  -- three requests make a lead or keep one; after all others there is none
  cases r with
  | setOption fd option =>
    cases a with
    | error e => cases l <;> cases option <;> trivial
    | ok _ =>
      cases option with
      | broadcast => cases l <;> exact EndsEnabled.enabled
      | sendTimeout limit => cases l <;> exact EndsLimited.limited
  | openSocket kind =>
    cases l with
    | enabled fd =>
      cases kind with
      -- opening the control socket may stand between enabling and resolving
      | control =>
        cases a with
        | error e => trivial
        | ok control => exact EndsEnabled.control h
      | session | discovery => cases a <;> trivial
    | _ => cases kind <;> cases a <;> trivial
  | interfaceIndex control name =>
    cases l with
    | enabled fd =>
      cases a with
      | error e => trivial
      | ok index => exact EndsResolved.resolved h
    | _ => trivial
  | _ => cases l <;> trivial

/-- The lead of a trace, from a start without one, tells how the trace ends. -/
lemma Kernel.Ledger.describes_lead {L : Ledger} (hL : L.lead = .nothing) (t : Trace) :
    (L.through t).lead.Describes t := by
  -- from the left end to the right, since a lead is about the latest calls
  induction t using List.reverseRecOn with
  | nil =>
    rw [through_nil, hL]
    trivial
  | append_singleton t entry ih =>
    rw [through_append]
    cases entry with
    | event e => exact ih.event e
    | call r a => exact ih.call r a

/-! ### Calls in order -/

/-- What is asked of a call within an operation, given what has happened before the operation and
in it. -/
structure Workbench.InOrder {slots : Nat} (w : Workbench slots) (op : Operation slots)
    (before earlier : Trace) (r : Request) : Prop where
  /-- The descriptor is open, and at a stage that allows the call. -/
  allowed {fd : Descriptor} : r.descriptor? = some fd →
    ∃ stage, (before ++ earlier).stage fd = some stage ∧ stage.allows r
  /-- A discovery socket is bound to the index that was resolved for it right before. -/
  resolved {fd : Descriptor} {address : Wire.LinkAddress} : r = .bind fd address →
    ∃ index, address = .discoveryOn index ∧ EndsResolved fd index earlier
  /-- A session socket is used by the connection it belongs to, and while the discovery socket of
  that connection is open and bound. -/
  paired {fd : Descriptor} :
    ((∃ limit, r = .setOption fd (.sendTimeout limit)) ∨ (∃ address, r = .connect fd address) ∨
      r = .channelIndex fd) →
    ∃ c, w.client op = some c ∧ c.session = some fd ∧
      ∃ discovery, c.discovery = some discovery ∧ (before ++ earlier).stage discovery = some .bound
  /-- Zero is no session id to connect to. -/
  identified {fd : Descriptor} {address : Wire.SessionAddress} : r = .connect fd address →
    address.sessionId ≠ 0
  /-- If there is a limit, a connect comes right after it has been set. -/
  limited {fd : Descriptor} {address : Wire.SessionAddress} {c : Connection} {limit : Duration} :
    r = .connect fd address → w.client op = some c → c.timeout = some limit →
    EndsLimited fd (.ofDuration limit) earlier

namespace Workbench

variable {slots : Nat} {t u : Trace} {w w' : Workbench slots} {op : Operation slots} {reply : Reply}

lemma inOrder_of_permits {L : Ledger} {before earlier : Trace} {r : Request}
    (h : L.Permits (w.client op) r)
    (hs : ∀ fd, L.stage fd = (before ++ earlier).stage fd) (hl : L.lead.Describes earlier) :
    w.InOrder op before earlier r := by
  -- what the ledger permits is about its stages and its lead; both are told by the trace
  obtain ⟨hallows, hr⟩ := h
  constructor
  case allowed =>
    intro fd hfd
    rw [← hs]
    exact hallows fd hfd
  case resolved =>
    rintro fd address rfl
    obtain ⟨index, hlead, rfl⟩ := hr
    rw [hlead] at hl
    exact ⟨index, rfl, hl⟩
  case paired =>
    have hserves {fd : Descriptor} (h : L.Serves (w.client op) fd) :
        ∃ c, w.client op = some c ∧ c.session = some fd ∧ ∃ discovery,
          c.discovery = some discovery ∧ (before ++ earlier).stage discovery = some .bound := by
      obtain ⟨c, hc, hfd, discovery, hd, hbound⟩ := h
      exact ⟨c, hc, hfd, discovery, hd, by rw [← hs, hbound]⟩
    rintro fd (⟨limit, rfl⟩ | ⟨address, rfl⟩ | rfl)
    · exact hserves hr
    · exact hserves hr.1
    · exact hserves hr
  case identified =>
    rintro fd address rfl
    exact hr.2.1
  case limited =>
    rintro fd address c limit rfl hc hlimit
    rw [hr.2.2 c hc limit hlimit] at hl
    exact hl

/-- Whatever is done and whatever the kernel answers: all calls of the run are about open
descriptors at stages that allow them, each call of the next operation is in order, and the end of
the run only closes. -/
theorem calls_in_order (h : w.Reachable t) (hl : t.Lawful) :
    t.KeepsStages ∧
      (∀ op u reply w', (w.perform op).Yields u (reply, w') → (t ++ u).Lawful →
        ∀ v r answer x, u = v ++ .call r answer :: x → w.InOrder op t v r) ∧
      ∀ u, w.shutDown.Yields u () → (t ++ u).KeepsStages ∧ u.OnlyCloses := by
  have hallows := h.allows hl
  refine ⟨along_iff.mp hallows, ?_, ?_⟩
  · intro op u reply w' hop hlu v r answer x hu
    -- the ledger forgets its lead when an operation starts, and keeps the stages
    have hstart : (Ledger.empty.through t).restart.stage = (Ledger.empty.through t).stage := rfl
    have hpermits := along_iff.mp (h.permits hop hlu hstart) v r answer x hu
    have hstage (fd : Descriptor) : (((Ledger.empty.through t).restart).through v).stage fd =
        (t ++ v).stage fd := by
      rw [Trace.stage, through_append, stage_through_congr hstart]
    exact inOrder_of_permits hpermits hstage (describes_lead rfl v)
  · intro u hu
    obtain ⟨halong, -⟩ := along_shutDown hu (h.holds hl)
    have hclosing := halong.mono fun _ _ _ hp => hp.1
    exact ⟨along_iff.mp (along_append.mpr ⟨hallows, hclosing⟩), onlyCloses_shutDown hu⟩

/-- What is wrapped can still be connected, and its calls are in order. -/
theorem calls_in_order_connect :
    wrappingOutcome.trace.stage 102 = some .bound ∧ wrappingOutcome.trace.KeepsStages ∧
      ∀ v r answer x,
        ((wrappingOutcome.value.2.perform (.act 0 (.connect 7))).run simulated
          wrappingOutcome.state).trace = v ++ .call r answer :: x →
        wrappingOutcome.value.2.InOrder (.act 0 (.connect 7)) wrappingOutcome.trace v r := by
  have hreach : wrappingOutcome.value.2.Reachable wrappingOutcome.trace := reachable_simulate _ _
  have hl := lawful_run_simulated
    (empty.performAll (wrapping (0 : Fin 1)) >>= fun r => r.2.perform (.act 0 (.connect 7)))
    .oneInterface
  rw [Program.run_bind] at hl
  obtain ⟨hstages, hnext, -⟩ := calls_in_order hreach (lawful_simulate _ _)
  exact ⟨by decide +kernel, hstages, hnext _ _ _ _ (Program.yields_run _ _ _) hl⟩

end Workbench

end PppoeSetup
