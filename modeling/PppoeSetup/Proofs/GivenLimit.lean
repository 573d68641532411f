import Mathlib.Algebra.Ring.Int.Defs
import Mathlib.Tactic.Common
import PppoeSetup.Proofs.ConfiguredLimit

/-!
# Limits that are given

A limit that a connection is given is set before every connect, until another one is given. The
option counts in microseconds and in signed seconds: of a limit below one microsecond nothing is
left, which stands for no limit, and from `2 ^ 63` seconds on the sign changes. All others bound
the connect.
-/

namespace PppoeSetup

open Kernel Trace Wire Connection

/-! ### What the option holds of a limit -/

namespace Wire.TimeInterval

variable {d : Duration}

/-- The interval bounds what it is set for: it is not negative, and not the zero that stands for
no limit. -/
structure Bounds (t : TimeInterval) : Prop where
  seconds : 0 ≤ t.seconds.toInt
  micros : 0 ≤ t.micros.toInt
  nonzero : t.seconds.toInt ≠ 0 ∨ t.micros.toInt ≠ 0

/-- The seconds keep their bits, and change their sign with the highest of them. -/
lemma toInt_seconds_of_le (h : 2 ^ 63 ≤ d.seconds.toNat) :
    (ofDuration d).seconds.toInt = d.seconds.toNat - 2 ^ 64 := by
  have hlt := d.seconds.toNat_lt
  have hseconds : (ofDuration d).seconds = Int64.ofNat d.seconds.toNat := by
    rw [← UInt64.toInt64_ofNat', UInt64.ofNat_toNat, ofDuration]
  have hsize : (Int64.size : Int) = 2 ^ 64 := rfl
  rw [hseconds, Int64.toInt_ofNat', Int.bmod_def, hsize]
  split <;> omega

lemma toInt_seconds_neg_iff : (ofDuration d).seconds.toInt < 0 ↔ 2 ^ 63 ≤ d.seconds.toNat := by
  have hsize := d.seconds.toNat_lt
  by_cases h : d.seconds.toNat < 2 ^ 63
  · rw [toInt_seconds_ofDuration h]
    omega
  · rw [toInt_seconds_of_le (by omega)]
    omega

lemma bounds_ofDuration_iff :
    (ofDuration d).Bounds ↔ 1000 ≤ d.toNanos ∧ d.seconds.toNat < 2 ^ 63 := by
  have hneg := toInt_seconds_neg_iff (d := d)
  have hmicros := toInt_micros_ofDuration d
  unfold Duration.toNanos
  constructor
  · rintro ⟨hseconds, -, hnonzero⟩
    have hlt : d.seconds.toNat < 2 ^ 63 := by omega
    rw [toInt_seconds_ofDuration hlt] at hnonzero
    exact ⟨by omega, hlt⟩
  · rintro ⟨hlong, hlt⟩
    have hseconds := toInt_seconds_ofDuration hlt
    exact ⟨by omega, by omega, by omega⟩

lemma eq_zero_of_toInt {t : TimeInterval} (hs : t.seconds.toInt = 0) (hm : t.micros.toInt = 0) :
    t = ⟨0, 0⟩ := by
  have hseconds : t.seconds = 0 := Int64.toInt_inj.mp (hs.trans Int64.toInt_zero.symm)
  have hmicros : t.micros = 0 := Int64.toInt_inj.mp (hm.trans Int64.toInt_zero.symm)
  exact congrArg₂ mk hseconds hmicros

/-- Nothing is left of a limit below one microsecond, and of no other one. -/
lemma ofDuration_eq_zero_iff : ofDuration d = ⟨0, 0⟩ ↔ d.toNanos < 1000 := by
  have hmicros := toInt_micros_ofDuration d
  have hneg := toInt_seconds_neg_iff (d := d)
  unfold Duration.toNanos
  constructor
  · intro h
    rw [h] at hmicros hneg
    have hlt : d.seconds.toNat < 2 ^ 63 := by simpa using hneg
    have hseconds := toInt_seconds_ofDuration hlt
    rw [h] at hseconds
    simp only [Int64.toInt_zero] at hmicros hseconds
    omega
  · intro h
    have hseconds := toInt_seconds_ofDuration (d := d) (by omega)
    exact eq_zero_of_toInt (by omega) (by omega)

end Wire.TimeInterval

/-! ### Connecting under a limit -/

/-- The id of the session that an action connects. -/
def Action.sessionId? : Action → Option UInt16
  | connect sessionId | connectTo sessionId _ => some sessionId
  | _ => none

/-- Under a limit, a session is connected right after the limit has been set on the same socket,
if it can be set. -/
inductive Connection.Bounded (limit : Duration) (fd : Descriptor) : Trace → Prop
  | refused (e : Errno) :
    Bounded limit fd [.call (.setOption fd (.sendTimeout (.ofDuration limit))) (.error e)]
  | tried {address : SessionAddress} {answer : Except Errno Unit} {rest : Trace} :
    Bounded limit fd (.call (.setOption fd (.sendTimeout (.ofDuration limit))) (.ok ()) ::
      .call (.connect fd address) answer :: rest)

lemma Connection.Connecting.bounded {c : Connection} {sessionId : UInt16} {remote : MacAddress}
    {t : Trace} {result : Except SetupError Unit} {limit : Duration}
    (h : Connecting c sessionId remote t result) (hid : sessionId ≠ 0) (hready : c.state = .ready)
    (hname : c.name.isSome) (hlimit : c.timeout = some limit) :
    ∃ fd, c.session = some fd ∧ Bounded limit fd t := by
  obtain ⟨hs, hd⟩ := state_eq_ready.mp hready
  cases h with
  | reserved hreserved => exact absurd hreserved hid
  | notReady _ hmissing =>
    rcases hmissing with h | h | h
    · simp [h] at hs
    · simp [h] at hname
    · simp [h] at hd
  | unlimited e _ hfd _ _ htimeout =>
    cases hlimit.symm.trans htimeout
    exact ⟨_, hfd, .refused e⟩
  | refused _ _ hfd _ _ hl | connected _ hfd _ _ hl =>
    rw [hlimit] at hl
    cases hl
    exact ⟨_, hfd, .tried⟩

namespace Workbench

variable {slots : Nat} {w w' : Workbench slots} {i : Fin slots} {e : Endpoint} {t u : Trace}
  {action : Action} {reply : Reply} {limit : Duration}

lemma exists_connecting_of_sessionId {sessionId : UInt16} (hi : w.held i = some e)
    (hid : action.sessionId? = some sessionId)
    (hop : (w.perform (.act i action)).Yields u (reply, w')) :
    ∃ remote result, Connecting e.underlying sessionId remote u result := by
  obtain ⟨s, ha⟩ := yields_act hop
  rw [hi] at ha
  generalize w'.held i = held' at ha
  cases action with
  | connect id | connectTo id remote =>
    obtain ⟨r, hc, ⟨⟩, rfl⟩ := Shared.yields_lift_map.mp ha
    cases hid
    exact ⟨_, r, .of_yields hc⟩
  | _ => cases hid

/-- A connection has been given a limit, and since then no other connection has been put into its
slot and no other limit has been given. -/
inductive Limited (i : Fin slots) (limit : Duration) : Trace → Workbench slots → Prop
  | given {t u : Trace} {w w' : Workbench slots} {c : Connection} {reply : Reply} :
    w.Reachable t → w.held i = some (.connection c) →
    (w.perform (.act i (.setTimeout (some limit)))).Yields u (reply, w') →
    Limited i limit (t ++ u) w'
  | kept {t u : Trace} {w w' : Workbench slots} {op : Operation slots} {reply : Reply} :
    Limited i limit t w → (w.perform op).Yields u (reply, w') →
    (∀ action, op = .act i action → action.Keeps) → Limited i limit (t ++ u) w'

lemma Limited.reachable (h : w.Limited i limit t) : w.Reachable t := by
  induction h with
  | given hr _ hop => exact hr.step hop
  | kept _ hop _ ih => exact ih.step hop

lemma Limited.timeout_eq (h : w.Limited i limit t) (hi : w.held i = some e) :
    e.underlying.timeout = some limit := by
  induction h generalizing e with
  | given _ hheld hop =>
    obtain ⟨s, ha⟩ := yields_act hop
    rw [hheld, hi] at ha
    cases ha
    rfl
  | kept _ hop hkeeps ih =>
    obtain ⟨e₀, he₀, heq⟩ := timeout_eq_of_keeps hop hkeeps hi
    exact heq.trans (ih he₀)

lemma Limited.bounded {sessionId : UInt16} (h : w.Limited i limit t) (hi : w.held i = some e)
    (hid : action.sessionId? = some sessionId) (hnonzero : sessionId ≠ 0)
    (hready : e.underlying.state = .ready)
    (hop : (w.perform (.act i action)).Yields u (reply, w')) :
    ∃ fd, e.underlying.session = some fd ∧ Bounded limit fd u := by
  obtain ⟨remote, result, hc⟩ := exists_connecting_of_sessionId hi hid hop
  have hnamed := (h.reachable.wellFormed hi).underlying.named (state_eq_ready.mp hready).1
  exact hc.bounded hnonzero hready hnamed (h.timeout_eq hi)

/-- A limit that is given to a connection, whatever else is done, and whatever the kernel has
answered:

* the option bounds the connect if and only if the limit is at least one microsecond and has
  fewer than `2 ^ 63` seconds. It is then the limit in whole microseconds; below one microsecond
  it is the zero that stands for no limit, and above it is negative;
* the connection keeps the limit, and every connect comes right after the option of the same
  socket has been set to it;
* a ready connection that is to be connected, with an id that is not reserved, sets the option
  first, and is connected if that succeeds. -/
theorem given_limit_bounds (limit : Duration) :
    ((TimeInterval.ofDuration limit).Bounds ↔
      1000 ≤ limit.toNanos ∧ limit.seconds.toNat < 2 ^ 63) ∧
    ((TimeInterval.ofDuration limit).Bounds →
      (TimeInterval.ofDuration limit).limit? = some ((limit.toNanos / 1000 * 1000 : Nat) : Int)) ∧
    (TimeInterval.ofDuration limit = ⟨0, 0⟩ ↔ limit.toNanos < 1000) ∧
    ((TimeInterval.ofDuration limit).seconds.toInt < 0 ↔ 2 ^ 63 ≤ limit.seconds.toNat) ∧
    ∀ {slots : Nat} {w : Workbench slots} {i : Fin slots} {e : Endpoint} {t : Trace},
      w.Limited i limit t → w.held i = some e →
      e.underlying.timeout = some limit ∧
      ∀ {action u reply w'}, (w.perform (.act i action)).Yields u (reply, w') →
        (∀ v fd address answer x, u = v ++ .call (.connect fd address) answer :: x →
          e.underlying.session = some fd ∧
          v = [.call (.setOption fd (.sendTimeout (.ofDuration limit))) (.ok ())]) ∧
        ∀ sessionId, action.sessionId? = some sessionId → sessionId ≠ 0 →
          e.underlying.state = .ready →
          ∃ fd, e.underlying.session = some fd ∧ Bounded limit fd u := by
  refine ⟨TimeInterval.bounds_ofDuration_iff, ?_, TimeInterval.ofDuration_eq_zero_iff,
    TimeInterval.toInt_seconds_neg_iff, ?_⟩
  · intro hbounds
    obtain ⟨hlong, hlt⟩ := TimeInterval.bounds_ofDuration_iff.mp hbounds
    rw [TimeInterval.limit?_ofDuration_of_lt hlt, if_neg (by omega)]
  intro slots w i e t hlimited hi
  have htimeout := hlimited.timeout_eq hi
  refine ⟨htimeout, ?_⟩
  intro action u reply w' hop
  constructor
  · rintro v fd address answer x rfl
    obtain ⟨j, e', _, _, _, _, ⟨⟩, he', hconnecting, -⟩ :=
      exists_connecting_of_perform hop (List.mem_append_right v List.mem_cons_self) fun _ => id
    cases hi.symm.trans he'
    obtain ⟨hfd, hv⟩ := hconnecting.limiting rfl
    rw [htimeout] at hv
    cases hv
    exact ⟨hfd, rfl⟩
  · intro sessionId hid hnonzero hready
    exact hlimited.bounded hi hid hnonzero hready hop

/-- A connection has come up. -/
def broughtUp (slot : Fin slots) : Outcome SimulatedState (List Reply × Workbench slots) :=
  simulate [.act slot .create, .act slot (.bringUp (some "eth0"))] .oneInterface

/-- It is given a limit. -/
def limited (limit : Duration) (slot : Fin slots) :
    Outcome SimulatedState (Reply × Workbench slots) :=
  ((broughtUp slot).value.2.perform (.act slot (.setTimeout (some limit)))).run simulated
    (broughtUp slot).state

/-- It is connected. -/
def connectedUnder (limit : Duration) (slot : Fin slots) :
    Outcome SimulatedState (Reply × Workbench slots) :=
  ((limited limit slot).value.2.perform (.act slot (.connect 7))).run simulated
    (limited limit slot).state

lemma held_broughtUp : (broughtUp (0 : Fin 1)).value.2.held 0 =
    some (.connection wrapped.connection) := by
  decide +kernel

lemma limited_limited (limit : Duration) : (limited limit (0 : Fin 1)).value.2.Limited 0 limit
    ((broughtUp (0 : Fin 1)).trace ++ (limited limit (0 : Fin 1)).trace) := by
  have hreached : (broughtUp (0 : Fin 1)).value.2.Reachable (broughtUp (0 : Fin 1)).trace :=
    reachable_simulate _ _
  have hgiven : ((broughtUp (0 : Fin 1)).value.2.perform (.act 0 (.setTimeout (some limit)))).Yields
      (limited limit (0 : Fin 1)).trace (limited limit (0 : Fin 1)).value :=
    Program.yields_run simulated _ (broughtUp (0 : Fin 1)).state
  exact .given hreached held_broughtUp hgiven

lemma held_limited (limit : Duration) : (limited limit (0 : Fin 1)).value.2.held 0 =
    some (.connection { wrapped.connection with timeout := some limit }) := by
  with_unfolding_all rfl

lemma yields_connectedUnder (limit : Duration) :
    ((limited limit (0 : Fin 1)).value.2.perform (.act 0 (.connect 7))).Yields
      (connectedUnder limit (0 : Fin 1)).trace (connectedUnder limit (0 : Fin 1)).value :=
  Program.yields_run simulated _ (limited limit (0 : Fin 1)).state

/-- A positive limit is given to a connection, which is ready, and this connect comes after the
option has been set to an interval that does not bound it. -/
def Loses (limit : Duration) (interval : TimeInterval) : Prop :=
  0 < limit.toNanos ∧ ¬ interval.Bounds ∧
    ∃ (slots : Nat) (i : Fin slots) (w w' : Workbench slots) (e : Endpoint) (t rest : Trace)
      (reply : Reply) (fd : Descriptor) (address : SessionAddress) (answer : Except Errno Unit),
      w.Limited i limit t ∧ w.held i = some e ∧ e.underlying.state = .ready ∧
      (w.perform (.act i (.connect 7))).Yields
        (.call (.setOption fd (.sendTimeout interval)) (.ok ()) ::
          .call (.connect fd address) answer :: rest) (reply, w')

/-- Every positive limit that is out of range is lost, if the option can be set to what is left
of it: then the trace does not end with the option. -/
lemma loses_ofDuration (hpos : 0 < limit.toNanos)
    (hbounds : ¬ (TimeInterval.ofDuration limit).Bounds)
    (hset : (connectedUnder limit (0 : Fin 1)).trace.length ≠ 1) :
    Loses limit (.ofDuration limit) := by
  have hyields := yields_connectedUnder limit
  obtain ⟨fd, -, hbounded⟩ :=
    (limited_limited limit).bounded (held_limited limit) rfl (by decide) rfl hyields
  generalize (connectedUnder limit (0 : Fin 1)).trace = u at hyields hbounded hset
  cases hbounded with
  | refused e => exact absurd rfl hset
  | tried =>
    exact ⟨hpos, hbounds, _, _, _, _, _, _, _, _, _, _, _, limited_limited limit,
      held_limited limit, rfl, hyields⟩

/-- Half a microsecond becomes no limit, and the shortest of the limits that are too long becomes
the most negative interval. -/
theorem given_limit_lost :
    Loses ⟨0, 500⟩ ⟨0, 0⟩ ∧ Loses ⟨9223372036854775808, 0⟩ ⟨-9223372036854775808, 0⟩ := by
  have hlost {limit : Duration} (hpos : 0 < limit.toNanos)
      (hrange : ¬ (1000 ≤ limit.toNanos ∧ limit.seconds.toNat < 2 ^ 63)) :
      (connectedUnder limit (0 : Fin 1)).trace.length ≠ 1 → Loses limit (.ofDuration limit) :=
    loses_ofDuration hpos (TimeInterval.bounds_ofDuration_iff.not.mpr hrange)
  constructor
  · exact hlost (by decide) (by decide) (by decide +kernel)
  · exact hlost (by decide) (by decide) (by decide +kernel)

/-- One and a half microseconds are kept as one. -/
theorem given_limit_bounds_micros :
    (TimeInterval.ofDuration ⟨0, 1500⟩).limit? = some 1000 ∧
      Bounded ⟨0, 1500⟩ 100 (connectedUnder ⟨0, 1500⟩ (0 : Fin 1)).trace := by
  obtain ⟨hbounds, hlimit, -, -, hrun⟩ := given_limit_bounds ⟨0, 1500⟩
  obtain ⟨-, hnext⟩ := hrun (limited_limited _) (held_limited _)
  obtain ⟨fd, hfd, hbounded⟩ := (hnext (yields_connectedUnder _)).2 7 rfl (by decide) rfl
  cases hfd
  exact ⟨hlimit (hbounds.mpr ⟨by decide, by decide⟩), hbounded⟩

end Workbench

end PppoeSetup
