import PppoeSetup.Proofs.ConnectLimit
import PppoeSetup.Proofs.Ledger.Frame
import PppoeSetup.Proofs.Prediction

/-!
# Limits from configurations

A connection that is made from a configuration has the limit of the configuration until it is
given another one, whatever else is done with it. The limit is in whole milliseconds, and the
option holds all of them exactly; zero stands for no limit, and the diagnostics say so.
-/

namespace PppoeSetup

open Kernel Trace Wire Connection DiscoverySocket

/-! ### Whole milliseconds -/

namespace Wire.TimeInterval

variable {ms : UInt64}

lemma length_bytes (t : TimeInterval) : t.bytes.length = 16 := by
  simp [bytes, length_littleEndian]

lemma ofLittleEndian_word (n : UInt64) : ofLittleEndian (littleEndian 8 n.toNat) = n.toNat := by
  rw [ofLittleEndian_littleEndian]
  exact Nat.mod_eq_of_lt n.toNat_lt

lemma ofLittleEndian_take_bytes (t : TimeInterval) :
    ofLittleEndian (t.bytes.take 8) = t.seconds.toUInt64.toNat := by
  rw [bytes, List.take_left' (length_littleEndian ..), ofLittleEndian_word]

lemma ofLittleEndian_drop_bytes (t : TimeInterval) :
    ofLittleEndian (t.bytes.drop 8) = t.micros.toUInt64.toNat := by
  rw [bytes, List.drop_left' (length_littleEndian ..), ofLittleEndian_word]

/-- The interval is so many milliseconds, in the range that the option takes and not read as no
limit. Its sixteen bytes are those of the two words. -/
structure Lasts (t : TimeInterval) (ms : UInt64) : Prop where
  seconds : 0 ≤ t.seconds.toInt ∧ t.seconds.toInt < 2 ^ 63
  micros : 0 ≤ t.micros.toInt ∧ t.micros.toInt < 1000000
  total : t.seconds.toInt * 1000000 + t.micros.toInt = 1000 * ms.toNat
  length_bytes : t.bytes.length = 16
  secondsWord : (ofLittleEndian (t.bytes.take 8) : Int) = t.seconds.toInt
  microsWord : (ofLittleEndian (t.bytes.drop 8) : Int) = t.micros.toInt
  limit : t.limit? = some (ms.toNat * 1000000 : Int)

lemma lasts_ofMillis (h : 0 < ms) : (ofDuration (.ofMillis ms)).Lasts ms := by
  have hexact := Duration.exact_ofMillis h
  have hseconds := toInt_seconds_ofDuration hexact.seconds
  have hmicros := toInt_micros_ofDuration (.ofMillis ms)
  have hwhole : (Duration.ofMillis ms).seconds.toNat = ms.toNat / 1000 := UInt64.toNat_div ..
  have hrest : (Duration.ofMillis ms).nanos.val = ms.toNat % 1000 * 1000000 := rfl
  have hbound := hexact.seconds
  have hsmall : (Duration.ofMillis ms).nanos.val / 1000 < UInt64.size := by
    rw [hrest, UInt64.size]
    omega
  refine ⟨by omega, by omega, by omega, length_bytes _, ?_, ?_, ?_⟩
  · rw [ofLittleEndian_take_bytes, hseconds, ofDuration, UInt64.toUInt64_toInt64]
  · rw [ofLittleEndian_drop_bytes, hmicros, ofDuration, Int64.toUInt64_ofNat',
      UInt64.toNat_ofNat_of_lt' hsmall]
  · rw [limit?_ofDuration hexact, Duration.toNanos_ofMillis, Nat.cast_mul]
    rfl

end Wire.TimeInterval

namespace SetupConfig

variable {c : SetupConfig} {ms : UInt64} {message : String}

lemma timeout?_eq (h : c.timeoutMillis? = some ms) :
    c.timeout? = if ms = 0 then none else some (.ofMillis ms) := by
  rw [timeout?, h]
  split <;> simp_all [Option.filter, UInt64.pos_iff_ne_zero]

/-! ### The remark on zero -/

/-- The diagnostics remark on the limit if and only if it is zero. -/
lemma zero_mem_warnings_iff :
    "connect_timeout_ms: 0 disables the timeout" ∈ c.diagnostics.warnings ↔
      c.timeoutMillis? = some 0 := by
  rw [diagnostics, mem_warnings_levelDiagnostics, mem_warnings_timeoutDiagnostics]
  constructor
  · rintro ((hinterface | ⟨hzero, -⟩) | ⟨-, hlevel⟩)
    · have heq := eq_of_mem_warnings_interfaceDiagnostics hinterface
      simp only [String.reduceEq] at heq
    · exact hzero
    · have hhead := head?_unknownLevelWarning c.logging.level
      rw [← hlevel] at hhead
      simp at hhead
  · exact fun hzero => .inl (.inr ⟨hzero, rfl⟩)

end SetupConfig

/-! ### Sockets without a limit -/

namespace Kernel.Trace

variable {t u : Trace} {fd : Descriptor}

/-- The kernel is called to set the limit of a descriptor. -/
def SetsLimit (t : Trace) (fd : Descriptor) : Prop :=
  ∃ (interval : TimeInterval) (answer : Except Errno Unit),
    .call (.setOption fd (.sendTimeout interval)) answer ∈ t

/-- The descriptor was given out for a session socket, whose limit has not been set since. -/
def Unlimited (t : Trace) (fd : Descriptor) : Prop :=
  ∃ before since : Trace, t = before ++ .call (.openSocket .session) (.ok fd) :: since ∧
    ¬ since.SetsLimit fd

lemma setsLimit_append : (t ++ u).SetsLimit fd ↔ t.SetsLimit fd ∨ u.SetsLimit fd := by
  simp only [SetsLimit, List.mem_append, exists_or]

lemma Unlimited.append (h : t.Unlimited fd) (hu : ¬ u.SetsLimit fd) : (t ++ u).Unlimited fd := by
  obtain ⟨before, since, rfl, hsince⟩ := h
  refine ⟨before, since ++ u, by simp, ?_⟩
  exact setsLimit_append.not.mpr (not_or.mpr ⟨hsince, hu⟩)

lemma unlimited_of_opened (h : .call (.openSocket .session) (.ok fd) ∈ u)
    (hu : ¬ u.SetsLimit fd) : (t ++ u).Unlimited fd := by
  obtain ⟨v, since, rfl⟩ := List.append_of_mem h
  refine ⟨t ++ v, since, by simp, fun hsince => hu ?_⟩
  obtain ⟨interval, answer, hcall⟩ := hsince
  exact ⟨interval, answer, List.mem_append_right v (List.mem_cons_of_mem _ hcall)⟩

lemma Spares.not_setsLimit (h : u.Spares fd) : ¬ u.SetsLimit fd := by
  rintro ⟨interval, answer, hcall⟩
  exact (h _ _ hcall).1 rfl

end Kernel.Trace

section

variable {c c' : Connection} {d : DiscoverySocket} {s s' : ControlSocket} {t : Trace}
  {fd : Descriptor}

lemma Connection.BringUp.opens_session {requested : Option String}
    (h : BringUp c requested s t (.ok ()) c' s') (hfd : c'.session = some fd) :
    .call (.openSocket .session) (.ok fd) ∈ t := by
  cases h with
  | ready _ ho _ =>
    cases ho with
    | opened ha hb =>
      cases hfd
      simp

lemma DiscoverySocket.FreshOpening.opens_session {name : String}
    (h : FreshOpening c name s t (.ok d) s') (hfd : d.connection.session = some fd) :
    .call (.openSocket .session) (.ok fd) ∈ t := by
  cases h with
  | broughtUp hb hw =>
    cases hw
    exact List.mem_append_left _ (hb.opens_session hfd)

lemma DiscoverySocket.ConfiguredOpening.opens_session {config : SetupConfig}
    (h : ConfiguredOpening config s t (.ok d) s') (hfd : d.connection.session = some fd) :
    .call (.openSocket .session) (.ok fd) ∈ t := by
  cases h with
  | blocking _ _ hf => exact hf.opens_session hfd
  | switched _ _ hf _ => exact List.mem_append_left _ (hf.opens_session hfd)

end

/-! ### Actions -/

/-- The action leaves a connection in its slot, with the limit that it has. -/
def Action.Keeps (action : Action) : Prop :=
  action.renews = false ∧ ∀ timeout, action ≠ .setTimeout timeout

namespace Action.MakesFrom

variable {action : Action} {config : SetupConfig}

lemma renews (h : action.MakesFrom config) : action.renews := by
  cases action <;> first | rfl | cases h

lemma connects (h : action.MakesFrom config) : action.connects = false := by
  cases action <;> first | rfl | cases h

end Action.MakesFrom

namespace Endpoint

variable {held held' : Option Endpoint} {e e' : Endpoint} {s s' : ControlSocket} {t : Trace}
  {action : Action} {reply : Reply} {config : SetupConfig} {fd : Descriptor}

lemma Acting.timeout_eq (h : Acting held s action t reply held' s') (hkeeps : action.Keeps)
    (he : held' = some e') :
    ∃ e, held = some e ∧ e'.underlying.timeout = e.underlying.timeout := by
  obtain ⟨hrenews, hset⟩ := hkeeps
  cases h.limitFrom e' he with
  | kept hbefore heq => exact ⟨_, hbefore, heq⟩
  | given => exact absurd rfl (hset _)
  | configured hmakes _ => cases hrenews.symm.trans hmakes.renews
  | missing hmakes _ => cases hrenews.symm.trans hmakes

/-- What is made from a configuration has its limit, and a new session socket if any. -/
lemma made_of_makesFrom (hmakes : action.MakesFrom config)
    (h : ((act held action).run s).Yields t ((reply, some e'), s')) :
    e'.underlying.timeout = config.timeout? ∧ ∀ fd, e'.underlying.session = some fd →
      .call (.openSocket .session) (.ok fd) ∈ t := by
  cases action with
  | createFrom source =>
    obtain ⟨u, v, r, rfl, -, hv, hr⟩ := yields_remake h
    simp only [show source.read = .ok config from hmakes] at hv
    cases hv
    cases hr
    exact ⟨rfl, nofun⟩
  | setUpFrom source =>
    obtain ⟨u, v, r, rfl, -, hv, hr⟩ := yields_remake h
    obtain ⟨d, rfl, rfl, rfl⟩ := made_eq_some hr
    simp only [show source.read = .ok config from hmakes] at hv
    have hopening := ConfiguredOpening.of_yields hv
    exact ⟨hopening.timeout_eq, fun _ hfd => List.mem_append_right u (hopening.opens_session hfd)⟩
  | _ => cases hmakes

lemma Becoming.session_or_opened {c : Connection} (h : Becoming held action t reply c)
    (hrenews : action.renews = false) (hfd : c.session = some fd) :
    (∃ e, held = some e ∧ e.underlying.session = some fd) ∨
      .call (.openSocket .session) (.ok fd) ∈ t := by
  cases h with
  | kept _ he hc =>
    rw [hc] at hfd
    exact .inl ⟨_, he, hfd⟩
  | forgotten => cases hfd
  | named he hn =>
    obtain ⟨hsession, -⟩ := hn.keeps
    exact .inl ⟨_, he, hsession.symm.trans hfd⟩
  | broughtUp _ hb => exact .inr (hb.opens_session hfd)
  | newReady hnew => cases hrenews.symm.trans hnew

end Endpoint

/-! ### Runs -/

namespace Workbench

variable {slots : Nat} {w w' : Workbench slots} {i : Fin slots} {e : Endpoint} {t u : Trace}
  {op : Operation slots} {action : Action} {reply : Reply} {config : SetupConfig}
  {fd : Descriptor}

/-- A slot has been filled from a configuration, and since then no other connection has been put
there and no other limit has been given. -/
inductive Configured (i : Fin slots) (config : SetupConfig) : Trace → Workbench slots → Prop
  | made {t u : Trace} {w w' : Workbench slots} {action : Action} {reply : Reply} :
    w.Reachable t → action.MakesFrom config → (w.perform (.act i action)).Yields u (reply, w') →
    Configured i config (t ++ u) w'
  | kept {t u : Trace} {w w' : Workbench slots} {op : Operation slots} {reply : Reply} :
    Configured i config t w → (w.perform op).Yields u (reply, w') →
    (∀ action, op = .act i action → action.Keeps) → Configured i config (t ++ u) w'

lemma Configured.reachable (h : w.Configured i config t) : w.Reachable t := by
  induction h with
  | made hr _ hop => exact hr.step hop
  | kept _ hop _ ih => exact ih.step hop

lemma Configured.performAll {ops : List (Operation slots)} {replies : List Reply}
    (hc : w.Configured i config t) (h : (w.performAll ops).Yields u (replies, w'))
    (hops : ∀ action, .act i action ∈ ops → action.Keeps) : w'.Configured i config (t ++ u) := by
  induction ops generalizing t u w replies with
  | nil =>
    cases h
    rwa [List.append_nil]
  | cons op ops ih =>
    obtain ⟨u, v, reply, rest, w₁, rfl, rfl, hop, hrest⟩ := yields_performAll_cons.mp h
    rw [← List.append_assoc]
    refine ih (hc.kept hop ?_) hrest fun action ha => hops action (List.mem_cons_of_mem _ ha)
    rintro action rfl
    exact hops action List.mem_cons_self

lemma made_of_makesFrom (hmakes : action.MakesFrom config)
    (hop : (w.perform (.act i action)).Yields u (reply, w')) (hi : w'.held i = some e) :
    e.underlying.timeout = config.timeout? ∧ ∀ fd, e.underlying.session = some fd →
      .call (.openSocket .session) (.ok fd) ∈ u := by
  obtain ⟨s, ha⟩ := yields_act hop
  rw [hi] at ha
  exact Endpoint.made_of_makesFrom hmakes ha

/-- Clearing, coming up, and failing to come up do not touch the limit. -/
lemma timeout_eq_of_keeps (hop : (w.perform op).Yields u (reply, w'))
    (hkeeps : ∀ action, op = .act i action → action.Keeps) (hi : w'.held i = some e) :
    ∃ e₀, w.held i = some e₀ ∧ e.underlying.timeout = e₀.underlying.timeout := by
  rcases held_eq_or_acts hop i with ⟨hheld, -⟩ | ⟨action, rfl⟩
  · exact ⟨e, hheld.symm.trans hi, rfl⟩
  · obtain ⟨s, ha⟩ := yields_act hop
    exact (Endpoint.Acting.of_yields ha).timeout_eq (hkeeps action rfl) hi

lemma Configured.timeout_eq (h : w.Configured i config t) (hi : w.held i = some e) :
    e.underlying.timeout = config.timeout? := by
  induction h generalizing e with
  | made _ hmakes hop => exact (made_of_makesFrom hmakes hop hi).1
  | kept _ hop hkeeps ih =>
    obtain ⟨e₀, he₀, heq⟩ := timeout_eq_of_keeps hop hkeeps hi
    exact heq.trans (ih he₀)

/-- An action sets no limit for a connection that has none. -/
lemma not_setsLimit_of_act (hop : (w.perform (.act i action)).Yields u (reply, w'))
    (hnone : action.connects → ∀ e, w.held i = some e → e.underlying.timeout = none) :
    ¬ u.SetsLimit fd := by
  rintro ⟨interval, answer, hcall⟩
  obtain ⟨_, e, _, _, _, _, ⟨⟩, he, hc, haction⟩ :=
    exists_connecting_of_perform hop hcall fun _ => id
  obtain ⟨limit, -, hlimit, -⟩ := hc.exists_limit hcall
  have hconnects : action.connects := by
    rcases haction with ⟨rfl, -⟩ | rfl <;> rfl
  cases (hnone hconnects e he).symm.trans hlimit

/-- Without a configured limit, none is ever set on the session socket: not by the connection,
and not by others, which do not have the descriptor. -/
lemma Configured.unlimited (h : w.Configured i config t) (hnone : config.timeout? = none)
    (hl : t.Lawful) (hi : w.held i = some e) (hfd : e.underlying.session = some fd) :
    t.Unlimited fd := by
  induction h generalizing e with
  | made _ hmakes hop =>
    refine unlimited_of_opened ((made_of_makesFrom hmakes hop hi).2 fd hfd) ?_
    refine not_setsLimit_of_act hop fun hconnects => ?_
    cases hmakes.connects.symm.trans hconnects
  | kept hc hop hkeeps ih =>
    rcases becoming_of_perform hop hi with ⟨hbefore, hother⟩ | ⟨action, rfl, hbecoming⟩
    · refine (ih hl.left hbefore hfd).append ?_
      refine (hc.reachable.spares hop hl hother ?_).not_setsLimit
      rw [hbefore, Endpoint.mem_descriptors_some, hfd]
      exact List.mem_append_left _ List.mem_cons_self
    · have hsets : ¬ SetsLimit _ fd :=
        not_setsLimit_of_act hop fun _ _ he => (hc.timeout_eq he).trans hnone
      rcases hbecoming.session_or_opened (hkeeps action rfl).1 hfd with ⟨e₀, he₀, hfd₀⟩ | hopened
      · exact (ih hl.left he₀ hfd₀).append hsets
      · exact unlimited_of_opened hopened hsets

/-- A configured limit, whatever else is done with the connection, and whatever the kernel has
answered:

* the diagnostics remark on the limit if and only if it is zero milliseconds;
* if it is zero, the connection has no limit, and neither is any set for it: nothing comes before
  a connect, and nothing about a limit has been called on the session socket since it was opened,
  if the kernel gives out no open descriptor;
* if it is not zero, every connect comes after the limit has been set on the same socket, to an
  interval of exactly as many milliseconds. -/
theorem configured_limit_exact {ms : UInt64} (hms : config.timeoutMillis? = some ms) :
    ("connect_timeout_ms: 0 disables the timeout" ∈ config.diagnostics.warnings ↔ ms = 0) ∧
      ∀ {t : Trace} {w : Workbench slots} {e : Endpoint}, w.Configured i config t →
        w.held i = some e →
        e.underlying.timeout = (if ms = 0 then none else some (.ofMillis ms)) ∧
          ∀ {action u reply w'}, (w.perform (.act i action)).Yields u (reply, w') →
            (ms = 0 → ∀ fd, ¬ u.SetsLimit fd) ∧
            ∀ v fd address answer x, u = v ++ .call (.connect fd address) answer :: x →
              (ms = 0 → v = [] ∧ (t.Lawful → t.Unlimited fd)) ∧
              (0 < ms → ∃ interval, interval.Lasts ms ∧
                v = [.call (.setOption fd (.sendTimeout interval)) (.ok ())]) := by
  refine ⟨SetupConfig.zero_mem_warnings_iff.trans (by rw [hms, Option.some_inj]), ?_⟩
  intro t w e hc hi
  have htimeout : e.underlying.timeout = if ms = 0 then none else some (.ofMillis ms) :=
    (hc.timeout_eq hi).trans (SetupConfig.timeout?_eq hms)
  refine ⟨htimeout, ?_⟩
  intro action u reply w' hop
  constructor
  · rintro rfl fd
    refine not_setsLimit_of_act hop fun _ e' he' => ?_
    cases hi.symm.trans he'
    exact htimeout
  · rintro v fd address answer x rfl
    obtain ⟨j, e', _, _, _, _, ⟨⟩, he', hconnecting, -⟩ :=
      exists_connecting_of_perform hop (List.mem_append_right v List.mem_cons_self) fun _ => id
    -- what comes before a connect depends on the limit alone, which is known
    cases hi.symm.trans he'
    obtain ⟨hfd, hv⟩ := hconnecting.limiting rfl
    rw [htimeout] at hv
    constructor
    · rintro rfl
      cases hv
      exact ⟨rfl, fun hl => hc.unlimited (SetupConfig.timeout?_eq hms) hl hi hfd⟩
    · intro hpos
      rw [if_neg (UInt64.pos_iff_ne_zero.mp hpos)] at hv
      cases hv
      exact ⟨_, TimeInterval.lasts_ofMillis hpos, rfl⟩

/-- What `simulate` comes to from an action that makes a connection. -/
lemma configured_of_simulate {ops : List (Operation slots)} {s : SimulatedState}
    {o : Outcome SimulatedState (List Reply × Workbench slots)}
    (ho : o = simulate (.act i action :: ops) s) (hmakes : action.MakesFrom config)
    (hops : ∀ action, .act i action ∈ ops → action.Keeps) :
    o.value.2.Configured i config o.trace := by
  subst ho
  obtain ⟨u, v, reply, rest, w, ht, -, hop, hrest⟩ :=
    yields_performAll_cons.mp (yields_simulate (.act i action :: ops) s)
  rw [ht]
  have hmade : w.Configured i config u := .made .start hmakes hop
  exact hmade.performAll hrest hops

/-- A connection from a configuration comes up, is cleared, fails to come up on another
interface, and comes up again. -/
def restarting (ms : UInt64) (slot : Fin slots) : List (Operation slots) :=
  [.act slot (.createFrom (.settings { timeoutMillis? := some ms })),
    .act slot (.bringUp (some "eth0")), .act slot .clear, .act slot (.bringUp (some "eth1")),
    .act slot (.bringUp (some "eth0"))]

/-- What comes of that. -/
def restarted (ms : UInt64) (slot : Fin slots) :
    Outcome SimulatedState (List Reply × Workbench slots) :=
  simulate (restarting ms slot) .oneInterface

/-- The next connect. -/
def connectedThen (ms : UInt64) (slot : Fin slots) :
    Outcome SimulatedState (Reply × Workbench slots) :=
  ((restarted ms slot).value.2.perform (.act slot (.connect 7))).run simulated
    (restarted ms slot).state

lemma configured_restarted (ms : UInt64) (slot : Fin slots) :
    (restarted ms slot).value.2.Configured slot { timeoutMillis? := some ms }
      (restarted ms slot).trace := by
  have hmakes : Action.MakesFrom { timeoutMillis? := some ms }
      (.createFrom (.settings { timeoutMillis? := some ms })) := rfl
  have hrestarted : restarted ms slot = simulate (restarting ms slot) .oneInterface := rfl
  refine configured_of_simulate hrestarted hmakes ?_
  simp [Action.Keeps, Action.renews]

lemma trace_connectedThen_longest : (connectedThen 18446744073709551615 (0 : Fin 1)).trace =
    [.call (.setOption 104 (.sendTimeout ⟨18446744073709551, 615000⟩)) (.ok ())] ++
      .call (.connect 104 ⟨7, eth0Address, eth0⟩) (.ok ()) ::
        [.event (.connected eth0 7 eth0Address)] := by
  with_unfolding_all rfl

lemma trace_connectedThen_zero : (connectedThen 0 (0 : Fin 1)).trace =
    [] ++ .call (.connect 104 ⟨7, eth0Address, eth0⟩) (.ok ()) ::
        [.event (.connected eth0 7 eth0Address)] := by
  with_unfolding_all rfl

/-- The longest limit is set as it is, and one of zero is not set. -/
theorem configured_limit_exact_restarted :
    TimeInterval.Lasts ⟨18446744073709551, 615000⟩ 18446744073709551615 ∧
      (restarted 0 (0 : Fin 1)).trace.Unlimited 104 := by
  have hms (ms : UInt64) : ({ timeoutMillis? := some ms } : SetupConfig).timeoutMillis? = some ms :=
    rfl
  have hconnected (ms : UInt64) :
      ((restarted ms (0 : Fin 1)).value.2.perform (.act 0 (.connect 7))).Yields
        (connectedThen ms 0).trace (connectedThen ms 0).value := Program.yields_run _ _ _
  have hheld (ms : UInt64) (h : ((restarted ms (0 : Fin 1)).value.2.held 0).isSome) :
      ∃ e, (restarted ms (0 : Fin 1)).value.2.held 0 = some e := Option.isSome_iff_exists.mp h
  constructor
  · obtain ⟨e, he⟩ := hheld 18446744073709551615 (by decide +kernel)
    obtain ⟨-, hnext⟩ := (configured_limit_exact (hms _)).2 (configured_restarted _ 0) he
    obtain ⟨-, hlimited⟩ := (hnext (hconnected _)).2 _ _ _ _ _ trace_connectedThen_longest
    obtain ⟨interval, hlasts, hset⟩ := hlimited (by decide)
    cases hset
    exact hlasts
  · obtain ⟨e, he⟩ := hheld 0 (by decide +kernel)
    obtain ⟨-, hnext⟩ := (configured_limit_exact (hms _)).2 (configured_restarted _ 0) he
    obtain ⟨hunlimited, -⟩ := (hnext (hconnected _)).2 _ _ _ _ _ trace_connectedThen_zero
    exact (hunlimited rfl).2 (lawful_simulate _ _)

end Workbench

end PppoeSetup
