import PppoeSetup.Proofs.History
import PppoeSetup.Proofs.OneInterface

/-!
# The limit of a connect

The limit for a connect is an option of the session socket, which keeps it when the connect
fails. A connection that has a limit sets it again before every connect; one that has none leaves
the option as it is.
-/

namespace PppoeSetup

open Kernel Wire Connection Workbench

/-! ### Limits in force -/

/-- A limit that the option holds without loss: some whole microseconds, and not too many
seconds for a signed word. -/
structure Duration.Exact (d : Duration) : Prop where
  pos : 0 < d.toNanos
  micros : d.nanos.val % 1000 = 0
  seconds : d.seconds.toNat < 2 ^ 63

lemma Duration.exact_ofMillis {ms : UInt64} (h : 0 < ms) : (ofMillis ms).Exact where
  pos := by
    have hpos : 0 < ms.toNat := UInt64.lt_iff_toNat_lt.mp h
    rw [toNanos_ofMillis]
    omega
  micros := by
    simp only [ofMillis]
    omega
  seconds := by
    have hms := ms.toNat_lt
    have h1000 : (1000 : UInt64).toNat = 1000 := rfl
    simp only [ofMillis, UInt64.toNat_div, h1000]
    omega

lemma SetupConfig.exact_of_timeout {c : SetupConfig} {limit : Duration}
    (h : c.timeout? = some limit) : limit.Exact := by
  obtain ⟨ms, hms, rfl⟩ := Option.map_eq_some_iff.mp h
  obtain ⟨-, hpos⟩ := Option.filter_eq_some_iff.mp hms
  exact Duration.exact_ofMillis (by simpa using hpos)

/-- The limit that an interval stands for, in nanoseconds; zero stands for none. -/
def Wire.TimeInterval.limit? (t : TimeInterval) : Option Int :=
  let nanos := t.seconds.toInt * 1000000000 + t.micros.toInt * 1000
  if nanos = 0 then none else some nanos

namespace Wire.TimeInterval

variable {d : Duration}

lemma toInt_seconds_ofDuration (h : d.seconds.toNat < 2 ^ 63) :
    (ofDuration d).seconds.toInt = d.seconds.toNat := by
  rw [← Int64.toInt_ofNat_of_lt h, ← UInt64.toInt64_ofNat', UInt64.ofNat_toNat]
  rfl

lemma toInt_micros_ofDuration (d : Duration) :
    (ofDuration d).micros.toInt = (d.nanos.val / 1000 : Nat) :=
  Int64.toInt_ofNat_of_lt (by omega)

/-- The option has the whole microseconds of a limit. -/
lemma limit?_ofDuration_of_lt (h : d.seconds.toNat < 2 ^ 63) :
    (ofDuration d).limit? =
      if d.toNanos < 1000 then none else some ((d.toNanos / 1000 * 1000 : Nat) : Int) := by
  have hnanos : (d.seconds.toNat * 1000000000 + (d.nanos.val / 1000 : Nat) * 1000 : Int) =
      (d.toNanos / 1000 * 1000 : Nat) := by
    unfold Duration.toNanos
    omega
  simp only [limit?, toInt_seconds_ofDuration h, toInt_micros_ofDuration, hnanos]
  by_cases hshort : d.toNanos < 1000
  · rw [if_pos hshort, if_pos (by omega)]
  · rw [if_neg hshort, if_neg (by omega)]

lemma limit?_ofDuration (h : d.Exact) : (ofDuration d).limit? = some (d.toNanos : Int) := by
  have hpos := h.pos
  have hmicros := h.micros
  have hwhole : d.toNanos / 1000 * 1000 = d.toNanos := by
    unfold Duration.toNanos
    omega
  rw [limit?_ofDuration_of_lt h.seconds, hwhole, if_neg (by omega)]

end Wire.TimeInterval

namespace Kernel

/-- The interval that the option of a descriptor holds after one more call; a new descriptor has
none. -/
def Request.intervalAfter (fd : Descriptor) (held : Option TimeInterval) :
    (r : Request) → r.Answer → Option TimeInterval
  | .openSocket _, .ok fd' => if fd' = fd then none else held
  | .setOption fd' (.sendTimeout interval), .ok () => if fd' = fd then some interval else held
  | _, _ => held

namespace Trace

def intervalFrom (fd : Descriptor) (held : Option TimeInterval) : Trace → Option TimeInterval
  | [] => held
  | .event _ :: t => intervalFrom fd held t
  | .call r a :: t => intervalFrom fd (r.intervalAfter fd held a) t

/-- The limit in force on a descriptor after a trace, in nanoseconds: that of the last interval
that its option was set to since it was opened. -/
def limit (t : Trace) (fd : Descriptor) : Option Int :=
  (t.intervalFrom fd none).bind (·.limit?)

/-- The descriptor is given out anew. -/
def Opens (t : Trace) (fd : Descriptor) : Prop := ∃ kind, .call (.openSocket kind) (.ok fd) ∈ t

variable {t u : Trace} {fd : Descriptor} {held : Option TimeInterval} {interval : TimeInterval}

@[simp] lemma intervalFrom_append :
    intervalFrom fd held (t ++ u) = intervalFrom fd (intervalFrom fd held t) u := by
  induction t generalizing held with
  | nil => rfl
  | cons entry t ih => cases entry <;> exact ih

lemma opens_append : (t ++ u).Opens fd ↔ t.Opens fd ∨ u.Opens fd := by
  simp only [Opens, List.mem_append, exists_or]

lemma intervalAfter_eq_some {r : Request} {a : r.Answer}
    (h : r.intervalAfter fd held a = some interval) :
    (held = some interval ∧ ¬ Opens [.call r a] fd) ∨
      .call r a = Entry.call (.setOption fd (.sendTimeout interval)) (.ok ()) := by
  -- only two requests matter: one gives the descriptor out anew, and the other sets its option
  cases r with
  | openSocket kind =>
    cases a with
    | error e => exact .inl ⟨h, by simp [Opens]⟩
    | ok fd' =>
      simp only [Request.intervalAfter] at h
      split at h
      · cases h
      next hne =>
        refine .inl ⟨h, ?_⟩
        rintro ⟨kind', hcall⟩
        cases List.mem_singleton.mp hcall
        exact hne rfl
  | setOption fd' option =>
    cases option with
    | broadcast => exact .inl ⟨h, by simp [Opens]⟩
    | sendTimeout interval' =>
      cases a with
      | error e => exact .inl ⟨h, by simp [Opens]⟩
      | ok _ =>
        simp only [Request.intervalAfter] at h
        split at h
        next heq =>
          cases heq
          cases h
          exact .inr rfl
        · exact .inl ⟨h, by simp [Opens]⟩
  | _ => exact .inl ⟨h, by simp [Opens]⟩

/-- What the option holds it has held before, or it was set to that. -/
lemma intervalFrom_eq_some (h : intervalFrom fd held t = some interval) :
    (held = some interval ∧ ¬ t.Opens fd) ∨
      .call (.setOption fd (.sendTimeout interval)) (.ok ()) ∈ t := by
  induction t generalizing held with
  | nil => exact .inl ⟨h, fun ⟨_, hcall⟩ => nomatch hcall⟩
  | cons entry t ih =>
    cases entry with
    | event e =>
      rcases ih h with ⟨hheld, hopens⟩ | hset
      · exact .inl ⟨hheld, by simpa [Opens] using hopens⟩
      · exact .inr (List.mem_cons_of_mem _ hset)
    | call r a =>
      rcases ih h with ⟨hafter, hopens⟩ | hset
      · rcases intervalAfter_eq_some hafter with ⟨hheld, hcall⟩ | hcall
        · refine .inl ⟨hheld, ?_⟩
          rw [← List.singleton_append, opens_append]
          exact not_or.mpr ⟨hcall, hopens⟩
        · exact .inr (hcall ▸ List.mem_cons_self)
      · exact .inr (List.mem_cons_of_mem _ hset)

end Trace

end Kernel

/-! ### Courses -/

namespace Connection

variable {c : Connection} {fd : Descriptor} {sessionId : UInt16} {remote : MacAddress}
  {t v x : Trace} {result : Except SetupError Unit}

/-- A connect comes after the limit has been set, if there is one, and after nothing else. -/
lemma Connecting.limiting (h : Connecting c sessionId remote t result) {address : SessionAddress}
    {answer : Except Errno Unit} (ht : t = v ++ .call (.connect fd address) answer :: x) :
    c.session = some fd ∧ Limiting fd c.timeout v := by
  have hnone {limiting : Trace} {fd' : Descriptor} {timeout : Option Duration}
      (hl : Limiting fd' timeout limiting) : .call (.connect fd address) answer ∉ limiting := by
    cases hl <;> simp
  have hmem : .call (.connect fd address) answer ∈ t := by simp [ht]
  cases h with
  | reserved | notReady | unlimited => simp at hmem
  | refused e _ hfd _ _ hl =>
    obtain ⟨rfl, hcall, -⟩ := (List.append_cons_inj_of_notMem (hnone hl) (by simp)).mp ht
    cases hcall
    exact ⟨hfd, hl⟩
  | connected _ hfd _ _ hl =>
    obtain ⟨rfl, hcall, -⟩ := (List.append_cons_inj_of_notMem (hnone hl) (by simp)).mp ht
    cases hcall
    exact ⟨hfd, hl⟩

/-- The limit is only set to that of the connection, on its session socket. -/
lemma Connecting.exists_limit (h : Connecting c sessionId remote t result)
    {interval : TimeInterval} {answer : Except Errno Unit}
    (hcall : .call (.setOption fd (.sendTimeout interval)) answer ∈ t) :
    ∃ limit, c.session = some fd ∧ c.timeout = some limit ∧ interval = .ofDuration limit := by
  have hlimiting {fd' timeout v} (hl : Limiting fd' timeout v)
      (hv : .call (.setOption fd (.sendTimeout interval)) answer ∈ v) :
      ∃ limit, fd' = fd ∧ timeout = some limit ∧ interval = .ofDuration limit := by
    cases hl with
    | unlimited => cases hv
    | limited limit =>
      cases List.mem_singleton.mp hv
      exact ⟨limit, rfl, rfl, rfl⟩
  cases h with
  | reserved | notReady => cases hcall
  | unlimited _ _ hfd _ _ hlimit =>
    cases List.mem_singleton.mp hcall
    exact ⟨_, hfd, hlimit, rfl⟩
  | refused _ _ hfd _ _ hl | connected _ hfd _ _ hl =>
    have hv := (List.mem_append.mp hcall).resolve_right (by simp)
    obtain ⟨limit, rfl, hlimit, rfl⟩ := hlimiting hl hv
    exact ⟨limit, hfd, hlimit, rfl⟩

lemma BringUp.timeout_eq {c' : Connection} {requested : Option String} {s s' : ControlSocket}
    (h : BringUp c requested s t result c' s') : c'.timeout = c.timeout := by
  cases h with
  | already => rfl
  | failed _ ho | ready _ ho =>
    obtain ⟨-, -, ht⟩ := ho.keeps
    exact ht

end Connection

namespace DiscoverySocket

variable {d : DiscoverySocket} {s s' : ControlSocket} {t : Trace}

lemma FreshOpening.timeout_eq {c : Connection} {name : String}
    (h : FreshOpening c name s t (.ok d) s') : d.connection.timeout = c.timeout := by
  cases h with
  | broughtUp hb hw =>
    cases hw
    exact hb.timeout_eq

lemma ConfiguredOpening.timeout_eq {config : SetupConfig}
    (h : ConfiguredOpening config s t (.ok d) s') : d.connection.timeout = config.timeout? := by
  cases h with
  | blocking _ _ hf | switched _ _ hf _ => exact hf.timeout_eq

end DiscoverySocket

/-! ### Limits of the connections -/

/-- The action makes a new connection from this configuration. -/
def Action.MakesFrom (config : SetupConfig) : Action → Prop
  | createFrom source | setUpFrom source => source.read = .ok config
  | _ => False

/-- The action gives a connection no limit that the option cannot hold. -/
def Action.SetsExact (action : Action) : Prop :=
  ∀ limit, action = .setTimeout (some limit) → limit.Exact

namespace Endpoint

/-- The limit of the connection, if there is one, can be held by the option. -/
def LimitExact (e : Endpoint) : Prop := ∀ limit, e.underlying.timeout = some limit → limit.Exact

/-- Where the limit of the connection in a slot comes from. -/
inductive LimitFrom (held : Option Endpoint) : Action → Option Duration → Prop
  /-- The connection has had it before. -/
  | kept {action : Action} {e : Endpoint} {timeout : Option Duration} :
    held = some e → timeout = e.underlying.timeout → LimitFrom held action timeout
  | given {timeout : Option Duration} : LimitFrom held (.setTimeout timeout) timeout
  /-- It is that of the configuration that a new connection is made from. -/
  | configured {action : Action} {config : SetupConfig} {timeout : Option Duration} :
    action.MakesFrom config → timeout = config.timeout? → LimitFrom held action timeout
  /-- A new connection without a configuration has none. -/
  | missing {action : Action} {timeout : Option Duration} :
    action.renews → timeout = none → LimitFrom held action timeout

variable {held held' : Option Endpoint} {s s' : ControlSocket} {t : Trace} {action : Action}
  {reply : Reply}

lemma Acting.limitFrom (h : Acting held s action t reply held' s') :
    ∀ e, held' = some e → LimitFrom held action e.underlying.timeout := by
  -- courses that make a connection have a limit of their own, and all others pass theirs on
  cases h with
  | idle | connected | connectedTo | channelled | switched => exact fun _ he => .kept he rfl
  | created =>
    rintro _ ⟨⟩
    exact .missing rfl rfl
  | configured hread =>
    rintro _ ⟨⟩
    exact .configured hread rfl
  | unreadable | unreadableSetUp | dropped => exact fun _ he => nomatch he
  | opened _ hf =>
    refine forall_made ?_
    rintro d rfl
    exact .missing rfl hf.timeout_eq
  | setUp hread _ hc =>
    refine forall_made ?_
    rintro d rfl
    exact .configured hread hc.timeout_eq
  | named hn =>
    rintro _ ⟨⟩
    exact .kept rfl hn.keeps.2.2
  | broughtUp hb =>
    rintro _ ⟨⟩
    exact .kept rfl hb.timeout_eq
  | cleared | unwrapped =>
    rintro _ ⟨⟩
    exact .kept rfl rfl
  | timed =>
    rintro _ ⟨⟩
    exact .given
  | wrapped hw | watched hw | unwatched hw =>
    refine forall_made ?_
    rintro _ rfl
    cases hw
    exact .kept rfl rfl
  | transferred _ hd ht =>
    rintro _ ⟨⟩
    refine .kept rfl ?_
    -- counters are all that a transfer changes
    rw [underlying_withSocket hd, underlying_of_socket hd, ht.connection_eq]
  | awaited _ ha =>
    rintro _ ⟨⟩
    refine .kept rfl ?_
    simp only [underlying, ha.connection_eq]

/-- Limits come from configurations, which have whole milliseconds, or they are given. -/
lemma Acting.limitExact (hset : action.SetsExact) (h : Acting held s action t reply held' s')
    (hw : ∀ e, held = some e → e.LimitExact) : ∀ e, held' = some e → e.LimitExact := by
  intro e he limit hlimit
  cases h.limitFrom e he with
  | kept hbefore heq => exact hw _ hbefore limit (heq.symm.trans hlimit)
  | given => exact hset limit (hlimit ▸ rfl)
  | configured _ heq => exact SetupConfig.exact_of_timeout (heq.symm.trans hlimit)
  | missing _ heq => cases heq.symm.trans hlimit

end Endpoint

/-! ### Runs -/

namespace Workbench

variable {slots : Nat} {w w' : Workbench slots} {history : List (Step slots)} {fd : Descriptor}

/-- What an operation works on has a limit that the option can hold. -/
lemma After.exact_of_client (h : w.After history) (hexact : Acts Action.SetsExact history)
    {op : Operation slots} {c : Connection} {limit : Duration} (hc : w.client op = some c)
    (hlimit : c.timeout = some limit) : limit.Exact := by
  cases op with
  | act j action =>
    obtain ⟨e, he, rfl⟩ := Option.map_eq_some_iff.mp hc
    exact h.held Endpoint.Acting.limitExact hexact he limit hlimit
  | _ => cases hc

/-- An earlier connect for a connection with this limit has set it on the session socket, and the
descriptor has not been given out anew since. -/
def Leaves (history : List (Step slots)) (fd : Descriptor) (limit : Duration) : Prop :=
  ∃ (before after : List (Step slots)) (step : Step slots) (w : Workbench slots) (c : Connection),
    history = before ++ step :: after ∧ w.After before ∧
    (∃ j action, step.operation = .act j action ∧ action.connects) ∧
    w.client step.operation = some c ∧ c.session = some fd ∧ c.timeout = some limit ∧
    .call (.setOption fd (.sendTimeout (.ofDuration limit))) (.ok ()) ∈ step.trace ∧
    ¬ (traceOf after).Opens fd

lemma Leaves.concat {limit : Duration} {step : Step slots} (h : Leaves history fd limit)
    (hstep : ¬ step.trace.Opens fd) : Leaves (history ++ [step]) fd limit := by
  obtain ⟨before, after, first, w, c, rfl, hw, hop, hc, hfd, hlimit, hset, hopens⟩ := h
  refine ⟨before, after ++ [step], first, w, c, by simp, hw, hop, hc, hfd, hlimit, hset, ?_⟩
  rw [traceOf_concat, Trace.opens_append]
  exact not_or.mpr ⟨hopens, hstep⟩

lemma Leaves.exact {limit : Duration} (h : Leaves history fd limit)
    (hexact : Acts Action.SetsExact history) : limit.Exact := by
  obtain ⟨before, after, step, w, c, rfl, hw, -, hc, -, hlimit, -⟩ := h
  refine hw.exact_of_client (fun s hs => hexact s ?_) hc hlimit
  exact List.mem_append_left _ hs

/-- What the option of a descriptor holds is a limit that has been left there. -/
lemma After.leaves (h : w.After history) {interval : TimeInterval}
    (hi : (traceOf history).intervalFrom fd none = some interval) :
    ∃ limit, interval = .ofDuration limit ∧ Leaves history fd limit := by
  -- on the history: the option is as it was left before the last step, or that step has set it
  induction h with
  | start => cases hi
  | @step history w w' op u reply hw hop ih =>
    rw [traceOf_concat, Trace.intervalFrom_append] at hi
    rcases Trace.intervalFrom_eq_some hi with ⟨hbefore, hopens⟩ | hset
    · obtain ⟨limit, rfl, hl⟩ := ih hbefore
      exact ⟨limit, rfl, hl.concat hopens⟩
    -- the option of a limit is set on the way to a connect, and nowhere else
    · obtain ⟨j, e, action, _, _, _, rfl, he, hc, haction⟩ :=
        exists_connecting_of_perform hop hset fun _ => id
      obtain ⟨limit, hfd, hlimit, rfl⟩ := hc.exists_limit hset
      have hconnects : action.connects := by
        rcases haction with ⟨rfl, -⟩ | rfl <;> rfl
      refine ⟨limit, rfl, history, [], _, w, e.underlying, rfl, hw, ⟨j, action, rfl, hconnects⟩,
        ?_, hfd, hlimit, hset, ?_⟩
      · simp [client, he]
      · simp [Trace.Opens]

/-- Whatever has been done, with limits that the option can hold, and whatever the kernel has
answered: a session is connected under the limit of its connection, or else the connection has
none and an earlier connect has left one on the same socket. -/
theorem connects_under_limit (h : w.After history) (hexact : Acts Action.SetsExact history)
    {op : Operation slots} {reply : Reply} {v x : Trace} {address : SessionAddress}
    {answer : Except Errno Unit}
    (hop : (w.perform op).Yields (v ++ .call (.connect fd address) answer :: x) (reply, w')) :
    ∃ c, w.client op = some c ∧ c.session = some fd ∧
      ((traceOf history ++ v).limit fd = c.timeout.map (fun limit => (limit.toNanos : Int)) ∨
        c.timeout = none ∧ ∃ limit, Leaves history fd limit ∧
          (traceOf history ++ v).limit fd = some (limit.toNanos : Int)) := by
  obtain ⟨j, e, action, _, _, _, rfl, he, hc, -⟩ :=
    exists_connecting_of_perform hop (List.mem_append_right v List.mem_cons_self) fun _ => id
  obtain ⟨hfd, hv⟩ := hc.limiting rfl
  have hclient : w.client (.act j action) = some e.underlying := by
    simp [client, he]
  refine ⟨e.underlying, hclient, hfd, ?_⟩
  cases htimeout : e.underlying.timeout with
  | some limit =>
    have hset := TimeInterval.limit?_ofDuration (h.exact_of_client hexact hclient htimeout)
    rw [htimeout] at hv
    cases hv
    -- the call right before the connect has set it
    left
    simp [Trace.limit, Trace.intervalFrom, Request.intervalAfter, hset]
  | none =>
    rw [htimeout] at hv
    cases hv
    -- nothing comes before the connect, so that the option is as earlier operations have left it
    rw [List.append_nil, Trace.limit]
    cases hheld : (traceOf history).intervalFrom fd none with
    | none => exact .inl rfl
    | some interval =>
      obtain ⟨limit, rfl, hleaves⟩ := h.leaves hheld
      exact .inr ⟨rfl, limit, hleaves, TimeInterval.limit?_ofDuration (hleaves.exact hexact)⟩

/-- A connect under a limit of one second fails, and the limit is taken back. -/
def givingUpLimit (slot : Fin slots) : List (Operation slots) :=
  [.act slot .create, .act slot (.bringUp (some "eth0")),
    .act slot (.setTimeout (some ⟨1, 0⟩)), .act slot (.connect 7), .act slot (.setTimeout none)]

/-- The first connect times out. -/
def slowPeer : SimulatedState := { SimulatedState.oneInterface with faults := [(.connect, ⟨110⟩)] }

/-- What comes of that. -/
def givenUp (slot : Fin slots) : Outcome SimulatedState (List Reply × Workbench slots) :=
  simulate (givingUpLimit slot) slowPeer

def givenUpHistory (slot : Fin slots) : List (Step slots) :=
  empty.record slowPeer (givingUpLimit slot)

/-- The next connect. -/
def connectedAgain (slot : Fin slots) : Outcome SimulatedState (Reply × Workbench slots) :=
  ((givenUp slot).value.2.perform (.act slot (.connect 7))).run simulated (givenUp slot).state

lemma after_givenUpHistory (slot : Fin slots) :
    (givenUp slot).value.2.After (givenUpHistory slot) :=
  after_simulate _ _

lemma acts_givenUpHistory (slot : Fin slots) : Acts Action.SetsExact (givenUpHistory slot) := by
  apply acts_record
  rintro i action hop limit rfl
  obtain ⟨-, rfl⟩ : i = slot ∧ limit = ⟨1, 0⟩ := by simpa [givingUpLimit] using hop
  exact ⟨by decide, by decide, by decide⟩

lemma client_givenUp :
    (givenUp (0 : Fin 1)).value.2.client (.act 0 (.connect 7)) = some wrapped.connection := by
  decide +kernel

lemma yields_connectedAgain :
    ((givenUp (0 : Fin 1)).value.2.perform (.act 0 (.connect 7))).Yields
      ([] ++ .call (.connect 100 ⟨7, eth0Address, eth0⟩) (.ok ()) ::
        [.event (.connected eth0 7 eth0Address)])
      (connectedAgain 0).value := by
  have htrace : (connectedAgain (0 : Fin 1)).trace =
      [] ++ .call (.connect 100 ⟨7, eth0Address, eth0⟩) (.ok ()) ::
        [.event (.connected eth0 7 eth0Address)] := by
    with_unfolding_all rfl
  rw [← htrace]
  exact Program.yields_run _ _ _

lemma limit_givenUpHistory :
    (traceOf (givenUpHistory (0 : Fin 1)) ++ []).limit 100 = some 1000000000 := by
  decide +kernel

/-- The connection has no limit any more, and is connected under one of a second. -/
theorem connects_under_stale_limit :
    (givenUp (0 : Fin 1)).value.2.After (givenUpHistory 0) ∧
      Acts Action.SetsExact (givenUpHistory (0 : Fin 1)) ∧
      ((givenUp (0 : Fin 1)).value.2.perform (.act 0 (.connect 7))).Yields
        ([] ++ .call (.connect 100 ⟨7, eth0Address, eth0⟩) (.ok ()) ::
          [.event (.connected eth0 7 eth0Address)])
        (connectedAgain 0).value ∧
      (givenUp (0 : Fin 1)).value.2.client (.act 0 (.connect 7)) = some wrapped.connection ∧
      wrapped.connection.session = some 100 ∧ wrapped.connection.timeout = none ∧
      (traceOf (givenUpHistory (0 : Fin 1)) ++ []).limit 100 = some 1000000000 :=
  ⟨after_givenUpHistory 0, acts_givenUpHistory 0, yields_connectedAgain, client_givenUp, rfl, rfl,
    limit_givenUpHistory⟩

/-- The first of the two connects has left it. -/
theorem connects_under_limit_left :
    ∃ limit, Leaves (givenUpHistory (0 : Fin 1)) 100 limit ∧ limit.toNanos = 1000000000 := by
  obtain ⟨c, hc, -, hforce⟩ :=
    connects_under_limit (after_givenUpHistory 0) (acts_givenUpHistory 0) yields_connectedAgain
  obtain rfl : wrapped.connection = c := Option.some.inj (client_givenUp.symm.trans hc)
  rw [limit_givenUpHistory] at hforce
  rcases hforce with hforce | ⟨-, limit, hleaves, hforce⟩
  · cases hforce
  · exact ⟨limit, hleaves, by exact_mod_cast (Option.some.inj hforce).symm⟩

end Workbench

end PppoeSetup
