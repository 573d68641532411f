import PppoeSetup.Proofs.Ledger.Runs

/-!
# Refused calls

What the operations make of a call that the kernel refuses. Whichever call it is, nothing but
closing follows, and the call alone decides the error.
-/

namespace PppoeSetup

open Kernel

/-- The error of a result, if it is one. -/
def errorOf {α : Type} : Except SetupError α → Option SetupError
  | .ok _ => none
  | .error e => some e

@[simp] lemma errorOf_ok {α : Type} (a : α) : errorOf (.ok a) = none := rfl

@[simp] lemma errorOf_error {α : Type} (e : SetupError) :
    errorOf (.error e : Except SetupError α) = some e := rfl

/-- The error that is replied, if one is. -/
def Reply.error? : Reply → Option SetupError
  | failed e => some e
  | _ => none

lemma Reply.eq_failed {reply : Reply} {e : SetupError} (h : reply.error? = some e) :
    reply = .failed e := by
  cases reply <;> cases h
  rfl

/-! ### Refusals -/

namespace Kernel

/-- The error number of an answer that refuses. -/
def errno? {α : Type} : Except Errno α → Option Errno
  | .ok _ => none
  | .error e => some e

/-- The error number with which a call was refused. Closing has its effect whatever the kernel
answers, so it cannot be refused. -/
def Request.refusal? : (r : Request) → r.Answer → Option Errno
  | .openSocket _, a => errno? a
  | .interfaceIndex .., a => errno? a
  | .hardwareAddress .., a => errno? a
  | .channelIndex _, a => errno? a
  | .setOption .., a => errno? a
  | .bind .., a => errno? a
  | .connect .., a => errno? a
  | .statusFlags _, a => errno? a
  | .setStatusFlags .., a => errno? a
  | .send .., a => errno? a
  | .receive .., a => errno? a
  | .register _, a => errno? a
  | .close _, _ | .notifications .., _ => none

/-- Who asks the kernel: a caller of the control socket, or a connection on an interface. -/
inductive Asker
  | caller (interface : String)
  | connection (interface : String) (sessionId : UInt16)

/-- What becomes of a refused call. -/
def Asker.blame : Asker → Request → IoError → SetupError
  | _, .openSocket kind, e => .socketCreate kind e
  | _, .setOption _ .broadcast, e => .socketCreate .discovery e
  | caller name, .interfaceIndex .., e => .interfaceNotFound name e
  | caller name, .hardwareAddress .., e => .interfaceNotFound name e
  | connection name _, .hardwareAddress .., e => .lookup name e
  | connection name _, .interfaceIndex .., e => .bind name e
  | connection name _, .bind .., e => .bind name e
  | connection _ id, .setOption _ (.sendTimeout _), e => .connect id e
  | connection _ id, .connect .., e => .connect id e
  | _, _, e => .io e

/-- The source of the error is the refusal itself. -/
lemma Asker.source?_blame (asker : Asker) (r : Request) (e : IoError) :
    (asker.blame r e).source? = some e := by
  cases asker <;> cases r with
  | setOption fd option => cases option <;> rfl
  | _ => rfl

@[simp] lemma Asker.blame_openSocket (asker : Asker) (kind : SocketKind) (e : IoError) :
    asker.blame (.openSocket kind) e = .socketCreate kind e := by
  cases asker <;> rfl

namespace Trace

variable {counts : Errno → Prop} {blame : Request → IoError → SetupError} {t u : Trace}
  {outcome : Option SetupError}

/-- The calls that are refused, with their error numbers. -/
def refusals (t : Trace) : List (Request × Errno) :=
  t.filterMap fun
    | .call r a => (r.refusal? a).map (r, ·)
    | .event _ => none

lemma exists_of_mem_refusals {r : Request} {e : Errno} (h : (r, e) ∈ t.refusals) :
    ∃ v a x, t = v ++ .call r a :: x ∧ r.refusal? a = some e := by
  obtain ⟨entry, hentry, he⟩ := List.mem_filterMap.mp h
  obtain ⟨v, x, rfl⟩ := List.append_of_mem hentry
  cases entry with
  | event => cases he
  | call r' a =>
    obtain ⟨e', he', heq⟩ := Option.map_eq_some_iff.mp he
    cases heq
    exact ⟨v, a, x, rfl, he'⟩

/-- No call is refused, as far as that counts. -/
def Granted (counts : Errno → Prop) (t : Trace) : Prop :=
  ∀ r a e, .call r a ∈ t → r.refusal? a = some e → ¬ counts e

/-- After a call that is refused, as far as that counts, there is nothing but closing, and the
outcome is what becomes of that call. -/
def Decides (counts : Errno → Prop) (blame : Request → IoError → SetupError) (t : Trace)
    (outcome : Option SetupError) : Prop :=
  ∀ (v : Trace) r a (x : Trace) e, t = v ++ .call r a :: x → r.refusal? a = some e → counts e →
    x.OnlyCloses ∧ outcome = some (blame r (.os e))

lemma OnlyCloses.granted (h : t.OnlyCloses) : t.Granted counts := by
  intro r a e hr he
  obtain ⟨fd, rfl⟩ := h r a hr
  cases he

lemma Granted.nil : Granted counts [] := fun _ _ _ h => nomatch h

lemma Granted.append (ht : t.Granted counts) (hu : u.Granted counts) :
    (t ++ u).Granted counts := by
  intro r a e hr
  rcases List.mem_append.mp hr with hr | hr
  · exact ht r a e hr
  · exact hu r a e hr

lemma Granted.event (e : Event) : Granted counts [.event e] := by
  intro r a e' hr
  cases List.mem_singleton.mp hr

lemma Granted.call {r : Request} {a : r.Answer} (h : ∀ e, r.refusal? a = some e → ¬ counts e) :
    Granted counts [.call r a] := by
  intro r' a' e hr
  cases List.mem_singleton.mp hr
  exact h e

lemma Granted.decides (h : t.Granted counts) : t.Decides counts blame outcome := by
  rintro v r a x e rfl he hcounts
  exact absurd hcounts (h r a e (by simp) he)

/-- Where no error comes out, no call has been refused. -/
lemma Decides.granted (h : t.Decides counts blame none) : t.Granted counts := by
  intro r a e hr he hcounts
  obtain ⟨v, x, rfl⟩ := List.append_of_mem hr
  obtain ⟨-, hnone⟩ := h v r a x e rfl he hcounts
  cases hnone

lemma Decides.call {r : Request} {a : r.Answer}
    (h : ∀ e, r.refusal? a = some e → outcome = some (blame r (.os e))) :
    Decides counts blame [.call r a] outcome := by
  intro v r' a' x e ht he _
  obtain ⟨hv, hentry⟩ := List.append_eq_singleton_iff.mp ht.symm |>.resolve_right
    fun hx => List.cons_ne_nil _ _ hx.2
  obtain ⟨hcall, rfl⟩ := List.cons.inj hentry
  cases hcall
  exact ⟨.nil, h e he⟩

/-- What has been granted before does not count. -/
lemma Decides.after (hu : u.Decides counts blame outcome) (ht : t.Granted counts) :
    (t ++ u).Decides counts blame outcome := by
  intro v r a x e hv he hcounts
  rcases List.append_eq_append_iff.mp hv with ⟨w, rfl, rfl⟩ | ⟨w, rfl, hw⟩
  · exact hu w r a x e rfl he hcounts
  · cases w with
    | nil => exact hu [] r a x e hw.symm he hcounts
    | cons entry w =>
      obtain ⟨rfl, -⟩ := List.cons.inj hw
      exact absurd hcounts (ht r a e (by simp) he)

lemma Decides.andThen (ht : t.Decides counts blame none) (hu : u.Decides counts blame outcome) :
    (t ++ u).Decides counts blame outcome :=
  hu.after ht.granted

lemma Decides.cons {r : Request} {a : r.Answer} (hr : r.refusal? a = none)
    (ht : t.Decides counts blame outcome) : Decides counts blame (.call r a :: t) outcome :=
  .after (t := [_]) ht (.call fun e he => by rw [hr] at he; cases he)

lemma Decides.event (e : Event) (ht : t.Decides counts blame outcome) :
    Decides counts blame (.event e :: t) outcome :=
  .after (t := [_]) ht (.event e)

/-- A failure may be followed by closing. -/
lemma Decides.before (ht : t.Decides counts blame outcome) (hu : u.OnlyCloses) :
    (t ++ u).Decides counts blame outcome := by
  intro v r a x e hv he hcounts
  rcases List.append_eq_append_iff.mp hv with ⟨w, rfl, rfl⟩ | ⟨w, rfl, hw⟩
  · exact absurd hcounts (hu.granted r a e (by simp) he)
  · cases w with
    | nil =>
      subst hw
      exact absurd hcounts (hu.granted r a e (by simp) he)
    | cons entry w =>
      obtain ⟨rfl, rfl⟩ := List.cons.inj hw
      obtain ⟨hx, ho⟩ := ht v r a w e rfl he hcounts
      exact ⟨hx.append hu, ho⟩

end Trace

end Kernel

open Trace

variable {counts : Errno → Prop} {t : Trace} {s s' : ControlSocket}

/-! ### The control socket -/

namespace ControlSocket

variable {asker : Asker} {name : InterfaceName}

lemma Opening.decides {r : Except SetupError Descriptor} (h : Opening s t r s') :
    t.Decides counts asker.blame (errorOf r) := by
  cases h with
  | held => exact Granted.nil.decides
  | refused e =>
    refine .call ?_
    rintro _ ⟨⟩
    simp
  | opened fd => exact .cons rfl (.event _ Granted.nil.decides)

lemma Shutting.granted (h : Shutting s t) : t.Granted counts := by
  cases h with
  | idle => exact .nil
  | closed fd answer =>
    exact .append (t := [_]) (.event _) (Closing.closed fd answer).onlyCloses.granted

section

variable {α β : Type} {entry : Descriptor → Except Errno α → Entry} {value : α → β}
  {event : β → Event}

/-- The wording is for interfaces that were not found; a control socket that cannot be opened is
told as it is. -/
lemma Asking.decides (wording : SetupError → SetupError) {r : Except SetupError α}
    (hopen : ∀ e, wording (.socketCreate .control e) = .socketCreate .control e)
    (hentry : ∀ fd a, Decides counts asker.blame [entry fd a]
      ((errno? a).map fun e => wording (.interfaceNotFound name.text (.os e))))
    (h : Asking name entry s t r s') : t.Decides counts asker.blame ((errorOf r).map wording) := by
  cases h with
  | unopened ho =>
    have hd : t.Decides counts asker.blame (errorOf _) := ho.decides
    cases ho
    simpa [hopen] using hd
  | failed e ho => exact .andThen ho.decides (hentry _ (.error e))
  | answered a ho => exact .andThen ho.decides (hentry _ (.ok a))

lemma Resolving.decides (wording : SetupError → SetupError) {r : Except SetupError β}
    (hopen : ∀ e, wording (.socketCreate .control e) = .socketCreate .control e)
    (hentry : ∀ fd a, Decides counts asker.blame [entry fd a]
      ((errno? a).map fun e => wording (.interfaceNotFound name.text (.os e))))
    (h : Resolving name entry value event s t r s') :
    t.Decides counts asker.blame ((errorOf r).map wording) := by
  cases h with
  | failed ha =>
    have hd := ha.decides wording hopen hentry
    exact hd
  | resolved ha => exact .andThen (ha.decides wording hopen hentry) (Granted.event _).decides

end

/-- A caller is told of an interface that was not found. -/
lemma ResolvingIndex.decides_caller {r : Except SetupError UInt32}
    (h : ResolvingIndex name s t r s') :
    t.Decides counts (Asker.caller name.text).blame (errorOf r) := by
  rw [← Option.map_id_apply (x := errorOf r)]
  refine Resolving.decides id (fun _ => rfl) ?_ h
  intro fd a
  refine .call ?_
  intro e he
  cases a <;> cases he
  rfl

lemma ResolvingAddress.decides_caller {r : Except SetupError MacAddress}
    (h : ResolvingAddress name s t r s') :
    t.Decides counts (Asker.caller name.text).blame (errorOf r) := by
  rw [← Option.map_id_apply (x := errorOf r)]
  refine Resolving.decides id (fun _ => rfl) ?_ h
  intro fd a
  refine .call ?_
  intro e he
  cases a <;> cases he
  rfl

variable {sessionId : UInt16}

/-- A connection cannot be bound to an interface without an index. -/
lemma ResolvingIndex.decides {r : Except SetupError UInt32} (h : ResolvingIndex name s t r s') :
    t.Decides counts (Asker.connection name.text sessionId).blame
      ((errorOf r).map SetupError.whileBinding) := by
  refine Resolving.decides _ (fun _ => rfl) ?_ h
  intro fd a
  refine .call ?_
  intro e he
  cases a <;> cases he
  rfl

/-- A connection cannot be named after an interface without an address. -/
lemma ResolvingAddress.decides {r : Except SetupError MacAddress}
    (h : ResolvingAddress name s t r s') :
    t.Decides counts (Asker.connection name.text sessionId).blame
      ((errorOf r).map SetupError.whileNaming) := by
  refine Resolving.decides _ (fun _ => rfl) ?_ h
  intro fd a
  refine .call ?_
  intro e he
  cases a <;> cases he
  rfl

end ControlSocket

/-! ### Connections -/

lemma InterfaceName.text_of_validate {text : String} {name : InterfaceName}
    (h : validate text = .ok name) : name.text = text := by
  unfold validate ofText at h
  split at h
  next hname =>
    split at hname
    · cases hname
    · cases hname
      cases h
      rfl
  next => cases h

namespace Connection

/-- The interface that a connection is brought up on: its own, or else the requested one. -/
def interfaceFor (c : Connection) (requested : Option String) : String :=
  match c.name with
  | some name => name.text
  | none => requested.getD ""

variable {c c' : Connection} {sessionId : UInt16}

lemma Naming.decides {text : String} {r : Except SetupError Unit} (h : Naming c text s t r c' s') :
    t.Decides counts (Asker.connection text sessionId).blame (errorOf r) := by
  cases h with
  | taken | invalid => exact Granted.nil.decides
  | unresolved _ hv hr =>
    obtain rfl := InterfaceName.text_of_validate hv
    exact hr.decides
  | named _ hv hr =>
    obtain rfl := InterfaceName.text_of_validate hv
    exact .andThen hr.decides (Granted.event _).decides

lemma Adoption.decides {requested : Option String} {r : Except SetupError Unit}
    (h : Adoption c s requested t r c' s') :
    t.Decides counts (Asker.connection (c.interfaceFor requested) sessionId).blame (errorOf r) := by
  cases h with
  | unasked | confirmed => exact Granted.nil.decides
  | kept => exact (Granted.event _).decides
  | applied hc hn =>
    simp only [interfaceFor, hc]
    exact hn.decides

/-- A connection that has adopted a name is on that interface. -/
lemma Adoption.text_eq {requested : Option String} {name : InterfaceName}
    (h : Adoption c s requested t (.ok ()) c' s') (hname : c'.name = some name) :
    name.text = c.interfaceFor requested := by
  cases h with
  | unasked | confirmed | kept => simp only [interfaceFor, hname]
  | applied hc hn =>
    cases hn with
    | named _ hv _ =>
      cases hname
      simp only [interfaceFor, hc]
      exact InterfaceName.text_of_validate hv

lemma DiscoveryOpening.decides {asker : Asker} {r : Except SetupError Descriptor}
    (h : DiscoveryOpening t r) : t.Decides counts asker.blame (errorOf r) := by
  cases h with
  | refused e =>
    refine .call ?_
    rintro _ ⟨⟩
    simp
  | silenced fd e closing =>
    refine .cons rfl (.before (t := [_]) (.call ?_) (Closing.closed fd closing).onlyCloses)
    rintro _ ⟨⟩
    cases asker <;> rfl
  | opened fd => exact .cons rfl (.cons rfl Granted.nil.decides)

/-- The connection is named after the interface, if it is named. -/
def On (c : Connection) (interface : String) : Prop :=
  ∀ name, c.name = some name → name.text = interface

variable {interface : String}

lemma Binding.decides {fd : Descriptor} {r : Except SetupError UInt32} (h : Binding c fd s t r s')
    (hc : c.On interface) :
    t.Decides counts (Asker.connection interface sessionId).blame (errorOf r) := by
  cases h with
  | unnamed => exact Granted.nil.decides
  | unresolved hname hr =>
    obtain rfl := hc _ hname
    exact hr.decides
  | refused e hname hr =>
    obtain rfl := hc _ hname
    refine .andThen hr.decides (.call ?_)
    rintro _ ⟨⟩
    rfl
  | bound hname hr =>
    obtain rfl := hc _ hname
    exact .andThen hr.decides (.cons rfl (Granted.event _).decides)

lemma BoundOpening.decides {r : Except SetupError (Descriptor × UInt32)}
    (h : BoundOpening c s t r s') (hc : c.On interface) :
    t.Decides counts (Asker.connection interface sessionId).blame (errorOf r) := by
  cases h with
  | unopened hd => exact hd.decides
  | unbound closing hd hb =>
    refine .before (.andThen hd.decides (.event _ ?_)) (Closing.closed _ closing).onlyCloses
    exact hb.decides hc
  | bound hd hb => exact .andThen hd.decides (.event _ (hb.decides hc))

lemma SocketsOpening.decides {requested : Option String} {r : Except SetupError Sockets}
    (h : SocketsOpening c requested s t r c' s') :
    t.Decides counts (Asker.connection (c.interfaceFor requested) sessionId).blame
      (errorOf r) := by
  cases h with
  | refused e =>
    refine .call ?_
    rintro _ ⟨⟩
    rfl
  | unnamed closing ha =>
    refine .before (.cons rfl (.event _ ?_)) (Closing.closed _ closing).onlyCloses
    exact ha.decides
  | unbound closing ha hb =>
    refine .before (.cons rfl (.event _ ?_)) (Closing.closed _ closing).onlyCloses
    exact .andThen ha.decides (hb.decides fun _ => ha.text_eq)
  | opened ha hb =>
    exact .cons rfl (.event _ (.andThen ha.decides (hb.decides fun _ => ha.text_eq)))

lemma SocketClosing.onlyCloses {event : Event} {fd? : Option Descriptor}
    (h : SocketClosing event fd? t) : t.OnlyCloses := by
  cases h with
  | nothing => exact .nil
  | closed fd closing =>
    intro r a hr
    simp only [List.mem_cons, reduceCtorEq, List.not_mem_nil, or_false] at hr
    cases hr
    exact ⟨fd, rfl⟩

lemma Clearing.onlyCloses (h : Clearing c t) : t.OnlyCloses := by
  cases h with
  | cleared hs hd => exact hs.onlyCloses.append hd.onlyCloses

lemma BringUp.decides {requested : Option String} {r : Except SetupError Unit}
    (h : BringUp c requested s t r c' s') :
    t.Decides counts (Asker.connection (c.interfaceFor requested) sessionId).blame
      (errorOf r) := by
  cases h with
  | already => exact Granted.nil.decides
  | @failed t u e _ _ _ ho hc =>
    have hevent : OnlyCloses [.event (.setupFailed e)] := fun _ _ h => by simp at h
    exact .before ho.decides (hevent.append hc.onlyCloses)
  | ready _ ho hr =>
    exact .andThen (.andThen ho.decides hr.onlyCloses.granted.decides) (Granted.event _).decides

lemma Limiting.granted {fd : Descriptor} {limit : Option Duration} (h : Limiting fd limit t) :
    t.Granted counts := by
  cases h with
  | unlimited => exact .nil
  | limited => exact .call fun _ he => nomatch he

lemma Connecting.decides {remote : MacAddress} {r : Except SetupError Unit}
    (h : Connecting c sessionId remote t r) :
    t.Decides counts (Asker.connection interface sessionId).blame (errorOf r) := by
  cases h with
  | reserved | notReady => exact Granted.nil.decides
  | unlimited e =>
    refine .call ?_
    rintro _ ⟨⟩
    rfl
  | refused e _ _ _ _ hl =>
    refine .after (.call ?_) hl.granted
    rintro _ ⟨⟩
    rfl
  | connected _ _ _ _ hl => exact .after (.cons rfl (Granted.event _).decides) hl.granted

lemma Channelling.decides {r : Except SetupError Int32} (h : Channelling c t r) :
    t.Decides counts (Asker.connection interface sessionId).blame (errorOf r) := by
  cases h with
  | notReady => exact Granted.nil.decides
  | refused e =>
    refine .call ?_
    rintro _ ⟨⟩
    rfl
  | told => exact .cons rfl Granted.nil.decides

end Connection

/-! ### Discovery sockets -/

namespace DiscoverySocket

open Connection

variable {c : Connection} {d d' : DiscoverySocket} {asker : Asker} {sessionId : UInt16}

lemma Wrapping.decides {r : Except SetupError DiscoverySocket} (h : Wrapping c t r) :
    t.Decides counts asker.blame (errorOf r) := by
  cases h with
  | wrapped => exact Granted.nil.decides
  | refused _ hr => exact hr.onlyCloses.granted.decides

lemma FreshOpening.decides {name : String} {r : Except SetupError DiscoverySocket}
    (h : FreshOpening c name s t r s') :
    t.Decides counts (Asker.connection (c.interfaceFor (some name)) sessionId).blame
      (errorOf r) := by
  cases h with
  | failed hb hr => exact .before hb.decides hr.onlyCloses
  | broughtUp hb hw => exact .andThen hb.decides hw.decides

lemma ModeSetting.decides {nonblocking : Bool} {r : Except SetupError Unit}
    (h : ModeSetting d nonblocking t r) : t.Decides counts asker.blame (errorOf r) := by
  cases h with
  | unread e =>
    refine .call ?_
    rintro _ ⟨⟩
    cases asker <;> rfl
  | refused flags e =>
    refine .cons rfl (.call ?_)
    rintro _ ⟨⟩
    cases asker <;> rfl
  | set flags => exact .cons rfl (.cons rfl (Granted.event _).decides)

lemma ConfiguredOpening.decides {config : SetupConfig} {r : Except SetupError DiscoverySocket}
    (h : ConfiguredOpening config s t r s') :
    t.Decides counts (Asker.connection (config.interface?.getD "") sessionId).blame
      (errorOf r) := by
  cases h with
  | unnamed => exact Granted.nil.decides
  | failed hi hf | blocking hi _ hf =>
    rw [hi]
    exact hf.decides
  | unswitched hi _ hf hm hr =>
    rw [hi]
    exact .andThen hf.decides (.before hm.decides hr.onlyCloses)
  | switched hi _ hf hm =>
    rw [hi]
    exact .andThen hf.decides hm.decides

/-- The error that comes of a transfer. -/
def transferError? {α : Type} (r : Except Errno α) : Option SetupError :=
  (errno? r).map fun e => .io (.os e)

lemma send_decides {frame : List UInt8} {r : Except Errno Nat}
    (h : (d.send frame).Yields t (r, d')) : t.Decides counts asker.blame (transferError? r) := by
  obtain ⟨rfl, rfl⟩ := yields_send.mp h
  refine .call ?_
  intro e he
  cases r <;> cases he
  cases asker <;> rfl

lemma receive_decides {capacity : Nat} {r : Except Errno Received}
    (h : (d.receive capacity).Yields t (r, d')) :
    t.Decides counts asker.blame (transferError? r) := by
  obtain ⟨answer, rfl, rfl, rfl⟩ := yields_receive.mp h
  refine .call ?_
  intro e he
  cases answer <;> cases he
  cases asker <;> rfl

end DiscoverySocket

namespace AsyncSocket

open DiscoverySocket

variable {d d' : DiscoverySocket} {asker : Asker}

lemma Watching.decides {r : Except SetupError AsyncSocket} (h : Watching d t r) :
    t.Decides counts asker.blame (errorOf r) := by
  cases h with
  | unswitched hm hr => exact .before hm.decides hr.onlyCloses
  | unwatched e hm hr =>
    refine .andThen hm.decides (.before (t := [_]) (.call ?_) hr.onlyCloses)
    rintro _ ⟨⟩
    cases asker <;> rfl
  | watched hm => exact .andThen hm.decides (.cons rfl Granted.nil.decides)

lemma Unwatching.decides {a : AsyncSocket} {r : Except SetupError DiscoverySocket}
    (h : Unwatching a t r) : t.Decides counts asker.blame (errorOf r) := by
  cases h with
  | unswitched hm hr => exact .before hm.decides hr.onlyCloses
  | switched hm => exact hm.decides

def pollError? {α : Type} : Poll (Except Errno α) → Option SetupError
  | .finished r => transferError? r
  | .pending => none

/-- An attempt that is put off does not count, as it is repeated. -/
lemma Retrying.decides {α : Type}
    {attempt : DiscoverySocket → Program (Except Errno α × DiscoverySocket)} {n : Nat}
    {r : Poll (Except Errno α)}
    (ha : ∀ {d t r d'}, (attempt d).Yields t (r, d') →
      t.Decides (· ≠ .again) asker.blame (transferError? r))
    (h : Retrying attempt n d t r d') : t.Decides (· ≠ .again) asker.blame (pollError? r) := by
  induction h with
  | exhausted => exact Granted.nil.decides
  | finished _ h => exact ha h
  | @putOff n d d₁ d' t u r h _ ih =>
    refine .after ih ?_
    intro req a e hreq he hne
    obtain ⟨v, x, rfl⟩ := List.append_of_mem hreq
    obtain ⟨-, herr⟩ := ha h v req a x e rfl he hne
    have hsource := congrArg (Option.bind · SetupError.source?) herr
    simp only [Option.bind_some, Asker.source?_blame] at hsource
    cases hsource
    exact hne rfl

/-- A transfer that is tried once per notification. -/
lemma decides_notified {α : Type} {a a' : AsyncSocket} {direction : Direction}
    {attempt : DiscoverySocket → Program (Except Errno α × DiscoverySocket)}
    {r : Poll (Except Errno α)}
    (ha : ∀ {d t r d'}, (attempt d).Yields t (r, d') →
      t.Decides (· ≠ .again) asker.blame (transferError? r))
    (h : (do
      let n ← Program.call (.notifications a.socket.rawFd direction)
      let (result, socket) ← retry attempt n a.socket
      return (result, (⟨socket⟩ : AsyncSocket)) : Program _).Yields t (r, a')) :
    t.Decides (· ≠ .again) asker.blame (pollError? r) := by
  obtain ⟨n, u, rfl, hr⟩ := exists_retrying h
  exact .cons rfl (Retrying.decides ha hr)

end AsyncSocket

end PppoeSetup
