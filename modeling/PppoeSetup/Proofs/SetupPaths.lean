import PppoeSetup.Proofs.Anonymous
import PppoeSetup.Proofs.Readiness
import PppoeSetup.Proofs.Kernel.Use

/-!
# The setup paths agree

A connection can be named first and then brought up, or brought up under the name at once; a
discovery socket can be opened on an interface, or a connection that has been brought up can be
wrapped. Against a kernel that answers every call by what is asked alone, these ways come to the
same, but for one error.
-/

namespace PppoeSetup

open Kernel Connection DiscoverySocket ControlSocket

/-! ### Kernels that answer by what is asked alone -/

namespace Kernel

/-- What a kernel makes of every call, whatever the descriptor. -/
structure Policy where
  opens : SocketKind → Except Errno Unit
  answer : (u : Use) → u.Answer

variable {σ : Type} {K : Kernel σ} {P : Policy} {t u : Trace}

/-- Nothing that has been before matters to an answer, and the descriptors that are given out are
any. -/
structure Uniform (K : Kernel σ) (P : Policy) : Prop where
  opens (s : σ) (kind : SocketKind) :
    (K.respond s (.openSocket kind)).1.map (fun _ => ()) = P.opens kind
  answer (s : σ) (u : Use) (fd : Descriptor) :
    (K.respond s (u.on fd)).1 = u.answerOn fd (P.answer u)

/-- The kernel may have given all the answers. -/
abbrev Trace.AnsweredBy (K : Kernel σ) (t : Trace) : Prop :=
  t.Calls fun r a => ∃ s, (K.respond s r).1 = a

lemma Uniform.opens_eq (hK : K.Uniform P) {kind : SocketKind} {a : Except Errno Descriptor}
    (h : ∃ s, (K.respond s (.openSocket kind)).1 = a) : P.opens kind = a.map fun _ => () := by
  obtain ⟨s, rfl⟩ := h
  exact (hK.opens s kind).symm

lemma Uniform.answer_eq (hK : K.Uniform P) (u : Use) {fd : Descriptor} {a : u.Answer}
    (h : ∃ s, (K.respond s (u.on fd)).1 = u.answerOn fd a) : P.answer u = a := by
  obtain ⟨s, hs⟩ := h
  have ha := (hK.answer s u fd).symm.trans hs
  cases u <;> exact ha

end Kernel

/-! ### What becomes of a setup -/

namespace Kernel.Policy

lemma ok_bind {α β : Type} (a : α) (f : α → Except SetupError β) :
    (.ok a : Except _ _) >>= f = f a :=
  rfl

variable (P : Policy)

/-- A refusal is an error of the given wording. -/
def told {α : Type} (wrap : IoError → SetupError) (a : Except Errno α) : Except SetupError α :=
  a.mapError fun e => wrap (.os e)

def socket (kind : SocketKind) : Except SetupError Unit := told (.socketCreate kind) (P.opens kind)

/-- The control socket is opened unless it is open. -/
def control (isOpen : Bool) : Except SetupError Unit :=
  if isOpen then .ok () else P.socket .control

/-- A question about an interface. -/
def asking {α : Type} (isOpen : Bool) (name : InterfaceName) (answer : Except Errno α) :
    Except SetupError α := do
  P.control isOpen
  told (.interfaceNotFound name.text) answer

/-- The name that a text is, and the address of that interface. -/
def naming (isOpen : Bool) (text : String) : Except SetupError (InterfaceName × MacAddress) := do
  let name ← InterfaceName.validate text
  let address ← P.asking isOpen name (P.answer (.hardwareAddress name.buffer))
    |>.map addressOf |>.mapError SetupError.whileNaming
  return (name, address)

/-- The connection that takes the requested name if it has none, and whether the control socket is
open after that. -/
def adopting (c : Connection) (isOpen : Bool) : Option String →
    Except SetupError (Connection × Bool)
  | none => return (c, isOpen)
  | some text =>
    match c.name with
    | some _ => return (c, isOpen)
    | none => do
      let (name, address) ← P.naming isOpen text
      return ({ c with name := some name, address }, true)

/-- A discovery socket that may send to the broadcast address. -/
def discovery : Except SetupError Unit := do
  P.socket .discovery
  told (.socketCreate .discovery) (P.answer (.setOption .broadcast))

/-- The index that a discovery socket is bound to. -/
def index (c : Connection) (isOpen : Bool) : Except SetupError UInt32 :=
  match c.name with
  | none => .error (.bind "" (.other "no interface name set"))
  | some name => do
    let index ← P.asking isOpen name (P.answer (.interfaceIndex name.buffer))
      |>.mapError SetupError.whileBinding
    told (.bind name.text) (P.answer (.bind (.discoveryOn index)))
    return index

def openBound (c : Connection) (isOpen : Bool) : Except SetupError UInt32 := do
  P.discovery
  P.index c isOpen

/-- The connection that has come up. -/
def bringUp (c : Connection) (isOpen : Bool) (requested : Option String) :
    Except SetupError Connection := do
  P.socket .session
  let (c, isOpen) ← P.adopting c isOpen requested
  let index ← P.openBound c isOpen
  return { c with session := some 0, discovery := some 0, index := some index }

/-- The connection that has been named and has come up after that. -/
def nameAndBringUp (timeout : Option Duration) (isOpen : Bool) (text : String) :
    Except SetupError Connection := do
  let (name, address) ← P.naming isOpen text
  P.bringUp { Connection.fresh timeout with name := some name, address } true none

variable {P : Policy} {isOpen : Bool} {text : String} {timeout : Option Duration}

/-- The session socket comes before the name, and only its refusal does. -/
lemma bringUp_of_naming_error {e : SetupError} (h : P.naming isOpen text = .error e) :
    P.bringUp (.fresh timeout) isOpen (some text) = P.socket .session >>= fun _ => .error e := by
  have hadopting : P.adopting (.fresh timeout) isOpen (some text) = .error e := by
    simp only [adopting, Connection.fresh, h]
    rfl
  simp only [bringUp, hadopting]
  rfl

lemma bringUp_of_naming_ok {name : InterfaceName} {address : MacAddress}
    (h : P.naming isOpen text = .ok (name, address)) :
    P.bringUp (.fresh timeout) isOpen (some text) = P.nameAndBringUp timeout isOpen text := by
  simp only [bringUp, nameAndBringUp, h, adopting, Connection.fresh]
  rfl

end Kernel.Policy

section

variable {σ : Type} {K : Kernel σ} {P : Policy} {t : Trace} {s s' : ControlSocket}

/-! ### The control socket -/

namespace ControlSocket

lemma Opening.verdict (hK : K.Uniform P) {r : Except SetupError Descriptor}
    (h : Opening s t r s') (ht : t.AnsweredBy K) :
    P.control s.isOpen = (r.map fun _ => ()) ∧ (∀ fd, r = .ok fd → s'.isOpen) := by
  cases h with
  | held => exact ⟨rfl, fun _ _ => rfl⟩
  | refused e =>
    have ho := hK.opens_eq (ht _ _ List.mem_cons_self)
    refine ⟨?_, fun _ hr => nomatch hr⟩
    change P.socket .control = _
    rw [Policy.socket, ho]
    rfl
  | opened fd =>
    have ho := hK.opens_eq (ht _ _ List.mem_cons_self)
    refine ⟨?_, fun _ _ => rfl⟩
    change P.socket .control = _
    rw [Policy.socket, ho]
    rfl

variable {α β : Type} {name : InterfaceName} {entry : Descriptor → Except Errno α → Entry}
  {answer : Except Errno α} {value : α → β} {event : β → Event}

lemma Asking.verdict (hK : K.Uniform P) {r : Except SetupError α}
    (h : Asking name entry s t r s') (ht : t.AnsweredBy K)
    (hentry : ∀ {fd a}, Trace.AnsweredBy K [entry fd a] → answer = a) :
    P.asking s.isOpen name answer = r ∧ (∀ a, r = .ok a → s'.isOpen) := by
  cases h with
  | unopened ho =>
    refine ⟨?_, fun _ hr => nomatch hr⟩
    rw [Policy.asking, (ho.verdict hK ht).1]
    rfl
  | failed e ho =>
    obtain ⟨hopening, hanswer⟩ := Trace.calls_append.mp ht
    refine ⟨?_, fun _ hr => nomatch hr⟩
    rw [Policy.asking, (ho.verdict hK hopening).1, hentry hanswer]
    rfl
  | answered a ho =>
    obtain ⟨hopening, hanswer⟩ := Trace.calls_append.mp ht
    obtain ⟨hcontrol, hopen⟩ := ho.verdict hK hopening
    refine ⟨?_, fun _ _ => hopen _ rfl⟩
    rw [Policy.asking, hcontrol, hentry hanswer]
    rfl

lemma Resolving.verdict (hK : K.Uniform P) {r : Except SetupError β}
    (h : Resolving name entry value event s t r s') (ht : t.AnsweredBy K)
    (hentry : ∀ {fd a}, Trace.AnsweredBy K [entry fd a] → answer = a) :
    (P.asking s.isOpen name answer).map value = r ∧ (∀ b, r = .ok b → s'.isOpen) := by
  cases h with
  | failed ha =>
    rw [(ha.verdict hK ht hentry).1]
    exact ⟨rfl, fun _ hr => nomatch hr⟩
  | resolved ha =>
    obtain ⟨hasking, hopen⟩ := ha.verdict hK (Trace.calls_append.mp ht).1 hentry
    rw [hasking]
    exact ⟨rfl, fun _ _ => hopen _ rfl⟩

lemma ResolvingAddress.verdict (hK : K.Uniform P) {r : Except SetupError MacAddress}
    (h : ResolvingAddress name s t r s') (ht : t.AnsweredBy K) :
    (P.asking s.isOpen name (P.answer (.hardwareAddress name.buffer))).map addressOf = r ∧
      (∀ address, r = .ok address → s'.isOpen) :=
  Resolving.verdict hK h ht fun hentry => hK.answer_eq _ (hentry _ _ List.mem_cons_self)

lemma ResolvingIndex.verdict (hK : K.Uniform P) {r : Except SetupError UInt32}
    (h : ResolvingIndex name s t r s') (ht : t.AnsweredBy K) :
    P.asking s.isOpen name (P.answer (.interfaceIndex name.buffer)) = r := by
  have hverdict : (P.asking s.isOpen name (P.answer (.interfaceIndex name.buffer))).map id = r :=
    (Resolving.verdict hK h ht fun hentry =>
      hK.answer_eq (.interfaceIndex name.buffer) (hentry _ _ List.mem_cons_self)).1
  rwa [Except.map_id, id] at hverdict

end ControlSocket

/-! ### Connections -/

namespace Connection

variable {c c' : Connection}

lemma Naming.verdict (hK : K.Uniform P) {text : String} {r : Except SetupError Unit}
    (h : Naming c text s t r c' s') (ht : t.AnsweredBy K) (hc : c.name = none) :
    (∃ e, P.naming s.isOpen text = .error e ∧ r = .error e ∧ c' = c) ∨
      ∃ name address, P.naming s.isOpen text = .ok (name, address) ∧ r = .ok () ∧
        c' = { c with name := some name, address } ∧ s'.isOpen := by
  cases h with
  | taken hname => cases hc.symm.trans hname
  | invalid _ hv =>
    refine .inl ⟨_, ?_, rfl, rfl⟩
    rw [Policy.naming, hv]
    rfl
  | unresolved _ hv hr =>
    refine .inl ⟨_, ?_, rfl, rfl⟩
    simp only [Policy.naming, hv, Policy.ok_bind, (hr.verdict hK ht).1]
    rfl
  | named _ hv hr =>
    obtain ⟨hverdict, hopen⟩ := hr.verdict hK (Trace.calls_append.mp ht).1
    refine .inr ⟨_, _, ?_, rfl, rfl, hopen _ rfl⟩
    simp only [Policy.naming, hv, Policy.ok_bind, hverdict]
    rfl

lemma Adoption.verdict (hK : K.Uniform P) {requested : Option String} {r : Except SetupError Unit}
    (h : Adoption c s requested t r c' s') (ht : t.AnsweredBy K) :
    P.adopting c s.isOpen requested = r.map fun _ => (c', s'.isOpen) := by
  cases h with
  | unasked => rfl
  | confirmed hc | kept hc =>
    simp only [Policy.adopting, hc]
    rfl
  | applied hc hn =>
    simp only [Policy.adopting, hc]
    rcases hn.verdict hK ht hc with
      ⟨e, hnaming, rfl, rfl⟩ | ⟨name, address, hnaming, rfl, rfl, hopen⟩
    · rw [hnaming]
      rfl
    · rw [hnaming, hopen]
      rfl

lemma DiscoveryOpening.verdict (hK : K.Uniform P) {r : Except SetupError Descriptor}
    (h : DiscoveryOpening t r) (ht : t.AnsweredBy K) : P.discovery = r.map fun _ => () := by
  have hopens {a : Except Errno Descriptor} (ha : .call (.openSocket .discovery) a ∈ t) :=
    hK.opens_eq (ht _ _ ha)
  have hanswer {fd : Descriptor} {a : Except Errno Unit}
      (ha : .call (.setOption fd .broadcast) a ∈ t) :=
    hK.answer_eq (.setOption .broadcast) (ht _ _ ha)
  cases h with
  | refused e =>
    rw [Policy.discovery, Policy.socket, hopens List.mem_cons_self]
    rfl
  | silenced | opened =>
    rw [Policy.discovery, Policy.socket, hopens List.mem_cons_self,
      hanswer (.tail _ List.mem_cons_self)]
    rfl

lemma Binding.verdict (hK : K.Uniform P) {fd : Descriptor} {r : Except SetupError UInt32}
    (h : Binding c fd s t r s') (ht : t.AnsweredBy K) : P.index c s.isOpen = r := by
  cases h with
  | unnamed hc =>
    simp only [Policy.index, hc]
  | unresolved hc hr =>
    simp only [Policy.index, hc, hr.verdict hK ht]
    rfl
  | refused _ hc hr | bound hc hr =>
    -- the resolving comes first; the bind is the last call
    obtain ⟨hresolving, hbind⟩ := Trace.calls_append.mp ht
    have hanswer := hK.answer_eq (.bind (.discoveryOn _)) (hbind _ _ List.mem_cons_self)
    simp only [Policy.index, hc, hr.verdict hK hresolving]
    change (do Policy.told _ (P.answer (.bind (.discoveryOn _))); _) = _
    rw [hanswer]
    rfl

lemma BoundOpening.verdict (hK : K.Uniform P) {r : Except SetupError (Descriptor × UInt32)}
    (h : BoundOpening c s t r s') (ht : t.AnsweredBy K) :
    P.openBound c s.isOpen = r.map Prod.snd := by
  cases h with
  | unopened hd =>
    rw [Policy.openBound, hd.verdict hK ht]
    rfl
  | unbound closing hd hb =>
    simp only [Trace.calls_append, Trace.calls_event] at ht
    rw [Policy.openBound, hd.verdict hK ht.1.1, hb.verdict hK ht.1.2]
    rfl
  | bound hd hb =>
    simp only [Trace.calls_append, Trace.calls_event] at ht
    rw [Policy.openBound, hd.verdict hK ht.1, hb.verdict hK ht.2]
    rfl

lemma SocketsOpening.verdict (hK : K.Uniform P) {requested : Option String}
    {r : Except SetupError Sockets} (h : SocketsOpening c requested s t r c' s')
    (ht : t.AnsweredBy K) :
    P.bringUp c s.isOpen requested = r.map fun new =>
      { c' with session := some 0, discovery := some 0, index := some new.index } := by
  cases h with
  | refused e =>
    rw [Policy.bringUp, Policy.socket, hK.opens_eq (ht _ _ List.mem_cons_self)]
    rfl
  | unnamed closing ha =>
    simp only [List.cons_append, Trace.calls_append, Trace.calls_event, Trace.calls_call] at ht
    obtain ⟨hopens, hadopting, -⟩ := ht
    rw [Policy.bringUp, Policy.socket, hK.opens_eq hopens, ha.verdict hK hadopting]
    rfl
  | unbound closing ha hb =>
    simp only [List.cons_append, Trace.calls_append, Trace.calls_event, Trace.calls_call] at ht
    obtain ⟨hopens, ⟨hadopting, hbound⟩, -⟩ := ht
    rw [Policy.bringUp, Policy.socket, hK.opens_eq hopens, ha.verdict hK hadopting]
    change (P.openBound _ _ >>= _) = _
    rw [hb.verdict hK hbound]
    rfl
  | opened ha hb =>
    simp only [List.cons_append, Trace.calls_append, Trace.calls_event, Trace.calls_call] at ht
    obtain ⟨hopens, hadopting, hbound⟩ := ht
    rw [Policy.bringUp, Policy.socket, hK.opens_eq hopens, ha.verdict hK hadopting]
    change (P.openBound _ _ >>= _) = _
    rw [hb.verdict hK hbound]
    rfl

/-- An attempt to bring up a connection: it fails and leaves a fresh one, or leaves a ready one that
is known up to the numbers of its descriptors. -/
inductive Attempted (timeout : Option Duration) :
    Except SetupError Connection → Except SetupError Unit → Connection → Prop
  | failed (e : SetupError) : Attempted timeout (.error e) (.error e) (fresh timeout)
  | ready {c : Connection} : c.state = .ready → Attempted timeout (.ok c.anonymous) (.ok ()) c

lemma BringUp.attempted (hK : K.Uniform P) {requested : Option String} {r : Except SetupError Unit}
    (h : BringUp c requested s t r c' s') (ht : t.AnsweredBy K) (hc : c.state ≠ .ready) :
    Attempted c.timeout (P.bringUp c s.isOpen requested) r c' := by
  cases h with
  | already hready => exact absurd hready hc
  | @failed _ _ e _ _ _ ho hclear =>
    rw [ho.verdict hK (Trace.calls_append.mp ht).1, (BringUp.failed hc ho hclear).eq_fresh hc]
    exact .failed e
  | @ready _ _ new c₁ _ _ ho =>
    simp only [Trace.calls_append] at ht
    rw [ho.verdict hK ht.1.1]
    let up : Connection :=
      { c₁ with
        session := some new.session, discovery := some new.discovery, index := some new.index }
    have hready : up.state = .ready := state_eq_ready.mpr ⟨rfl, rfl⟩
    exact .ready hready

end Connection

namespace DiscoverySocket

variable {c : Connection} {name : String} {r : Except SetupError DiscoverySocket}

/-- The discovery socket on a connection that has come up, without the numbers of descriptors. -/
def onReady (c : Connection) : DiscoverySocket := ⟨c, 0, .none⟩

lemma FreshOpening.verdict (hK : K.Uniform P) (h : FreshOpening c name s t r s')
    (ht : t.AnsweredBy K) (hc : c.state ≠ .ready) :
    r.map anonymous = (P.bringUp c s.isOpen (some name)).map onReady := by
  cases h with
  | failed hb =>
    have hup := hb.attempted hK (Trace.calls_append.mp ht).1 hc
    generalize P.bringUp c s.isOpen (some name) = up at hup ⊢
    cases hup with
    | failed => rfl
  | broughtUp hb hw =>
    have hup := hb.attempted hK (Trace.calls_append.mp ht).1 hc
    generalize P.bringUp c s.isOpen (some name) = up at hup ⊢
    cases hup with
    | ready hready =>
      cases hw with
      | wrapped => rfl
      | refused hunready => exact absurd hready hunready

lemma ConfiguredOpening.verdict (hK : K.Uniform P) {config : SetupConfig}
    (h : ConfiguredOpening config s t r s') (ht : t.AnsweredBy K)
    (hi : config.interface? = some name) (hn : config.nonblocking = false) :
    r.map anonymous = (P.bringUp (.ofConfig config) s.isOpen (some name)).map onReady := by
  have hc : (Connection.ofConfig config).state ≠ .ready := fun h => nomatch h
  cases h with
  | unnamed h => cases h.symm.trans hi
  | failed h hf | blocking h _ hf =>
    cases h.symm.trans hi
    exact hf.verdict hK ht hc
  | unswitched _ h | switched _ h => cases h.symm.trans hn

end DiscoverySocket

/-! ### The paths -/

/-- A connection is named and, if that goes well, brought up. -/
def Connection.nameAndBringUp (c : Connection) (text : String) :
    Shared (Except SetupError Unit × Connection) := do
  let (result, c) ← c.setName text
  match result with
  | .error e => return (.error e, c)
  | .ok () => c.bringUp none

/-- A connection is brought up on an interface and, if that goes well, wrapped. -/
def Connection.bringUpAndWrap (c : Connection) (text : String) : Attempt DiscoverySocket := do
  let (result, c) ← c.bringUp (some text)
  match result with
  | .error e => throw e
  | .ok () => Attempt.ofFallible (DiscoverySocket.ofConnection c)

/-- What a program that shares the control socket comes to on a kernel. -/
def Shared.result {α : Type} (p : Shared α) (K : Kernel σ) (control : ControlSocket) (k : σ) : α :=
  ((p.run control).run K k).value.1

lemma Shared.yields_result {α : Type} (p : Shared α) (K : Kernel σ) (control : ControlSocket)
    (k : σ) :
    ∃ t s', (p.run control).Yields t (p.result K control k, s') ∧ t.AnsweredBy K :=
  ⟨_, _, Program.yields_run K (p.run control) k, Program.calls_run K (p.run control) k⟩

namespace Connection

variable {c' : Connection} {text : String} {timeout : Option Duration}
  {r : Except SetupError Unit}

lemma attempted_nameAndBringUp (hK : K.Uniform P)
    (h : (((fresh timeout).nameAndBringUp text).run s).Yields t ((r, c'), s'))
    (ht : t.AnsweredBy K) :
    Attempted timeout (P.nameAndBringUp timeout s.isOpen text) r c' := by
  obtain ⟨u, v, ⟨_ | _, c₁⟩, s₁, rfl, hn, hb⟩ := Shared.yields_bind.mp h
  all_goals
    obtain ⟨hu, hv⟩ := Trace.calls_append.mp ht
    rcases (Naming.of_yields hn).verdict hK hu rfl with
      ⟨e, hnaming, ⟨⟩, rfl⟩ | ⟨name, address, hnaming, ⟨⟩, rfl, hopen⟩
    rw [Policy.nameAndBringUp, hnaming]
  · cases hb
    exact .failed _
  · have hup := (BringUp.of_yields hb).attempted hK hv fun h => nomatch h
    rw [hopen] at hup
    exact hup

lemma attempted_bringUp (hK : K.Uniform P)
    (h : (((fresh timeout).bringUp (some text)).run s).Yields t ((r, c'), s'))
    (ht : t.AnsweredBy K) :
    Attempted timeout (P.bringUp (fresh timeout) s.isOpen (some text)) r c' :=
  (BringUp.of_yields h).attempted hK ht fun h => nomatch h

/-- How the two ways to bring up a fresh connection compare. `session` is what the kernel makes of
a session socket, and `named` what naming the connection comes to. -/
structure PathsAgree (session : Except Errno Unit) (timeout : Option Duration)
    (named first second : Except SetupError Unit × Connection) : Prop where
  succeed : first.1 = .ok () ↔ second.1 = .ok ()
  ready : first.1 = .ok () → first.2.state = .ready ∧ second.2.state = .ready ∧
    first.2.anonymous = second.2.anonymous
  fresh : first.1 ≠ .ok () → first.2 = fresh timeout ∧ second.2 = fresh timeout
  same : session = .ok () ∨ named.1 = .ok () → first.1 = second.1
  differ {errno : Errno} {e : SetupError} : session = .error errno → named.1 = .error e →
    first.1 = .error e ∧ second.1 = .error (.socketCreate .session (.os errno))

/-- Two attempts that fail compare by their errors. -/
lemma PathsAgree.of_errors {session : Except Errno Unit} {e₁ e₂ : SetupError}
    {named : Except SetupError Unit × Connection}
    (hsame : session = .ok () ∨ named.1 = .ok () → e₁ = e₂)
    (hdiffer : ∀ {errno e}, session = .error errno → named.1 = .error e →
      e₁ = e ∧ e₂ = .socketCreate .session (.os errno)) :
    PathsAgree session timeout named (.error e₁, .fresh timeout) (.error e₂, .fresh timeout) where
  succeed := iff_of_false (fun h => nomatch h) (fun h => nomatch h)
  ready h := nomatch h
  fresh _ := ⟨rfl, rfl⟩
  same h := congrArg Except.error (hsame h)
  differ hs hn := by
    obtain ⟨rfl, rfl⟩ := hdiffer hs hn
    exact ⟨rfl, rfl⟩

lemma pathsAgree_of_attempted {isOpen : Bool}
    {named first second : Except SetupError Unit × Connection}
    (hnamed : named.1 = (P.naming isOpen text).map fun _ => ())
    (h₁ : Attempted timeout (P.nameAndBringUp timeout isOpen text) first.1 first.2)
    (h₂ : Attempted timeout (P.bringUp (.fresh timeout) isOpen (some text)) second.1 second.2) :
    PathsAgree (P.opens .session) timeout named first second := by
  obtain ⟨r₁, c₁⟩ := first
  obtain ⟨r₂, c₂⟩ := second
  cases hnaming : P.naming isOpen text with
  | error e =>
    rw [Policy.bringUp_of_naming_error hnaming, Policy.socket] at h₂
    rw [Policy.nameAndBringUp, hnaming] at h₁
    rw [hnaming] at hnamed
    cases h₁
    -- without a name, the other way has asked for its session socket first
    cases hs : P.opens .session with
    | error errno =>
      rw [hs] at h₂
      cases h₂
      refine .of_errors ?_ ?_
      · rintro (⟨⟨⟩⟩ | hok)
        cases hnamed.symm.trans hok
      · rintro _ _ ⟨⟩ he
        cases hnamed.symm.trans he
        exact ⟨rfl, rfl⟩
    | ok _ =>
      rw [hs] at h₂
      cases h₂
      exact .of_errors (fun _ => rfl) fun h => nomatch h
  | ok na =>
    rw [Policy.bringUp_of_naming_ok hnaming] at h₂
    rw [hnaming] at hnamed
    -- with a name, both ways come to the same from here on
    generalize P.nameAndBringUp timeout isOpen text = x at h₁ h₂
    cases h₁ with
    | failed e =>
      cases h₂
      exact .of_errors (fun _ => rfl) fun _ he => by cases hnamed.symm.trans he
    | ready hready =>
      generalize hx : Except.ok c₁.anonymous = x at h₂
      cases h₂ with
      | failed => cases hx
      | ready hready' =>
        exact
          { succeed := Iff.rfl
            ready := fun _ => ⟨hready, hready', Except.ok.inj hx⟩
            fresh := fun h => absurd rfl h
            same := fun _ => rfl
            differ := fun _ he => by cases hnamed.symm.trans he }

end Connection

namespace DiscoverySocket

variable {text : String} {timeout : Option Duration} {r : Except SetupError DiscoverySocket}

/-- The ways to open a blocking discovery socket on an interface at once. -/
inductive Opens (text : String) : Option Duration → Attempt DiscoverySocket → Prop
  | onInterface : Opens text none (onInterface text)
  | ofConfig {config : SetupConfig} : config.interface? = some text →
    config.nonblocking = false → Opens text config.timeout? (ofConfig config)

lemma Opens.verdict (hK : K.Uniform P) {attempt : Attempt DiscoverySocket}
    (ho : Opens text timeout attempt) (h : (attempt.run.run s).Yields t (r, s'))
    (ht : t.AnsweredBy K) :
    r.map anonymous = (P.bringUp (.fresh timeout) s.isOpen (some text)).map onReady := by
  cases ho with
  | onInterface => exact (FreshOpening.of_yields h).verdict hK ht fun h => nomatch h
  | ofConfig hi hn => exact (ConfiguredOpening.of_yields h).verdict hK ht hi hn

lemma Opens.lent {attempt : Attempt DiscoverySocket} {d : DiscoverySocket}
    (ho : Opens text timeout attempt) (h : (attempt.run.run s).Yields t (.ok d, s')) :
    d.connection.discovery = some d.rawFd := by
  cases ho with
  | onInterface => exact ((FreshOpening.of_yields h).wellFormed (.fresh none)).lent
  | ofConfig => exact (ConfiguredOpening.of_yields h).wellFormed.lent

lemma verdict_bringUpAndWrap (hK : K.Uniform P)
    (h : (((Connection.fresh timeout).bringUpAndWrap text).run.run s).Yields t (r, s'))
    (ht : t.AnsweredBy K) :
    r.map anonymous = (P.bringUp (.fresh timeout) s.isOpen (some text)).map onReady := by
  obtain ⟨u, v, ⟨_ | _, c'⟩, s₁, rfl, hb, hk⟩ := Attempt.yields_shared_bind.mp h
  all_goals
    have hup := attempted_bringUp hK hb (Trace.calls_append.mp ht).1
    generalize P.bringUp (.fresh timeout) s.isOpen (some text) = x at hup ⊢
    cases hup
  · cases hk
    rfl
  · obtain ⟨hw, rfl⟩ := Attempt.yields_ofFallible.mp hk
    cases Wrapping.of_yields hw with
    | wrapped => rfl
    | refused hunready => exact absurd ‹_› hunready

end DiscoverySocket

/-- For every text, on every kernel that answers by what is asked alone, a fresh connection comes
to the same whether it is named and then brought up or brought up under the name: it becomes ready
with the same particulars, or stays fresh. The errors are the same too, unless there is no session
socket and no name to be had, of which each way meets the other first. And a discovery socket on an
interface, opened directly or from a configuration, comes to the same as a connection that is
brought up there and wrapped, with its counters at zero. -/
theorem setup_paths_agree (hK : K.Uniform P) (text : String) (timeout : Option Duration)
    (control : ControlSocket) (k₁ k₂ k₃ : σ) :
    PathsAgree (P.opens .session) timeout
        (((fresh timeout).setName text).result K control k₁)
        (((fresh timeout).nameAndBringUp text).result K control k₂)
        (((fresh timeout).bringUp (some text)).result K control k₃) ∧
      ∀ attempt : Attempt DiscoverySocket, Opens text timeout attempt →
        (attempt.run.result K control k₁).map DiscoverySocket.anonymous =
            (((fresh timeout).bringUpAndWrap text).run.result K control k₂).map
              DiscoverySocket.anonymous ∧
          ∀ d, attempt.run.result K control k₁ = .ok d →
            d.connection.discovery = some d.rawFd ∧ d.traffic = .none := by
  refine ⟨?_, ?_⟩
  · obtain ⟨t₁, s₁, hnamed, ht₁⟩ := ((fresh timeout).setName text).yields_result K control k₁
    obtain ⟨t₂, s₂, hfirst, ht₂⟩ := ((fresh timeout).nameAndBringUp text).yields_result K control k₂
    obtain ⟨t₃, s₃, hsecond, ht₃⟩ :=
      ((fresh timeout).bringUp (some text)).yields_result K control k₃
    refine pathsAgree_of_attempted ?_ (attempted_nameAndBringUp hK hfirst ht₂)
      (attempted_bringUp hK hsecond ht₃)
    rcases (Naming.of_yields hnamed).verdict hK ht₁ rfl with
      ⟨e, hnaming, hr, -⟩ | ⟨name, address, hnaming, hr, -⟩
    · rw [hnaming]
      exact hr
    · rw [hnaming]
      exact hr
  · intro attempt ho
    obtain ⟨t₁, s₁, hopens, ht₁⟩ := attempt.run.yields_result K control k₁
    obtain ⟨t₂, s₂, hwraps, ht₂⟩ :=
      ((fresh timeout).bringUpAndWrap text).run.yields_result K control k₂
    -- both are settled by the same bring-up of a policy, which decides without any calls
    have hverdict := ho.verdict hK hopens ht₁
    refine ⟨hverdict.trans (verdict_bringUpAndWrap hK hwraps ht₂).symm, ?_⟩
    intro d hd
    rw [hd] at hopens hverdict
    refine ⟨ho.lent hopens, ?_⟩
    cases hup : P.bringUp (fresh timeout) control.isOpen (some text) with
    | error e =>
      rw [hup] at hverdict
      cases hverdict
    | ok c =>
      rw [hup] at hverdict
      exact congrArg DiscoverySocket.traffic (Except.ok.inj hverdict)

end

namespace Kernel.Policy

/-- The kernel that does as the policy says and numbers its descriptors one after another. -/
def kernel (P : Policy) : Kernel Descriptor :=
  dispatch (fun next kind => ((P.opens kind).map fun _ => next, next + 1))
    (fun next u _ => (P.answer u, next))

lemma uniform_kernel (P : Policy) : P.kernel.Uniform P where
  opens next kind := by
    change ((P.opens kind).map fun _ => next).map (fun _ => ()) = P.opens kind
    cases P.opens kind <;> rfl
  answer _ u fd := congrArg Prod.fst (respond_dispatch _ _ _ u fd)

/-- All goes well but for what is given: a session socket and the address of an interface. -/
def withOutcomes (session : Except Errno Unit) (address : Except Errno (Vector UInt8 14)) :
    Policy where
  opens kind := if kind = .session then session else .ok ()
  answer
    | .interfaceIndex _ => .ok 3
    | .hardwareAddress _ => address
    | .channelIndex => .ok 0
    | .setOption _ | .bind _ | .connect _ | .setStatusFlags _ | .close | .register => .ok ()
    | .statusFlags => .ok 2
    | .send frame => .ok frame.length
    | .receive _ => .error .again
    | .notifications _ => (1 : Nat)

/-- A machine with the one interface. -/
def oneInterface : Policy := .withOutcomes (.ok ()) (.ok (Wire.zeroPadded 14 [2, 0, 0, 0, 0, 1]))

/-- A machine that knows no session sockets and has no interface. -/
def bare : Policy := .withOutcomes (.error ⟨97⟩) (.error .noDevice)

end Kernel.Policy

/-- What opens on the interface of the machine, if descriptors are numbered from 3 on. -/
def openedAlone : DiscoverySocket where
  connection :=
    { session := some 3, discovery := some 5, name := some eth0, address := eth0Address,
      index := some 3, timeout := none }
  rawFd := 5
  traffic := .none

/-- Where there is an interface both ways make the connection ready, and what opens on it is what
can be wrapped; on the bare machine each way fails with an error of its own. -/
theorem setup_paths_agree_either :
    (((fresh none).nameAndBringUp "eth0").result Policy.oneInterface.kernel .closed 3).2.anonymous =
        (((fresh none).bringUp (some "eth0")).result
          Policy.oneInterface.kernel .closed 7).2.anonymous ∧
      (((fresh none).bringUpAndWrap "eth0").run.result Policy.oneInterface.kernel .closed 7).map
          DiscoverySocket.anonymous = .ok openedAlone.anonymous ∧
      (((fresh none).nameAndBringUp "eth0").result Policy.bare.kernel .closed 3).1 =
        .error (.lookup "eth0" (.os .noDevice)) ∧
      (((fresh none).bringUp (some "eth0")).result Policy.bare.kernel .closed 3).1 =
        .error (.socketCreate .session (.os ⟨97⟩)) := by
  obtain ⟨hpaths, -⟩ :=
    setup_paths_agree Policy.oneInterface.uniform_kernel "eth0" none .closed 3 3 7
  obtain ⟨-, hwraps⟩ :=
    setup_paths_agree Policy.oneInterface.uniform_kernel "eth0" none .closed 3 7 3
  obtain ⟨hbare, -⟩ := setup_paths_agree Policy.bare.uniform_kernel "eth0" none .closed 3 3 3
  have hready := hpaths.ready (by decide +kernel)
  have hopened : (onInterface "eth0").run.result Policy.oneInterface.kernel .closed 3 =
      .ok openedAlone := by
    decide +kernel
  have hwrapped := (hwraps _ .onInterface).1
  rw [hopened] at hwrapped
  have hnamed : (((fresh none).setName "eth0").result Policy.bare.kernel .closed 3).1 =
      .error (.lookup "eth0" (.os .noDevice)) := by
    decide +kernel
  obtain ⟨hfirst, hsecond⟩ := hbare.differ rfl hnamed
  exact ⟨hready.2.2, hwrapped.symm, hfirst, hsecond⟩

end PppoeSetup
