import PppoeSetup.Proofs.Course.Facts

/-!
# Indices in the courses

The kernel tells the index of an interface, and it is told the index again when a discovery socket
is bound. An action that asks for an index goes on to bind a socket to just this one; the index of
the connection is then the same, unless the bind is refused.
-/

namespace PppoeSetup

open Kernel Connection DiscoverySocket AsyncSocket ControlSocket

namespace Kernel

/-- An index passes from the kernel to a program, or back in the address of a bind. -/
inductive Passage
  | told (index : UInt32)
  | handed (address : Wire.LinkAddress) (answer : Except Errno Unit)

def Request.passage? : (r : Request) → r.Answer → Option Passage
  | .interfaceIndex .., .ok index => some (.told index)
  | .bind _ address, answer => some (.handed address answer)
  | _, _ => none

namespace Trace

/-- The passages of indices, in order. -/
def passages (t : Trace) : List Passage :=
  t.filterMap fun
    | .call r a => r.passage? a
    | .event _ => none

variable {t u : Trace}

@[simp] lemma passages_nil : passages [] = [] := rfl

@[simp] lemma passages_event {e : Event} : passages (.event e :: t) = passages t := rfl

@[simp] lemma passages_call {r : Request} {a : r.Answer} :
    passages (.call r a :: t) = (r.passage? a).toList ++ passages t := by
  cases h : r.passage? a <;> simp [passages, h]

@[simp] lemma passages_append : passages (t ++ u) = passages t ++ passages u :=
  List.filterMap_append ..

lemma Asks.passages_eq {p : Request → Prop} (h : t.Asks p)
    (hp : ∀ r (a : r.Answer), p r → r.passage? a = none) : t.passages = [] := by
  rw [passages, List.filterMap_eq_nil_iff]
  intro entry hentry
  cases entry with
  | event e => rfl
  | call r a => exact hp r a (h r a hentry)

/-- No index passes when a session is connected. -/
lemma Connects.passages_eq (h : t.Connects) : t.passages = [] :=
  Asks.passages_eq h fun r _ hr => by cases r <;> first | rfl | exact hr.elim

/-- No index passes when sockets are handled. -/
lemma Handles.passages_eq (h : t.Handles) : t.passages = [] :=
  Asks.passages_eq h fun r _ hr => by cases r <;> first | rfl | exact hr.elim

/-- The index that comes of a course: the one that the kernel has told and a socket has been bound
to, if both has happened. -/
inductive Passes (t : Trace) : Option UInt32 → Prop
  | silent : t.passages = [] → t.Passes none
  | refused (index : UInt32) (e : Errno) :
    t.passages = [.told index, .handed (.discoveryOn index) (.error e)] → t.Passes none
  | bound {index : UInt32} :
    t.passages = [.told index, .handed (.discoveryOn index) (.ok ())] → t.Passes (some index)

variable {result : Option UInt32}

lemma Passes.congr (h : t.Passes result) (heq : u.passages = t.passages) : u.Passes result := by
  cases h with
  | silent h => exact .silent (heq.trans h)
  | refused index e h => exact .refused index e (heq.trans h)
  | bound h => exact .bound (heq.trans h)

lemma Passes.after (h : u.Passes result) (ht : t.passages = []) : (t ++ u).Passes result :=
  h.congr (by simp [ht])

lemma Passes.before (h : t.Passes result) (hu : u.passages = []) : (t ++ u).Passes result :=
  h.congr (by simp [hu])

/-- What is told is what is handed over and what comes of it. -/
lemma Passes.eq_nil_or (h : t.Passes result) :
    t.passages = [] ∨ ∃ index answer,
      t.passages = [.told index, .handed (.discoveryOn index) answer] ∧
        result = answer.toOption.map fun _ => index := by
  cases h with
  | silent h => exact .inl h
  | refused index e h => exact .inr ⟨index, .error e, h, rfl⟩
  | bound h => exact .inr ⟨_, .ok (), h, rfl⟩

end Trace

end Kernel

open Trace

variable {s s' : ControlSocket} {t : Trace}

/-! ### Connections -/

namespace ControlSocket

variable {name : InterfaceName}

lemma Opening.passages_eq {r : Except SetupError Descriptor} (h : Opening s t r s') :
    t.passages = [] := by
  cases h <;> rfl

/-- What passes when the kernel is asked about an interface is up to its answer. -/
lemma Resolving.passages_eq {α β : Type} {entry : Descriptor → Except Errno α → Entry}
    {value : α → β} {event : β → Event} {r : Except SetupError β} (passing : α → List Passage)
    (h : Resolving name entry value event s t r s')
    (herror : ∀ fd e, passages [entry fd (.error e)] = [])
    (hok : ∀ fd a, passages [entry fd (.ok a)] = passing a) :
    (∃ e, r = .error e ∧ t.passages = []) ∨ ∃ a, r = .ok (value a) ∧ t.passages = passing a := by
  cases h with
  | failed ha =>
    cases ha with
    | unopened ho => exact .inl ⟨_, rfl, ho.passages_eq⟩
    | failed e ho => exact .inl ⟨_, rfl, by rw [passages_append, ho.passages_eq, herror]; rfl⟩
  | @resolved u a _ ha =>
    refine .inr ⟨a, rfl, ?_⟩
    cases ha with
    | answered _ ho =>
      rw [passages_append, passages_append, ho.passages_eq, hok]
      exact List.append_nil _

lemma ResolvingIndex.passages_eq {r : Except SetupError UInt32}
    (h : ResolvingIndex name s t r s') : t.passages = r.toOption.toList.map .told := by
  rcases Resolving.passages_eq (fun index => [.told index]) h (fun _ _ => rfl) fun _ _ => rfl with
    ⟨e, rfl, ht⟩ | ⟨index, rfl, ht⟩
  · exact ht
  · exact ht

lemma ResolvingAddress.passages_eq {r : Except SetupError MacAddress}
    (h : ResolvingAddress name s t r s') : t.passages = [] := by
  rcases Resolving.passages_eq (fun _ => []) h (fun _ _ => rfl) fun _ _ => rfl with
    ⟨-, -, ht⟩ | ⟨-, -, ht⟩
  · exact ht
  · exact ht

end ControlSocket

namespace Connection

variable {c c' : Connection} {requested : Option String}

lemma Naming.passages_eq {text : String} {r : Except SetupError Unit}
    (h : Naming c text s t r c' s') : t.passages = [] := by
  cases h with
  | taken | invalid => rfl
  | unresolved _ _ hr => exact hr.passages_eq
  | named _ _ hr =>
    rw [passages_append, hr.passages_eq]
    rfl

lemma Adoption.passages_eq {r : Except SetupError Unit} (h : Adoption c s requested t r c' s') :
    t.passages = [] := by
  cases h with
  | unasked | confirmed | kept => rfl
  | applied _ hn => exact hn.passages_eq

lemma DiscoveryOpening.passages_eq {r : Except SetupError Descriptor} (h : DiscoveryOpening t r) :
    t.passages = [] := by
  cases h <;> rfl

lemma Binding.passes {fd : Descriptor} {r : Except SetupError UInt32} (h : Binding c fd s t r s') :
    t.Passes r.toOption := by
  cases h with
  | unnamed => exact .silent rfl
  | unresolved _ hr => exact .silent hr.passages_eq
  | @refused _ _ index _ e _ hr =>
    refine .refused index e ?_
    rw [passages_append, hr.passages_eq]
    rfl
  | bound _ hr =>
    refine .bound ?_
    rw [passages_append, hr.passages_eq]
    rfl

lemma BoundOpening.passes {r : Except SetupError (Descriptor × UInt32)}
    (h : BoundOpening c s t r s') : t.Passes (r.toOption.map Prod.snd) := by
  cases h with
  | unopened hd => exact .silent hd.passages_eq
  | unbound closing hd hb =>
    exact hb.passes.congr (by simp [hd.passages_eq, Request.passage?])
  | bound hd hb => exact hb.passes.congr (by simp [hd.passages_eq])

lemma SocketsOpening.passes {r : Except SetupError Sockets}
    (h : SocketsOpening c requested s t r c' s') : t.Passes (r.toOption.map Sockets.index) := by
  cases h with
  | refused e => exact .silent rfl
  | unnamed closing ha => exact .silent (by simp [ha.passages_eq, Request.passage?])
  | unbound closing ha hb =>
    exact hb.passes.congr (by simp [ha.passages_eq, Request.passage?])
  | opened ha hb => exact hb.passes.congr (by simp [ha.passages_eq, Request.passage?])

/-- A connection that is not ready has the index afterwards that comes of bringing it up. -/
lemma BringUp.passes {r : Except SetupError Unit} (h : BringUp c requested s t r c' s')
    (hc : c.state ≠ .ready) : t.Passes c'.index := by
  cases h with
  | already hready => exact absurd hready hc
  | failed _ ho hclear =>
    exact ho.passes.congr (by simp [hclear.onlyCloses.handles.passages_eq])
  | ready _ ho hr =>
    exact ho.passes.congr (by simp [hr.onlyCloses.handles.passages_eq])

end Connection

/-! ### Discovery sockets -/

namespace DiscoverySocket

variable {c : Connection} {d d' : DiscoverySocket}

/-- A discovery socket is made of a connection with the index that comes of the course. -/
lemma FreshOpening.passes {timeout : Option Duration} {name : String}
    {r : Except SetupError DiscoverySocket} (h : FreshOpening (.fresh timeout) name s t r s') :
    ∃ result, t.Passes result ∧ ∀ d, r = .ok d → d.connection.index = result := by
  have hfresh : (fresh timeout).state ≠ .ready := nofun
  cases h with
  | failed hb hr => exact ⟨_, (hb.passes hfresh).before hr.onlyCloses.handles.passages_eq, nofun⟩
  | broughtUp hb hw =>
    refine ⟨_, (hb.passes hfresh).before hw.onlyCloses.handles.passages_eq, ?_⟩
    rintro d rfl
    cases hw
    rfl

lemma ConfiguredOpening.passes {config : SetupConfig} {r : Except SetupError DiscoverySocket}
    (h : ConfiguredOpening config s t r s') :
    ∃ result, t.Passes result ∧ ∀ d, r = .ok d → d.connection.index = result := by
  cases h with
  | unnamed => exact ⟨_, .silent rfl, nofun⟩
  | failed _ hf | blocking _ _ hf => exact FreshOpening.passes hf
  | unswitched _ _ hf hm hr =>
    obtain ⟨result, hpasses, -⟩ := FreshOpening.passes hf
    refine ⟨result, hpasses.before ?_, nofun⟩
    rw [passages_append, hm.handles.passages_eq, hr.onlyCloses.handles.passages_eq, List.append_nil]
  | switched _ _ hf hm =>
    obtain ⟨result, hpasses, hindex⟩ := FreshOpening.passes hf
    exact ⟨result, hpasses.before hm.handles.passages_eq, hindex⟩

end DiscoverySocket

/-! ### Actions -/

namespace Endpoint

variable {held held' : Option Endpoint} {action : Action} {reply : Reply}

/-- If an index passes in an action, then what the slot holds afterwards has the index that comes
of that. -/
lemma Acting.passes (h : Acting held s action t reply held' s') :
    t.passages = [] ∨
      ∃ result, t.Passes result ∧ ∀ e, held' = some e → e.underlying.index = result := by
  cases h with
  | idle | timed | unwrapped => exact .inl rfl
  | created hd | configured _ hd | unreadable _ hd | unreadableSetUp _ hd | dropped hd =>
    exact .inl hd.onlyCloses.handles.passages_eq
  | opened hd hf | setUp _ hd hf =>
    obtain ⟨result, hpasses, hindex⟩ := hf.passes
    refine .inr ⟨result, hpasses.after hd.onlyCloses.handles.passages_eq, ?_⟩
    exact forall_made fun d hr => hindex d hr
  | named hn => exact .inl hn.passages_eq
  | @broughtUp c _ _ _ _ _ _ hb =>
    -- a connection that is ready is not brought up again, and no index passes
    by_cases hc : c.state = .ready
    · cases hb with
      | already => exact .inl rfl
      | failed hready | ready hready => exact absurd hc hready
    · refine .inr ⟨_, hb.passes hc, ?_⟩
      rintro e ⟨⟩
      rfl
  | cleared hc | wrapped hc => exact .inl hc.onlyCloses.handles.passages_eq
  | connected hc | connectedTo hc => exact .inl hc.connects.passages_eq
  | channelled hc | watched hc | unwatched hc | switched _ hc | transferred _ _ hc | awaited _ hc =>
    exact .inl hc.handles.passages_eq

end Endpoint

end PppoeSetup
