import PppoeSetup.Proofs.InterfaceNames
import PppoeSetup.Proofs.Readiness

/-!
# Session addresses

The thirty bytes of a session's address hold its id, the peer's hardware address and the interface
name in full. They are the only bytes of their layout, they read back as the address, and they are
what a ready connection hands to the kernel.
-/

namespace PppoeSetup

open Kernel Wire Connection

lemma MacAddress.ofBytes?_of_take {m : MacAddress} {buffer : List UInt8}
    (h : buffer.take 6 = m.octets.toList) : ofBytes? buffer = some m := by
  have hlength : 6 ≤ buffer.length := by
    have := congrArg List.length h
    simp only [List.length_take, Vector.length_toList] at this
    omega
  match buffer, hlength with
  | _ :: _ :: _ :: _ :: _ :: _ :: rest, _ =>
    have hm : ofBytes? m.bytes = some m := ofBytes?_bytes m
    rw [bytes, ← h] at hm
    exact hm

namespace Wire.SessionAddress

/-- The layout of an address: the offset of each field, and how the field is written. -/
structure Layout (a : SessionAddress) (buffer : List UInt8) : Prop where
  length : buffer.length = 30
  family : buffer.take 2 = [24, 0]
  protocol : (buffer.drop 2).take 4 = [0, 0, 0, 0]
  /-- The id in network order. -/
  sessionId : ∃ high low : UInt8, (buffer.drop 6).take 2 = [high, low] ∧
    256 * high.toNat + low.toNat = a.sessionId.toNat
  remote : (buffer.drop 8).take 6 = a.remote.octets.toList
  /-- The name, and at least one NUL after it. -/
  device : ∃ zeros, buffer.drop 14 = a.device.text.toUTF8.toList ++ List.replicate (zeros + 1) 0

variable {a b : SessionAddress} {buffer buffer' : List UInt8}

/-- What stands at each offset. -/
lemma fields_bytes (a : SessionAddress) :
    a.bytes.take 2 = [24, 0] ∧ (a.bytes.drop 2).take 4 = [0, 0, 0, 0] ∧
      (a.bytes.drop 6).take 2 = (littleEndian 2 a.sessionId.toNat).reverse ∧
      (a.bytes.drop 8).take 6 = a.remote.octets.toList ∧
      a.bytes.drop 14 = a.device.buffer.toList := by
  obtain ⟨id, ⟨⟨⟨octets⟩, ho⟩⟩, device⟩ := a
  match octets, ho with
  | [_, _, _, _, _, _], _ => exact ⟨rfl, rfl, rfl, rfl, rfl⟩

lemma layout_bytes (a : SessionAddress) : a.Layout a.bytes := by
  obtain ⟨family, protocol, sessionId, remote, device⟩ := a.fields_bytes
  refine ⟨a.length_bytes, family, protocol, ⟨_, _, sessionId, ?_⟩, remote, ?_⟩
  · have hid : a.sessionId.toNat < 65536 := a.sessionId.toNat_lt
    simp only [UInt8.toNat_ofNat']
    omega
  · rw [device]
    exact a.device.toList_buffer

/-- There is one buffer with the layout of an address. -/
lemma Layout.unique (h : a.Layout buffer) (h' : a.Layout buffer') : buffer = buffer' := by
  obtain ⟨high, low, hid, hnumber⟩ := h.sessionId
  obtain ⟨high', low', hid', hnumber'⟩ := h'.sessionId
  obtain ⟨zeros, hdevice⟩ := h.device
  obtain ⟨zeros', hdevice'⟩ := h'.device
  have hhigh : high = high' := by
    have := low.toNat_lt
    have := low'.toNat_lt
    exact UInt8.toNat_inj.mp (by omega)
  have hlow : low = low' := UInt8.toNat_inj.mp (by rw [hhigh] at hnumber; omega)
  have hzeros : zeros = zeros' := by
    have hlength := congrArg List.length hdevice
    have hlength' := congrArg List.length hdevice'
    simp only [List.length_drop, List.length_append, List.length_replicate, h.length,
      h'.length] at hlength hlength'
    omega
  -- a buffer is its fields, one after the other
  have hparts (l : List UInt8) : l = l.take 2 ++ ((l.drop 2).take 4 ++ ((l.drop 6).take 2 ++
      ((l.drop 8).take 6 ++ l.drop 14))) := by
    have hsplit (m n : Nat) : (l.drop m).take n ++ l.drop (m + n) = l.drop m := by
      rw [← List.drop_drop, List.take_append_drop]
    rw [hsplit 8 6, hsplit 6 2, hsplit 2 4, List.take_append_drop]
  rw [hparts buffer, hparts buffer', h.family, h'.family, h.protocol, h'.protocol, hid, hid',
    h.remote, h'.remote, hdevice, hdevice', hhigh, hlow, hzeros]

theorem layout_iff : a.Layout buffer ↔ buffer = a.bytes := by
  constructor
  · exact fun h => h.unique a.layout_bytes
  · rintro rfl
    exact a.layout_bytes

/-- A buffer reads back as the address whose layout it has. -/
lemma Layout.ofBytes?_eq (h : a.Layout buffer) : ofBytes? buffer = some a := by
  obtain ⟨high, low, hid, hnumber⟩ := h.sessionId
  obtain ⟨zeros, hdevice⟩ := h.device
  have hnat : ofLittleEndian ((buffer.drop 6).take 2).reverse = a.sessionId.toNat := by
    simp only [hid, List.reverse_cons, List.reverse_nil, List.nil_append, List.cons_append,
      ofLittleEndian]
    omega
  have hname : String.fromUTF8? ⟨(untilNul (buffer.drop 14)).toArray⟩ = some a.device.text := by
    rw [hdevice, untilNul_append_zeros a.device.zero_notMem_toUTF8, fromUTF8?_toUTF8]
  simp only [ofBytes?, hnat, MacAddress.ofBytes?_of_take h.remote, hname,
    InterfaceName.ofText_text, UInt16.ofNat_toNat, Option.bind_eq_bind, Option.bind_some]

@[simp] theorem ofBytes?_bytes (a : SessionAddress) : ofBytes? a.bytes = some a :=
  a.layout_bytes.ofBytes?_eq

theorem bytes_injective : Function.Injective bytes := by
  intro a b h
  have hsome : some a = some b := by
    rw [← ofBytes?_bytes a, h, ofBytes?_bytes]
  exact Option.some.inj hsome

end Wire.SessionAddress

/-! ### Connecting -/

/-- The connects among the system calls of a run, with what they returned. -/
def Kernel.Trace.connects (t : Trace) : List (SystemCall × Int) :=
  t.systemCalls.filter (·.1.name = "connect")

/-- The connect that hands over an address. -/
def Kernel.SystemCall.connecting (fd : Descriptor) (address : SessionAddress) : SystemCall :=
  ⟨"connect", [.descriptor fd, .bytes address.bytes]⟩

namespace Connection

variable {c : Connection} {sessionId : UInt16} {remote : MacAddress} {t : Trace}
  {r : Except SetupError Unit}

lemma Limiting.connects_append {fd : Descriptor} {limit : Option Duration} {u : Trace}
    (h : Limiting fd limit t) : (t ++ u).connects = u.connects := by
  cases h <;> rfl

/-- What connecting a session comes to on a ready connection: nothing for the reserved id;
otherwise one connect, unless the limit cannot be set. -/
lemma Connecting.cases_of_ready (h : Connecting c sessionId remote t r)
    (hready : c.state = .ready) {name : InterfaceName} (hname : c.name = some name) :
    ∃ fd, c.session = some fd ∧
      (sessionId = 0 ∧ t = [] ∨
        sessionId ≠ 0 ∧
          ((∃ limit errno, c.timeout = some limit ∧
              t = [.call (.setOption fd (.sendTimeout (.ofDuration limit))) (.error errno)]) ∨
            ∃ result, t.connects = [(.connecting fd ⟨sessionId, remote, name⟩, result)])) := by
  obtain ⟨hs, hd⟩ := state_eq_ready.mp hready
  obtain ⟨fd, hfd⟩ := Option.isSome_iff_exists.mp hs
  refine ⟨fd, hfd, ?_⟩
  cases h with
  | reserved hid => exact .inl ⟨hid, rfl⟩
  | notReady _ hmissing => simp [hfd, hname, Option.isSome_iff_ne_none.mp hd] at hmissing
  | unlimited e hid hfd' _ _ hlimit =>
    cases hfd.symm.trans hfd'
    exact .inr ⟨hid, .inl ⟨_, e, hlimit, rfl⟩⟩
  | refused e hid hfd' hname' _ hl =>
    cases hfd.symm.trans hfd'
    cases hname.symm.trans hname'
    exact .inr ⟨hid, .inr ⟨-e.code, by rw [hl.connects_append]; rfl⟩⟩
  | connected hid hfd' hname' _ hl =>
    cases hfd.symm.trans hfd'
    cases hname.symm.trans hname'
    exact .inr ⟨hid, .inr ⟨0, by rw [hl.connects_append]; rfl⟩⟩

end Connection

/-- For every id, hardware address and interface name:

* the bytes of their address are those, and only those, of its layout: thirty bytes, with the
  family, four zeros, the id in network order, the octets, and the name up to its NULs;
* they read back as this id, hardware address and name;
* no other id, hardware address and name have the same bytes.

And to connect a ready connection with the id and hardware address is to hand over these bytes for
the connection's own name, in a single connect on its session socket; there is none if the id is
the reserved one or the limit for connecting cannot be set. -/
theorem session_addresses_lossless :
    (∀ (sessionId : UInt16) (remote : MacAddress) (name : InterfaceName) (buffer : List UInt8),
      (⟨sessionId, remote, name⟩ : SessionAddress).Layout buffer ↔
        buffer = (⟨sessionId, remote, name⟩ : SessionAddress).bytes) ∧
    (∀ (sessionId : UInt16) (remote : MacAddress) (name : InterfaceName),
      SessionAddress.ofBytes? (⟨sessionId, remote, name⟩ : SessionAddress).bytes =
        some ⟨sessionId, remote, name⟩) ∧
    Function.Injective SessionAddress.bytes ∧
    ∀ {slots : Nat} {w w' : Workbench slots} {t u : Trace} {i : Fin slots} {e : Endpoint}
      {sessionId : UInt16} {remote : MacAddress} {reply : Reply},
      w.Reachable t → w.held i = some e → e.underlying.state = .ready →
      (w.perform (.act i (.connectTo sessionId remote))).Yields u (reply, w') →
      ∃ fd name, e.underlying.session = some fd ∧ e.underlying.name = some name ∧
        (sessionId = 0 ∧ u = [] ∨
          sessionId ≠ 0 ∧
            ((∃ limit errno, e.underlying.timeout = some limit ∧
                u = [.call (.setOption fd (.sendTimeout (.ofDuration limit))) (.error errno)]) ∨
              ∃ result, u.connects = [(.connecting fd ⟨sessionId, remote, name⟩, result)])) := by
  refine ⟨fun _ _ _ _ => SessionAddress.layout_iff, fun _ _ _ => SessionAddress.ofBytes?_bytes _,
    SessionAddress.bytes_injective, ?_⟩
  intro slots w w' t u i e sessionId remote reply hr hi hready hop
  have hs := (state_eq_ready.mp hready).1
  obtain ⟨name, hname⟩ := Option.isSome_iff_exists.mp ((hr.wellFormed hi).underlying.named hs)
  obtain ⟨s, ha⟩ := Workbench.yields_act hop
  rw [hi] at ha
  generalize w'.held i = held' at ha
  obtain ⟨r, hc, ⟨⟩, rfl⟩ := Shared.yields_lift_map.mp ha
  obtain ⟨fd, hfd, hcases⟩ := (Connecting.of_yields hc).cases_of_ready hready hname
  exact ⟨fd, name, hfd, hname, hcases⟩

open Workbench in
/-- Connecting the socket that has been set up on the simulated machine, with id 7. -/
theorem session_addresses_lossless_wrapped :
    (((wrappingOutcome.value.2.perform (.act 0 (.connectTo 7 .broadcast))).run simulated
        wrappingOutcome.state).trace.connects.map (·.1)) =
      [⟨"connect", [.descriptor 100, .bytes
        [24, 0, 0, 0, 0, 0, 0, 7, 255, 255, 255, 255, 255, 255,
          101, 116, 104, 48, 0, 0, 0, 0, 0, 0, 0, 0, 0, 0, 0, 0]]⟩] := by
  have hi : wrappingOutcome.value.2.held 0 = some (.discovery wrapped) := by
    decide +kernel
  obtain ⟨-, -, -, hconnect⟩ := session_addresses_lossless
  obtain ⟨fd, name, hfd, hname, hcases⟩ :=
    hconnect (reachable_simulate _ _) hi rfl (Program.yields_run simulated
      (wrappingOutcome.value.2.perform (.act 0 (.connectTo 7 .broadcast))) wrappingOutcome.state)
  cases hfd
  cases hname
  have hbytes : (⟨7, .broadcast, eth0⟩ : SessionAddress).bytes =
      [24, 0, 0, 0, 0, 0, 0, 7, 255, 255, 255, 255, 255, 255,
        101, 116, 104, 48, 0, 0, 0, 0, 0, 0, 0, 0, 0, 0, 0, 0] := by
    decide +kernel
  rcases hcases with ⟨hid, -⟩ | ⟨-, ⟨limit, errno, hlimit, -⟩ | ⟨result, hconnects⟩⟩
  · cases hid
  · cases hlimit
  · rw [hconnects, List.map_singleton, SystemCall.connecting, hbytes]

end PppoeSetup
