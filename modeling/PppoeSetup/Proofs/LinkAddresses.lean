import PppoeSetup.Proofs.Accounting
import PppoeSetup.Proofs.Course.Indices

/-!
# Indices and hardware addresses of frames

The index of an interface comes from the kernel, goes back to it in the address that a discovery
socket is bound to, and comes again with every frame, beside the hardware address of the sender.
All of its bits are kept each time, and so are the bytes of a hardware address that is complete.
-/

namespace PppoeSetup

open Kernel Wire Trace Connection DiscoverySocket AsyncSocket

/-! ### Fields -/

namespace Wire

lemma littleEndian_ofLittleEndian (bytes : List UInt8) :
    littleEndian bytes.length (ofLittleEndian bytes) = bytes := by
  induction bytes with
  | nil => rfl
  | cons b bs ih =>
    have hb := b.toNat_lt
    have hlow : (b.toNat + 256 * ofLittleEndian bs) % 256 = b.toNat := by omega
    have hhigh : (b.toNat + 256 * ofLittleEndian bs) / 256 = ofLittleEndian bs := by omega
    rw [List.length_cons, ofLittleEndian, littleEndian, hlow, hhigh, ih, UInt8.ofNat_toNat]

lemma ofLittleEndian_lt (bytes : List UInt8) : ofLittleEndian bytes < 256 ^ bytes.length := by
  induction bytes with
  | nil => exact Nat.one_pos
  | cons b bs ih =>
    have hb := b.toNat_lt
    rw [List.length_cons, Nat.pow_succ, ofLittleEndian]
    omega

/-- The four bytes of a word determine it. -/
lemma littleEndian_word_inj {m n : UInt32}
    (h : littleEndian 4 m.toNat = littleEndian 4 n.toNat) : m = n := by
  have hmod := congrArg ofLittleEndian h
  rw [ofLittleEndian_littleEndian, ofLittleEndian_littleEndian] at hmod
  have hm : m.toNat % Nat.pow 256 4 = m.toNat := Nat.mod_eq_of_lt m.toNat_lt
  have hn : n.toNat % Nat.pow 256 4 = n.toNat := Nat.mod_eq_of_lt n.toNat_lt
  rw [hm, hn] at hmod
  exact UInt32.toNat_inj.mp hmod

namespace LinkAddress

/-- The bytes of the index. -/
def indexField (buffer : Vector UInt8 20) : List UInt8 := (buffer.toList.drop 4).take 4

/-- How many bytes of the hardware address count. -/
def lengthField (buffer : Vector UInt8 20) : UInt8 := buffer.toList.getD 11 0

/-- The bytes of the hardware address, those that count before the others. -/
def addressField (buffer : Vector UInt8 20) : List UInt8 := buffer.toList.drop 12

variable {buffer : Vector UInt8 20}

/-- What is read from a buffer, field by field. -/
lemma ofBuffer_fields (buffer : Vector UInt8 20) :
    (ofBuffer buffer).index = UInt32.ofNat (ofLittleEndian (indexField buffer)) ∧
      (indexField buffer).length = 4 ∧ (ofBuffer buffer).addressLength = lengthField buffer ∧
      (ofBuffer buffer).address.toList = addressField buffer := by
  obtain ⟨⟨bytes⟩, h⟩ := buffer
  match bytes, h with
  | [_, _, _, _, _, _, _, _, _, _, _, _, _, _, _, _, _, _, _, _], _ => exact ⟨rfl, rfl, rfl, rfl⟩

/-- The index that is read has the very bytes that are in the buffer. -/
lemma littleEndian_index (buffer : Vector UInt8 20) :
    littleEndian 4 (ofBuffer buffer).index.toNat = indexField buffer := by
  obtain ⟨hindex, hlength, -, -⟩ := ofBuffer_fields buffer
  have hlt := ofLittleEndian_lt (indexField buffer)
  rw [hlength] at hlt
  rw [hindex, UInt32.toNat_ofNat_of_lt' hlt, ← hlength, littleEndian_ofLittleEndian]

/-- The source is made of the first six bytes, if as many count. -/
lemma bytes_source (buffer : Vector UInt8 20) :
    (ofBuffer buffer).source.bytes =
      if 6 ≤ lengthField buffer then (addressField buffer).take 6 else List.replicate 6 0 := by
  obtain ⟨-, -, hlength, haddress⟩ := ofBuffer_fields buffer
  rw [source, hlength, haddress]
  by_cases h : 6 ≤ lengthField buffer
  · have hsix : (addressField buffer).length = 8 := by simp [addressField]
    rw [if_pos h, if_pos h]
    match addressField buffer, hsix with
    | [_, _, _, _, _, _, _, _], _ => rfl
  · rw [if_neg h, if_neg h]
    rfl

/-- The address of a bind: the family, the EtherType of discovery, the index, and nothing else. -/
lemma toList_buffer_discoveryOn (index : UInt32) :
    (discoveryOn index).buffer.toList =
      [17, 0, 0x88, 0x63] ++ littleEndian 4 index.toNat ++ List.replicate 12 0 := by
  have hfamily : littleEndian 2 family.toNat = [17, 0] := by decide
  have hprotocol : (discoveryOn index).protocol.toList = [0x88, 0x63] := by
    change EtherType.discovery.networkBytes.toList = _
    decide
  have hrest : littleEndian 2 0 = [0, 0] := by decide
  change (discoveryOn index).bytes = _
  rw [bytes, hfamily, hprotocol]
  simp [discoveryOn, hrest]

lemma indexField_discoveryOn (index : UInt32) :
    indexField (discoveryOn index).buffer = littleEndian 4 index.toNat := by
  rw [indexField, toList_buffer_discoveryOn, List.append_assoc]
  rfl

end LinkAddress

end Wire

/-! ### Frames -/

/-- What is told of a frame is what the kernel has left: the payload, the bits of the index, and
six bytes of the hardware address unless fewer count. -/
structure Received.Reports (frame : Received) (d : Datagram) : Prop where
  payload : frame.payload = d.payload
  index : littleEndian 4 frame.index.toNat = LinkAddress.indexField d.sender
  source : frame.source.bytes =
    if 6 ≤ LinkAddress.lengthField d.sender then (LinkAddress.addressField d.sender).take 6
    else List.replicate 6 0

lemma Received.reports_ofDatagram (d : Datagram) : (Received.ofDatagram d).Reports d :=
  ⟨rfl, LinkAddress.littleEndian_index d.sender, LinkAddress.bytes_source d.sender⟩

variable {frame : Received} {datagram : Datagram} {index : UInt32} {address : MacAddress}

/-- A frame with the index of a bind comes from the interface that the socket is bound to. -/
lemma Received.Reports.index_eq (h : frame.Reports datagram)
    (hindex : LinkAddress.indexField datagram.sender =
      LinkAddress.indexField (LinkAddress.discoveryOn index).buffer) : frame.index = index := by
  rw [← h.index, LinkAddress.indexField_discoveryOn] at hindex
  exact littleEndian_word_inj hindex

lemma Received.Reports.source_eq (h : frame.Reports datagram)
    (hlength : 6 ≤ LinkAddress.lengthField datagram.sender)
    (haddress : (LinkAddress.addressField datagram.sender).take 6 = address.bytes) :
    frame.source = address := by
  have hbytes := h.source
  rw [if_pos hlength, haddress] at hbytes
  obtain ⟨octets⟩ := address
  cases hsource : frame.source with
  | mk octets' =>
    rw [hsource] at hbytes
    exact congrArg MacAddress.mk (Vector.toList_inj.mp hbytes)

/-! ### Receiving -/

/-- A kernel that has answered an attempt to receive is not asked again. -/
lemma AsyncSocket.Retrying.finished_of_receive {capacity capacity' n : Nat}
    {d d' : DiscoverySocket} {t : Trace} {p : Poll (Except Errno Received)} {fd : Descriptor}
    (h : Retrying (·.receive capacity) n d t p d')
    (hcall : .call (.receive fd capacity') (.ok datagram) ∈ t) :
    p = .finished (.ok (.ofDatagram datagram)) := by
  induction h with
  | exhausted => cases hcall
  | putOff h _ ih =>
    obtain ⟨answer, rfl, hagain, -⟩ := yields_receive.mp h
    rcases List.mem_append.mp hcall with hfirst | hrest
    · cases List.mem_singleton.mp hfirst
      cases hagain
    · exact ih hrest
  | finished _ h =>
    obtain ⟨answer, rfl, rfl, -⟩ := yields_receive.mp h
    cases List.mem_singleton.mp hcall
    rfl

namespace Endpoint

variable {held held' : Option Endpoint} {s s' : ControlSocket} {action : Action} {t : Trace}
  {reply : Reply} {capacity capacity' : Nat} {fd : Descriptor}

/-- A frame that is received in a transfer at once is told. -/
lemma received_of_transfer
    (h : ((liftM (transfer held .received (·.receive capacity)) : Shared _).run s).Yields t
      ((reply, held'), s'))
    (hcall : .call (.receive fd capacity') (.ok datagram) ∈ t) :
    reply = .received (.ofDatagram datagram) := by
  obtain ⟨-, ⟨rfl, -, -⟩ | ⟨e, d, r, d', -, -, hr, rfl, -⟩⟩ := yields_transfer h
  · cases hcall
  · obtain ⟨answer, rfl, rfl, -⟩ := yields_receive.mp hr
    cases List.mem_singleton.mp hcall
    rfl

/-- A frame that is received in an action is told. -/
lemma received_of_call (ha : action = .receive capacity ∨ action = .receiveNow capacity)
    (h : ((act held action).run s).Yields t ((reply, held'), s'))
    (hcall : .call (.receive fd capacity') (.ok datagram) ∈ t) :
    reply = .received (.ofDatagram datagram) := by
  rcases ha with rfl | rfl
  · obtain _ | ⟨c | d | a⟩ := held
    case some.async =>
      obtain ⟨⟨p, a'⟩, hu, ⟨⟩, rfl⟩ := Shared.yields_lift_map.mp h
      obtain ⟨n, v, rfl, hr⟩ := exists_retrying hu
      have hcall' : .call (.receive fd capacity') (.ok datagram) ∈ v := by simpa using hcall
      rw [hr.finished_of_receive hcall']
      rfl
    all_goals exact received_of_transfer h hcall
  · exact received_of_transfer h hcall

end Endpoint

namespace Workbench

variable {slots : Nat} {w w' : Workbench slots} {t u : Trace} {op : Operation slots}
  {reply : Reply}

/-- How indices pass in an operation: none does, or the kernel tells one to someone who asks for
it, or an action has the kernel tell one and binds a discovery socket to it. Then this is the index
of what the slot holds afterwards, if the bind is not refused. -/
inductive Passing (op : Operation slots) (reply : Reply) (w' : Workbench slots) :
    List Passage → Prop
  | silent : Passing op reply w' []
  | resolved {text : String} {index : UInt32} :
    op = .resolveIndex text → reply = .index index → Passing op reply w' [.told index]
  | bound {i : Fin slots} {action : Action} {index : UInt32} {answer : Except Errno Unit} :
    op = .act i action →
    (∀ e, w'.held i = some e → e.underlying.index = answer.toOption.map fun _ => index) →
    Passing op reply w' [.told index, .handed (.discoveryOn index) answer]

lemma passing_of_perform (h : (w.perform op).Yields u (reply, w')) :
    Passing op reply w' u.passages := by
  cases Performing.of_yields h with
  | opened ho | resolvedAddress _ ho =>
    rw [ho.passages_eq]
    exact .silent
  | closed hc =>
    rw [hc.onlyCloses.handles.passages_eq]
    exact .silent
  | described | invalidIndex | invalidAddress => exact .silent
  | @resolvedIndex _ _ _ r _ _ hr =>
    rw [hr.passages_eq]
    cases r with
    | error e => exact .silent
    | ok index => exact .resolved rfl rfl
  | acted ha =>
    -- an action that has an index told binds a socket to it next, or the question was refused
    rcases ha.passes with hsilent | ⟨result, hpasses, hindex⟩
    · rw [hsilent]
      exact .silent
    · rcases hpasses.eq_nil_or with hsilent | ⟨index, answer, heq, rfl⟩
      · rw [hsilent]
        exact .silent
      · rw [heq]
        exact .bound rfl fun e he => hindex e (by simpa using he)

/-- Whatever has been done and whatever the kernel has answered:

* if the kernel tells an index in an operation, then all of its bits are in the reply to the one
  who has asked, or in the address that a discovery socket is bound to next, and in the index of
  the connection after a successful bind;
* a discovery socket in a slot has been bound to its index, as the kernel has told it, and has kept
  it since then;
* any answer to receiving on it is told as it is: the payload, the bits of the index, and the
  sender's hardware address if it has six bytes, else zeros. So a frame with the index that the
  socket was bound to has the index of the connection, and one with a hardware address of six bytes
  has this one as its source. -/
theorem link_addresses_kept (h : w.Reachable t) :
    (∀ op u reply w', (w.perform op).Yields u (reply, w') → Passing op reply w' u.passages) ∧
      (∀ index, (LinkAddress.discoveryOn index).buffer.toList =
        [17, 0, 0x88, 0x63] ++ littleEndian 4 index.toNat ++ List.replicate 12 0) ∧
      ∀ i e d, w.held i = some e → e.socket? = some d → ∃ name index,
        e.underlying.RunsOn name index d.rawFd ∧
        w.Since i (·.RunsOn name index d.rawFd) (Endpoint.Binds name index d.rawFd) t ∧
        ∀ action capacity u reply w',
          (action = .receive capacity ∨ action = .receiveNow capacity) →
          (w.perform (.act i action)).Yields u (reply, w') →
          (∀ frame, reply = .received frame →
            ∃ datagram, .call (.receive d.rawFd capacity) (.ok datagram) ∈ u) ∧
          ∀ datagram, .call (.receive d.rawFd capacity) (.ok datagram) ∈ u →
            ∃ frame, reply = .received frame ∧ frame.Reports datagram ∧
              (LinkAddress.indexField datagram.sender =
                  LinkAddress.indexField (LinkAddress.discoveryOn index).buffer →
                e.underlying.index = some frame.index) ∧
              ∀ address : MacAddress, 6 ≤ LinkAddress.lengthField datagram.sender →
                (LinkAddress.addressField datagram.sender).take 6 = address.bytes →
                frame.source = address := by
  refine ⟨fun _ _ _ _ => passing_of_perform, LinkAddress.toList_buffer_discoveryOn, ?_⟩
  intro i e d hi hd
  have hwell := (h.wellFormed hi).socket hd
  obtain ⟨name, index, discovery, hruns⟩ := hwell.connection.exists_runsOn hwell.ready
  obtain rfl : d.rawFd = discovery := Option.some.inj (hwell.lent.symm.trans hruns.discovery)
  rw [← Endpoint.underlying_of_socket hd] at hruns
  refine ⟨name, index, hruns, h.since Endpoint.Becoming.binds_or_runsOn ⟨e, hi, hruns⟩, ?_⟩
  intro action capacity u reply w' haction hop
  obtain ⟨s, hact⟩ := yields_act hop
  rw [hi] at hact
  refine ⟨?_, fun datagram hcall => ?_⟩
  · rintro frame rfl
    -- the other way about: what is told has come of a call on this socket
    have htransfers : action.transfers := by rcases haction with rfl | rfl <;> rfl
    obtain ⟨capacity', datagram, haction', hcall, -⟩ :=
      (Endpoint.Exchanging.of_yields htransfers hact).exists_receive hd
    obtain rfl : capacity' = capacity := by
      rcases haction with rfl | rfl <;> rcases haction' with h | h <;> cases h <;> rfl
    exact ⟨datagram, hcall⟩
  · have hreports := Received.reports_ofDatagram datagram
    refine ⟨_, Endpoint.received_of_call haction hact hcall, hreports, fun hindex => ?_, ?_⟩
    · rw [hruns.index, hreports.index_eq hindex]
    · exact fun address => hreports.source_eq

/-- A frame from another machine. -/
def stamped : Datagram :=
  ⟨[1, 2, 3], #v[17, 0, 0x88, 0x63, 3, 0, 0, 0x80, 1, 0, 1, 6, 2, 0, 0, 0, 0, 9, 0, 0]⟩

/-- A machine with one interface, whose index has the highest bit set; a frame waits there. -/
def highIndex : SimulatedState where
  interfaces := [⟨eth0.text, 0x80000003, zeroPadded 14 eth0Address.octets.toList⟩]
  toReceive := [.ok stamped]

/-- What comes of `wrapping` on that machine. -/
def highIndexOutcome (slot : Fin slots) : Outcome SimulatedState (List Reply × Workbench slots) :=
  simulate (wrapping slot) highIndex

/-- What is wrapped on that machine. -/
def highIndexSocket : DiscoverySocket :=
  { wrapped with connection := { wrapped.connection with index := some 0x80000003 } }

/-- The next operation on that machine: a frame is received. -/
def receivingOutcome (slot : Fin slots) : Outcome SimulatedState (Reply × Workbench slots) :=
  ((highIndexOutcome slot).value.2.perform (.act slot (.receive 64))).run simulated
    (highIndexOutcome slot).state

theorem link_addresses_kept_high_bit :
    (highIndexOutcome (0 : Fin 1)).value.2.held 0 = some (.discovery highIndexSocket) ∧
      ∃ frame, (receivingOutcome (0 : Fin 1)).value.1 = .received frame ∧
        highIndexSocket.connection.index = some frame.index ∧
        frame.source = ⟨#v[2, 0, 0, 0, 0, 9]⟩ := by
  have hi : (highIndexOutcome (0 : Fin 1)).value.2.held 0 = some (.discovery highIndexSocket) := by
    decide +kernel
  have hop : ((highIndexOutcome (0 : Fin 1)).value.2.perform (.act 0 (.receive 64))).Yields
      (receivingOutcome 0).trace (receivingOutcome 0).value :=
    Program.yields_run _ _ _
  have htrace : (receivingOutcome (0 : Fin 1)).trace =
      [.call (.receive highIndexSocket.rawFd 64) (.ok stamped)] := by
    with_unfolding_all rfl
  obtain ⟨-, -, hslots⟩ :=
    link_addresses_kept (reachable_simulate (wrapping (0 : Fin 1)) highIndex)
  obtain ⟨name, index, hruns, -, hreceive⟩ := hslots 0 _ _ hi rfl
  obtain rfl : 0x80000003 = index := Option.some.inj hruns.index
  obtain ⟨frame, hreply, -, hindex, hsource⟩ :=
    (hreceive _ 64 _ _ _ (.inl rfl) hop).2 stamped (by rw [htrace]; exact List.mem_singleton_self _)
  exact ⟨hi, frame, hreply, hindex (by decide), hsource _ (by decide) (by decide)⟩

end Workbench

end PppoeSetup
