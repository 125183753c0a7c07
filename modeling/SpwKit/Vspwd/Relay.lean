import SpwKit.Vspwd.Responses

/-!
# Packets are passed on as they came

What one owner sends in fragments, the daemon puts together, queues at the other
port and sends on in fragments of its own. So for each port there are the packets
whose last fragment was acknowledged, in order, and the fragments written to the
port's owner, from which it gets packets again (`collect`). `Relayed` says that
the second, followed by what is still in the queue, is the first: nothing is
lost, reordered or changed, and what was not acknowledged does not appear.

Both ends may be in the middle of a packet. At the sender's end the reassembly
holds the bytes of the fragments since the first one (`Gathering`); at the
receiver's, the head of the queue has been sent up to its offset, and the bytes
below it are those the receiver has for that message.
-/

open Vspd BigEndian

namespace Vspwd

/-! ## The receiver's end -/

/-- The packets a receiver has, and the bytes of one it has not all of. -/
structure Collected where
  packets : List Packet
  part : Option (UInt32 × Bytes)
deriving DecidableEq, Repr

/-- A fragment goes to the bytes of its message, or starts one; the last one ends it. -/
def Collected.add (c : Collected) (frame : Bytes) : Collected :=
  let header := readHeader frame
  let bytes :=
    if header.has flagFragmentStart then payloadOf frame
    else
      match c.part with
      | some (messageId, bytes) =>
        if messageId = header.messageId then bytes ++ payloadOf frame else payloadOf frame
      | none => payloadOf frame
  if header.has flagFragmentEnd then ⟨c.packets ++ [⟨bytes, header.terminator⟩], none⟩
  else ⟨c.packets, some (header.messageId, bytes)⟩

/-- **The packets that a row of fragments holds**, put together by message number. -/
def collect (frames : List Bytes) : Collected := frames.foldl Collected.add ⟨[], none⟩

/-- What is left of a packet in a queue. -/
def PacketSlot.rest (slot : PacketSlot) : Packet :=
  ⟨slot.data.drop slot.offset.toNat, slot.terminator⟩

/-- **What was collected, followed by a queue, is a list of packets.** The head of the
queue completes the message that is not complete. -/
def Followed (c : Collected) (slots : List PacketSlot) (packets : List Packet) : Prop :=
  match c.part, slots with
  | none, slots => packets = c.packets ++ slots.map PacketSlot.rest
  | some (messageId, bytes), slot :: slots =>
    slot.messageId = messageId
      ∧ packets = c.packets
        ++ ⟨bytes ++ slot.rest.bytes, slot.terminator⟩ :: slots.map PacketSlot.rest
  | some _, [] => False

/-- The head of a queue is sent up to its offset, and the receiver has the bytes
below it. -/
def HeadSent (part : Option (UInt32 × Bytes)) (slot : PacketSlot) : Prop :=
  (slot.offset = 0 ∧ part = none)
    ∨ (slot.offset ≠ 0 ∧ part = some (slot.messageId, slot.data.take slot.offset.toNat))

/-- What a port has been sent, has in its queue, and was to be sent. -/
def Relayed (c : Collected) (slots : List PacketSlot) (packets : List Packet) : Prop :=
  match slots with
  | [] => c.part = none ∧ packets = c.packets
  | slot :: slots =>
    HeadSent c.part slot ∧ (∀ later ∈ slots, later.offset = 0)
      ∧ packets = c.packets ++ slot.packet :: slots.map PacketSlot.packet

variable {c : Collected} {d d' : Daemon} {i : ClientIndex} {p q : PortId} {packets : List Packet}
  {r : Reassembly} {s s' : Server} {slots : List PacketSlot} {status : Status}

theorem PacketSlot.rest_of_offset {slot : PacketSlot} (h : slot.offset = 0) :
    slot.rest = slot.packet := by
  simp [PacketSlot.rest, PacketSlot.packet, h]

theorem map_rest_of_offset (h : ∀ slot ∈ slots, slot.offset = 0) :
    slots.map PacketSlot.rest = slots.map PacketSlot.packet :=
  List.map_congr_left fun slot hslot => PacketSlot.rest_of_offset (h slot hslot)

theorem Relayed.followed (h : Relayed c slots packets) : Followed c slots packets := by
  unfold Followed
  cases slots with
  | nil => simp [h.1, h.2]
  | cons slot slots =>
    obtain ⟨⟨hzero, hpart⟩ | ⟨-, hpart⟩, hlater, hpackets⟩ := h
    · rw [hpart, hpackets]
      simp [PacketSlot.rest_of_offset hzero, map_rest_of_offset hlater]
    · rw [hpart, hpackets]
      refine ⟨rfl, ?_⟩
      simp [PacketSlot.rest, map_rest_of_offset hlater, PacketSlot.packet]

/-- A packet goes to the tail of the queue. -/
theorem Relayed.push (h : Relayed c slots packets) {slot : PacketSlot} (hslot : slot.offset = 0) :
    Relayed c (slots ++ [slot]) (packets ++ [slot.packet]) := by
  cases slots with
  | nil =>
    refine ⟨Or.inl ⟨hslot, h.1⟩, by simp, ?_⟩
    rw [h.2]
    simp
  | cons first slots =>
    obtain ⟨hhead, hlater, hpackets⟩ := h
    refine ⟨hhead, fun later hmem => ?_, ?_⟩
    · obtain hmem | hmem := List.mem_append.mp hmem
      · exact hlater later hmem
      · rw [List.mem_singleton.mp hmem]
        exact hslot
    · rw [hpackets]
      simp

/-! ## A fragment is written -/

/-- **The record at an offset adds its bytes** to those below, and the last one completes the
packet. -/
theorem Collected.add_record {cut : Fragmentation} (hcut : cut.Valid) {offset : UInt32}
    (hstarts : cut.Starts offset)
    (hpart : offset = 0 ∨ c.part = some (cut.messageId, cut.data.take offset.toNat)) :
    c.add (cut.record offset)
      = if isFinal cut.length offset then ⟨c.packets ++ [cut.packet], none⟩
        else ⟨c.packets, some (cut.messageId, cut.data.take (offset.toNat
          + (chunkAt cut.length offset).toNat))⟩ := by
  have hbytes : (if decide (offset = 0) = true then cut.payload offset
      else
        match c.part with
        | some (messageId, bytes) =>
          if messageId = cut.messageId then bytes ++ cut.payload offset else cut.payload offset
        | none => cut.payload offset)
      = cut.data.take (offset.toNat + (chunkAt cut.length offset).toNat) := by
    have htake : cut.data.take offset.toNat ++ cut.payload offset
        = cut.data.take (offset.toNat + (chunkAt cut.length offset).toNat) := by
      rw [Fragmentation.payload, List.take_add]
    rw [← htake]
    by_cases hzero : offset = 0
    · simp [hzero]
    · simp [hzero, hpart.resolve_left hzero]
  have hmessage : (cut.header offset).messageId = cut.messageId := rfl
  unfold Collected.add Fragmentation.record
  simp only [readHeader_headerBytes, payloadOf_append, Fragmentation.has_start,
    Fragmentation.has_end, hmessage, hbytes]
  split_ifs with hfinal
  · have hend := (Fragmentation.isFinal_iff hcut.length_le hstarts).mp hfinal
    rw [hend, List.take_length, Fragmentation.terminator_header hfinal]
    rfl
  · rfl

section Written

variable {slot : PacketSlot} (hslot : slot.Sound) (p : PortId)

variable {c : Collected} {packets : List Packet} {slots : List PacketSlot}

include hslot in
/-- **The next fragment adds its bytes**, and the last one completes the packet. -/
theorem Collected.add_fragment (hhead : HeadSent c.part slot) :
    c.add (headerBytes ((slot.fragmentation p).header slot.offset)
        ++ (slot.fragmentation p).payload slot.offset)
      = if isFinal (slot.fragmentation p).length slot.offset then
          ⟨c.packets ++ [slot.packet], none⟩
        else ⟨c.packets, some (slot.messageId, slot.data.take (slot.offset.toNat
          + (chunkAt (slot.fragmentation p).length slot.offset).toNat))⟩ := by
  refine Collected.add_record (hslot.fragmentation_valid p) hslot.starts ?_
  obtain ⟨hzero, -⟩ | ⟨-, hpart⟩ := hhead
  · exact .inl hzero
  · exact .inr hpart

include hslot in
theorem Relayed.advance (h : Relayed c (slot :: slots) packets)
    (hmore : isFinal (slot.fragmentation p).length slot.offset = false) :
    Relayed (c.add (headerBytes ((slot.fragmentation p).header slot.offset)
        ++ (slot.fragmentation p).payload slot.offset))
      ({ slot with
        offset := slot.offset + chunkAt (slot.fragmentation p).length slot.offset } :: slots)
      packets := by
  obtain ⟨hhead, hlater, hpackets⟩ := h
  have hstarts : (slot.fragmentation p).Starts slot.offset := hslot.starts
  have hend := Fragmentation.end_toNat hslot.length_le hstarts
  have hchunk := Fragmentation.chunkAt_toNat hslot.length_le hstarts
  rw [Collected.add_fragment hslot p hhead, hmore, if_neg Bool.false_ne_true]
  refine ⟨Or.inr ⟨fun hzero => ?_, ?_⟩, hlater, hpackets⟩
  · -- a fragment that is not the last has bytes
    have hnot : ¬ slot.offset.toNat + (chunkAt (slot.fragmentation p).length slot.offset).toNat
        = slot.data.length := by
      rw [← Bool.not_eq_true, Fragmentation.isFinal_iff hslot.length_le hstarts] at hmore
      exact hmore
    have hzero' := congrArg UInt32.toNat hzero
    rw [hend] at hzero'
    rw [hchunk] at hnot
    have hdata : (slot.fragmentation p).data = slot.data := rfl
    have hmax : 0 < maxFramePayload := by decide
    have hnum : (0 : UInt32).toNat = 0 := rfl
    rw [hdata, hnum] at hzero'
    rw [hdata] at hnot
    omega
  · simp only [hend, hchunk]

include hslot in
theorem Relayed.pop (h : Relayed c (slot :: slots) packets)
    (hlast : isFinal (slot.fragmentation p).length slot.offset = true) :
    Relayed (c.add (headerBytes ((slot.fragmentation p).header slot.offset)
        ++ (slot.fragmentation p).payload slot.offset)) slots packets := by
  obtain ⟨hhead, hlater, hpackets⟩ := h
  rw [Collected.add_fragment hslot p hhead, hlast, if_pos rfl]
  cases slots with
  | nil => exact ⟨rfl, by simpa using hpackets⟩
  | cons next slots =>
    refine ⟨Or.inl ⟨hlater next List.mem_cons_self, rfl⟩,
      fun later hmem => hlater later (List.mem_cons_of_mem _ hmem), ?_⟩
    simpa using hpackets

end Written

/-! ## The sender's end -/

/-- **The reassembly of a client holds the bytes of the fragments since the first.** -/
def Gathering (d : Daemon) : Prop :=
  ∀ i, (d.server.clients i).reassembly.active = true →
    (d.server.clients i).reassembly.data = gather (d.heard i)
      ∧ (d.server.clients i).reassembly.nextOffset.toNat
        = (d.server.clients i).reassembly.data.length

theorem gather_append (frames : List Bytes) (frame : Bytes) :
    gather (frames ++ [frame]) = gatherStep (gather frames) frame := by
  simp [gather]

variable {frame : Bytes}

/-- A record that is no fragment leaves the bytes alone. -/
theorem gatherStep_of_ne {header : Header} (hvalid : validateFrame frame = .ok header)
    (htype : header.type ≠ MessageType.dataTx.toByte) (data : Bytes) :
    gatherStep data frame = data := by
  have hnot : isDataTx frame = false := by
    rw [isDataTx, headerIs_of_ok hvalid]
    simpa using htype
  simp [gatherStep, hnot]

/-- A fragment that is admitted continues the bytes, or starts anew. -/
theorem store_gathered {r' : Reassembly} {header : Header} {frames : List Bytes}
    (hvalid : validateFrame frame = .ok header) (htype : header.type = MessageType.dataTx.toByte)
    (hshape : DataShape header) (hadmits : r.admits header = some r')
    (hr : r.active = true → r.data = gather frames ∧ r.nextOffset.toNat = r.data.length) :
    (r'.store header (payloadOf frame)).data = gather (frames ++ [frame])
      ∧ (r'.store header (payloadOf frame)).nextOffset.toNat
        = (r'.store header (payloadOf frame)).data.length := by
  have hdata : isDataTx frame = true := by
    rw [isDataTx, headerIs_of_ok hvalid, htype]
    decide
  have hread : readHeader frame = header := (validateFrame_eq_ok hvalid).1.symm
  have hpayload := payloadOf_length hvalid
  have hsum : (header.fragmentOffset + header.payloadSize).toNat
      = header.fragmentOffset.toNat + header.payloadSize.toNat := by
    rw [UInt32.toNat_add]
    refine Nat.mod_eq_of_lt ?_
    have hmax : maxLogicalPacket < 2 ^ 32 := by decide
    exact lt_of_le_of_lt (hshape.fits.trans hshape.total_le) hmax
  rw [gather_append, gatherStep, if_pos hdata, hread]
  unfold Reassembly.admits at hadmits
  simp only at hadmits
  split_ifs at hadmits with hactive hstart hfits
  · -- the first fragment of a packet
    simp only [Bool.or_eq_true, Bool.not_eq_true', bne_iff_ne, ne_eq, not_or, Bool.not_eq_false,
      not_not] at hstart
    rw [if_pos hstart.1, ← Option.some.inj hadmits]
    simp only [Reassembly.store]
    rw [hsum, hstart.2]
    simp [hpayload]
  · -- one that continues it
    simp only [Bool.not_eq_true', Bool.not_eq_false] at hactive
    simp only [Bool.or_eq_true, bne_iff_ne, ne_eq, not_or, not_not, Bool.not_eq_true] at hfits
    obtain ⟨hbytes, hoffset⟩ := hr hactive
    obtain ⟨⟨⟨⟨hstart, -⟩, -⟩, -⟩, hnext⟩ := hfits
    rw [if_neg (by simp [hstart]), ← Option.some.inj hadmits]
    simp only [Reassembly.store]
    rw [hsum, ← hnext, hoffset, List.take_length, List.length_append, hpayload, hbytes]
    exact ⟨rfl, rfl⟩

/-- Writing a record leaves every reassembly alone. -/
theorem Writes.reassembly (h : Writes s i frame s') (j : ClientIndex) :
    (s'.clients j).reassembly = (s.clients j).reassembly := by
  by_cases hj : j = i
  · subst hj
    cases h with
    | response | snapshot => simp
    | state | fragment => rfl
    | packet p slot =>
      unfold popPacket
      split_ifs <;> simp
    | timeCode p =>
      unfold popTimeCode
      split_ifs <;> simp
  · exact reassembly_of_unmarked (h.unmarked_of_ne hj)

/-- A request that is not a fragment leaves the reassembly of its client alone, or
clears it; the last fragment clears it. -/
theorem Effect.reassembly {s₁ : Server} {request : Header} {payload : Bytes}
    (h : Effect s i request payload status s₁) :
    (s₁.clients i).reassembly.active = false
      ∨ ((s₁.clients i).reassembly = (s.clients i).reassembly
        ∧ request.type ≠ MessageType.dataTx.toByte) := by
  cases h with
  | nothing status type htype hdata =>
    exact Or.inr ⟨rfl, by rwa [htype, ne_eq, MessageType.toByte_inj]⟩
  | hello htype => exact Or.inr ⟨by simp, by simp [htype]⟩
  | attach p htype => exact Or.inr ⟨by simp [attachClient], by simp [htype]⟩
  | detach p htype => exact Or.inl (by simp [detachClient, Reassembly.clear])
  | start p htype => exact Or.inr ⟨by simp [startPort], by simp [htype]⟩
  | stop p htype => exact Or.inr ⟨by simp [stopPort], by simp [htype]⟩
  | reset p htype => exact Or.inl (by simp [resetPort, Reassembly.clear])
  | clearStatistics p htype | clearPortStatistics p htype =>
    exact Or.inr ⟨by simp [Vspwd.clearPortStatistics], by simp [htype]⟩
  | subscribe p htype => exact Or.inr ⟨by simp [subscribePort], by simp [htype]⟩
  | unsubscribe p htype => exact Or.inr ⟨by simp [unsubscribePort], by simp [htype]⟩
  | dataRefused | data => exact Or.inl (by simp [Server.clearReassembly, Reassembly.clear])
  | timeCode p status s₂ htype howns hdeliver =>
    exact Or.inr ⟨reassembly_of_unmarked (unmarked_deliverTimeCode hdeliver i), by simp [htype]⟩

theorem Gathering.event (he : Event d d') (h : Gathering d) : Gathering d' := by
  intro j
  cases he with
  | accepted i fd hfree =>
    by_cases hj : j = i
    · simp [Daemon.welcome, hj, Client.zeroed, Reassembly.initial]
    · simpa [Daemon.welcome, hj] using h j
  | closed i =>
    by_cases hj : j = i
    · simp [closeClient, hj, Client.zeroed, Reassembly.initial]
    · simp only [reassembly_of_unmarked (unmarked_closeClient hj)]
      exact h j
  | told i frame s' hfd hwrites =>
    simp only [Daemon.tell, hwrites.reassembly j]
    exact h j
  | bridge call s' hbridge =>
    simp only [reassembly_of_unmarked (hbridge.unmarked j)]
    exact h j

theorem Gathering.hear (hd : Heard d i frame s') (h : Gathering d) :
    Gathering (d.hear i frame s') := by
  intro j
  rw [hear_server, hear_heard]
  by_cases hj : j = i
  · subst hj
    rw [Function.update_self]
    cases hd.handled with
    | fragment request p r hfree hvalid hrequest htype hend howns hadmits =>
      have hstored := store_gathered hvalid htype (dataShape_of_validateFrame hvalid hrequest htype)
        hadmits (h j)
      simpa [Server.setReassembly] using fun _ => hstored
    | answered request status payload s₁ hfree hvalid hrequest hanswerable hfinal heffect =>
      have hsame : ((s₁.respond j (responseBytes request status payload)).clients j).reassembly
          = (s₁.clients j).reassembly := by simp [Client.respond]
      rw [hsame, gather_append]
      obtain hclear | ⟨hkeeps, htype⟩ := heffect.reassembly
      · simp [hclear]
      · rw [hkeeps, gatherStep_of_ne hvalid htype]
        exact h j
  · rw [Function.update_of_ne hj, reassembly_of_unmarked (hd.handled.unmarked hj)]
    exact h j

theorem Gathering.initial (hs : Started s) : Gathering (Daemon.initial s) := by
  intro i hactive
  exfalso
  have hidle : (s.clients i).reassembly.active = false := by
    cases hs with
    | plain => rfl
    | bridged p answer =>
      have hsame := reassembly_of_unmarked (unmarked_bridgeRefreshState (bridgeOpened p) answer i)
      exact congrArg Reassembly.active hsame
  exact absurd (hidle.symm.trans hactive) Bool.false_ne_true

/-- **The packet of a reassembly that is complete** is what its fragments carry. -/
theorem Gathering.packet {request : Header} (h : Gathering d)
    (hvalid : validateFrame frame = .ok request) (hrequest : request.has flagResponse = false)
    (htype : request.type = MessageType.dataTx.toByte)
    (hadmits : (d.server.clients i).reassembly.admits request = some r)
    (hcomplete : (r.store request (payloadOf frame)).nextOffset
      = (r.store request (payloadOf frame)).totalSize) :
    { r.store request (payloadOf frame) with terminator := request.terminator }.packet
      = ⟨gather (d.heard i ++ [frame]), request.terminator⟩ := by
  have hstored := store_gathered hvalid htype
    (dataShape_of_validateFrame hvalid hrequest htype) hadmits (h i)
  rw [← hstored.1]
  simp only [Reassembly.packet]
  rw [← hcomplete, hstored.2, List.take_length]

/-! ## The two ends together -/

/-- A port with an owner was sent what it was to be sent, as far as it has left
the queue. -/
def RelaysTo (d : Daemon) (p : PortId) : Prop :=
  (d.server.ports p).clientIndex ≠ none →
    Relayed (collect (d.stream p)) (d.server.ports p).packets.toList (d.relayed p)

/-- **Where both ports are local, packets are passed on as they came.** -/
def Relays (d : Daemon) : Prop := d.server.bridge = none → ∀ p, RelaysTo d p

theorem releasePort_bridge (s : Server) (i : ClientIndex) :
    (releasePort s i).bridge = s.bridge := by
  unfold releasePort
  split
  · rfl
  · split_ifs <;> rfl

/-- A bridge stays, and so does the port it is at. -/
theorem Move.bridge_portId (h : Move s s') :
    s'.bridge.map Bridge.portId = s.bridge.map Bridge.portId := by
  cases h with
  | close i => simp [closeClient, detachClient, releasePort_bridge]
  | detach i => simp [detachClient, releasePort_bridge]
  | popPacket p slot =>
    unfold Vspwd.popPacket
    split_ifs <;> rfl
  | popTimeCode p =>
    unfold Vspwd.popTimeCode
    split_ifs <;> rfl
  | bridgeRefresh answer =>
    unfold bridgeRefreshState
    split
    · rfl
    · rename_i b hb
      simp only
      split_ifs <;> simp [hb]
  | attach i p => simp [attachClient]
  | start i p => simp [startPort]
  | stop i p => simp [stopPort]
  | reset i p => simp [resetPort]
  | _ => rfl

theorem Move.bridge_eq_none (h : Move s s') : s'.bridge = none ↔ s.bridge = none := by
  rw [← Option.map_eq_none_iff, h.bridge_portId, Option.map_eq_none_iff]

theorem Moves.bridge_portId (h : Moves s s') :
    s'.bridge.map Bridge.portId = s.bridge.map Bridge.portId := by
  induction h with
  | refl => rfl
  | tail _ hlast ih => rw [hlast.bridge_portId, ih]

theorem Moves.bridge_eq_none (h : Moves s s') : s'.bridge = none ↔ s.bridge = none := by
  rw [← Option.map_eq_none_iff, h.bridge_portId, Option.map_eq_none_iff]

/-- The owner of a port and the packets queued for it. -/
def Port.line (port : Port) : Option ClientIndex × RingQueue PacketSlot packetQueueDepth :=
  (port.clientIndex, port.packets)

theorem line_of_stateless {a b : Port} (h : a.stateless = b.stateless) : a.line = b.line := by
  rw [Port.line, clientIndex_of_stateless h, packets_of_stateless h]
  rfl

theorem line_updatePort {f : Port → Port} (hf : (f (s.ports p)).line = (s.ports p).line)
    (q : PortId) : ((s.updatePort p f).ports q).line = (s.ports q).line := by
  rw [Server.updatePort_ports]
  split_ifs with hq
  · rw [hf, hq]
  · rfl

theorem line_updatePort_of_ne (f : Port → Port) (h : q ≠ p) :
    ((s.updatePort p f).ports q).line = (s.ports q).line := by
  rw [Server.updatePort_ports, if_neg h]

theorem line_updateStates (s : Server) (q : PortId) :
    ((updateStates s).ports q).line = (s.ports q).line :=
  line_of_stateless (stateless_updateStates s q)

theorem line_advanceSlot_of_ne (slot : PacketSlot) (chunk : UInt32) (h : q ≠ p) :
    ((advanceSlot s p slot chunk).ports q).line = (s.ports q).line :=
  line_updatePort_of_ne _ h

theorem line_popPacket_of_ne (slot : PacketSlot) (h : q ≠ p) :
    ((popPacket s p slot).ports q).line = (s.ports q).line := by
  unfold popPacket
  split_ifs
  · rw [markPortChanged_ports]
    exact line_updatePort_of_ne _ h
  · rfl

theorem line_popTimeCode (s : Server) (p q : PortId) :
    ((popTimeCode s p).ports q).line = (s.ports q).line := by
  unfold popTimeCode
  split_ifs
  · rw [markPortChanged_ports]
    exact line_updatePort rfl q
  · rfl

theorem line_dropPacket (s : Server) (p q : PortId) :
    ((dropPacket s p).ports q).line = (s.ports q).line := by
  rw [dropPacket, markPortChanged_ports]
  exact line_updatePort rfl q

theorem line_transferTimeCode (s : Server) (p : PortId) (code : TimeCode)
    (hroom : (s.ports (peerPort p)).timeCodes.count < timeCodeQueueDepth) (q : PortId) :
    ((s.transferTimeCode p code hroom).ports q).line = (s.ports q).line := by
  obtain rfl | rfl := eq_or_eq_peerPort p q
  · rw [Server.transferTimeCode, transfer_source]
    rfl
  · rw [Server.transferTimeCode, transfer_destination]
    rfl

/-- A port whose line and histories are as they were. -/
theorem RelaysTo.of_same (h : RelaysTo d p)
    (hline : (d'.server.ports p).line = (d.server.ports p).line)
    (hstream : d'.stream p = d.stream p) (hrelayed : d'.relayed p = d.relayed p) :
    RelaysTo d' p := by
  simp only [Port.line, Prod.mk.injEq] at hline
  unfold RelaysTo
  rw [hline.1, hline.2, hstream, hrelayed]
  exact h

theorem collect_append (frames : List Bytes) (frame : Bytes) :
    collect (frames ++ [frame]) = (collect frames).add frame := by
  simp [collect]

/-- What is written to the owner of a port and is no fragment is not in the stream. -/
theorem tell_stream_of_not (h : isDataRx frame = false) :
    (d.tell i [frame] s').stream = d.stream := by
  funext p
  simp [Daemon.tell, h]

theorem isDataRx_eventHeader {type : MessageType} {payload frame : Bytes}
    (h : validateFrame frame = .ok (eventHeader type p payload)) (htype : type ≠ .dataRx) :
    isDataRx frame = false := by
  rw [isDataRx, headerIs_of_ok h]
  have hbyte : (eventHeader type p payload).type = type.toByte := rfl
  simpa [hbyte] using htype

/-- The response in a slot is not a fragment for a client. -/
theorem Disciplined.isDataRx_response (h : Disciplined d)
    (hfd : (d.server.clients i).fd.isSome = true)
    (hpending : (d.server.clients i).responsePending = true) :
    isDataRx (d.server.clients i).response = false := by
  obtain ⟨header, hvalid, hevent⟩ := h.response_header hfd hpending
  rw [isDataRx, headerIs_of_ok hvalid, beq_eq_false_iff_ne]
  intro hdata
  rw [hdata] at hevent
  exact absurd hevent (by decide)

/-- **The next fragment of the head of a queue is written.** -/
theorem RelaysTo.told {slot : PacketSlot} (h : RelaysTo d p) (hs : Sound d.server)
    (howns : (d.server.clients i).portId = some p)
    (hfront : (d.server.ports p).packets.front = some slot)
    (hframe : (slot.fragmentation p).frame slot.offset = .ok frame)
    (howner : (s'.ports p).clientIndex = (d.server.ports p).clientIndex)
    (hnext : ∀ hcount : (d.server.ports p).packets.count ≠ 0,
      (s'.ports p).packets.toList
        = if isFinal (slot.fragmentation p).length slot.offset then
            ((d.server.ports p).packets.dropFront hcount).toList
          else { slot with
              offset := slot.offset + chunkAt (slot.fragmentation p).length slot.offset }
            :: ((d.server.ports p).packets.dropFront hcount).toList) :
    RelaysTo (d.tell i [frame] s') p := by
  intro hclient
  have hsound := (hs.ports p).front hfront
  obtain ⟨hok, hvalid⟩ := hsound.frame_eq_ok p
  rw [hok] at hframe
  cases hframe
  have hcount : (d.server.ports p).packets.count ≠ 0 := fun h0 => by
    simp [RingQueue.front, h0] at hfront
  have hlist : (d.server.ports p).packets.toList
      = slot :: ((d.server.ports p).packets.dropFront hcount).toList := by
    have hhead := hfront
    rw [RingQueue.front, if_neg hcount] at hhead
    rw [RingQueue.toList_of_count_ne _ hcount, Option.some.inj hhead]
  have hdata : isDataRx (headerBytes ((slot.fragmentation p).header slot.offset)
      ++ (slot.fragmentation p).payload slot.offset) = true := by
    rw [isDataRx, headerIs_of_ok hvalid]
    rfl
  have hrelayed := h (by rw [← howner]; exact hclient)
  rw [hlist] at hrelayed
  simp only [Daemon.tell, howns, if_true, List.filter_cons, hdata, List.filter_nil,
    collect_append, hnext hcount]
  split_ifs with hfinal
  · exact hrelayed.pop hsound p hfinal
  · exact hrelayed.advance hsound p (by simpa using hfinal)

/-- **Every event keeps the two ends together.** -/
theorem Relays.event (he : Event d d') (hk : WellKept d.server) (hd : Disciplined d)
    (h : Relays d) : Relays d' := by
  intro hnone q
  have hbridge : d.server.bridge = none := he.move.bridge_eq_none.mp hnone
  have hq := h hbridge q
  cases he with
  | accepted i fd hfree => exact hq.of_same rfl rfl rfl
  | closed i =>
    by_cases howns : (d.server.clients i).portId = some q
    · intro hclient
      refine absurd ?_ hclient
      simp [closeClient, detachClient, releasePort, howns,
        hk.exclusive.clientIndex_of_portId howns, Port.release]
    · exact hq.of_same (line_of_stateless (stateless_detachClient howns)) rfl rfl
  | bridge call s' hmove =>
    cases hmove with
    | refresh answer =>
      have hsame : bridgeRefreshState d.server answer = d.server := by
        simp [bridgeRefreshState, hbridge]
      rw [hsame]
      exact hq
    | popPacket b slot hb | popTimeCode b code hb | pushPacket b packet hroom hb
    | pushTimeCode b code hroom hb => cases hbridge.symm.trans hb
  | told i frame s' hfd hwrites =>
    cases hwrites with
    | response hpending =>
      refine hq.of_same rfl ?_ rfl
      rw [tell_stream_of_not (hd.isDataRx_response hfd hpending)]
    | state p frame hfree howns hpending hframe =>
      obtain ⟨hok, hvalid⟩ := linkStateEvent_eq_ok p (d.server.ports p).state
      rw [hok] at hframe
      cases hframe
      have hline := line_updatePort (s := d.server) (p := p)
        (f := fun port => { port with stateEventPending := false }) rfl q
      refine hq.of_same hline ?_ rfl
      rw [tell_stream_of_not (isDataRx_eventHeader hvalid (by decide))]
    | fragment p slot frame hfree howns hfront hframe hmore =>
      by_cases hp : q = p
      · subst hp
        refine hq.told hk.sound howns hfront hframe (by simp [advanceSlot]) fun hcount => ?_
        rw [hmore, if_neg Bool.false_ne_true]
        simp [advanceSlot, RingQueue.toList_setFront _ _ hcount]
      · refine hq.of_same (line_advanceSlot_of_ne slot _ hp) ?_ rfl
        simp [Daemon.tell, howns, Ne.symm hp]
    | packet p slot frame hfree howns hfront hframe hlast =>
      by_cases hp : q = p
      · subst hp
        refine hq.told hk.sound howns hfront hframe ?_ fun hcount => ?_
        · unfold popPacket
          split_ifs <;> simp [Port.countRxPacket]
        · rw [hlast, if_pos rfl]
          simp [popPacket, hcount]
      · refine hq.of_same (line_popPacket_of_ne slot hp) ?_ rfl
        simp [Daemon.tell, howns, Ne.symm hp]
    | timeCode p code frame hfree howns hfront hframe =>
      have hmem := hfront
      rw [RingQueue.front_eq_head?] at hmem
      obtain ⟨hok, hvalid⟩ :=
        timeCodeEvent_eq_ok p ((hk.sound.ports p).2 code (List.mem_of_mem_head? hmem))
      rw [hok] at hframe
      cases hframe
      refine hq.of_same (line_popTimeCode d.server p q) ?_ rfl
      rw [tell_stream_of_not (isDataRx_eventHeader hvalid (by decide))]
    | snapshot p frame hfree hport hpending hframe =>
      refine hq.of_same rfl ?_ rfl
      simp [Daemon.tell, hport]

/-! ## Requests -/

/-- A request is granted if its response says so. -/
theorem granted_respond (i : ClientIndex) (s₁ : Server) {frame : Bytes} {request : Header}
    {payload : Bytes} (hvalid : validateFrame frame = .ok request)
    (hanswerable : Answerable request) (hpayload : status = .ok → ResponsePayload request payload) :
    granted (s₁.respond i (responseBytes request status payload)) i frame
      = if status = .ok then some request else none := by
  have hresponse := validateFrame_responseBytes hanswerable hpayload
  have hstatus : (responseHeader request status (UInt32.ofNat payload.length)).status
      = status.toWire := rfl
  have hwire : (status.toWire == Status.ok.toWire) = decide (status = .ok) := by
    cases status <;> decide
  simp only [granted, hvalid, respond_clients, if_true, Client.respond, hresponse, hstatus, hwire,
    Bool.true_and, decide_eq_true_eq]

/-- A request that is granted and is neither an ATTACH, a RESET nor a fragment leaves
the histories of the ports alone. -/
theorem hear_ports_of_not (d : Daemon) (i : ClientIndex) (frame : Bytes) (s' : Server)
    (h : ∀ request, granted s' i frame = some request →
      request.type ≠ MessageType.attach.toByte ∧ request.type ≠ MessageType.reset.toByte
        ∧ request.type ≠ MessageType.dataTx.toByte) :
    (d.hear i frame s').stream = d.stream ∧ (d.hear i frame s').relayed = d.relayed := by
  unfold Daemon.hear
  cases hgranted : granted s' i frame with
  | none => exact ⟨rfl, rfl⟩
  | some request =>
    obtain ⟨hattach, hreset, hdata⟩ := h request hgranted
    simp [Daemon.note, hattach, hreset, hdata]

/-- An ATTACH or a RESET that is granted starts the histories of its port anew. -/
theorem hear_ports_of_anew (d : Daemon) {frame : Bytes} {request : Header}
    (hgranted : granted s' i frame = some request)
    (htype : request.type = MessageType.attach.toByte ∨ request.type = MessageType.reset.toByte)
    (p : PortId) :
    (d.hear i frame s').stream p
        = (if request.portId = UInt32.ofNat p.val then [] else d.stream p)
      ∧ (d.hear i frame s').relayed p
        = if request.portId = UInt32.ofNat p.val then [] else d.relayed p := by
  unfold Daemon.hear
  rw [hgranted]
  simp only [Daemon.note, if_pos htype]
  exact ⟨trivial, trivial⟩

/-- A last fragment that is acknowledged adds its packet to those of the other port. -/
theorem hear_ports_of_data (d : Daemon) {frame : Bytes} {request : Header}
    (hgranted : granted s' i frame = some request)
    (htype : request.type = MessageType.dataTx.toByte) (p : PortId) :
    (d.hear i frame s').stream p = d.stream p
      ∧ (d.hear i frame s').relayed p
        = if request.portId = UInt32.ofNat (peerPort p).val then
            d.relayed p ++ [⟨gather (d.heard i ++ [frame]), request.terminator⟩]
          else d.relayed p := by
  have hother : ¬ (request.type = MessageType.attach.toByte
      ∨ request.type = MessageType.reset.toByte) := by
    rw [htype]
    decide
  unfold Daemon.hear
  rw [hgranted]
  simp only [Daemon.note, if_neg hother, if_pos htype, Function.update_self]
  exact ⟨trivial, trivial⟩

section Hearing

variable {d : Daemon} {i : ClientIndex} {frame : Bytes} {request : Header} {status : Status}
  {payload : Bytes} {s₁ : Server} {q : PortId} (hvalid : validateFrame frame = .ok request)
  (hanswerable : Answerable request) (hpayload : status = .ok → ResponsePayload request payload)

include hvalid hanswerable hpayload

variable {p : PortId}

/-- A request that changes neither the line of a port nor its histories. -/
theorem RelaysTo.heard_quiet (hq : RelaysTo d q)
    (hline : (s₁.ports q).line = (d.server.ports q).line) {type : MessageType}
    (htype : request.type = type.toByte)
    (hquiet : status = .ok → type ∉ [MessageType.attach, .reset, .dataTx]) :
    RelaysTo (d.hear i frame (s₁.respond i (responseBytes request status payload))) q := by
  have hsame := hear_ports_of_not d i frame (s₁.respond i (responseBytes request status payload))
    fun request' hgranted => by
      rw [granted_respond i s₁ hvalid hanswerable hpayload] at hgranted
      split_ifs at hgranted with hok
      cases hgranted
      have hnot := hquiet hok
      simp only [List.mem_cons, List.not_mem_nil, or_false, not_or] at hnot
      simpa only [htype, ne_eq, MessageType.toByte_inj] using hnot
  refine hq.of_same ?_ (congrFun hsame.1 q) (congrFun hsame.2 q)
  rw [hear_server]
  exact hline

/-- An ATTACH or a RESET of a port starts anew. -/
theorem RelaysTo.heard_anew (hq : RelaysTo d q) (hok : status = .ok)
    (htype : request.type = MessageType.attach.toByte ∨ request.type = MessageType.reset.toByte)
    (hp : request.portId = UInt32.ofNat p.val) (hcleared : (s₁.ports p).packets.toList = [])
    (hline : q ≠ p → (s₁.ports q).line = (d.server.ports q).line) :
    RelaysTo (d.hear i frame (s₁.respond i (responseBytes request status payload))) q := by
  have hgranted := granted_respond i s₁ hvalid hanswerable hpayload
  rw [if_pos hok] at hgranted
  obtain ⟨hstream, hrelayed⟩ := hear_ports_of_anew d hgranted htype q
  simp only [hp, portId_wire_inj] at hstream hrelayed
  by_cases hpq : p = q
  · intro _
    rw [if_pos hpq] at hstream hrelayed
    have hqueue : ((s₁.respond i (responseBytes request status payload)).ports q).packets.toList
        = [] := by
      rw [← hpq]
      exact hcleared
    rw [hear_server, hstream, hrelayed, hqueue]
    exact ⟨rfl, rfl⟩
  · rw [if_neg hpq] at hstream hrelayed
    refine hq.of_same ?_ hstream hrelayed
    rw [hear_server]
    exact hline (Ne.symm hpq)

/-- The last fragment of a packet is acknowledged, and the packet queued. -/
theorem RelaysTo.heard_data {packet : Packet} (hq : RelaysTo d q)
    (hroom : (d.server.ports (peerPort p)).packets.count < packetQueueDepth) (hok : status = .ok)
    (htype : request.type = MessageType.dataTx.toByte) (hp : request.portId = UInt32.ofNat p.val)
    (hpacket : packet = ⟨gather (d.heard i ++ [frame]), request.terminator⟩)
    (hline : ∀ r, (s₁.ports r).line = ((d.server.transferPacket p packet hroom).ports r).line) :
    RelaysTo (d.hear i frame (s₁.respond i (responseBytes request status payload))) q := by
  have hgranted := granted_respond i s₁ hvalid hanswerable hpayload
  rw [if_pos hok] at hgranted
  obtain ⟨hstream, hrelayed⟩ := hear_ports_of_data d hgranted htype q
  simp only [hp, portId_wire_inj] at hrelayed
  obtain rfl | rfl := eq_or_eq_peerPort p q
  · rw [if_neg (ne_peerPort q)] at hrelayed
    refine hq.of_same ?_ hstream hrelayed
    rw [hear_server]
    refine (hline q).trans ?_
    rw [Server.transferPacket, transfer_source]
    rfl
  · rw [peerPort_peerPort, if_pos rfl, ← hpacket] at hrelayed
    have hsame := hline (peerPort p)
    rw [Server.transferPacket, transfer_destination] at hsame
    simp only [Port.line, Prod.mk.injEq] at hsame
    intro hclient
    rw [hear_server] at hclient ⊢
    have howner : (d.server.ports (peerPort p)).clientIndex ≠ none := by
      intro hnone
      exact hclient (hsame.1.trans hnone)
    have hqueue : ((s₁.respond i (responseBytes request status payload)).ports
        (peerPort p)).packets.toList = (d.server.ports (peerPort p)).packets.toList
          ++ [⟨packet.bytes, 0, (nextMessageId (d.server.ports (peerPort p))).1,
            packet.terminator⟩] := by
      refine (congrArg (fun queue => queue.toList) hsame.2).trans ?_
      simp [Port.pushPacket]
    rw [hstream, hrelayed, hqueue]
    exact (hq howner).push rfl

/-- **A request that is answered keeps the two ends together.** -/
theorem Effect.relaysTo (heffect : Effect d.server i request (payloadOf frame) status s₁)
    (hrequest : request.has flagResponse = false) (hk : WellKept d.server) (hg : Gathering d)
    (hq : RelaysTo d q) :
    RelaysTo (d.hear i frame (s₁.respond i (responseBytes request status payload))) q := by
  have hquiet : (s₁.ports q).line = (d.server.ports q).line → ∀ {type : MessageType},
      request.type = type.toByte →
      (status = .ok → type ∉ [MessageType.attach, .reset, .dataTx]) →
      RelaysTo (d.hear i frame (s₁.respond i (responseBytes request status payload))) q :=
    fun hline _ => hq.heard_quiet hvalid hanswerable hpayload hline
  cases heffect with
  | nothing status type htype hdata hread =>
    refine hquiet rfl htype fun hok => ?_
    have hreads : ∀ type ∈ readTypes, type ∉ [MessageType.attach, .reset, .dataTx] := by decide
    exact hreads type (hread hok)
  | hello htype | subscribe p htype | unsubscribe p htype => exact hquiet rfl htype (by decide)
  | attach p htype hhello hport hp =>
    have hwire : request.portId = UInt32.ofNat p.val := by rw [← hp, UInt32.ofNat_toNat]
    refine hq.heard_anew hvalid hanswerable hpayload rfl (Or.inl htype) hwire ?_ fun hne => ?_
    · rw [attachClient, packets_of_stateless (stateless_updateStates _ p)]
      simp [Port.attach, Port.clearQueues]
    · rw [attachClient, line_updateStates, line_updatePort_of_ne _ hne]
      rfl
  | detach p htype howns =>
    by_cases hp : (d.server.clients i).portId = some q
    · intro hclient
      rw [hear_server] at hclient
      refine absurd ?_ hclient
      simp [detachClient, releasePort, hp, hk.exclusive.clientIndex_of_portId hp, Port.release]
    · exact hquiet (line_of_stateless (stateless_detachClient hp)) htype (by decide)
  | start p htype =>
    refine hquiet ?_ htype (by decide)
    rw [startPort, line_updateStates]
    exact line_updatePort rfl q
  | stop p htype =>
    refine hquiet ?_ htype (by decide)
    rw [stopPort, line_updateStates]
    exact line_updatePort rfl q
  | reset p htype howns hp =>
    refine hq.heard_anew hvalid hanswerable hpayload rfl (Or.inr htype) hp ?_ fun hne => ?_
    · rw [resetPort, packets_of_stateless (stateless_updateStates _ p)]
      simp [Port.clearQueues]
    · rw [resetPort, line_updateStates, Server.updateClient_ports, line_updatePort_of_ne _ hne]
  | clearStatistics p htype | clearPortStatistics p htype =>
    refine hquiet ?_ htype (by decide)
    rw [Vspwd.clearPortStatistics, markPortChanged_ports]
    exact line_updatePort rfl q
  | dataRefused status hstatus htype =>
    exact hquiet rfl htype fun hok => absurd hok hstatus
  | data p r status s₂ htype hend howns hadmits hcomplete hdeliver hp =>
    obtain ⟨hok, -, -, hroom, rfl⟩ | ⟨hfull, rfl⟩ | ⟨hdown, rfl⟩ := deliverPacket_cases hdeliver
    · have hpacket := hg.packet hvalid hrequest htype hadmits hcomplete
      exact hq.heard_data hvalid hanswerable hpayload hroom hok htype hp hpacket fun r => rfl
    · refine hquiet ?_ htype fun hok => absurd (hfull.symm.trans hok) (by decide)
      exact line_dropPacket _ p q
    · exact hquiet rfl htype fun hok => absurd (hdown.symm.trans hok) (by decide)
  | timeCode p status s₂ htype howns hdeliver =>
    refine hquiet ?_ htype fun _ => by decide
    obtain ⟨-, -, -, hroom, rfl⟩ | ⟨-, rfl⟩ | ⟨-, rfl⟩ := deliverTimeCode_cases hdeliver
    · exact line_transferTimeCode _ p _ hroom q
    · exact line_dropPacket _ p q
    · rfl

end Hearing

/-- **Hearing a record keeps the two ends together.** -/
theorem Relays.hear {frame : Bytes} (hd : Heard d i frame s') (hk : WellKept d.server)
    (hg : Gathering d) (h : Relays d) : Relays (d.hear i frame s') := by
  intro hnone q
  rw [hear_server] at hnone
  have hbridge := (hd.handled.moves hd.connected).bridge_eq_none.mp hnone
  have hq := h hbridge q
  cases hd.handled with
  | fragment request p r hfree hvalid hrequest htype hend howns hadmits =>
    -- no response is waiting, so nothing is granted
    have hsame := hear_ports_of_not d i frame
      (d.server.setReassembly i (r.store request (payloadOf frame))) fun request' hgranted => by
        exfalso
        simp only [granted, hvalid, Server.setReassembly, Server.updateClient_clients, if_true,
          hfree, Bool.false_and, Bool.false_eq_true, if_false] at hgranted
        split at hgranted <;> cases hgranted
    refine hq.of_same ?_ (congrFun hsame.1 q) (congrFun hsame.2 q)
    rw [hear_server]
    rfl
  | answered request status payload s₁ hfree hvalid hrequest hanswerable hfinal heffect hpayload =>
    exact heffect.relaysTo hvalid hanswerable hpayload hrequest hk hg hq

theorem Relays.initial (hs : Started s) : Relays (Daemon.initial s) := by
  intro hnone p hclient
  refine absurd ?_ hclient
  cases hs with
  | plain => rfl
  | bridged q answer =>
    have hopened : (bridgeOpened q).bridge = none :=
      (Move.bridgeRefresh (s := bridgeOpened q) answer).bridge_eq_none.mp hnone
    cases hopened

/-! ## Every run -/

/-- What holds of every run. -/
structure Carries (d : Daemon) : Prop where
  disciplined : Disciplined d
  gathering : Gathering d
  relays : Relays d

theorem Carries.initial (hs : Started s) : Carries (Daemon.initial s) :=
  ⟨.initial hs, .initial hs, .initial hs⟩

theorem Carries.hear {frame : Bytes} (hd : Heard d i frame s') (hk : WellKept d.server)
    (h : Carries d) : Carries (d.hear i frame s') :=
  ⟨h.disciplined.hear hd, h.gathering.hear hd, h.relays.hear hd hk h.gathering⟩

theorem Carries.event (he : Event d d') (hk : WellKept d.server) (h : Carries d) : Carries d' :=
  ⟨.event he hk h.disciplined, .event he h.gathering, .event he hk h.disciplined h.relays⟩

/-- **Packets are passed on as they came.** Where both ports are local, what the owner
of a port was sent since it attached, and last reset the port, put together by
message number and followed by the queue of the port, is the packets for it that
were acknowledged, in order. The queue has at most its depth. -/
theorem packets_relayed {d : Daemon} (h : d.Reachable) (hlocal : d.server.bridge = none)
    (p : PortId) :
    ((d.server.ports p).clientIndex ≠ none →
        Followed (collect (d.stream p)) (d.server.ports p).packets.toList (d.relayed p))
      ∧ (d.server.ports p).packets.toList.length ≤ packetQueueDepth := by
  obtain ⟨-, hcarries⟩ := Daemon.Run.keeps Carries.initial (fun _ => Carries.hear) Carries.event h
  refine ⟨fun howner => (hcarries.relays hlocal p howner).followed, ?_⟩
  rw [RingBuffer.toList_length]
  exact (d.server.ports p).packets.count_le

/-- Two packets are acknowledged; the first one is passed on, and the second one waits. -/
@[irreducible] def relaySample : Daemon :=
  (Daemon.initial initServer).run (linkSample
    ++ [.receive 0 (.record (dataRecord 4 0 [1, 2, 3])), .flush 0 (fun _ => .sent),
      .flush 1 (fun _ => .sent), .receive 0 (.record (dataRecord 5 0 [4]))])

theorem packets_relayed_waiting :
    relaySample.relayed 1 = [⟨[1, 2, 3], .eop⟩, ⟨[4], .eop⟩]
      ∧ collect (relaySample.stream 1) = ⟨[⟨[1, 2, 3], .eop⟩], none⟩
      ∧ Followed (collect (relaySample.stream 1)) (relaySample.server.ports 1).packets.toList
        (relaySample.relayed 1) := by
  have hreachable : relaySample.Reachable := by
    unfold relaySample
    exact Daemon.Reachable.run (.start .plain) _
  have hlocal : relaySample.server.bridge = none := by decide +kernel
  have howner : (relaySample.server.ports 1).clientIndex ≠ none := by decide +kernel
  exact ⟨by decide +kernel, by decide +kernel, (packets_relayed hreachable hlocal 1).1 howner⟩

end Vspwd
