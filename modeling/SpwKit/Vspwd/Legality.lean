import SpwKit.Vspwd.LinkStates

/-!
# Everything the daemon writes is a legal record

A record the daemon writes is put together from what is stored: a response from
its slot, a fragment from the packet at the head of a queue and how far it has
been sent, a time code from its queue, an event from the state of a port.
`Sound` is what has to hold of these for the record to be legal; every move keeps
it, since it is about each port and each client by itself (`Parts`). A message
number is never 0, for 0 is left out when the counter wraps.
-/

open Vspd BigEndian

namespace Vspwd

/-! ## What is stored -/

/-- A packet in a queue, sent up to the start of a fragment. -/
structure PacketSlot.Sound (slot : PacketSlot) : Prop where
  length_le : slot.data.length ≤ maxLogicalPacket
  messageId_ne : slot.messageId ≠ 0
  starts : slot.offset.toNat = 0 ∨ slot.offset.toNat < slot.data.length

/-- The queues of a port hold what can be written. -/
def Port.Queued (port : Port) : Prop :=
  (∀ slot ∈ port.packets.toList, slot.Sound) ∧ ∀ code ∈ port.timeCodes.toList, code.valid = true

/-- The response in a client's slot is a legal record. -/
def Client.Answered (client : Client) : Prop :=
  client.responsePending = true → Legal client.response

/-- **Something holds of every port and of every client.** -/
structure Parts (P : Port → Prop) (C : Client → Prop) (s : Server) : Prop where
  ports : ∀ p, P (s.ports p)
  clients : ∀ i, C (s.clients i)

/-- **What is stored can be written.** -/
abbrev Sound : Server → Prop := Parts Port.Queued Client.Answered

variable {i : ClientIndex} {p : PortId} {s s' : Server}

theorem nextMessageId_ne_zero (port : Port) : (nextMessageId port).1 ≠ 0 := by
  simp only [nextMessageId]
  split_ifs with h
  · rw [beq_iff_eq] at h
    rw [h]
    decide
  · simpa using h

namespace PacketSlot.Sound

variable {slot : PacketSlot}

theorem fragmentation_valid (h : slot.Sound) (p : PortId) : (slot.fragmentation p).Valid :=
  ⟨h.length_le, h.messageId_ne, Or.inr ⟨rfl, rfl⟩⟩

/-- The next fragment of a packet can be written, and is a legal record. -/
theorem frame_eq_ok (h : slot.Sound) (p : PortId) :
    (slot.fragmentation p).frame slot.offset
        = .ok (headerBytes ((slot.fragmentation p).header slot.offset)
          ++ (slot.fragmentation p).payload slot.offset)
      ∧ validateFrame (headerBytes ((slot.fragmentation p).header slot.offset)
          ++ (slot.fragmentation p).payload slot.offset)
        = .ok ((slot.fragmentation p).header slot.offset) :=
  Fragmentation.frame_eq_ok (h.fragmentation_valid p) h.starts

/-- A fragment that is not the last leaves the start of another. -/
theorem advance (h : slot.Sound) {p : PortId}
    (hmore : isFinal (slot.fragmentation p).length slot.offset = false) :
    ({ slot with
      offset := slot.offset + chunkAt (slot.fragmentation p).length slot.offset } :
        PacketSlot).Sound := by
  have hstarts : (slot.fragmentation p).Starts slot.offset := h.starts
  have hlen : (slot.fragmentation p).data.length ≤ maxLogicalPacket := h.length_le
  refine ⟨h.length_le, h.messageId_ne, Or.inr ?_⟩
  have hnot : ¬ slot.offset.toNat + (chunkAt (slot.fragmentation p).length slot.offset).toNat
      = slot.data.length := by
    rw [← Bool.not_eq_true, Fragmentation.isFinal_iff hlen hstarts] at hmore
    exact hmore
  rw [Fragmentation.chunkAt_toNat hlen hstarts] at hnot
  show (slot.offset + chunkAt (slot.fragmentation p).length slot.offset).toNat < slot.data.length
  rw [Fragmentation.end_toNat hlen hstarts]
  have hdata : (slot.fragmentation p).data = slot.data := rfl
  rw [hdata] at hnot ⊢
  obtain h0 | h0 := h.starts <;> omega

end PacketSlot.Sound

namespace Port.Queued

variable {port : Port}

theorem clearQueues (port : Port) : port.clearQueues.Queued := by
  constructor <;> simp [Port.clearQueues]

theorem pushPacket (h : port.Queued) {packet : Packet}
    (hlen : packet.bytes.length ≤ maxLogicalPacket)
    (hroom : port.packets.count < packetQueueDepth) : (port.pushPacket packet hroom).Queued := by
  refine ⟨fun slot hslot => ?_, h.2⟩
  simp only [Port.pushPacket, RingQueue.toList_push, List.mem_append, List.mem_singleton] at hslot
  obtain hslot | rfl := hslot
  · exact h.1 slot hslot
  · exact ⟨hlen, nextMessageId_ne_zero port, Or.inl rfl⟩

theorem pushTimeCode (h : port.Queued) {code : TimeCode} (hvalid : code.valid = true)
    (hroom : port.timeCodes.count < timeCodeQueueDepth) :
    (port.pushTimeCode code hroom).Queued := by
  refine ⟨h.1, fun c hc => ?_⟩
  simp only [Port.pushTimeCode, RingQueue.toList_push, List.mem_append, List.mem_singleton] at hc
  obtain hc | rfl := hc
  · exact h.2 c hc
  · exact hvalid

/-- The oldest packet of a queue is one of it. -/
theorem front (h : port.Queued) {slot : PacketSlot} (hfront : port.packets.front = some slot) :
    slot.Sound := by
  rw [RingQueue.front_eq_head?] at hfront
  exact h.1 slot (List.mem_of_mem_head? hfront)

end Port.Queued

/-! ## Moves -/

namespace Parts

variable {P : Port → Prop} {C : Client → Prop}

theorem updatePort (h : Parts P C s) (p : PortId) (f : Port → Port) (hf : P (f (s.ports p))) :
    Parts P C (s.updatePort p f) := by
  refine ⟨fun q => ?_, h.clients⟩
  rw [Server.updatePort_ports]
  split_ifs
  · exact hf
  · exact h.ports q

theorem updateClient (h : Parts P C s) (i : ClientIndex) (f : Client → Client)
    (hf : C (f (s.clients i))) : Parts P C (s.updateClient i f) := by
  refine ⟨h.ports, fun j => ?_⟩
  rw [Server.updateClient_clients]
  split_ifs
  · exact hf
  · exact h.clients j

/-- Neither is about states, link errors and marks, and both survive that a client goes. -/
class Lasting (P : Port → Prop) (C : Client → Prop) : Prop where
  port {a b : Port} : a.stateless = b.stateless → P b → P a
  client {c d : Client} : c.unmarked = d.unmarked → C d → C c
  release (port : Port) : P port.release
  detach {c : Client} : C c → C { c with portId := none, reassembly := c.reassembly.clear }
  zeroed (fd : Option Nat) : C (Client.zeroed fd)

variable [Lasting P C]

theorem of_same (h : Parts P C s) (hports : ∀ p, (s'.ports p).stateless = (s.ports p).stateless)
    (hclients : ∀ i, (s'.clients i).unmarked = (s.clients i).unmarked) : Parts P C s' :=
  ⟨fun p => Lasting.port C (hports p) (h.ports p),
    fun i => Lasting.client P (hclients i) (h.clients i)⟩

theorem markPortChanged (h : Parts P C s) (p : PortId) : Parts P C (markPortChanged s p) :=
  h.of_same (fun _ => rfl) (unmarked_markPortChanged s p)

theorem updateStates (h : Parts P C s) : Parts P C (updateStates s) :=
  h.of_same (stateless_updateStates s) (unmarked_updateStates s)

theorem bridgeRefreshState (h : Parts P C s) (answer : Option LinkState) :
    Parts P C (bridgeRefreshState s answer) :=
  h.of_same (stateless_bridgeRefreshState s answer) (unmarked_bridgeRefreshState s answer)

theorem transfer (h : Parts P C s) (p : PortId) (push count : Port → Port)
    (hpush : P (push (s.ports (peerPort p)))) (hcount : P (count (s.ports p))) :
    Parts P C (s.transfer p push count) := by
  refine ((updatePort (h.updatePort _ push hpush) p count ?_).markPortChanged p).markPortChanged _
  simpa using hcount

theorem zeroed (h : Parts P C s) (i : ClientIndex) (fd : Option Nat) :
    Parts P C (s.updateClient i fun _ => Client.zeroed fd) :=
  h.updateClient i _ (Lasting.zeroed P fd)

theorem detachClient (h : Parts P C s) (i : ClientIndex) : Parts P C (detachClient s i) := by
  have hreleased : Parts P C (releasePort s i) := by
    unfold releasePort
    split
    · exact h
    · split_ifs
      · exact (h.updatePort _ Port.release (Lasting.release C _)).markPortChanged _
      · exact h
  exact (hreleased.updateClient i _ (Lasting.detach P (hreleased.clients i))).updateStates

end Parts

instance : Parts.Lasting Port.Queued Client.Answered where
  port h hq := by rwa [Port.Queued, packets_of_stateless h, timeCodes_of_stateless h]
  client h hc := by rwa [Client.Answered, responsePending_of_unmarked h, response_of_unmarked h]
  release := Port.Queued.clearQueues
  detach hc := hc
  zeroed _ hpending := by cases hpending

namespace Sound

variable {s : Server}

theorem popPacket (h : Sound s) (p : PortId) (slot : PacketSlot) : Sound (popPacket s p slot) := by
  unfold Vspwd.popPacket
  split_ifs with hcount
  · refine (h.updatePort p _ ⟨fun slot hslot => ?_, (h.ports p).2⟩).markPortChanged p
    refine (h.ports p).1 slot ?_
    rw [RingQueue.toList_of_count_ne _ hcount]
    exact List.mem_cons_of_mem _ hslot
  · exact h

theorem popTimeCode (h : Sound s) (p : PortId) : Sound (popTimeCode s p) := by
  unfold Vspwd.popTimeCode
  split_ifs with hcount
  · refine (h.updatePort p _ ⟨(h.ports p).1, fun code hcode => ?_⟩).markPortChanged p
    refine (h.ports p).2 code ?_
    rw [RingQueue.toList_of_count_ne _ hcount]
    exact List.mem_cons_of_mem _ hcode
  · exact h

theorem advanceSlot (h : Sound s) {p : PortId} {slot : PacketSlot}
    (hfront : (s.ports p).packets.front = some slot)
    (hmore : isFinal (slot.fragmentation p).length slot.offset = false) :
    Sound (advanceSlot s p slot (chunkAt (slot.fragmentation p).length slot.offset)) := by
  have hcount : (s.ports p).packets.count ≠ 0 := fun h0 => by simp [RingQueue.front, h0] at hfront
  refine h.updatePort p _ ⟨fun slot' hslot' => ?_, (h.ports p).2⟩
  rw [RingQueue.toList_setFront _ _ hcount, List.mem_cons] at hslot'
  obtain rfl | hslot' := hslot'
  · exact ((h.ports p).front hfront).advance hmore
  · refine (h.ports p).1 slot' ?_
    rw [RingQueue.toList_of_count_ne _ hcount]
    exact List.mem_cons_of_mem _ hslot'

/-- **Every move keeps what is stored sound.** -/
theorem move {s' : Server} (hm : Move s s') (h : Sound s) : Sound s' := by
  cases hm with
  | accept i fd => exact h.zeroed i _
  | close i => exact (h.detachClient i).zeroed i _
  | hello i | subscribe i p | unsubscribe i p | reassemble i | forget i | snapshotSent i p =>
    exact h.updateClient i _ (h.clients i)
  | attach i p =>
    refine ((h.updateClient i _ ?_).updatePort p _ ?_).updateStates
    · exact h.clients i
    · exact Port.Queued.clearQueues _
  | detach i => exact h.detachClient i
  | start i p | stop i p => exact (h.updatePort p _ (h.ports p)).updateStates
  | reset i p =>
    refine ((h.updatePort p _ ?_).updateClient i _ ?_).updateStates
    · exact Port.Queued.clearQueues _
    · exact h.clients i
  | clearStatistics p | drop p => exact (h.updatePort p _ (h.ports p)).markPortChanged p
  | respond i bytes hfree hlegal => exact h.updateClient i _ (fun _ => hlegal)
  | transferPacket p packet hroom hrun hlen =>
    exact h.transfer p _ _ ((h.ports _).pushPacket hlen hroom) (h.ports p)
  | transferTimeCode p code hroom hrun hvalid =>
    exact h.transfer p _ _ ((h.ports _).pushTimeCode hvalid hroom) (h.ports p)
  | responseSent i => exact h.updateClient i _ (fun hpending => by cases hpending)
  | stateSent p => exact h.updatePort p _ (h.ports p)
  | advance p slot hfront hmore => exact h.advanceSlot hfront hmore
  | popPacket p slot => exact h.popPacket p slot
  | popTimeCode p => exact h.popTimeCode p
  | bridgeRefresh answer => exact h.bridgeRefreshState answer

theorem initial : Sound initServer where
  ports := fun p => by constructor <;> simp [initServer, Port.initial]
  clients := fun i hpending => by cases hpending

theorem started (hs : Started s) : Sound s := by
  cases hs with
  | plain => exact initial
  | bridged p answer =>
    have hopened : Sound (bridgeOpened p) := by
      refine Parts.updatePort ?_ p _ (initial.ports p)
      exact ⟨initial.ports, initial.clients⟩
    exact hopened.bridgeRefreshState answer

end Sound

/-- What the daemon stores can always be written. -/
theorem Reachable.sound (h : Reachable s) : Sound s := h.keeps Sound.started Sound.move

/-! ## What is written -/

/-- A record that can be put together, and is legal. -/
def Encodes (frame : Except CodecError Bytes) : Prop :=
  ∃ bytes, frame = .ok bytes ∧ Legal bytes

theorem Encodes.legal {frame : Except CodecError Bytes} (h : Encodes frame)
    {bytes : Bytes} (hbytes : frame = .ok bytes) : Legal bytes := by
  obtain ⟨bytes', heq, hlegal⟩ := h
  rw [heq] at hbytes
  cases hbytes
  exact hlegal

theorem encodes_linkStateEvent (p : PortId) (state : LinkState) :
    Encodes (eventFrame .linkStateEvent p (encodeU32Payload state.toWire)) :=
  ⟨_, (linkStateEvent_eq_ok p state).1, _, (linkStateEvent_eq_ok p state).2⟩

theorem encodes_snapshotEvent (p : PortId) (port : Port) :
    Encodes (eventFrame .portSnapshotEvent p (encodePortSnapshot (portSnapshotToWire port))) :=
  ⟨_, (snapshotEvent_eq_ok p port).1, _, (snapshotEvent_eq_ok p port).2⟩

theorem Sound.encodes_packet (h : Sound s) {slot : PacketSlot}
    (hfront : (s.ports p).packets.front = some slot) :
    Encodes ((slot.fragmentation p).frame slot.offset) := by
  obtain ⟨hok, hlegal⟩ := ((h.ports p).front hfront).frame_eq_ok p
  exact ⟨_, hok, _, hlegal⟩

theorem Sound.encodes_timeCode (h : Sound s) {code : TimeCode}
    (hfront : (s.ports p).timeCodes.front = some code) :
    Encodes (eventFrame .timeCodeRx p [code.timeCount, code.controlFlags]) := by
  rw [RingQueue.front_eq_head?] at hfront
  obtain ⟨hok, hlegal⟩ :=
    timeCodeEvent_eq_ok p ((h.ports p).2 code (List.mem_of_mem_head? hfront))
  exact ⟨_, hok, _, hlegal⟩

/-- A record that is written is legal. -/
theorem Writes.legal {frame : Bytes} (h : Writes s i frame s') (hs : Sound s) : Legal frame := by
  cases h with
  | response hpending => exact hs.clients i hpending
  | state p frame hfree howns hpending hframe => exact (encodes_linkStateEvent p _).legal hframe
  | fragment p slot frame hfree howns hfront hframe hmore
  | packet p slot frame hfree howns hfront hframe hlast =>
    exact (hs.encodes_packet hfront).legal hframe
  | timeCode p code frame hfree howns hfront hframe =>
    exact (hs.encodes_timeCode hfront).legal hframe
  | snapshot p frame hfree hport hpending hframe => exact (encodes_snapshotEvent p _).legal hframe

theorem WritesAll.legal {frames : List Bytes} (h : WritesAll i s frames s') (hs : Sound s) :
    ∀ frame ∈ frames, Legal frame := by
  induction h with
  | nil => simp
  | cons hfirst _ ih =>
    intro frame hframe
    obtain rfl | hframe := List.mem_cons.mp hframe
    · exact hfirst.legal hs
    · exact ih (hs.move hfirst.move) frame hframe

/-! ## No record fails to be put together -/

/-- A flush fails only where the socket fails to take a legal record. -/
def Flush.Excused (send : Bytes → SendResult) (f : Flush) : Prop :=
  f.result = .failed → ∃ frame, Legal frame ∧ send frame = .failed

theorem Flush.excused_nothing (send : Bytes → SendResult) (s : Server) :
    (Flush.nothing s).Excused send := fun h => by cases h

theorem flushRecord_excused {change : Server} {send : Bytes → SendResult}
    {frame : Except CodecError Bytes} (h : Encodes frame) :
    (flushRecord s send frame change).Excused send := by
  obtain ⟨bytes, rfl, hlegal⟩ := h
  intro hfailed
  refine ⟨bytes, hlegal, ?_⟩
  cases hsend : send bytes with
  | sent | wouldBlock => simp [flushRecord, hsend] at hfailed
  | failed => rfl

theorem Flush.Excused.andThen {send : Bytes → SendResult} {f : Flush} (h : f.Excused send)
    (next : Server → Flush) (hnext : (next f.server).Excused send) :
    (f.andThen next).Excused send := by
  unfold Flush.andThen
  split_ifs
  · exact hnext
  · exact h

section Flushes

variable {s : Server} (hs : Sound s) (i : ClientIndex) (send : Bytes → SendResult)

include hs

theorem flushPacketEvent_excused : (flushPacketEvent s i send).Excused send := by
  unfold flushPacketEvent
  split
  · exact Flush.excused_nothing send s
  · split
    · exact Flush.excused_nothing send s
    · rename_i slot hfront
      exact flushRecord_excused (hs.encodes_packet hfront)

theorem flushTimeCodeEvent_excused : (flushTimeCodeEvent s i send).Excused send := by
  unfold flushTimeCodeEvent
  split
  · exact Flush.excused_nothing send s
  · split
    · exact Flush.excused_nothing send s
    · rename_i code hfront
      exact flushRecord_excused (hs.encodes_timeCode hfront)

/-- **A flush fails only where the socket fails.** -/
theorem flushClient_excused : (flushClient s i send).Excused send := by
  unfold flushClient
  split_ifs with hpending hport
  · rw [flushResponse, if_neg (by simp [hpending])]
    exact flushRecord_excused ⟨_, rfl, hs.clients i hpending⟩
  · unfold flushMonitorEvent
    split_ifs
    · exact Flush.excused_nothing send s
    · split
      · exact Flush.excused_nothing send s
      · exact flushRecord_excused (encodes_snapshotEvent _ _)
  · have hfree : (s.clients i).responsePending = false := by simpa using hpending
    have hstate := flushStateEvent_written send hfree
    have hs₁ := hstate.moves.keeps Sound.move hs
    have hpacket := flushPacketEvent_written send (hstate.responsePending hfree)
    have hs₂ := hpacket.moves.keeps Sound.move hs₁
    have hrest := (flushPacketEvent_excused hs₁ i send).andThen
      (fun s => flushTimeCodeEvent s i send) (flushTimeCodeEvent_excused hs₂ i send)
    refine Flush.Excused.andThen ?_ _ ?_
    · unfold flushStateEvent
      split
      · exact Flush.excused_nothing send s
      · split_ifs
        · exact Flush.excused_nothing send s
        · exact flushRecord_excused (encodes_linkStateEvent _ _)
    · split
      · split_ifs
        · exact Flush.excused_nothing send _
        · exact hrest
      · exact hrest

end Flushes

/-- **Everything the daemon writes is a legal record.** Whatever it has been sent and
whatever the bridge has brought, a record it writes is accepted with exactly its
own size. No header ever fails to be written: a flush fails only where the socket
does, and a response to a record that is accepted always fits its slot. -/
theorem written_records_legal {s : Server} (h : Reachable s) :
    (∀ a, ∀ frame ∈ s.writes a, ∃ header, validateFrame frame = .ok header
        ∧ frame.length = headerSize + header.payloadSize.toNat)
      ∧ (∀ i send, (flushClient s i send).result = .failed →
        ∃ frame, Legal frame ∧ send frame = .failed)
      ∧ ∀ i frame request status payload, validateFrame frame = .ok request →
        (s.clients i).responsePending = false → payload.length ≤ statisticsPayloadSize →
        (queueResponse (s.clients i) request status payload).isSome = true := by
  refine ⟨fun a frame hframe => ?_, fun i send => flushClient_excused h.sound i send,
    fun i frame request status payload hvalid hfree hlen => ?_⟩
  · have hlegal : Legal frame := by
      cases a with
      | flush i send =>
        simp only [Server.writes] at hframe
        split_ifs at hframe
        · cases hframe
        · exact (flushClient_written s i send).legal h.sound frame hframe
      | _ => cases hframe
    obtain ⟨header, hvalid⟩ := hlegal
    exact ⟨header, hvalid, (validateFrame_eq_ok hvalid).2.2.1⟩
  · rw [queueResponse_eq status hfree (typeValid_of_validateFrame hvalid) hlen]
    rfl

/-- The record of a packet that is one fragment. -/
def dataRecord (requestId portId : UInt32) (data : Bytes) : Bytes :=
  let cut : Fragmentation := ⟨.dataTx, requestId, portId, 1, data, .eop⟩
  headerBytes (cut.header 0) ++ cut.payload 0

/-- Two owners, one of which sends the other a packet of three bytes. -/
def packetSample : Server :=
  initServer.run (linkSample ++ [.receive 0 (.record (dataRecord 4 0 [1, 2, 3]))])

/-- The event of the state and the packet are written one after the other. -/
theorem written_records_legal_packet :
    (packetSample.writes (.flush 1 (fun _ => .sent))).map List.length = [44, 43]
      ∧ ∀ frame ∈ packetSample.writes (.flush 1 (fun _ => .sent)), Legal frame := by
  refine ⟨by decide +kernel, fun frame hframe => ?_⟩
  have hreachable : Reachable packetSample := (Reachable.start .plain).run _
  obtain ⟨header, hvalid, -⟩ := (written_records_legal hreachable).1 _ frame hframe
  exact ⟨header, hvalid⟩

end Vspwd
