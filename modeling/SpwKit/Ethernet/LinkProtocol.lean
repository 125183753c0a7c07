import SpwKit.Ethernet.UdpFragments
import SpwKit.Ethernet.ReassemblySoundness

/-!
# The protocol of a link

What one end of a link does, seen from its peer: it puts datagrams on the wire,
takes what has arrived, and remembers what it has offered, accepted and had
acknowledged. A `Party` is the part of a backend's state that this depends on,
together with the datagrams it has put on the wire so far; timers, link states,
counters and sequence numbers are no part of it. An `Act` is one thing a party
can do, with everything that the code has made sure of by then.

The properties of a link are about parties and acts only. That the code of a
backend does nothing but such acts is proved once, in
`SpwKit.Ethernet.UdpRefinement`.
-/

open VspwTp

/-! ## Datagrams -/

/-- **What a datagram says**: its header and the payload that follows. -/
structure Decodes (datagram : Bytes) (header : Header) (payload : Bytes) : Prop where
  decoded : decodeHeader datagram = .ok header
  length : datagram.length = headerSize + header.payloadSize.toNat
  payload : payload = datagram.drop headerSize

theorem Decodes.unique {d : Bytes} {h h' : Header} {payload payload' : Bytes}
    (hd : Decodes d h payload) (hd' : Decodes d h' payload') : h = h' ∧ payload = payload' :=
  ⟨Except.ok.inj (hd.decoded.symm.trans hd'.decoded), hd.payload.trans hd'.payload.symm⟩

theorem Decodes.payload_length {d : Bytes} {h : Header} {payload : Bytes}
    (hd : Decodes d h payload) : payload.length = h.payloadSize.toNat := by
  rw [hd.payload, List.length_drop, hd.length, Nat.add_sub_cancel_left]

/-- A datagram that was put together from a valid header and its payload. -/
theorem decodes_headerBytes {h : Header} (payload : Bytes) (hvalid : validate h = true)
    (hlen : payload.length = h.payloadSize.toNat) :
    Decodes (headerBytes h ++ payload) h payload where
  decoded := decodeHeader_headerBytes hvalid (Nat.le_of_eq hlen.symm)
  length := by rw [List.length_append, headerBytes_length, hlen]
  payload := (List.drop_left' (headerBytes_length h)).symm

/-- A datagram with a time code. -/
structure TimeCodeOf (code : TimeCode) (messageId : UInt32) (header : Header)
    (payload : Bytes) : Prop where
  type : header.type = typeTimeCode
  messageId : header.messageId = messageId
  ackRequired : hasFlag header.flags flagAckRequired = true
  payload : payload = [code.timeCount, code.controlFlags]

/-- **What a datagram of an offered event carries**: a piece of the packet, or
the time code, under the event's session and number. -/
structure Carries (offer : Offer) (header : Header) (payload : Bytes) : Prop where
  session : header.sessionId = offer.session
  content : match offer.event with
    | .data packet => PieceOf packet offer.messageId header payload
    | .timeCode code => TimeCodeOf code offer.messageId header payload

theorem Carries.messageId {o : Offer} {h : Header} {payload : Bytes}
    (hc : Carries o h payload) : h.messageId = o.messageId := by
  have := hc.content
  cases hevent : o.event with
  | data packet | timeCode code =>
    rw [hevent] at this
    exact this.messageId

theorem Carries.type {o : Offer} {h : Header} {payload : Bytes}
    (hc : Carries o h payload) : h.type = typeData ∨ h.type = typeTimeCode := by
  have := hc.content
  cases hevent : o.event with
  | data packet =>
    rw [hevent] at this
    exact Or.inl this.type
  | timeCode code =>
    rw [hevent] at this
    exact Or.inr this.type

theorem Carries.ackRequired {o : Offer} {h : Header} {payload : Bytes}
    (hc : Carries o h payload) : hasFlag h.flags flagAckRequired = true := by
  have := hc.content
  cases hevent : o.event with
  | data packet | timeCode code =>
    rw [hevent] at this
    exact this.ackRequired

/-- A datagram of data carries a piece of a packet. -/
theorem Carries.pieceOf {o : Offer} {h : Header} {payload : Bytes}
    (hc : Carries o h payload) (htype : h.type = typeData) :
    ∃ packet, o.event = .data packet ∧ PieceOf packet o.messageId h payload := by
  have := hc.content
  cases hevent : o.event with
  | data packet =>
    rw [hevent] at this
    exact ⟨packet, rfl, this⟩
  | timeCode code =>
    rw [hevent] at this
    exact absurd (htype.symm.trans this.type) (by decide)

/-- A datagram of a time code carries it. -/
theorem Carries.timeCodeOf {o : Offer} {h : Header} {payload : Bytes}
    (hc : Carries o h payload) (htype : h.type = typeTimeCode) :
    ∃ code, o.event = .timeCode code ∧ TimeCodeOf code o.messageId h payload := by
  have := hc.content
  cases hevent : o.event with
  | data packet =>
    rw [hevent] at this
    exact absurd (htype.symm.trans this.type) (by decide)
  | timeCode code =>
    rw [hevent] at this
    exact ⟨code, rfl, this⟩

/-- A datagram of an offered event. -/
def Piece (offer : Offer) (datagram : Bytes) : Prop :=
  ∃ header payload, Decodes datagram header payload ∧ Carries offer header payload

/-- A datagram of an offered packet that has its byte at a position. -/
def PieceAt (offer : Offer) (position : Nat) (datagram : Bytes) : Prop :=
  ∃ header payload, Decodes datagram header payload ∧ Carries offer header payload
    ∧ header.fragmentOffset.toNat ≤ position
    ∧ position < header.fragmentOffset.toNat + header.payloadSize.toNat

/-- **Some of an event has never been sent**: nothing of it, or a byte of the
packet is in none of the datagrams. -/
def Incomplete (out : List Bytes) (offer : Offer) : Prop :=
  (∀ d ∈ out, ¬ Piece offer d)
    ∨ ∃ packet, offer.event = .data packet
      ∧ ∃ position < packet.bytes.length, ∀ d ∈ out, ¬ PieceAt offer position d

/-- An event keeps the datagrams it was not sent in out of what is sent later. -/
theorem Incomplete.append {out : List Bytes} {o : Offer} {d : Bytes}
    (h : Incomplete out o) (hd : ¬ Piece o d) : Incomplete (out ++ [d]) o := by
  have hmem : ∀ {P : Bytes → Prop}, (∀ x ∈ out, ¬ P x) → ¬ P d →
      ∀ x ∈ out ++ [d], ¬ P x := fun hout hd' x hx => by
    rcases List.mem_append.mp hx with hx | hx
    · exact hout x hx
    · rw [List.mem_singleton] at hx
      rwa [hx]
  obtain hnone | ⟨packet, hevent, x, hx, hat⟩ := h
  · exact Or.inl (hmem hnone hd)
  · refine Or.inr ⟨packet, hevent, x, hx, hmem hat (fun ⟨h', payload, hdec, hcar, _⟩ => ?_)⟩
    exact hd ⟨h', payload, hdec, hcar⟩

/-! ## Parties -/

/-- **One end of a link**: what its behaviour towards the peer depends on, and
the datagrams it has put on the wire. -/
structure Party where
  /-- There are no fault rules. -/
  quiet : Prop
  localSessionId : UInt64
  remoteSessionId : UInt64
  nextMessageId : UInt32
  /-- The event that waits for its acknowledgement. -/
  pending : Option Offer
  /-- The messages remembered as delivered, oldest first. -/
  recent : List DeliveredKey
  reassembly : FragmentReassembler
  /-- The datagram a rule holds back. -/
  held : Option Bytes
  history : UdpHistory
  /-- The datagrams put on the wire. -/
  out : List Bytes

/-- A backend as a party. -/
def UdpBackend.party (b : UdpBackend) (out : List Bytes) : Party where
  quiet := b.faultInjector.Quiet
  localSessionId := b.localSessionId
  remoteSessionId := b.remoteSessionId
  nextMessageId := b.nextMessageId
  pending := b.pendingOffer
  recent := b.recentMessages.toList
  reassembly := b.reassembly
  held := if b.reorderedDatagramValid then some b.reorderedDatagram else none
  history := b.history
  out := out

namespace Party

variable (p : Party)

/-- The datagram that arrived last. -/
def current : Option Bytes := p.history.received.getLast?

/-- **The datagram that is being handled**, which is one of the peer's current
session. -/
structure Heard (header : Header) (payload : Bytes) : Prop where
  decodes : ∃ d, p.current = some d ∧ Decodes d header payload
  known : p.remoteSessionId ≠ 0
  session : header.sessionId = p.remoteSessionId

/-- A message is not among those remembered. Only messages that ask for an
acknowledgement are looked up. -/
def Unseen (ackRequired : Bool) (type : UInt8) (messageId : UInt32) : Prop :=
  ackRequired = true → messageId ≠ 0 → ⟨type, messageId⟩ ∉ p.recent

/-- The messages remembered once one more is delivered. -/
def rememberKey (recent : List DeliveredKey) (key : DeliveredKey) : List DeliveredKey :=
  (if recent.length < udpRecentMessageDepth then recent else recent.tail) ++ [key]

/-- The messages remembered after an acceptance. -/
def recentAfter (ackRequired : Bool) (type : UInt8) (messageId : UInt32) : List DeliveredKey :=
  if ackRequired = true ∧ messageId ≠ 0 ∧ ⟨type, messageId⟩ ∉ p.recent then
    rememberKey p.recent ⟨type, messageId⟩
  else p.recent

/-- **What a party may put on the wire**: a keepalive of its session, the
acknowledgement of a message it remembers, a piece of its pending event, or what
a rule has held back. -/
inductive Emittable (d : Bytes) : Prop
  | keepalive (header : Header) (payload : Bytes) (hd : Decodes d header payload)
      (htype : header.type = typeKeepalive) (hsession : header.sessionId = p.localSessionId)
  | ack (header : Header) (payload : Bytes) (hd : Decodes d header payload)
      (htype : header.type = typeAck) (hsession : header.sessionId = p.localSessionId)
      (hack : decodeAckPayload payload = some p.remoteSessionId) (type : UInt8)
      (hrecent : ⟨type, header.messageId⟩ ∈ p.recent)
  | piece (offer : Offer) (hpending : p.pending = some offer) (hd : Piece offer d)
  | held (h : p.held = some d)

/-- An event accepted now. -/
def delivery (messageId : UInt32) (event : Event) : Delivery :=
  ⟨p.localSessionId, p.remoteSessionId, messageId, event, p.history.life⟩

/-- A datagram goes out. -/
def emit (d : Bytes) : Party := { p with out := p.out ++ [d] }

/-- A datagram arrives from the peer. -/
def receive (d : Bytes) : Party :=
  { p with history := { p.history with received := p.history.received ++ [d] } }

/-- The packet in progress is given up. -/
def forget : Party := { p with reassembly := p.reassembly.reset }

/-- The peer has a new session. -/
def adopt (session : UInt64) : Party :=
  { p.forget with remoteSessionId := session, recent := [] }

/-- A packet is accepted into the slot. -/
def acceptPacket (ackRequired : Bool) (messageId : UInt32) (packet : Packet) : Party :=
  { p with
    recent := p.recentAfter ackRequired typeData messageId
    history := { p.history with
      deliveries := p.history.deliveries ++ [p.delivery messageId (.data packet)]
      slot := some (p.delivery messageId (.data packet)) } }

/-- A time code is accepted into the queue. -/
def acceptTimeCode (ackRequired : Bool) (messageId : UInt32) (code : TimeCode) : Party :=
  { p with
    recent := p.recentAfter ackRequired typeTimeCode messageId
    history := { p.history with
      deliveries := p.history.deliveries ++ [p.delivery messageId (.timeCode code)]
      queue := p.history.queue ++ [p.delivery messageId (.timeCode code)] } }

/-- The pending event is acknowledged. -/
def acknowledge (offer : Offer) : Party :=
  { p with
    pending := none
    history := { p.history with
      acknowledged := p.history.acknowledged ++ [⟨offer, p.remoteSessionId⟩] } }

/-- An event is taken for sending. -/
def offer (event : Event) : Party :=
  { p with
    nextMessageId := p.nextMessageId + 1
    pending := some ⟨p.localSessionId, p.nextMessageId, event⟩
    history := { p.history with
      offers := p.history.offers ++ [⟨p.localSessionId, p.nextMessageId, event⟩] } }

/-- The call that offered the pending event succeeds. -/
def noteSent (offer : Offer) : Party :=
  { p with history := { p.history with sent := p.history.sent ++ [offer] } }

/-- The packet in the slot is received. -/
def takePacket : Party :=
  { p with history := { p.history with
      taken := p.history.taken ++ p.history.slot.toList, slot := none } }

/-- The oldest time code in the queue is received. -/
def takeTimeCode : Party :=
  { p with history := { p.history with
      taken := p.history.taken ++ p.history.queue.head?.toList, queue := p.history.queue.tail } }

/-- The link is started, stopped or reset: what of it is over. -/
def clearLink : Party :=
  { p.forget with
    remoteSessionId := 0
    pending := none
    recent := []
    held := none
    history := { p.history with life := p.history.life + 1, slot := none, queue := [] } }

/-- The link is started with a new session. -/
def start (session : UInt64) : Party :=
  { p.clearLink with
    localSessionId := session
    nextMessageId := 1
    history := { p.clearLink.history with sessions := p.history.sessions ++ [session] } }

end Party

/-! ## Acts -/

/-- **One thing a party does** while its session lasts. `window` is what is
assumed of the datagrams that arrive, besides that the peer has sent them. -/
inductive Act (window : Party → Bytes → Prop) (peer : Party) : Party → Party → Prop
  | emit {p : Party} {d : Bytes} (h : p.Emittable d) : Act window peer p (p.emit d)
  | hold {p : Party} {d : Bytes} (h : p.Emittable d) (hq : ¬ p.quiet) :
      Act window peer p { p with held := some d }
  | release {p : Party} : Act window peer p { p with held := none }
  | receive {p : Party} {d : Bytes} (h : d ∈ peer.out) (hw : window p d) :
      Act window peer p (p.receive d)
  | adopt {p : Party} {d : Bytes} {header : Header} {payload : Bytes}
      (hcur : p.current = some d) (hd : Decodes d header payload)
      (htype : header.type = typeKeepalive) (hne : header.sessionId ≠ p.remoteSessionId) :
      Act window peer p (p.adopt header.sessionId)
  | push {p : Party} {header : Header} {payload : Bytes} (h : p.Heard header payload)
      (htype : header.type = typeData) (hpart : header.totalSize.toNat ≠ header.payloadSize.toNat)
      (hnew : p.Unseen (hasFlag header.flags flagAckRequired) typeData header.messageId) :
      Act window peer p { p with reassembly := (p.reassembly.push header payload).2 }
  | acceptWhole {p : Party} {header : Header} {payload : Bytes} (h : p.Heard header payload)
      (htype : header.type = typeData) (hwhole : header.totalSize.toNat = header.payloadSize.toNat)
      (hnew : p.Unseen (hasFlag header.flags flagAckRequired) typeData header.messageId)
      (hslot : p.history.slot = none) :
      Act window peer p (p.acceptPacket (hasFlag header.flags flagAckRequired) header.messageId
        ⟨payload, terminatorOfFlags header.flags⟩)
  | acceptReassembled {p : Party} {header : Header} {payload : Bytes}
      (h : p.Heard header payload) (htype : header.type = typeData)
      (hnew : p.Unseen (hasFlag header.flags flagAckRequired) typeData header.messageId)
      (hslot : p.history.slot = none) (hactive : p.reassembly.active = true)
      (hid : p.reassembly.messageId = header.messageId)
      (hack : p.reassembly.ackRequired = hasFlag header.flags flagAckRequired)
      (hall : p.reassembly.coveredBytes = p.reassembly.totalSize.toNat) :
      Act window peer p (p.acceptPacket p.reassembly.ackRequired p.reassembly.messageId
        p.reassembly.packet).forget
  | acceptTimeCode {p : Party} {header : Header} {payload : Bytes}
      (h : p.Heard header payload) (htype : header.type = typeTimeCode)
      (hnew : p.Unseen (hasFlag header.flags flagAckRequired) typeTimeCode header.messageId)
      (hroom : p.history.queue.length < udpTimeCodeQueueDepth) :
      Act window peer p (p.acceptTimeCode (hasFlag header.flags flagAckRequired) header.messageId
        ⟨BigEndian.byteAt payload 0, BigEndian.byteAt payload 1⟩)
  | acknowledge {p : Party} {header : Header} {payload : Bytes} {offer : Offer}
      (h : p.Heard header payload) (htype : header.type = typeAck)
      (hack : decodeAckPayload payload = some p.localSessionId)
      (hpending : p.pending = some offer) (hid : header.messageId = offer.messageId)
      (hsent : offer ∈ p.history.sent) : Act window peer p (p.acknowledge offer)
  | offer {p : Party} {event : Event} (hidle : p.pending = none) (hnext : p.nextMessageId ≠ 0) :
      Act window peer p (p.offer event)
  | noteSent {p : Party} {offer : Offer} (hpending : p.pending = some offer)
      (hnew : offer ∉ p.history.sent) : Act window peer p (p.noteSent offer)
  | fail {p : Party} {offer : Offer} (hpending : p.pending = some offer)
      (hnew : offer ∉ p.history.sent) (hout : p.quiet → Incomplete p.out offer) :
      Act window peer p { p with pending := none }
