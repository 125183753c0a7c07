import SpwKit.Ethernet.LinkProtocol

/-!
# What the code of the UDP backend does to its state

Every assignment of the code is one of a few kinds. While a call waits for the peer,
for the slot or for something to arrive, it looks after the link: `Sending`, `Refreshing`
and `Background` have one case for each thing it does then, with what the code has made
sure of by then. Putting a new session of the peer in the place of the last one is kept
apart, because it happens at one place only and right after the datagram that asks for it
has arrived (`Adopts`). What the calls themselves do is `Foreground`.

An invariant and a property that survive each of these (`Tolerates`, `Serves`) survive
every call, whatever the answers: `SpwKit.Ethernet.UdpPump` follows the code once, and no
other module has to look at the control flow again.
-/

open VspwTp Interactive FragmentReassembler

/-! ## Calls and what they return -/

/-- The public calls. -/
inductive UdpCall
  | start | stop | reset
  | send (packet : SendPacket) (timeoutUs : Timeout)
  | sendTimeCode (code : TimeCode) (timeoutUs : Timeout)
  | receive (buffer : ReceiveBuffer) (timeoutUs : Timeout)
  | receiveTimeCode (timeoutUs : Timeout)
  | getLinkState | getStatistics | clearStatistics | getFaultStatistics | clearFaultStatistics

/-- What a call returns. -/
inductive UdpReturn
  | result (result : Result)
  | received (received : ReceiveReturn)
  | timeCode (received : Except Result TimeCode)
  | linkState (result : Result) (state : LinkState)
  | statistics (result : Result) (statistics : Statistics)
  | faultStatistics (result : Result) (statistics : FaultStatistics)

/-- The code of a call. -/
def UdpCall.run (fuel : Nat) : UdpCall → Udp UdpReturn
  | .start => do return .result (← udpStart fuel)
  | .stop => do return .result (← udpStop)
  | .reset => do return .result (← udpReset)
  | .send packet timeoutUs => do return .result (← udpSend fuel packet timeoutUs)
  | .sendTimeCode code timeoutUs => do return .result (← udpSendTimeCode fuel code timeoutUs)
  | .receive buffer timeoutUs => do return .received (← udpReceive fuel buffer timeoutUs)
  | .receiveTimeCode timeoutUs => do return .timeCode (← udpReceiveTimeCode fuel timeoutUs)
  | .getLinkState => do
    let (result, state) ← udpGetLinkState fuel
    return .linkState result state
  | .getStatistics => do
    let (result, statistics) ← udpGetStatistics
    return .statistics result statistics
  | .clearStatistics => do return .result (← udpClearStatistics)
  | .getFaultStatistics => do
    let (result, statistics) ← udpGetFaultStatistics
    return .faultStatistics result statistics
  | .clearFaultStatistics => do return .result (← udpClearFaultStatistics)

/-- The event a call has sent, if it is a send that returned success. -/
def UdpCall.sentEvent : UdpCall → UdpReturn → Option Event
  | .send packet _, .result .ok =>
    (Terminator.ofByte packet.terminator).map (fun t => .data ⟨packet.bytes, t⟩)
  | .sendTimeCode code _, .result .ok => some (.timeCode code)
  | _, _ => none

/-- The event a call has received, if it is a receive that returned one. -/
def UdpCall.receivedEvent : UdpCall → UdpReturn → Option Event
  | .receive _ _, .received (.packet packet) => some (.data packet)
  | .receiveTimeCode _, .timeCode (.ok code) => some (.timeCode code)
  | _, _ => none

/-- Whether a call may take an event for sending. -/
def UdpCall.sends : UdpCall → Bool
  | .send _ _ => true
  | .sendTimeCode _ _ => true
  | _ => false

/-- A request that puts a datagram on the wire. -/
def UdpRequest.isSend : UdpRequest → Bool
  | .sendto _ => true
  | _ => false

/-! ## What the peer can tell -/

/-- The part of the state that the party and the code's own invariant are about,
but for the fault rules. -/
structure UdpCore where
  config : UdpConfig
  localSessionId : UInt64
  remoteSessionId : UInt64
  nextMessageId : UInt32
  rxDatagram : Bytes
  reassembly : FragmentReassembler
  pendingPacket : Bytes
  pendingPacketTerminator : Terminator
  pendingPacketValid : Bool
  timeCodes : RingBuffer TimeCode udpTimeCodeQueueDepth
  pendingTxPacket : Bytes
  pendingTxTerminator : Terminator
  pendingTxTimeCode : TimeCode
  pendingTxKind : PendingTxKind
  pendingTxMessageId : UInt32
  recentMessages : RingBuffer DeliveredKey udpRecentMessageDepth
  history : UdpHistory

namespace FragmentReassembler

/-- **A push that completes a packet.** -/
theorem complete_of_push {r : FragmentReassembler} {header : Header} {payload : Bytes}
    (h : (r.push header payload).1 = .complete) :
    (r.push header payload).2.active = true ∧ (r.push header payload).2.SamePacket header
      ∧ (r.push header payload).2.coveredBytes = (r.push header payload).2.totalSize.toNat := by
  have hstored : ∀ {r₁ : FragmentReassembler}, r.adopt header = some r₁ → r₁.active = true →
      r₁.SamePacket header → (r.push header payload).2.active = true
        ∧ (r.push header payload).2.SamePacket header
        ∧ (r.push header payload).2.coveredBytes = (r.push header payload).2.totalSize.toNat := by
    intro r₁ hadopt hactive hsame
    unfold push at h ⊢
    by_cases hrefuses : r.refuses header payload = true
    · rw [if_pos hrefuses] at h
      cases h
    rw [if_neg hrefuses, hadopt] at h ⊢
    obtain ⟨hnone, -⟩ | ⟨r₂, added, hsome, -, hstored⟩ :=
      store_spec r₁ header.fragmentOffset.toNat header.payloadSize.toNat payload
    · simp only [hnone] at h
      cases h
    · simp only [hsome] at h ⊢
      have hrest := hstored.rest
      refine ⟨?_, ?_, ((verdict_eq_complete_iff _ _).mp h).1⟩
      · show r₂.active = true
        rw [hrest]
        exact hactive
      · show r₂.SamePacket header
        rw [hrest]
        exact hsame
  obtain ⟨-, -, hadopt⟩ | ⟨hactive, hsame, hadopt⟩ | ⟨-, hadopt⟩ := adopt_cases r header
  · unfold push at h
    split_ifs at h
    rw [hadopt] at h
    cases h
  · exact hstored hadopt hactive hsame
  · exact hstored hadopt rfl ⟨rfl, rfl, rfl, rfl⟩

end FragmentReassembler

namespace UdpBackend

/-- The core of a backend. -/
def core (b : UdpBackend) : UdpCore where
  config := b.config
  localSessionId := b.localSessionId
  remoteSessionId := b.remoteSessionId
  nextMessageId := b.nextMessageId
  rxDatagram := b.rxDatagram
  reassembly := b.reassembly
  pendingPacket := b.pendingPacket
  pendingPacketTerminator := b.pendingPacketTerminator
  pendingPacketValid := b.pendingPacketValid
  timeCodes := b.timeCodes
  pendingTxPacket := b.pendingTxPacket
  pendingTxTerminator := b.pendingTxTerminator
  pendingTxTimeCode := b.pendingTxTimeCode
  pendingTxKind := b.pendingTxKind
  pendingTxMessageId := b.pendingTxMessageId
  recentMessages := b.recentMessages
  history := b.history

/-- Being without fault rules is a matter of the rules. -/
theorem quiet_congr {s s' : UdpBackend} (h : s'.faultInjector.rules = s.faultInjector.rules)
    (hq : s.faultInjector.Quiet) : s'.faultInjector.Quiet := by
  unfold FaultInjector.Quiet
  rw [h]
  exact hq

/-- The pending event is one of the core. -/
theorem pendingOffer_congr {s s' : UdpBackend} (h : s'.core = s.core) :
    s'.pendingOffer = s.pendingOffer := by
  simp only [core, UdpCore.mk.injEq] at h
  simp only [pendingOffer, pendingEvent, h]

theorem party_congr {s s' : UdpBackend} (h : s'.core = s.core)
    (hfault : s'.faultInjector.rules = s.faultInjector.rules)
    (hheld : s'.reorderedDatagram = s.reorderedDatagram)
    (hvalid : s'.reorderedDatagramValid = s.reorderedDatagramValid) (o : List Bytes) :
    s'.party o = s.party o := by
  have hpending := pendingOffer_congr h
  simp only [core, UdpCore.mk.injEq] at h
  simp only [party, FaultInjector.Quiet, hpending, hfault, hheld, hvalid, h]

/-- Only what nobody asks about has changed. -/
structure Untouched (s s' : UdpBackend) : Prop where
  core : s'.core = s.core
  rules : s'.faultInjector.rules = s.faultInjector.rules
  reordered : s'.reorderedDatagram = s.reorderedDatagram
  reorderedValid : s'.reorderedDatagramValid = s.reorderedDatagramValid
  talks : s'.state.talks = s.state.talks

theorem Untouched.party {s s' : UdpBackend} (h : Untouched s s') (o : List Bytes) :
    s'.party o = s.party o :=
  party_congr h.core h.rules h.reordered h.reorderedValid o


/-- **Sending leaves alone** the core, the link state, the rules and the retries. -/
structure Alike (s₀ s : UdpBackend) : Prop where
  core : s.core = s₀.core
  state : s.state = s₀.state
  rules : s.faultInjector.rules = s₀.faultInjector.rules
  retries : s.pendingTxRetries = s₀.pendingTxRetries

theorem Alike.refl (s : UdpBackend) : Alike s s := ⟨rfl, rfl, rfl, rfl⟩

theorem Alike.trans {s₀ s₁ s₂ : UdpBackend} (h : Alike s₀ s₁) (h' : Alike s₁ s₂) : Alike s₀ s₂ :=
  ⟨h'.core.trans h.core, h'.state.trans h.state, h'.rules.trans h.rules,
    h'.retries.trans h.retries⟩

/-! ## What is put on the wire -/

/-- What a backend with a session may put on the wire. -/
def Emits (s : UdpBackend) (d : Bytes) : Prop :=
  s.Sendable → ∀ o, (s.party o).Emittable d

/-- A datagram that may be put on the wire as long as the core stays as it is. -/
def Owns (s : UdpBackend) (d : Bytes) : Prop :=
  ∀ s' : UdpBackend, s'.core = s.core → s'.Emits d

theorem pendingOffer_data {s : UdpBackend} (h : s.pendingTxKind = .data) :
    s.pendingOffer = some ⟨s.localSessionId, s.pendingTxMessageId,
      .data ⟨s.pendingTxPacket, s.pendingTxTerminator⟩⟩ := by
  simp only [pendingOffer, pendingEvent, h, Option.map_some]

theorem pendingOffer_timeCode {s : UdpBackend} (h : s.pendingTxKind = .timeCode) :
    s.pendingOffer = some ⟨s.localSessionId, s.pendingTxMessageId,
      .timeCode s.pendingTxTimeCode⟩ := by
  simp only [pendingOffer, pendingEvent, h, Option.map_some]

theorem pendingOffer_eq_none_iff (s : UdpBackend) :
    s.pendingOffer = none ↔ s.pendingTxKind = .none := by
  cases h : s.pendingTxKind <;> simp [pendingOffer, pendingEvent, h]

/-- What the fragments of the pending packet depend on is in the core. -/
theorem fragments_congr {s s' : UdpBackend} (h : s'.core = s.core) (offset : Nat) :
    s'.fragmentSize offset = s.fragmentSize offset ∧ s'.pendingTxPacket = s.pendingTxPacket
      ∧ (s.Sendable → s'.Sendable) ∧ (s.StartsFragment offset → s'.StartsFragment offset) := by
  have hpacket : s'.pendingTxPacket = s.pendingTxPacket := congrArg UdpCore.pendingTxPacket h
  have hconfig : s'.config = s.config := congrArg UdpCore.config h
  have hlocal : s'.localSessionId = s.localSessionId := congrArg UdpCore.localSessionId h
  have hfragmented : s'.fragmented = s.fragmented := by
    unfold fragmented
    rw [hpacket, hconfig]
  refine ⟨?_, hpacket, fun hs => ⟨?_, ?_, ?_, ?_⟩, ?_⟩
  · unfold fragmentSize
    rw [hpacket, hconfig, hfragmented]
  · unfold fragmentLimit
    rw [hconfig]
    exact hs.limit_pos
  · unfold fragmentLimit
    rw [hconfig]
    exact hs.limit_le
  · rw [hpacket]
    exact hs.length_le
  · rw [hlocal]
    exact hs.session
  · unfold StartsFragment
    rw [hfragmented, hpacket]
    exact id

theorem kind_eq_data {kind : PendingTxKind} (hnone : kind ≠ .none) (hcode : kind ≠ .timeCode) :
    kind = .data := by
  cases kind with
  | none => exact absurd rfl hnone
  | data => rfl
  | timeCode => exact absurd rfl hcode

/-- The next fragment starts where one that is not the last ends. -/
theorem startsFragment_next {s : UdpBackend} {offset : Nat}
    (hmore : offset + s.fragmentSize offset < s.pendingTxPacket.length) :
    s.StartsFragment (offset + s.fragmentSize offset) := by
  refine Or.inr ⟨?_, hmore⟩
  by_contra hwhole
  rw [fragmentSize_of_whole hwhole] at hmore
  omega

theorem owns_keepalive {s : UdpBackend} {bytes : Bytes}
    (h : encodeHeader s.keepaliveHeader udpControlDatagramSize = some bytes) : s.Owns bytes := by
  obtain ⟨hvalid, rfl⟩ := encodeHeader_eq_some h
  have hdec : Decodes (headerBytes s.keepaliveHeader) s.keepaliveHeader [] := by
    simpa using decodes_headerBytes [] hvalid rfl
  exact fun s' hcore _ o =>
    .keepalive _ _ hdec rfl (congrArg UdpCore.localSessionId hcore).symm

/-- **An acknowledgement is of a message that is remembered.** -/
theorem owns_ack {s : UdpBackend} {messageId : UInt32} {type : UInt8} {header payload : Bytes}
    (hheader : encodeHeader (s.ackHeader messageId) udpControlDatagramSize = some header)
    (hpayload : encodeAckPayload s.remoteSessionId ackPayloadSize = some payload)
    (hrecent : ⟨type, messageId⟩ ∈ s.recentMessages.toList) : s.Owns (header ++ payload) := by
  obtain ⟨hvalid, rfl⟩ := encodeHeader_eq_some hheader
  obtain ⟨hremote, rfl⟩ := encodeAckPayload_eq_some hpayload
  have hdec := decodes_headerBytes (BigEndian.writeU64 s.remoteSessionId) hvalid rfl
  intro s' hcore _ o
  simp only [core, UdpCore.mk.injEq] at hcore
  refine .ack _ _ hdec rfl ?_ ?_ type ?_
  · exact hcore.2.1.symm
  · show decodeAckPayload _ = some s'.remoteSessionId
    rw [hcore.2.2.1]
    exact decodeAckPayload_writeU64 hremote
  · show _ ∈ s'.recentMessages.toList
    rw [show s'.recentMessages = s.recentMessages by simp only [hcore]]
    exact hrecent

theorem owns_fragment {s : UdpBackend} {offset : Nat} {bytes : Bytes}
    (hkind : s.pendingTxKind = .data) (hstart : s.StartsFragment offset)
    (h : encodeHeader (s.fragmentHeader offset) maxUdpPayload = some bytes) :
    s.Owns (bytes ++ s.fragmentPayload offset) := by
  obtain ⟨hvalid, rfl⟩ := encodeHeader_eq_some h
  intro s' hcore hs o
  have hpiece := fragment_pieceOf ((fragments_congr hcore.symm 0).2.2.1 hs) hstart
  have hdec := decodes_headerBytes (s.fragmentPayload offset) hvalid hpiece.size.symm
  exact .piece _ ((pendingOffer_congr hcore).trans (pendingOffer_data hkind))
    ⟨_, _, hdec, rfl, hpiece⟩

theorem owns_timeCode {s : UdpBackend} {bytes : Bytes} (hkind : s.pendingTxKind = .timeCode)
    (h : encodeHeader s.timeCodeHeader maxUdpPayload = some bytes) :
    s.Owns (bytes ++ s.timeCodePayload) := by
  obtain ⟨hvalid, rfl⟩ := encodeHeader_eq_some h
  have hdec := decodes_headerBytes s.timeCodePayload hvalid rfl
  have hack : hasFlag s.timeCodeHeader.flags flagAckRequired = true := by
    show hasFlag flagAckRequired flagAckRequired = true
    decide
  exact fun s' hcore _ o => .piece _ ((pendingOffer_congr hcore).trans
    (pendingOffer_timeCode hkind))
    ⟨_, _, hdec, rfl, ⟨rfl, rfl, hack, rfl⟩⟩

/-! ## The changes -/

/-- The peer was heard at a time. -/
def noteHeard (s : UdpBackend) (now : UInt64) : UdpBackend :=
  let s := { s with lastPeerRxUs := now }
  if s.state = .connecting ∨ s.state = .errorWait then { s with state := .run } else s

/-- What `note_peer_activity` does. -/
def notice (s : UdpBackend) (now : UInt64) : UdpBackend :=
  noteHeard { s with peerSeen := true } now

/-- A datagram that should be held back is too long for that. -/
def countReorder (s : UdpBackend) : UdpBackend :=
  { s with faultStatistics := { s.faultStatistics with
      transportReorders := s.faultStatistics.transportReorders + 1 } }

/-- **What sending does.** -/
inductive Sending : UdpBackend → UdpBackend → Prop
  | decide (s) (type : UInt8) : Sending s (s.decideFault type).2
  | countDrop (s) : Sending s s.countDrop
  | countDuplicate (s) : Sending s s.countDuplicate
  | countReorder (s) : Sending s s.countReorder
  | hold (s) {bytes : Bytes} (h : s.Emits bytes) (hrules : ¬ s.faultInjector.Quiet) :
      Sending s (s.holdDatagram bytes)
  | countDelay (s) : Sending s s.countDelay
  | release (s) : Sending s s.clearReorderedDatagram
  | number (s) : Sending s s.takeSequence.2
  | keepalive (s) (now : UInt64) : Sending s { s with lastKeepaliveTxUs := now }

/-- **What the passing of time does.** -/
inductive Refreshing : UdpBackend → UdpBackend → Prop
  | expire (s) (h : s.reassembly.active = true) : Refreshing s s.clearReassembly
  | lose (s) (h : s.state = .run) : Refreshing s s.markPeerLost
  | recover (s) (h : s.state = .errorWait) : Refreshing s { s with state := .run }

/-- **The datagram that is being handled**, which is one of the peer's current session. -/
structure Hears (s : UdpBackend) (header : Header) (payload : Bytes) : Prop where
  decodes : ∃ d, s.history.received.getLast? = some d ∧ Decodes d header payload
  known : s.remoteSessionId ≠ 0
  session : header.sessionId = s.remoteSessionId

theorem Hears.heard {s : UdpBackend} {header : Header} {payload : Bytes}
    (h : s.Hears header payload) (o : List Bytes) : (s.party o).Heard header payload :=
  ⟨h.decodes, h.known, h.session⟩

theorem Hears.take {s : UdpBackend} {header : Header} {payload : Bytes}
    (h : s.Hears header payload) : payload.take header.payloadSize.toNat = payload := by
  obtain ⟨d, -, hd⟩ := h.decodes
  rw [← hd.payload_length, List.take_length]

/-- A message that is not among those remembered, or does not ask for that. -/
def Fresh (s : UdpBackend) (type : UInt8) (header : Header) : Prop :=
  ¬ (hasFlag header.flags flagAckRequired && s.recentlyDelivered type header.messageId) = true

/-- **A datagram with an event that is looked at**: it is of the current session, of the
type, and its message has not been delivered. -/
structure Offers (s : UdpBackend) (type : UInt8) (header : Header) (payload : Bytes) :
    Prop where
  hears : s.Hears header payload
  fresh : s.Fresh type header
  type : header.type = type

/-- What `transmit_pending` notes: when it has sent last, and how often. -/
def noted (s : UdpBackend) (lastSendUs : UInt64) (transmissions : Nat) : UdpBackend :=
  { s with pendingTxLastSendUs := lastSendUs, pendingTxTransmissions := transmissions }

theorem inv_of_noted {I : UdpBackend → Prop} {s : UdpBackend} {now : UInt64} {n : Nat}
    (hnote : ∀ {s} (now : UInt64) (n : Nat), I s → I (s.noted now n)) (h : I (s.noted now n)) :
    I s :=
  hnote (s := s.noted now n) s.pendingTxLastSendUs s.pendingTxTransmissions h

/-- **What happens in the background of a call**, besides. -/
inductive Background : UdpBackend → UdpBackend → Prop
  | retry (s) (now : UInt64) {transmissions : Nat}
      (honce : transmissions ≤ s.pendingTxTransmissions + 1) (hkind : s.pendingTxKind ≠ .none)
      (h : s.pendingTxRetries < s.config.maxRetries) :
      Background s (s.noted now transmissions).countRetry
  | fail (s) (hkind : s.pendingTxKind ≠ .none) (h : s.config.maxRetries ≤ s.pendingTxRetries) :
      Background s s.failPending
  | acknowledge (s) {header : Header} {payload : Bytes} (hears : s.Hears header payload)
      (htype : header.type = typeAck) (hack : decodeAckPayload payload = some s.localSessionId)
      (hkind : s.pendingTxKind ≠ .none) (hid : header.messageId = s.pendingTxMessageId) :
      Background s s.acknowledgePending
  | drop (s) : Background s s.countDropped
  | push (s) {header : Header} {payload : Bytes} (h : s.Offers typeData header payload)
      (hpart : header.totalSize.toNat ≠ header.payloadSize.toNat) :
      Background s { s with reassembly := (s.reassembly.push header payload).2 }
  | fragment (s) (now : UInt64) : Background s { s with reassemblyLastFragmentUs := now }
  | timeCode (s) {header : Header} {payload : Bytes} (code : TimeCode)
      (h : s.Offers typeTimeCode header payload) (hcode : code
        = ⟨BigEndian.byteAt payload 0, BigEndian.byteAt payload 1⟩) (hvalid : code.valid = true)
      (hroom : s.timeCodes.count < udpTimeCodeQueueDepth) :
      Background s ((s.acceptTimeCode header.messageId code hroom).rememberIf
        (hasFlag header.flags flagAckRequired) typeTimeCode header.messageId)
  | whole (s) {header : Header} {payload : Bytes} (h : s.Offers typeData header payload)
      (hwhole : header.totalSize.toNat = header.payloadSize.toNat)
      (hfree : s.pendingPacketValid = false) :
      Background s ((s.acceptPacket header.messageId
        ⟨payload, terminatorOfFlags header.flags⟩).rememberIf
          (hasFlag header.flags flagAckRequired) typeData header.messageId)
  | reassembled (s) {header : Header} {payload : Bytes} (h : s.Offers typeData header payload)
      (hactive : s.reassembly.active = true) (hsame : s.reassembly.SamePacket header)
      (hall : s.reassembly.coveredBytes = s.reassembly.totalSize.toNat)
      (hfree : s.pendingPacketValid = false) :
      Background s ((s.acceptPacket s.reassembly.messageId
        s.reassembly.packet).clearReassembly.rememberIf s.reassembly.ackRequired typeData
        s.reassembly.messageId)

/-- **A datagram that begins a new session of the peer**: a keepalive from the peer's
address on this link, whose session is neither the current nor a retired one. -/
structure Adopts (s : UdpBackend) (source : SocketAddress) (bytes : Bytes)
    (sessionId : UInt64) : Prop where
  source : sourceMatches s.config source = true
  keepalive : ∃ header, decodeHeader bytes = .ok header
    ∧ bytes.length = headerSize + header.payloadSize.toNat ∧ header.linkId = s.config.linkId
    ∧ header.type = typeKeepalive ∧ header.sessionId = sessionId
  nonzero : sessionId ≠ 0
  current : s.isRetiredSession sessionId = false
  other : s.remoteSessionId ≠ sessionId

/-- **What the calls themselves do**, besides the background. -/
inductive Foreground : UdpCall → UdpBackend → UdpBackend → Prop
  | start (s) (now : UInt64) (pid : UInt32) (h : s.socketOpen = true) :
      Foreground .start s (s.restart (makeSessionId s now pid))
  | stop (s) (h : s.socketOpen = true) : Foreground .stop s s.clearLink.enterReady
  | reset (s) (h : s.socketOpen = true) : Foreground .reset s s.clearLink.enterErrorReset
  | offerPacket (s) {packet : SendPacket} {timeoutUs : Timeout} (terminator : Terminator)
      (hlength : packet.length ≤ udpMaxPacketSize) (hstate : s.state = .run ∨ s.state = .errorWait)
      (hidle : s.pendingTxKind = .none) :
      Foreground (.send packet timeoutUs) s ((s.effectiveTerminator terminator).2.offerPacket
        ⟨packet.bytes, (s.effectiveTerminator terminator).1⟩)
  | offerTimeCode (s) {code : TimeCode} {timeoutUs : Timeout} (hvalid : code.valid = true)
      (hstate : s.state = .run ∨ s.state = .errorWait) (hidle : s.pendingTxKind = .none) :
      Foreground (.sendTimeCode code timeoutUs) s (s.offerTimeCode code)
  | giveUp (s) {call : UdpCall} (h : call.sends = true) : Foreground call s s.clearPendingTx
  | sentPacket (s) {packet : SendPacket} {timeoutUs : Timeout} (now : UInt64)
      {transmissions : Nat} (honce : transmissions ≤ 1) : Foreground (.send packet timeoutUs) s
        ((s.noted now transmissions).noteSent.countSentPacket packet.length)
  | sentTimeCode (s) {code : TimeCode} {timeoutUs : Timeout} (now : UInt64)
      {transmissions : Nat} (honce : transmissions ≤ 1) :
      Foreground (.sendTimeCode code timeoutUs) s { (s.noted now transmissions).noteSent with
        statistics := { s.statistics with txTimeCodes := s.statistics.txTimeCodes + 1 } }
  | takePacket (s) {buffer : ReceiveBuffer} {timeoutUs : Timeout}
      (h : s.pendingPacketValid = true) : Foreground (.receive buffer timeoutUs) s s.takePacket
  | takeTimeCode (s) {timeoutUs : Timeout} {code : TimeCode}
      {rest : RingBuffer TimeCode udpTimeCodeQueueDepth}
      (h : s.timeCodes.pop = some (code, rest)) :
      Foreground (.receiveTimeCode timeoutUs) s (s.takeTimeCode rest)
  | clearStatistics (s) : Foreground .clearStatistics s { s with statistics := {} }
  | clearFaultStatistics (s) : Foreground .clearFaultStatistics s { s with faultStatistics := {} }

/-! ## Invariants -/

section

variable {O E : Type}

variable (S : UdpSetting O E)

/-- **A property that questions leave alone**, and with it the invariant. -/
def Asks (P : UdpBackend → O → Prop) : Prop :=
  ∀ {s o e q r o'}, q.isSend = false → S.inv s o e → P s o →
    S.answers s o e q r o' → S.inv s o' e ∧ P s o'

/-- **An invariant and a property that survive sending.** -/
structure Upkeep
    (L : UdpBackend → O → Prop) : Prop where
  ask : ∀ {s o e q r o'}, q.isSend = false → S.inv s o e →
    S.answers s o e q r o' → S.inv s o' e
  lasts : ∀ {s o e q r o'}, q.isSend = false → S.answers s o e q r o' →
    ∀ s', L s' o → L s' o'
  emit : ∀ {s o e d r o'}, s.state.talks = true → s.Emits d → S.inv s o e → L s o →
    S.answers s o e (.sendto d) r o' → S.inv s o' e ∧ L s o'
  sending : ∀ {s s' o e}, s.state.talks = true → Sending s s' → S.inv s o e → L s o →
    S.inv s' o e ∧ L s' o

/-- **An invariant and a property that survive the background of every call.** The clock is
asked between the two assignments of `note_peer_activity`, so that the invariant has to
survive each of them; the property has to survive both together, and a transmission
together with what the caller counts. -/
structure Tolerates
    (L : UdpBackend → O → Prop) : Prop extends Upkeep S L where
  refresh : ∀ {s s' o e}, Refreshing s s' → S.inv s o e → L s o → S.inv s' o e ∧ L s' o
  change : ∀ {s s' o e}, s.state.talks = true → Background s s' → S.inv s o e → L s o →
    S.inv s' o e ∧ L s' o
  see : ∀ {s o e}, S.inv s o e → S.inv { s with peerSeen := true } o e
  hear : ∀ {s o e} (now : UInt64), S.inv s o e → S.inv (s.noteHeard now) o e
  note : ∀ {s o e} (now : UInt64) (transmissions : Nat), S.inv s o e →
    S.inv (s.noted now transmissions) o e
  notice : ∀ {s o} (now : UInt64), s.state.talks = true → s.remoteSessionId ≠ 0 → L s o →
    L (s.notice now) o
  receive : ∀ {s o e source bytes o'}, s.state.talks = true → S.inv s o e → L s o →
    S.answers s o e .recvfrom (ReceiveAnswer.datagram source bytes) o' →
    S.inv (s.receiveDatagram source bytes) o' e ∧ L (s.receiveDatagram source bytes) o'
  adopt : ∀ {s o o' e e' source bytes sessionId}, s.state.talks = true → S.inv s o e →
    S.answers s o e .recvfrom (ReceiveAnswer.datagram source bytes) o' →
    Adopts s source bytes sessionId → S.inv (s.receiveDatagram source bytes) o' e' →
    S.inv ((s.receiveDatagram source bytes).adoptRemoteSession sessionId) o' e'
  adopted : ∀ {s o source bytes sessionId} (now : UInt64), s.state.talks = true →
    Adopts s source bytes sessionId → L s o →
    L ((s.adoptRemoteSession sessionId).notice now) o

/-- **An invariant and a property that a call keeps.** -/
structure Serves
    (L : UdpBackend → O → Prop) (call : UdpCall) : Prop extends Tolerates S L where
  foreground : ∀ {s s' o e}, Foreground call s s' → S.inv s o e → L s o → S.inv s' o e ∧ L s' o

/-- A property of the backend that stays true in the background of a call. -/
structure Lasting (P : UdpBackend → Prop) : Prop where
  sending : ∀ {s s'}, Sending s s' → P s → P s'
  refresh : ∀ {s s'}, Refreshing s s' → P s → P s'
  change : ∀ {s s'}, Background s s' → P s → P s'
  notice : ∀ {s} (now : UInt64), P s → P (s.notice now)
  receive : ∀ {s} (source : SocketAddress) (bytes : Bytes), P s →
    P (s.receiveDatagram source bytes)
  adopt : ∀ {s} (sessionId : UInt64), P s → P (s.adoptRemoteSession sessionId)

variable {S : UdpSetting O E} {L : UdpBackend → O → Prop}

/-- What lasts may be added to what survives. -/
theorem Upkeep.and (h : Upkeep S L) {P : UdpBackend → Prop}
    (hP : ∀ {s s'}, Sending s s' → P s → P s') : Upkeep S (fun s o => L s o ∧ P s) where
  ask := h.ask
  lasts := fun hq hr s' hs => ⟨h.lasts hq hr s' hs.1, hs.2⟩
  emit := fun ht hem hi hs hr => (h.emit ht hem hi hs.1 hr).imp_right (fun hl => ⟨hl, hs.2⟩)
  sending := fun ht hsend hi hs =>
    (h.sending ht hsend hi hs.1).imp_right (fun hl => ⟨hl, hP hsend hs.2⟩)

theorem Tolerates.and (h : Tolerates S L) {P : UdpBackend → Prop} (hP : Lasting P) :
    Tolerates S (fun s o => L s o ∧ P s) where
  toUpkeep := h.toUpkeep.and hP.sending
  refresh := fun hchange hi hs =>
    (h.refresh hchange hi hs.1).imp_right (fun hl => ⟨hl, hP.refresh hchange hs.2⟩)
  change := fun ht hchange hi hs =>
    (h.change ht hchange hi hs.1).imp_right (fun hl => ⟨hl, hP.change hchange hs.2⟩)
  see := h.see
  hear := h.hear
  note := h.note
  notice := fun now ht hremote hs => ⟨h.notice now ht hremote hs.1, hP.notice now hs.2⟩
  receive := fun ht hi hs hr => (h.receive ht hi hs.1 hr).imp_right
    (fun hl => ⟨hl, hP.receive _ _ hs.2⟩)
  adopt := h.adopt
  adopted := fun now ht hadopts hs => ⟨h.adopted now ht hadopts hs.1, hP.notice now
    (hP.adopt _ hs.2)⟩

theorem Upkeep.asks (h : Upkeep S L) : Asks S L :=
  fun hq hi hs hr => ⟨h.ask hq hi hr, h.lasts hq hr _ hs⟩

end

/-! ### What lasts -/

theorem rememberIf_eq (s : UdpBackend) (ackRequired : Bool) (type : UInt8) (messageId : UInt32) :
    s.rememberIf ackRequired type messageId
      = { s with recentMessages := (s.rememberIf ackRequired type messageId).recentMessages } := by
  unfold rememberIf rememberDelivered
  split_ifs <;> rfl

theorem markPeerLost_eq (s : UdpBackend) : s.markPeerLost
    = { s.clearReassembly with statistics := s.markPeerLost.statistics, state := .errorWait } := by
  unfold markPeerLost
  split_ifs <;> rfl

theorem failPending_eq (s : UdpBackend) : s.failPending = { s.clearReassembly with
    statistics := s.failPending.statistics, pendingTxFailed := true, state := .errorWait } := by
  unfold failPending
  by_cases hfailed : s.pendingTxFailed = true
  · simp only [hfailed, Bool.not_true, Bool.false_eq_true, if_false]
    rw [markPeerLost_eq, ← hfailed]
    rfl
  · simp only [hfailed, Bool.not_false, if_true]
    rw [markPeerLost_eq]
    rfl

theorem notice_eq (s : UdpBackend) (now : UInt64) : s.notice now
    = { s with peerSeen := true, lastPeerRxUs := now, state := (s.notice now).state } := by
  unfold notice noteHeard
  dsimp only
  split_ifs <;> rfl

/-- **What adopting a session changes.** -/
theorem adoptRemoteSession_eq (s : UdpBackend) (sessionId : UInt64) :
    s.adoptRemoteSession sessionId = { s with
      retiredSessions := s.retireRemoteSession.retiredSessions
      remoteSessionId := sessionId
      reassembly := s.reassembly.reset
      reassemblyLastFragmentUs := 0
      recentMessages := s.recentMessages.clear
      pendingTxRetries := if s.pendingTxKind ≠ .none then 0 else s.pendingTxRetries
      pendingTxFailed := if s.pendingTxKind ≠ .none then false else s.pendingTxFailed
      pendingTxLastSendUs := if s.pendingTxKind ≠ .none then 0 else s.pendingTxLastSendUs
      pendingTxTransmissions :=
        if s.pendingTxKind ≠ .none then 0 else s.pendingTxTransmissions } := by
  have hretire : s.retireRemoteSession
      = { s with retiredSessions := s.retireRemoteSession.retiredSessions } := by
    unfold retireRemoteSession rememberRetiredSession
    split_ifs <;> rfl
  unfold adoptRemoteSession
  rw [hretire]
  unfold restartPendingTx
  dsimp only
  by_cases hkind : s.pendingTxKind = .none
  · simp [hkind, clearReassembly, clearRecentMessages]
  · simp [hkind, clearReassembly, clearRecentMessages]

/-- A property that only looks at what no change of a kind touches. -/
theorem Lasting.state {P : LinkState → Prop} (hrun : P .run) (hwait : P .errorWait) :
    Lasting (fun s => P s.state) where
  sending := fun h hs => by cases h <;> exact hs
  refresh := fun h hs => by
    cases h with
    | expire h => exact hs
    | lose h => exact hwait
    | recover h => exact hrun
  change := fun h hs => by
    cases h with
    | fail hkind h => exact hwait
    | timeCode | whole | reassembled =>
      rw [rememberIf_eq]
      exact hs
    | _ => exact hs
  notice := fun now hs => by
    unfold UdpBackend.notice noteHeard
    dsimp only
    split_ifs
    · exact hrun
    · exact hs
  receive := fun _ _ hs => hs
  adopt := fun sessionId hs => by
    rw [adoptRemoteSession_eq]
    exact hs

/-- **A backend that talks to its peer goes on talking** until a call stops it. -/
theorem Lasting.talks : Lasting (fun s => s.state.talks = true) :=
  .state (P := fun state => state.talks = true) rfl rfl

/-- **An empty slot stays empty.** -/
theorem Lasting.idle : Lasting (fun s => s.pendingTxKind = .none) where
  sending := fun h hs => by cases h <;> exact hs
  refresh := fun h hs => by
    cases h with
    | lose h =>
      rw [markPeerLost_eq]
      exact hs
    | _ => exact hs
  change := fun h hs => by
    cases h with
    | fail hkind h => exact absurd hs hkind
    | acknowledge => rfl
    | timeCode | whole | reassembled =>
      rw [rememberIf_eq]
      exact hs
    | _ => exact hs
  notice := fun now hs => by
    rw [notice_eq]
    exact hs
  receive := fun _ _ hs => hs
  adopt := fun sessionId hs => by
    rw [adoptRemoteSession_eq]
    exact hs

theorem Sending.alike {s s' : UdpBackend} (h : Sending s s') : Alike s s' := by
  cases h with
  | decide type => exact ⟨rfl, rfl, s.faultInjector.injectTransport_rules type, rfl⟩
  | _ => exact ⟨rfl, rfl, rfl, rfl⟩

/-- The terminator a packet goes out with is the one handed in, without rules. -/
theorem effectiveTerminator_spec (s : UdpBackend) (t : Terminator) :
    Untouched s (s.effectiveTerminator t).2
      ∧ (s.faultInjector.Quiet → (s.effectiveTerminator t).1 = t) := by
  have hrules := s.faultInjector.injectSpacewireEep_rules
  unfold effectiveTerminator
  split_ifs with ht
  · split
    · next injector heq =>
      rw [heq] at hrules
      refine ⟨⟨rfl, hrules, rfl, rfl, rfl⟩, fun hq => ?_⟩
      rw [hq.injectSpacewireEep] at heq
      exact absurd (congrArg Prod.fst heq) Bool.false_ne_true
    · next injector heq =>
      rw [heq] at hrules
      exact ⟨⟨rfl, hrules, rfl, rfl, rfl⟩, fun _ => ht.symm⟩
  · exact ⟨⟨rfl, rfl, rfl, rfl, rfl⟩, fun _ => rfl⟩

end UdpBackend
