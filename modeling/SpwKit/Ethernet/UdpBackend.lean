import SpwKit.Lib.Process
import SpwKit.Ethernet.UdpState

/-!
# The UDP backend

The code of the backend, function by function. A public call runs until it
returns; the clock, the socket and a sleep are questions to its environment, and
everything between two questions happens at once. Where the code loops until
something happens, a fuel bounds the loop, and a call whose fuel is spent has
not returned: properties of what a call does hold for every fuel.

The socket calls are those of the build with `MSG_DONTWAIT`: a send or a receive
that would block says so, and the code polls for as long as its deadline allows.
-/

open VspwTp Interactive

/-! ## The environment -/

/-- `sendto`: all bytes went out, fewer, or none for one of three reasons. -/
inductive SendAnswer
  | sent | short | interrupted | wouldBlock | error
deriving DecidableEq, Repr

/-- `poll` on one descriptor: nothing in time, an event – the one asked for or
another – or a failure. -/
inductive PollAnswer
  | timedOut | ready (requested : Bool) | interrupted | error
deriving DecidableEq, Repr

/-- The source of a datagram. -/
structure SocketAddress where
  isInet : Bool
  address : UInt32
  port : UInt16
deriving DecidableEq, Repr

/-- `recvfrom`. -/
inductive ReceiveAnswer
  | datagram (source : SocketAddress) (bytes : Bytes)
  | interrupted | wouldBlock | error
deriving DecidableEq, Repr

/-- `nanosleep`. -/
inductive SleepAnswer
  | slept | interrupted | error
deriving DecidableEq, Repr

/-- What a backend asks its environment. The clock and the process number that
go into a session number are asked for together. -/
inductive UdpRequest
  | clock
  | clockAndPid
  | sendto (bytes : Bytes)
  | pollOut (timeoutMs : Int)
  | recvfrom
  | pollIn (timeoutMs : Int)
  | nanosleep (delayUs : UInt32)
deriving DecidableEq, Repr

/-- The type of the answer to a request. -/
def UdpRequest.Answer : UdpRequest → Type
  | .clock => UInt64
  | .clockAndPid => UInt64 × UInt32
  | .sendto _ => SendAnswer
  | .pollOut _ => PollAnswer
  | .recvfrom => ReceiveAnswer
  | .pollIn _ => PollAnswer
  | .nanosleep _ => SleepAnswer

/-- The code of a UDP backend. -/
abbrev Udp (α : Type) := Process UdpRequest UdpRequest.Answer UdpBackend α

/-- What is left of a call. -/
abbrev UdpStep (α : Type) := Step UdpRequest UdpRequest.Answer UdpBackend α

/-- Answers to the requests of a call, by their number. -/
abbrev UdpOracle := Nat → (q : UdpRequest) → q.Answer

/-- What a backend relies on. -/
abbrev UdpSetting (O E : Type) := Setting UdpRequest UdpRequest.Answer UdpBackend O E

/-- Ask the environment. -/
def udpAsk (q : UdpRequest) : Udp q.Answer := Process.request q

/-! ## Time -/

/-- `now_us`. -/
def nowUs : Udp UInt64 := udpAsk .clock

/-- `spw_udp_deadline_t`. -/
structure UdpDeadline where
  infinite : Bool
  endUs : UInt64
deriving DecidableEq, Repr

/-- `deadline_make`. -/
def deadlineMake (timeoutUs : Timeout) : Udp UdpDeadline := do
  if timeoutUs = timeoutInfinite then
    return ⟨true, 0xffffffffffffffff⟩
  else
    let now ← nowUs
    return ⟨false,
      if 0xffffffffffffffff - now < timeoutUs then 0xffffffffffffffff else now + timeoutUs⟩

/-- `deadline_remaining`. -/
def deadlineRemaining (deadline : UdpDeadline) : Udp Timeout := do
  if deadline.infinite then
    return timeoutInfinite
  else
    let now ← nowUs
    return if now ≥ deadline.endUs then timeoutImmediate else deadline.endUs - now

/-- `deadline_expired`. -/
def deadlineExpired (deadline : UdpDeadline) : Udp Bool := do
  if deadline.infinite then
    return false
  else
    let now ← nowUs
    return decide (now ≥ deadline.endUs)

/-- `timeout_ms`, with the largest `int` as its bound. -/
def timeoutMs (timeoutUs : Timeout) : Int :=
  if timeoutUs = timeoutInfinite then -1
  else
    let rounded := ((timeoutUs + 999) / 1000).toNat
    if rounded > 2147483647 then 2147483647 else rounded

/-- `min_timeout`. -/
def minTimeout (lhs rhs : Timeout) : Timeout :=
  if lhs = timeoutInfinite then rhs
  else if rhs = timeoutInfinite then lhs
  else if lhs < rhs then lhs else rhs

/-! ## The peer -/

/-- `make_session_id`. -/
def makeSessionId (b : UdpBackend) (now : UInt64) (pid : UInt32) : UInt64 :=
  let value := now ^^^ (pid.toUInt64 <<< 32) ^^^ (b.config.localPort.toUInt64 <<< 16)
    ^^^ b.config.linkId.toUInt64 ^^^ b.object
  if value == 0 then 1 else value

/-- `source_matches`. -/
def sourceMatches (config : UdpConfig) (source : SocketAddress) : Bool :=
  source.isInet && source.port == config.remotePort
    && config.remoteAddress == some source.address

/-- `expire_reassembly`. -/
def expireReassembly : Udp Unit := do
  let now ← nowUs
  modify fun b =>
    if !b.reassembly.active || b.reassemblyLastFragmentUs == 0 then b
    else if now ≥ b.reassemblyLastFragmentUs
        ∧ now - b.reassemblyLastFragmentUs ≥ msToUs b.config.peerTimeoutMs then b.clearReassembly
    else b

/-- `peer_is_current`. -/
def peerIsCurrent : Udp Bool := do
  let now ← nowUs
  let b ← get
  return b.peerSeen && b.lastPeerRxUs != 0 && !decide (now < b.lastPeerRxUs)
    && decide (now - b.lastPeerRxUs ≤ msToUs b.config.peerTimeoutMs)

/-- `refresh_peer_state`. -/
def refreshPeerState : Udp Unit := do
  expireReassembly
  let b ← get
  if b.state = .run then
    if !(← peerIsCurrent) then
      modify UdpBackend.markPeerLost
  else if b.state = .errorWait then
    if ← peerIsCurrent then
      modify fun b => { b with state := .run }

/-- `note_peer_activity`. -/
def notePeerActivity : Udp Unit := do
  modify fun b => { b with peerSeen := true }
  let now ← nowUs
  modify fun b =>
    let b := { b with lastPeerRxUs := now }
    if b.state = .connecting ∨ b.state = .errorWait then { b with state := .run } else b

/-- The peer's session is over. -/
def UdpBackend.retireRemoteSession (b : UdpBackend) : UdpBackend :=
  if b.remoteSessionId != 0 then b.rememberRetiredSession b.remoteSessionId else b

/-- The pending event is sent to the peer's new session from the start. -/
def UdpBackend.restartPendingTx (b : UdpBackend) : UdpBackend :=
  if b.pendingTxKind ≠ .none then
    { b with
      pendingTxRetries := 0
      pendingTxFailed := false
      pendingTxLastSendUs := 0
      pendingTxTransmissions := 0 }
  else b

/-- The part of `reset_remote_session` that puts a new session of the peer in the
place of its last one. -/
def UdpBackend.adoptRemoteSession (b : UdpBackend) (sessionId : UInt64) : UdpBackend :=
  let b := { b.retireRemoteSession with remoteSessionId := sessionId }
  b.clearReassembly.clearRecentMessages.restartPendingTx

/-- `reset_remote_session`. -/
def resetRemoteSession (sessionId : UInt64) : Udp Bool := do
  let b ← get
  if sessionId == 0 || b.isRetiredSession sessionId then
    return false
  else
    modify fun b => if b.remoteSessionId = sessionId then b else b.adoptRemoteSession sessionId
    notePeerActivity
    return true

/-! ## The socket -/

section

variable (fuel : Nat)

variable (b : UdpBackend) (header : Header) (payload : Bytes) (deadline : UdpDeadline)
  (timeoutUs : Timeout)

/-- The loop of `wait_readable`: poll again when interrupted. -/
def pollInLoop (timeout : Int) : Nat → Udp PollAnswer
  | 0 => Process.hang
  | n + 1 => do
    match ← udpAsk (.pollIn timeout) with
    | .interrupted => pollInLoop timeout n
    | answer => return answer

/-- What a poll for an event means for the caller. -/
def pollResult : PollAnswer → Result
  | .timedOut => .timeout
  | .ready true => .ok
  | _ => .backend

/-- `wait_readable`. -/
def waitReadable : Udp Result := do
  return pollResult (← pollInLoop (timeoutMs timeoutUs) fuel)

/-- The loop that waits until the socket takes a datagram. -/
def pollOutLoop : Nat → Udp PollAnswer
  | 0 => Process.hang
  | n + 1 => do
    let remaining ← deadlineRemaining deadline
    match ← udpAsk (.pollOut (timeoutMs remaining)) with
    | .interrupted => pollOutLoop n
    | answer => return answer

/-- The loop of `send_datagram_raw`. -/
def sendLoop (bytes : Bytes) (deadline : UdpDeadline) : Nat → Udp Result
  | 0 => Process.hang
  | n + 1 => do
    match ← udpAsk (.sendto bytes) with
    | .sent => return .ok
    | .short => return .backend
    | .error => return .backend
    | .interrupted =>
      if ← deadlineExpired deadline then return .timeout
      else sendLoop bytes deadline n
    | .wouldBlock =>
      match pollResult (← pollOutLoop deadline fuel) with
      | .ok => sendLoop bytes deadline n
      | result => return result

/-- `send_datagram_raw`. -/
def sendDatagramRaw (bytes : Bytes) (timeoutUs : Timeout) : Udp Result := do
  let b ← get
  if !b.socketOpen then return .invalidState
  else if b.config.remoteAddress.isNone then return .backend
  else
    let deadline ← deadlineMake timeoutUs
    sendLoop fuel bytes deadline fuel

/-- The loop of `wait_transport_fault_delay`. -/
def sleepLoop (delayUs : UInt32) : Nat → Udp Result
  | 0 => Process.hang
  | n + 1 => do
    match ← udpAsk (.nanosleep delayUs) with
    | .slept => return .ok
    | .interrupted => sleepLoop delayUs n
    | .error => return .backend

/-- `wait_transport_fault_delay`. -/
def waitTransportFaultDelay (delayUs : UInt32) (timeoutUs : Timeout) : Udp Result := do
  if delayUs == 0 then return .ok
  else if timeoutUs ≠ timeoutInfinite ∧ timeoutUs < delayUs.toUInt64 then return .timeout
  else sleepLoop delayUs fuel

/-- The decision of the fault rules on a datagram, and the counters it moves. -/
def UdpBackend.decideFault (type : UInt8) : FaultDecision × UdpBackend :=
  let decided := b.faultInjector.injectTransport type
  (decided.1, { b with faultInjector := decided.2 })

/-- A datagram that a rule drops. -/
def UdpBackend.countDrop : UdpBackend :=
  { b.countDropped with faultStatistics := { b.faultStatistics with
      transportDrops := b.faultStatistics.transportDrops + 1 } }

/-- A datagram that a rule sends twice. -/
def UdpBackend.countDuplicate : UdpBackend :=
  { b with faultStatistics := { b.faultStatistics with
      transportDuplicates := b.faultStatistics.transportDuplicates + 1 } }

/-- A datagram that a rule delays. -/
def UdpBackend.countDelay : UdpBackend :=
  { b with faultStatistics := { b.faultStatistics with
      transportDelays := b.faultStatistics.transportDelays + 1 } }

/-- A datagram that a rule holds back until after the next one. -/
def UdpBackend.holdDatagram (bytes : Bytes) : UdpBackend :=
  { b with
    faultStatistics := { b.faultStatistics with
      transportReorders := b.faultStatistics.transportReorders + 1 }
    reorderedDatagram := bytes
    reorderedDatagramValid := true }

/-- The cases of `send_datagram` once the rules have decided. -/
def sendDecided (decision : FaultDecision) (bytes : Bytes) (timeoutUs : Timeout) :
    Udp Result := do
  if decision.action = FaultAction.transportDrop then
    modify UdpBackend.countDrop
    return .ok
  else if decision.action = FaultAction.transportDuplicate then
    modify UdpBackend.countDuplicate
    let result ← sendDatagramRaw fuel bytes timeoutUs
    if result = .ok then sendDatagramRaw fuel bytes timeoutUs else return result
  else if decision.action = FaultAction.transportReorder then
    if bytes.length > maxUdpPayload then
      modify fun b => { b with faultStatistics := { b.faultStatistics with
        transportReorders := b.faultStatistics.transportReorders + 1 } }
      return .backend
    else
      modify fun b => b.holdDatagram bytes
      return .ok
  else if decision.action = FaultAction.transportDelay then
    modify UdpBackend.countDelay
    let result ← waitTransportFaultDelay fuel decision.delayUs timeoutUs
    if result = .ok then sendDatagramRaw fuel bytes timeoutUs else return result
  else sendDatagramRaw fuel bytes timeoutUs

/-- `send_datagram`. -/
def sendDatagram (bytes : Bytes) (timeoutUs : Timeout) : Udp Result := do
  let b ← get
  if b.reorderedDatagramValid then
    let result ← sendDatagramRaw fuel bytes timeoutUs
    if result ≠ .ok then return result
    else
      let b ← get
      let result ← sendDatagramRaw fuel b.reorderedDatagram timeoutUs
      modify UdpBackend.clearReorderedDatagram
      return result
  else
    match decodeHeader bytes with
    | .error _ => sendDatagramRaw fuel bytes timeoutUs
    | .ok header =>
      set (b.decideFault header.type).2
      sendDecided fuel (b.decideFault header.type).1 bytes timeoutUs

/-! ## Control datagrams -/

/-- The header of a keepalive. -/
def UdpBackend.keepaliveHeader : Header :=
  { Header.initializer with
    type := typeKeepalive
    linkId := b.config.linkId
    sessionId := b.localSessionId
    sequence := b.takeSequence.1 }

/-- `send_keepalive`. -/
def sendKeepalive : Udp Result := do
  let b ← get
  set b.takeSequence.2
  match encodeHeader b.keepaliveHeader udpControlDatagramSize with
  | none => return .backend
  | some bytes =>
    let result ← sendDatagram fuel bytes timeoutUs
    if result = .ok then
      let now ← nowUs
      modify fun b => { b with lastKeepaliveTxUs := now }
      return result
    else return result

/-- The states in which a backend talks to its peer. -/
def LinkState.talks (s : LinkState) : Bool := s = .connecting || s = .run || s = .errorWait

/-- `maybe_send_keepalive`. -/
def maybeSendKeepalive : Udp Unit := do
  let now ← nowUs
  let b ← get
  if !b.socketOpen || b.localSessionId == 0 || !b.state.talks then return ()
  else if b.lastKeepaliveTxUs = 0 ∨ (now ≥ b.lastKeepaliveTxUs
      ∧ now - b.lastKeepaliveTxUs ≥ msToUs b.config.keepaliveIntervalMs) then
    let _ ← sendKeepalive fuel timeoutImmediate
    return ()
  else return ()

/-- The header of an acknowledgement. -/
def UdpBackend.ackHeader (messageId : UInt32) : Header :=
  { Header.initializer with
    type := typeAck
    payloadSize := 8
    linkId := b.config.linkId
    sessionId := b.localSessionId
    sequence := b.takeSequence.1
    messageId := messageId
    totalSize := 8 }

/-- `send_ack`. -/
def sendAck (messageId : UInt32) : Udp Result := do
  let b ← get
  if messageId == 0 then return .invalidArgument
  else if b.remoteSessionId == 0 then return .invalidState
  else
    set b.takeSequence.2
    match encodeHeader (b.ackHeader messageId) udpControlDatagramSize,
        encodeAckPayload b.remoteSessionId ackPayloadSize with
    | some header, some payload => sendDatagram fuel (header ++ payload) timeoutImmediate
    | _, _ => return .backend

/-! ## The pending event -/

/-- The header of the pending time code. -/
def UdpBackend.timeCodeHeader : Header :=
  { Header.initializer with
    type := typeTimeCode
    flags := flagAckRequired
    payloadSize := 2
    linkId := b.config.linkId
    sessionId := b.localSessionId
    sequence := b.takeSequence.1
    messageId := b.pendingTxMessageId
    totalSize := 2 }

/-- The payload of the pending time code. -/
def UdpBackend.timeCodePayload : Bytes :=
  [b.pendingTxTimeCode.timeCount, b.pendingTxTimeCode.controlFlags]

/-- Whether the pending packet goes out in fragments. -/
def UdpBackend.fragmented : Bool :=
  decide (b.pendingTxPacket.length > b.config.fragmentPayloadSize.toNat)

/-- The size of the fragment at an offset. -/
def UdpBackend.fragmentSize (offset : Nat) : Nat :=
  let remaining := b.pendingTxPacket.length - offset
  if b.fragmented then min b.config.fragmentPayloadSize.toNat remaining else remaining

/-- The flags of a fragment. -/
def dataFlags (terminator : Terminator) (start fin : Bool) : UInt8 :=
  terminatorFlag terminator ||| flagAckRequired
    ||| (if start then flagFragmentStart else 0) ||| (if fin then flagFragmentEnd else 0)

/-- The header of the fragment at an offset. -/
def UdpBackend.fragmentHeader (offset : Nat) : Header :=
  { Header.initializer with
    type := typeData
    flags := dataFlags b.pendingTxTerminator (b.fragmented && offset == 0)
      (b.fragmented && offset + b.fragmentSize offset == b.pendingTxPacket.length)
    payloadSize := UInt16.ofNat (b.fragmentSize offset)
    linkId := b.config.linkId
    sessionId := b.localSessionId
    sequence := b.takeSequence.1
    messageId := b.pendingTxMessageId
    fragmentOffset := UInt32.ofNat offset
    totalSize := UInt32.ofNat b.pendingTxPacket.length }

/-- The payload of the fragment at an offset. -/
def UdpBackend.fragmentPayload (offset : Nat) : Bytes :=
  (b.pendingTxPacket.drop offset).take (b.fragmentSize offset)

/-- The loop of `transmit_pending` over the fragments. Each turn but that of an
empty packet moves on, so the size of the packet is fuel enough. -/
def transmitFragments : Nat → Nat → Udp Result
  | 0, _ => Process.hang
  | n + 1, offset => do
    let b ← get
    set b.takeSequence.2
    match encodeHeader (b.fragmentHeader offset) maxUdpPayload with
    | none => return .invalidPacket
    | some header =>
      let result ← sendDatagram fuel (header ++ b.fragmentPayload offset) timeoutUs
      if result ≠ .ok then return result
      else if offset + b.fragmentSize offset < b.pendingTxPacket.length then
        transmitFragments n (offset + b.fragmentSize offset)
      else return .ok

/-- The time-code part of `transmit_pending`. -/
def transmitTimeCode : Udp Result := do
  let b ← get
  set b.takeSequence.2
  match encodeHeader b.timeCodeHeader maxUdpPayload with
  | none => return .backend
  | some header => sendDatagram fuel (header ++ b.timeCodePayload) timeoutUs

/-- The pending event went out. -/
def UdpBackend.noteTransmitted (now : UInt64) : UdpBackend :=
  { b with
    pendingTxLastSendUs := now
    pendingTxTransmissions := b.pendingTxTransmissions + 1 }

/-- What `transmit_pending` ends with. -/
def notePendingSent : Udp Result := do
  let now ← nowUs
  modify fun b => b.noteTransmitted now
  return .ok

/-- The datagrams of the pending event, by its kind. -/
def transmitEvent : Udp Result :=
  if b.pendingTxKind = .timeCode then transmitTimeCode fuel timeoutUs
  else transmitFragments fuel timeoutUs (b.pendingTxPacket.length + 1) 0

/-- `transmit_pending`. -/
def transmitPending : Udp Result := do
  let b ← get
  if b.pendingTxKind = .none ∨ b.pendingTxMessageId = 0 then return .ok
  else
    let result ← transmitEvent fuel b timeoutUs
    if result = .ok then notePendingSent else return result

/-- The pending event is given up. -/
def UdpBackend.failPending : UdpBackend :=
  let b := if !b.pendingTxFailed then { b.countDropped with pendingTxFailed := true } else b
  b.markPeerLost

/-- The pending event was retried. -/
def UdpBackend.countRetry : UdpBackend :=
  { b with pendingTxRetries := b.pendingTxRetries + 1 }

/-- `service_pending_tx`. -/
def servicePendingTx : Udp Result := do
  let now ← nowUs
  let b ← get
  if b.pendingTxKind = .none then return .ok
  else if b.pendingTxLastSendUs ≠ 0 ∧ now ≥ b.pendingTxLastSendUs
      ∧ now - b.pendingTxLastSendUs < msToUs b.config.ackTimeoutMs then return .ok
  else if b.pendingTxRetries ≥ b.config.maxRetries then
    modify UdpBackend.failPending
    return .linkUnavailable
  else
    let result ← transmitPending fuel timeoutImmediate
    if result = .ok then
      modify UdpBackend.countRetry
      return result
    else return result

/-! ## What arrives -/

/-- The event that is pending, if there is one. -/
def UdpBackend.pendingEvent : Option Event :=
  match b.pendingTxKind with
  | .none => none
  | .data => some (.data ⟨b.pendingTxPacket, b.pendingTxTerminator⟩)
  | .timeCode => some (.timeCode b.pendingTxTimeCode)

/-- The pending event with its session and number. -/
def UdpBackend.pendingOffer : Option Offer :=
  b.pendingEvent.map (⟨b.localSessionId, b.pendingTxMessageId, ·⟩)

/-- The pending event is acknowledged by the peer's current session. -/
def UdpBackend.acknowledgePending : UdpBackend :=
  { b.clearPendingTx with
    history := { b.history with
      acknowledged := b.history.acknowledged
        ++ (b.pendingOffer.map (⟨·, b.remoteSessionId⟩)).toList } }

/-- `process_ack`. -/
def UdpBackend.processAck : UdpBackend :=
  match decodeAckPayload (payload.take header.payloadSize.toNat) with
  | none => b.countDropped
  | some acknowledgedSessionId =>
    if acknowledgedSessionId ≠ b.localSessionId then b
    else if b.pendingTxKind ≠ .none ∧ header.messageId = b.pendingTxMessageId then
      b.acknowledgePending
    else b

/-- `process_keepalive`. -/
def processKeepalive : Udp Result := do
  let _ ← resetRemoteSession header.sessionId
  return .ok

/-- A delivery from the peer's current session. -/
def UdpBackend.delivery (messageId : UInt32) (event : Event) : Delivery :=
  ⟨b.localSessionId, b.remoteSessionId, messageId, event, b.history.life⟩

/-- A time code is accepted into the queue. -/
def UdpBackend.acceptTimeCode (messageId : UInt32) (code : TimeCode)
    (h : b.timeCodes.count < udpTimeCodeQueueDepth) : UdpBackend :=
  { b with
    timeCodes := b.timeCodes.push code h
    history := { b.history with
      deliveries := b.history.deliveries ++ [b.delivery messageId (.timeCode code)]
      queue := b.history.queue ++ [b.delivery messageId (.timeCode code)] } }

/-- A packet is accepted into the slot. -/
def UdpBackend.acceptPacket (messageId : UInt32) (packet : Packet) : UdpBackend :=
  { b with
    pendingPacket := packet.bytes
    pendingPacketTerminator := packet.terminator
    pendingPacketValid := true
    history := { b.history with
      deliveries := b.history.deliveries ++ [b.delivery messageId (.data packet)]
      slot := some (b.delivery messageId (.data packet)) } }

/-- A message that asks for an acknowledgement is remembered as delivered. -/
def UdpBackend.rememberIf (ackRequired : Bool) (type : UInt8) (messageId : UInt32) : UdpBackend :=
  if ackRequired then b.rememberDelivered type messageId else b

/-- A message that asks for it is acknowledged. -/
def sendAckIf (ackRequired : Bool) (messageId : UInt32) : Udp Result := do
  if ackRequired then
    let _ ← sendAck fuel messageId
    return .ok
  else return .ok

/-- `process_time_code`. -/
def processTimeCode : Udp Result := do
  let b ← get
  let ackRequired := hasFlag header.flags flagAckRequired
  if ackRequired && b.recentlyDelivered typeTimeCode header.messageId then
    let _ ← sendAck fuel header.messageId
    return .ok
  else if h : b.timeCodes.count < udpTimeCodeQueueDepth then
    let code : TimeCode := ⟨BigEndian.byteAt payload 0, BigEndian.byteAt payload 1⟩
    if !code.valid then
      modify UdpBackend.countDropped
      return .ok
    else
      set ((b.acceptTimeCode header.messageId code h).rememberIf ackRequired typeTimeCode
        header.messageId)
      sendAckIf fuel ackRequired header.messageId
  else return .resourceExhausted

/-- The packet a complete reassembly holds. -/
def FragmentReassembler.packet (r : FragmentReassembler) : Packet :=
  ⟨(List.range r.totalSize.toNat).map r.data, terminatorOfFlags r.terminatorFlags⟩

/-- The end of `process_data` when the last fragment is there. -/
def completeReassembly : Udp Result := do
  let b ← get
  if b.pendingPacketValid then return .resourceExhausted
  else
    set ((b.acceptPacket b.reassembly.messageId b.reassembly.packet).clearReassembly.rememberIf
      b.reassembly.ackRequired typeData b.reassembly.messageId)
    sendAckIf fuel b.reassembly.ackRequired b.reassembly.messageId

/-- The fragmented part of `process_data`. -/
def processFragment : Udp Result := do
  expireReassembly
  let b ← get
  set { b with reassembly := (b.reassembly.push header payload).2 }
  let result := (b.reassembly.push header payload).1
  if result = .invalid ∨ result = .conflict then
    modify UdpBackend.countDropped
    return .ok
  else
    let now ← nowUs
    modify fun b => { b with reassemblyLastFragmentUs := now }
    if result ≠ .complete then return .ok else completeReassembly fuel

/-- `process_data`. -/
def processData : Udp Result := do
  let b ← get
  let ackRequired := hasFlag header.flags flagAckRequired
  if ackRequired && b.recentlyDelivered typeData header.messageId then
    let _ ← sendAck fuel header.messageId
    return .ok
  else if header.totalSize.toNat = header.payloadSize.toNat then
    if b.pendingPacketValid then return .resourceExhausted
    else
      set ((b.acceptPacket header.messageId
        ⟨payload.take header.payloadSize.toNat, terminatorOfFlags header.flags⟩).rememberIf
          ackRequired typeData header.messageId)
      sendAckIf fuel ackRequired header.messageId
  else processFragment fuel header payload

/-- The cases of `pump_one` for a datagram of the peer's current session. -/
def processMessage : Udp Result := do
  if header.type = typeData then
    if header.totalSize.toNat > udpMaxPacketSize then
      modify UdpBackend.countDropped
      return .ok
    else processData fuel header payload
  else if header.type = typeTimeCode then processTimeCode fuel header payload
  else if header.type = typeAck then
    modify fun b => b.processAck header payload
    return .ok
  else return .ok

/-- What `pump_one` does with the datagram it has received. -/
def processDatagram (source : SocketAddress) : Udp Result := do
  let b ← get
  if !sourceMatches b.config source then return .ok
  else
    match decodeHeader b.rxDatagram with
    | .error _ =>
      modify UdpBackend.countDropped
      return .ok
    | .ok header =>
      if b.rxDatagram.length ≠ headerSize + header.payloadSize.toNat then
        modify UdpBackend.countDropped
        return .ok
      else if header.linkId ≠ b.config.linkId then return .ok
      else if header.type = typeKeepalive then processKeepalive header
      else if b.remoteSessionId = 0 ∨ header.sessionId ≠ b.remoteSessionId then return .ok
      else
        notePeerActivity
        processMessage fuel header (b.rxDatagram.drop headerSize)

/-- A datagram is in the receive buffer. -/
def UdpBackend.receiveDatagram (source : SocketAddress) (bytes : Bytes) : UdpBackend :=
  { b with
    rxDatagram := bytes
    history := { b.history with
      received := if sourceMatches b.config source then b.history.received ++ [bytes]
        else b.history.received } }

/-- The receive loop of `pump_one`: the source of a datagram that is now in the
receive buffer, or why there is none. -/
def receiveLoop : Nat → Udp (Except Result SocketAddress)
  | 0 => Process.hang
  | n + 1 => do
    match ← udpAsk .recvfrom with
    | .datagram source bytes =>
      modify fun b => b.receiveDatagram source bytes
      return .ok source
    | .error => return .error .backend
    | .interrupted =>
      if ← deadlineExpired deadline then return .error .timeout
      else receiveLoop n
    | .wouldBlock =>
      let remaining ← deadlineRemaining deadline
      match ← waitReadable fuel remaining with
      | .ok => receiveLoop n
      | result => return .error result

/-- How long `pump_one` waits before it looks after the link again. -/
def UdpBackend.serviceSlice : Timeout :=
  if b.pendingTxKind ≠ .none then
    minTimeout (msToUs b.config.keepaliveIntervalMs) (msToUs b.config.ackTimeoutMs)
  else msToUs b.config.keepaliveIntervalMs

/-- `pump_one`. -/
def pumpOne : Udp Result := do
  maybeSendKeepalive fuel
  let b ← get
  let waitTimeout := minTimeout timeoutUs b.serviceSlice
  let deadline ← deadlineMake waitTimeout
  match ← receiveLoop fuel deadline fuel with
  | .ok source => processDatagram fuel source
  | .error .timeout =>
    maybeSendKeepalive fuel
    refreshPeerState
    return if timeoutUs = timeoutInfinite ∨ waitTimeout < timeoutUs then .ok else .timeout
  | .error result => return result

/-- The results of `pump_one` after which the loops go on. -/
def Result.passing (r : Result) : Bool := r = .ok || r = .timeout || r = .resourceExhausted

/-- The loop of `wait_virtual_link_delay`. -/
def linkDelayLoop (target : UInt64) : Nat → Udp Result
  | 0 => Process.hang
  | n + 1 => do
    if ¬ (← nowUs) < target then return .ok
    else
      let now ← nowUs
      let remaining := if target > now then target - now else 0
      let budget ← deadlineRemaining deadline
      let result ← pumpOne fuel (minTimeout budget remaining)
      if !result.passing then return result
      else if (← nowUs) ≥ target then return .ok
      else if ← deadlineExpired deadline then return .timeout
      else linkDelayLoop target n

/-- `wait_virtual_link_delay`. -/
def waitVirtualLinkDelay (delayUs : UInt64) (timeoutUs : Timeout) : Udp Result := do
  if delayUs = 0 then return .ok
  else if timeoutUs ≠ timeoutInfinite ∧ timeoutUs < delayUs then return .timeout
  else
    let deadline ← deadlineMake timeoutUs
    let now ← nowUs
    linkDelayLoop fuel deadline (now + delayUs) fuel

/-- The condition both waits for the peer end on. -/
def peerRuns : Udp Bool := do
  let b ← get
  if b.state = .run then peerIsCurrent else return false

/-- The loop of `ensure_peer`. -/
def ensurePeerLoop : Nat → Udp Result
  | 0 => Process.hang
  | n + 1 => do
    maybeSendKeepalive fuel
    let remaining ← deadlineRemaining deadline
    let result ← pumpOne fuel remaining
    refreshPeerState
    if ← peerRuns then return .ok
    else if !result.passing then return result
    else if (← deadlineExpired deadline) || timeoutUs = timeoutImmediate then
      return .linkUnavailable
    else ensurePeerLoop n

/-- `ensure_peer`. -/
def ensurePeer : Udp Result := do
  refreshPeerState
  if ← peerRuns then return .ok
  else
    let b ← get
    if !b.state.talks then return .linkUnavailable
    else
      let deadline ← deadlineMake timeoutUs
      ensurePeerLoop fuel deadline timeoutUs fuel

/-- The loop of `wait_for_tx_slot`. -/
def txSlotLoop : Nat → Udp Result
  | 0 => Process.hang
  | n + 1 => do
    let serviced ← servicePendingTx fuel
    let b ← get
    if b.pendingTxKind = .none then return .ok
    else if serviced ≠ .ok ∧ serviced ≠ .timeout then return serviced
    else
      let remaining ← deadlineRemaining deadline
      let pumped ← pumpOne fuel (minTimeout remaining (msToUs b.config.ackTimeoutMs))
      if !pumped.passing then return pumped
      else
        let b ← get
        if b.pendingTxKind = .none then return .ok
        else if (← deadlineExpired deadline) || timeoutUs = timeoutImmediate then return .timeout
        else txSlotLoop n

/-- `wait_for_tx_slot`. -/
def waitForTxSlot : Udp Result := do
  let b ← get
  if b.pendingTxKind = .none then return .ok
  else
    let deadline ← deadlineMake timeoutUs
    txSlotLoop fuel deadline timeoutUs fuel

/-! ## Construction and the life of a link -/

/-- What `udp_construct` insists on in a configuration. -/
def UdpConfig.valid (config : UdpConfig) : Bool :=
  !(config.version != udpConfigVersion || !config.structSizeOk || config.remotePort == 0
    || config.linkId == 0 || decide (config.fragmentPayloadSize.toNat < 256)
    || decide (config.fragmentPayloadSize.toNat > maxFragmentPayload)
    || config.maxRetries == 0 || config.ackTimeoutMs == 0 || config.keepaliveIntervalMs == 0
    || decide (config.peerTimeoutMs ≤ config.keepaliveIntervalMs) || config.reserved != 0)
    && (List.range faultRuleCount).all (fun i => faultRuleValid (config.faultRules i))

/-- A configuration `udp_construct` admits, without fault rules. -/
def UdpConfig.sample : UdpConfig where
  structSizeOk := true
  version := udpConfigVersion
  localAddress := some 1
  localPort := 1
  remoteAddress := some 1
  remotePort := 2
  linkId := 1
  fragmentPayloadSize := 256
  maxRetries := 3
  ackTimeoutMs := 10
  keepaliveIntervalMs := 10
  peerTimeoutMs := 20
  virtualLinkBps := 0
  virtualLatencyUs := 0
  faultSeed := 0
  faultRules := fun _ => {}
  reserved := 0

example : UdpConfig.sample.valid = true := by decide

/-- The backend `udp_construct` starts from, over memories with whatever is in
them. -/
def UdpBackend.zeroed (config : UdpConfig) (object : UInt64) : UdpBackend where
  config := config
  object := object
  virtualTiming := ⟨config.virtualLinkBps, config.virtualLatencyUs⟩
  faultInjector := .init config.faultRules config.faultSeed
  socketOpen := false
  state := .errorReset
  statistics := {}
  faultStatistics := {}
  nextSequence := 1
  nextMessageId := 1
  rxDatagram := []
  reorderedDatagram := []
  reorderedDatagramValid := false
  reassembly := .init true (fun _ => 0) udpMaxPacketSize (fun _ => 0)
    (FragmentReassembler.coverageWordsFor udpMaxPacketSize)
  reassemblyLastFragmentUs := 0
  pendingPacket := []
  pendingPacketTerminator := .eop
  pendingPacketValid := false
  timeCodes := .empty (fun _ => ⟨0, 0⟩) (by decide)
  pendingTxPacket := []
  pendingTxTerminator := .eop
  pendingTxTimeCode := ⟨0, 0⟩
  pendingTxKind := .none
  pendingTxMessageId := 0
  pendingTxRetries := 0
  pendingTxFailed := false
  pendingTxLastSendUs := 0
  pendingTxTransmissions := 0
  recentMessages := .empty (fun _ => ⟨0, 0⟩) (by decide)
  retiredSessions := .empty (fun _ => 0) (by decide)
  localSessionId := 0
  remoteSessionId := 0
  peerSeen := false
  lastPeerRxUs := 0
  lastKeepaliveTxUs := 0
  history := {}

/-- `udp_construct`, with whether there is a socket and whether it can be bound. -/
def udpConstruct (config : UdpConfig) (object : UInt64) (socketOk bindOk : Bool) :
    Result × UdpBackend :=
  let b := UdpBackend.zeroed config object
  if !config.valid || config.localAddress.isNone || config.remoteAddress.isNone then
    (.invalidArgument, b)
  else if !socketOk || !bindOk then (.backend, b)
  else (.ok, { b with socketOpen := true, state := .ready })

/-- A new session begins. -/
def UdpBackend.beginSession (sessionId : UInt64) : UdpBackend :=
  { b with
    faultInjector := b.faultInjector.reset
    nextSequence := 1
    nextMessageId := 1
    localSessionId := sessionId
    lastPeerRxUs := 0
    lastKeepaliveTxUs := 0
    state := .connecting
    history := { b.history with sessions := b.history.sessions ++ [sessionId] } }

/-- The state `udp_start` leaves, but for its keepalive. -/
def UdpBackend.restart (sessionId : UInt64) : UdpBackend :=
  b.clearLink.beginSession sessionId

/-- `udp_start`. The clock is read before anything is cleared, which nobody can
tell from the order of the source. -/
def udpStart : Udp Result := do
  let b ← get
  if !b.socketOpen then return .invalidState
  else
    let (now, pid) ← udpAsk .clockAndPid
    modify fun b => b.restart (makeSessionId b now pid)
    let result ← sendKeepalive fuel timeoutImmediate
    return if result = .timeout then .ok else result

/-- The state `udp_stop` enters once everything is cleared. -/
def UdpBackend.enterReady : UdpBackend := { b with state := .ready }

/-- `udp_stop`. -/
def udpStop : Udp Result := do
  let b ← get
  if !b.socketOpen then return .invalidState
  else
    modify fun b => b.clearLink.enterReady
    return .ok

/-- The state `udp_reset` enters once everything is cleared. -/
def UdpBackend.enterErrorReset : UdpBackend :=
  { b with faultInjector := b.faultInjector.reset, state := .errorReset }

/-- `udp_reset`. -/
def udpReset : Udp Result := do
  let b ← get
  if !b.socketOpen then return .invalidState
  else
    modify fun b => b.clearLink.enterErrorReset
    return .ok

/-- `udp_get_link_state`. -/
def udpGetLinkState : Udp (Result × LinkState) := do
  let b ← get
  if b.state.talks then
    maybeSendKeepalive fuel
    let _ ← pumpOne fuel timeoutImmediate
    let _ ← servicePendingTx fuel
    refreshPeerState
    let b ← get
    return (.ok, b.state)
  else return (.ok, b.state)

/-! ## Sending and receiving -/

/-- The next event is taken for sending. -/
def UdpBackend.offer (event : Event) : UdpBackend :=
  let taken := takeNonzero b.nextMessageId
  { b with
    nextMessageId := taken.2
    pendingTxMessageId := taken.1
    pendingTxRetries := 0
    pendingTxLastSendUs := 0
    pendingTxTransmissions := 0
    history := { b.history with
      offers := b.history.offers ++ [⟨b.localSessionId, taken.1, event⟩] } }

/-- A packet becomes the pending event. -/
def UdpBackend.offerPacket (packet : Packet) : UdpBackend :=
  { b.offer (.data packet) with
    pendingTxPacket := packet.bytes
    pendingTxTerminator := packet.terminator
    pendingTxKind := .data }

/-- A time code becomes the pending event. -/
def UdpBackend.offerTimeCode (code : TimeCode) : UdpBackend :=
  { b.offer (.timeCode code) with
    pendingTxTimeCode := code
    pendingTxKind := .timeCode }

/-- The terminator a packet goes out with: a rule may turn a good end into an
error end. -/
def UdpBackend.effectiveTerminator (terminator : Terminator) : Terminator × UdpBackend :=
  if terminator = .eop then
    match b.faultInjector.injectSpacewireEep with
    | (true, injector) => (.eep, { b with
        faultInjector := injector
        faultStatistics := { b.faultStatistics with
          spacewireEepInjections := b.faultStatistics.spacewireEepInjections + 1 } })
    | (false, injector) => (.eop, { b with faultInjector := injector })
  else (terminator, b)

/-- The pending event went out and its call succeeds. -/
def UdpBackend.noteSent : UdpBackend :=
  { b with history := { b.history with sent := b.history.sent ++ b.pendingOffer.toList } }

/-- The counters of a packet that was sent. -/
def UdpBackend.countSentPacket (length : Nat) : UdpBackend :=
  { b with statistics := { b.statistics with
      txPackets := b.statistics.txPackets + 1
      txBytes := b.statistics.txBytes + UInt64.ofNat length
      eepPackets := if b.pendingTxTerminator = .eep then b.statistics.eepPackets + 1
        else b.statistics.eepPackets } }

/-- The waits both sends begin with: the peer, the slot for the pending event
and the time the event takes on the virtual link. -/
def waitToSend (event : VirtualLinkEvent) (size : Nat) : Udp Result := do
  let result ← ensurePeer fuel (← deadlineRemaining deadline)
  if result ≠ .ok then return result
  else
    let result ← waitForTxSlot fuel (← deadlineRemaining deadline)
    if result ≠ .ok then return result
    else
      let b ← get
      waitVirtualLinkDelay fuel (b.virtualTiming.delayUs event size)
        (← deadlineRemaining deadline)

/-- What both sends end with: the first transmission of the pending event. -/
def sendOffered (count : UdpBackend → UdpBackend) : Udp Result := do
  let _ ← sendKeepalive fuel timeoutImmediate
  let result ← transmitPending fuel (← deadlineRemaining deadline)
  if result ≠ .ok then
    modify UdpBackend.clearPendingTx
    return result
  else
    modify fun b => count b.noteSent
    return .ok

/-- `udp_send`. -/
def udpSend (packet : SendPacket) (timeoutUs : Timeout) : Udp Result := do
  match Terminator.ofByte packet.terminator with
  | none => return .invalidPacket
  | some terminator =>
    if (packet.length ≠ 0 ∧ packet.data.isNone) ∨ packet.length > udpMaxPacketSize then
      return .invalidPacket
    else
      let deadline ← deadlineMake timeoutUs
      let result ← waitToSend fuel deadline .data packet.length
      if result ≠ .ok then return result
      else
        modify fun b => (b.effectiveTerminator terminator).2.offerPacket
          ⟨packet.bytes, (b.effectiveTerminator terminator).1⟩
        sendOffered fuel deadline (fun b => b.countSentPacket packet.length)

/-- `udp_send_time_code`. -/
def udpSendTimeCode (code : TimeCode) (timeoutUs : Timeout) : Udp Result := do
  if !code.valid then return .invalidArgument
  else
    let deadline ← deadlineMake timeoutUs
    let result ← waitToSend fuel deadline .timeCode timeCodePayloadSize
    if result ≠ .ok then return result
    else
      modify fun b => b.offerTimeCode code
      sendOffered fuel deadline (fun b => { b with statistics := { b.statistics with
        txTimeCodes := b.statistics.txTimeCodes + 1 } })

/-- The loop both receives wait in until something is there. -/
def arrivalLoop (arrived : UdpBackend → Bool) (deadline : UdpDeadline) (timeoutUs : Timeout) :
    Nat → Udp Result
  | 0 => Process.hang
  | n + 1 => do
    let b ← get
    if arrived b then return .ok
    else
      let serviced ← servicePendingTx fuel
      if serviced = .linkUnavailable then return serviced
      else
        let pumped ← pumpOne fuel (← deadlineRemaining deadline)
        if !pumped.passing then return pumped
        else
          let b ← get
          if arrived b then return .ok
          else if (← deadlineExpired deadline) || timeoutUs = timeoutImmediate then
            refreshPeerState
            let b ← get
            return if b.state = .errorWait then .linkUnavailable else .timeout
          else arrivalLoop arrived deadline timeoutUs n

/-- What both receives begin with. -/
def waitToReceive (arrived : UdpBackend → Bool) (timeoutUs : Timeout) : Udp Result := do
  let deadline ← deadlineMake timeoutUs
  let peer ← ensurePeer fuel (← deadlineRemaining deadline)
  let b ← get
  if peer ≠ .ok ∧ arrived b = false then return peer
  else arrivalLoop fuel arrived deadline timeoutUs fuel

/-- What a receive gives back: a packet, the size and terminator of one that
does not fit, or why there is none. -/
inductive ReceiveReturn
  | packet (packet : Packet)
  | tooSmall (length : Nat) (terminator : Terminator)
  | failed (result : Result)
deriving DecidableEq, Repr

/-- The packet leaves the slot. -/
def UdpBackend.takePacket : UdpBackend :=
  { b with
    pendingPacketValid := false
    statistics := { b.statistics with
      rxPackets := b.statistics.rxPackets + 1
      rxBytes := b.statistics.rxBytes + UInt64.ofNat b.pendingPacket.length }
    history := { b.history with
      taken := b.history.taken ++ b.history.slot.toList
      slot := none } }

/-- `udp_receive`. -/
def udpReceive (buffer : ReceiveBuffer) (timeoutUs : Timeout) : Udp ReceiveReturn := do
  let result ← waitToReceive fuel (fun b => b.pendingPacketValid) timeoutUs
  if result ≠ .ok then return .failed result
  else
    let b ← get
    if buffer.capacity < b.pendingPacket.length
        ∨ (b.pendingPacket.length ≠ 0 ∧ buffer.hasData = false) then
      return .tooSmall b.pendingPacket.length b.pendingPacketTerminator
    else
      set b.takePacket
      return .packet ⟨b.pendingPacket, b.pendingPacketTerminator⟩

/-- The oldest time code leaves the queue. -/
def UdpBackend.takeTimeCode (rest : RingBuffer TimeCode udpTimeCodeQueueDepth) : UdpBackend :=
  { b with
    timeCodes := rest
    statistics := { b.statistics with rxTimeCodes := b.statistics.rxTimeCodes + 1 }
    history := { b.history with
      taken := b.history.taken ++ b.history.queue.head?.toList
      queue := b.history.queue.tail } }

/-- `udp_receive_time_code`. -/
def udpReceiveTimeCode : Udp (Except Result TimeCode) := do
  let result ← waitToReceive fuel (fun b => b.timeCodes.count != 0) timeoutUs
  if result ≠ .ok then return .error result
  else
    let b ← get
    match b.timeCodes.pop with
    -- the wait does not return while the queue is empty
    | none => Process.hang
    | some (code, rest) =>
      set (b.takeTimeCode rest)
      return .ok code

/-- `udp_get_statistics`. -/
def udpGetStatistics : Udp (Result × Statistics) := do
  let b ← get
  return (.ok, b.statistics)

/-- `udp_get_fault_statistics`. -/
def udpGetFaultStatistics : Udp (Result × FaultStatistics) := do
  let b ← get
  return (.ok, b.faultStatistics)

/-- `udp_clear_statistics`. -/
def udpClearStatistics : Udp Result := do
  modify fun b => { b with statistics := {} }
  return .ok

/-- `udp_clear_fault_statistics`. -/
def udpClearFaultStatistics : Udp Result := do
  modify fun b => { b with faultStatistics := {} }
  return .ok

end
