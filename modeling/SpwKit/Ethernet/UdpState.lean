import SpwKit.Types
import SpwKit.Lib.RingBuffer
import SpwKit.Ethernet.DeterministicFaults
import SpwKit.Ethernet.FragmentReassembler

/-!
# The state of a UDP backend

A UDP backend keeps one event it has sent and not seen acknowledged, one slot
for a packet that has arrived, a queue of time codes, the last messages it has
delivered and the last sessions of its peer that are over. This module has that
state, its configuration and the parts of the code that only touch it: what is
cleared on a restart, how a session or a message is remembered.

Next to the state of the code stands its history (`UdpHistory`), which the code
never reads: what was offered for sending, what was accepted from the peer and
what was acknowledged, each with the sessions it happened in. It is written at
the places where the code does these things, and it is what the properties of a
whole run speak about.
-/

open VspwTp

/-! ## Configuration -/

/-- `SPW_UDP_BACKEND_MAX_PACKET_SIZE`. -/
def udpMaxPacketSize : Nat := 1024 * 1024
/-- `SPW_UDP_TIME_CODE_QUEUE_DEPTH`. -/
def udpTimeCodeQueueDepth : Nat := 8
/-- `SPW_UDP_RECENT_MESSAGE_DEPTH`. -/
def udpRecentMessageDepth : Nat := 32
/-- `SPW_UDP_RETIRED_SESSION_DEPTH`. -/
def udpRetiredSessionDepth : Nat := 8
/-- `SPW_UDP_CONTROL_DATAGRAM_SIZE`. -/
def udpControlDatagramSize : Nat := 64
/-- `SPW_UDP_CONFIG_VERSION`. -/
def udpConfigVersion : UInt32 := 3

/-- `spw_udp_config_t`. An address is what `inet_pton` makes of its text, which
may be nothing; the size of the structure is only compared with the one the
library was built with. -/
structure UdpConfig where
  structSizeOk : Bool
  version : UInt32
  localAddress : Option UInt32
  localPort : UInt16
  remoteAddress : Option UInt32
  remotePort : UInt16
  linkId : UInt32
  fragmentPayloadSize : UInt16
  maxRetries : UInt16
  ackTimeoutMs : UInt32
  keepaliveIntervalMs : UInt32
  peerTimeoutMs : UInt32
  virtualLinkBps : UInt64
  virtualLatencyUs : UInt32
  faultSeed : UInt64
  faultRules : Nat → FaultRule
  reserved : UInt32

/-- A millisecond field of the configuration in microseconds. -/
def msToUs (ms : UInt32) : UInt64 := ms.toUInt64 * 1000

/-- `spw_udp_pending_tx_kind_t`. -/
inductive PendingTxKind
  | none | data | timeCode
deriving DecidableEq, Repr

/-- `spw_udp_delivered_key_t`. -/
structure DeliveredKey where
  type : UInt8
  messageId : UInt32
deriving DecidableEq, Repr

/-! ## History -/

/-- An event taken for sending: its session and message number. -/
structure Offer where
  session : UInt64
  messageId : UInt32
  event : Event
deriving DecidableEq, Repr

/-- An event accepted from the peer: the two sessions, the peer's message number
and how often the receiver had been started, stopped or reset by then. -/
structure Delivery where
  localSession : UInt64
  remoteSession : UInt64
  messageId : UInt32
  event : Event
  life : Nat
deriving DecidableEq, Repr

/-- The sender's side of a delivery. -/
def Delivery.offer (d : Delivery) : Offer := ⟨d.remoteSession, d.messageId, d.event⟩

/-- An acknowledgement that cleared the pending event: the event it cleared and
the peer's session it came from. -/
structure Acknowledged where
  offer : Offer
  remoteSession : UInt64
deriving DecidableEq, Repr

/-- **What has happened so far**, oldest first. -/
structure UdpHistory where
  /-- The local sessions, one for each start. -/
  sessions : List UInt64 := []
  /-- The datagrams that came from the peer's address. -/
  received : List Bytes := []
  /-- The events taken for sending. -/
  offers : List Offer := []
  /-- Those of them whose call returned success. -/
  sent : List Offer := []
  /-- The events accepted into the packet slot or the time-code queue. -/
  deliveries : List Delivery := []
  /-- Those of them an application has received. -/
  taken : List Delivery := []
  /-- The acknowledgements that cleared the pending event. -/
  acknowledged : List Acknowledged := []
  /-- How often the backend was started, stopped or reset. -/
  life : Nat := 0
  /-- The delivery the packet slot holds. -/
  slot : Option Delivery := none
  /-- The deliveries the time-code queue holds. -/
  queue : List Delivery := []

/-! ## The backend -/

/-- `spw_udp_backend_t`. The buffers a datagram is put together in before it is
sent are not state: nothing reads them afterwards. -/
structure UdpBackend where
  config : UdpConfig
  /-- The address of the structure, which goes into session numbers. -/
  object : UInt64
  virtualTiming : VirtualLinkTiming
  faultInjector : FaultInjector
  socketOpen : Bool
  state : LinkState
  statistics : Statistics
  faultStatistics : FaultStatistics
  nextSequence : UInt32
  nextMessageId : UInt32
  rxDatagram : Bytes
  reorderedDatagram : Bytes
  reorderedDatagramValid : Bool
  reassembly : FragmentReassembler
  reassemblyLastFragmentUs : UInt64
  pendingPacket : Bytes
  pendingPacketTerminator : Terminator
  pendingPacketValid : Bool
  timeCodes : RingBuffer TimeCode udpTimeCodeQueueDepth
  pendingTxPacket : Bytes
  pendingTxTerminator : Terminator
  pendingTxTimeCode : TimeCode
  pendingTxKind : PendingTxKind
  pendingTxMessageId : UInt32
  pendingTxRetries : UInt16
  pendingTxFailed : Bool
  pendingTxLastSendUs : UInt64
  /-- No field of the source: how often `transmit_pending` has sent the whole pending event
  since the event was offered or the peer began a new session. -/
  pendingTxTransmissions : Nat
  recentMessages : RingBuffer DeliveredKey udpRecentMessageDepth
  retiredSessions : RingBuffer UInt64 udpRetiredSessionDepth
  localSessionId : UInt64
  remoteSessionId : UInt64
  peerSeen : Bool
  lastPeerRxUs : UInt64
  lastKeepaliveTxUs : UInt64
  history : UdpHistory

/-- `terminator_flag`. -/
def terminatorFlag : Terminator → UInt8
  | .eop => flagEop
  | .eep => flagEep

/-- The terminator the flags of a packet stand for. -/
def terminatorOfFlags (flags : UInt8) : Terminator :=
  if hasFlag flags flagEep then .eep else .eop

/-- `take_nonzero`: the number taken and the counter afterwards. -/
def takeNonzero (counter : UInt32) : UInt32 × UInt32 :=
  if counter == 0 then (counter + 1, counter + 1 + 1) else (counter, counter + 1)

namespace UdpBackend

variable (b : UdpBackend)

/-- A datagram, packet or link event is dropped. -/
def countDropped : UdpBackend :=
  { b with statistics := { b.statistics with
      droppedPackets := b.statistics.droppedPackets + 1 } }

/-- `clear_reassembly`. -/
def clearReassembly : UdpBackend :=
  { b with reassembly := b.reassembly.reset, reassemblyLastFragmentUs := 0 }

/-- `clear_pending_tx`. -/
def clearPendingTx : UdpBackend :=
  { b with
    pendingTxPacket := []
    pendingTxTerminator := .eop
    pendingTxTimeCode := ⟨0, 0⟩
    pendingTxKind := .none
    pendingTxMessageId := 0
    pendingTxRetries := 0
    pendingTxFailed := false
    pendingTxLastSendUs := 0
    pendingTxTransmissions := 0 }

/-- `clear_recent_messages`. -/
def clearRecentMessages : UdpBackend :=
  { b with recentMessages := b.recentMessages.clear }

/-- `clear_retired_sessions`. -/
def clearRetiredSessions : UdpBackend :=
  { b with retiredSessions := b.retiredSessions.clear }

/-- `clear_reordered_datagram`. -/
def clearReorderedDatagram : UdpBackend :=
  { b with reorderedDatagram := [], reorderedDatagramValid := false }

/-- `mark_peer_lost`. -/
def markPeerLost : UdpBackend :=
  let b := if b.state ≠ .errorWait then
      { b with statistics := { b.statistics with linkErrors := b.statistics.linkErrors + 1 } }
    else b
  { b.clearReassembly with state := .errorWait }

/-- `is_retired_session`. -/
def isRetiredSession (sessionId : UInt64) : Bool :=
  if sessionId == 0 then false else b.retiredSessions.toList.any (· == sessionId)

/-- `remember_retired_session`. -/
def rememberRetiredSession (sessionId : UInt64) : UdpBackend :=
  if sessionId == 0 || b.isRetiredSession sessionId then b
  else { b with retiredSessions := b.retiredSessions.remember sessionId }

/-- `recently_delivered`. -/
def recentlyDelivered (type : UInt8) (messageId : UInt32) : Bool :=
  if messageId == 0 then false
  else b.recentMessages.toList.any (fun k => k.type == type && k.messageId == messageId)

/-- `remember_delivered`. -/
def rememberDelivered (type : UInt8) (messageId : UInt32) : UdpBackend :=
  if messageId == 0 || b.recentlyDelivered type messageId then b
  else { b with recentMessages := b.recentMessages.remember ⟨type, messageId⟩ }

/-- The next sequence number is taken. -/
def takeSequence : UInt32 × UdpBackend :=
  ((takeNonzero b.nextSequence).1, { b with nextSequence := (takeNonzero b.nextSequence).2 })

/-- What has arrived is dropped, and the peer forgotten. -/
def clearArrived : UdpBackend :=
  { b with
    pendingPacketValid := false
    timeCodes := b.timeCodes.clear
    peerSeen := false
    remoteSessionId := 0
    history := { b.history with life := b.history.life + 1, slot := none, queue := [] } }

/-- What `udp_start`, `udp_stop` and `udp_reset` clear alike. -/
def clearLink : UdpBackend :=
  b.clearReassembly.clearPendingTx.clearRecentMessages.clearRetiredSessions.clearReorderedDatagram
    |>.clearArrived

/-! ### What clearing leaves -/

@[simp] theorem clearLink_config : b.clearLink.config = b.config := by
  simp only [clearLink, clearArrived, clearReorderedDatagram, clearRetiredSessions,
    clearRecentMessages, clearPendingTx, clearReassembly]

@[simp] theorem clearLink_faultInjector : b.clearLink.faultInjector = b.faultInjector := by
  simp only [clearLink, clearArrived, clearReorderedDatagram, clearRetiredSessions,
    clearRecentMessages, clearPendingTx, clearReassembly]

end UdpBackend
