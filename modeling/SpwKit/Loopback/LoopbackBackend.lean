import SpwKit.Core.Port
import SpwKit.Lib.RawRing

/-!
# The loopback backend: `loopback_backend.c`

A loopback port is its own peer: what it sends is queued and is what it receives.
No call waits, so each is a function of the state. The queues are rings as they
lie in memory (`RawRing`).
-/

open Interactive Core

namespace Loopback

/-- `SPW_LOOPBACK_MAX_PACKET_SIZE`. -/
def maxPacketSize : Nat := 4096

/-- `SPW_LOOPBACK_PACKET_QUEUE_DEPTH`. -/
def packetQueueDepth : Nat := 8

/-- `SPW_LOOPBACK_TIME_CODE_QUEUE_DEPTH`. -/
def timeCodeQueueDepth : Nat := 8

/-- `spw_loopback_backend_t`. -/
structure LoopbackBackend where
  state : LinkState
  packets : RawRing Packet
  timeCodes : RawRing TimeCode
  statistics : Statistics

/-- `loopback_construct`. -/
def loopbackConstruct : LoopbackBackend :=
  ⟨.errorReset, .zeroed ⟨[], .eop⟩, .zeroed ⟨0, 0⟩, {}⟩

variable (b : LoopbackBackend)

/-- `loopback_start`. -/
def loopbackStart : Result × LoopbackBackend :=
  (.ok, { b with state := .run })

/-- `loopback_stop`. -/
def loopbackStop : Result × LoopbackBackend :=
  (.ok, { b with state := .ready })

/-- `clear_queues`. -/
def LoopbackBackend.clearQueues : LoopbackBackend :=
  { b with packets := .zeroed ⟨[], .eop⟩, timeCodes := .zeroed ⟨0, 0⟩ }

/-- `loopback_reset`. -/
def loopbackReset : Result × LoopbackBackend :=
  (.ok, { b.clearQueues with state := .errorReset })

/-- `loopback_get_link_state`. -/
def loopbackGetLinkState : (Result × Option LinkState) × LoopbackBackend :=
  ((.ok, some b.state), b)

/-- A packet goes to the tail of the queue and is counted. -/
def LoopbackBackend.push (packet : Packet) : LoopbackBackend :=
  { b with
    packets := b.packets.push packetQueueDepth packet
    statistics := { b.statistics with
      txPackets := b.statistics.txPackets + 1
      txBytes := b.statistics.txBytes + UInt64.ofNat packet.bytes.length
      eepPackets := b.statistics.eepPackets + if packet.terminator = .eep then 1 else 0 } }

/-- `loopback_send`. -/
def loopbackSend (packet : PortPacket) (b : LoopbackBackend) : Result × LoopbackBackend :=
  if b.state ≠ .run then (.invalidState, b)
  else if packet.length > maxPacketSize then (.invalidPacket, b)
  else if b.packets.count = packetQueueDepth then (.resourceExhausted, b)
  else (.ok, b.push packet.packet)

/-- The packet at the head leaves the queue and is counted. -/
def LoopbackBackend.take : LoopbackBackend :=
  { b with
    packets := b.packets.drop packetQueueDepth
    statistics := { b.statistics with
      rxPackets := b.statistics.rxPackets + 1
      rxBytes := b.statistics.rxBytes + UInt64.ofNat b.packets.front.bytes.length } }

/-- `loopback_receive`. -/
def loopbackReceive (buffer : ReceiveBuffer) (b : LoopbackBackend) :
    (Result × Option PacketOut) × LoopbackBackend :=
  if b.state ≠ .run then ((.invalidState, none), b)
  else if b.packets.count = 0 then ((.timeout, none), b)
  else
    let slot := b.packets.front
    if slot.bytes.length > buffer.capacity then
      ((.bufferTooSmall, some ⟨slot.bytes.length, slot.terminator, none⟩), b)
    else if slot.bytes.length > 0 ∧ buffer.hasData = false then
      ((.invalidArgument, some ⟨slot.bytes.length, slot.terminator, none⟩), b)
    else ((.ok, some ⟨slot.bytes.length, slot.terminator, some slot.bytes⟩), b.take)

/-- A time code goes to the tail of the queue and is counted. -/
def LoopbackBackend.pushTimeCode (code : TimeCode) : LoopbackBackend :=
  { b with
    timeCodes := b.timeCodes.push timeCodeQueueDepth code
    statistics := { b.statistics with txTimeCodes := b.statistics.txTimeCodes + 1 } }

/-- `loopback_send_time_code`. -/
def loopbackSendTimeCode (code : TimeCode) (b : LoopbackBackend) : Result × LoopbackBackend :=
  if b.state ≠ .run then (.invalidState, b)
  else if validTimeCode code = false then (.invalidArgument, b)
  else if b.timeCodes.count = timeCodeQueueDepth then (.resourceExhausted, b)
  else (.ok, b.pushTimeCode code)

/-- The time code at the head leaves the queue and is counted. -/
def LoopbackBackend.takeTimeCode : LoopbackBackend :=
  { b with
    timeCodes := b.timeCodes.drop timeCodeQueueDepth
    statistics := { b.statistics with rxTimeCodes := b.statistics.rxTimeCodes + 1 } }

/-- `loopback_receive_time_code`. -/
def loopbackReceiveTimeCode : (Result × Option TimeCode) × LoopbackBackend :=
  if b.state ≠ .run then ((.invalidState, none), b)
  else if b.timeCodes.count = 0 then ((.timeout, none), b)
  else ((.ok, some b.timeCodes.front), b.takeTimeCode)

/-- `loopback_get_statistics`. -/
def loopbackGetStatistics : (Result × Option Statistics) × LoopbackBackend :=
  ((.ok, some b.statistics), b)

/-- `loopback_clear_statistics`. -/
def loopbackClearStatistics : Result × LoopbackBackend :=
  (.ok, { b with statistics := {} })

/-- `LOOPBACK_OPS`. Nothing is asked of an environment. -/
def loopbackOps (Req : Type) (Ans : Req → Type) : BackendOps Req Ans LoopbackBackend where
  start := modifyGet loopbackStart
  stop := modifyGet loopbackStop
  reset := modifyGet loopbackReset
  getLinkState := modifyGet loopbackGetLinkState
  send packet _ := modifyGet (loopbackSend packet)
  receive buffer _ := modifyGet (loopbackReceive buffer)
  sendTimeCode code _ := modifyGet (loopbackSendTimeCode code)
  receiveTimeCode _ := modifyGet loopbackReceiveTimeCode
  getStatistics := modifyGet loopbackGetStatistics
  clearStatistics := modifyGet loopbackClearStatistics

/-- **A call on a loopback port.** -/
def Call.code (call : Core.Call Empty) :
    Process Empty Empty.elim (Opened LoopbackBackend) (Reply Unit Empty) :=
  call.run (loopbackOps _ _) (noBuffers _ _ _)

end Loopback
