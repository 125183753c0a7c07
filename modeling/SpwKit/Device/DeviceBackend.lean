import SpwKit.Lib.Process
import SpwKit.Lib.RingBuffer
import SpwKit.Device.Fragments

/-!
# The device backend

The backend of a port that is served by `vspwd`. Every public call is one or more
requests over a local socket that keeps record boundaries; what the daemon has
for the port – packets, time codes, changes of the link – comes over the same
socket as events, in between the responses. So whoever waits for a response
takes events too: a packet is put together from its fragments in the one buffer
there is, a time code goes to a queue of eight.

The code stands here function by function. The clock, the socket and `poll` are
questions to the environment, as in the UDP backend, and a loop that nothing
bounds is cut by a fuel. Next to the state of the code stands its history, which
the code never reads: the records written and read on the present connection, and
what the application has received over it.
-/

open Vspd BigEndian Interactive

namespace Device

/-- `DEVICE_TIME_CODE_QUEUE_DEPTH`. -/
def timeCodeQueueDepth : Nat := 8

/-! ## The environment -/

/-- `send` of a record: all of it went out, a part, or nothing for one of three
reasons. -/
inductive SendAnswer
  | sent | short | interrupted | wouldBlock | error
deriving DecidableEq, Repr

/-- `recv` of a record: its bytes, the end of the connection, or nothing. -/
inductive ReceiveAnswer
  | record (bytes : Bytes)
  | ended | interrupted | wouldBlock | error
deriving DecidableEq, Repr

/-- `poll` on the socket: nothing in time, an error or a hangup, the event that was
asked for, another one, or a failure. -/
inductive PollAnswer
  | timedOut | hungUp | ready | other | interrupted | error
deriving DecidableEq, Repr

/-- `socket` and `connect`. -/
inductive ConnectAnswer
  | noSocket | refused | connected
deriving DecidableEq, Repr

/-- What the backend asks its environment. -/
inductive Request
  | clock
  | poll (output : Bool) (timeoutMs : Int)
  | send (frame : Bytes)
  | recv
  | connect
  | close
deriving DecidableEq, Repr

/-- The type of the answer to a request. -/
def Request.Answer : Request → Type
  | .clock => UInt64
  | .poll _ _ => PollAnswer
  | .send _ => SendAnswer
  | .recv => ReceiveAnswer
  | .connect => ConnectAnswer
  | .close => Unit

/-! ## State -/

/-- What has happened on the present connection, oldest first. -/
structure History where
  /-- The records written. -/
  sent : List Bytes := []
  /-- The records read. -/
  read : List Bytes := []
  /-- Those of them that were acted upon, or dropped. -/
  handled : List Bytes := []
  /-- The packets the application has received. -/
  packets : List Packet := []
  /-- The time codes the application has received. -/
  timeCodes : List TimeCode := []
deriving DecidableEq, Repr

/-- `device_context_t`. A descriptor is there or not; the data are the bytes below
the next offset. -/
structure Context where
  portId : UInt32
  connected : Bool
  nextRequestId : UInt32
  nextMessageId : UInt32
  desiredStarted : Bool
  state : LinkState
  capabilities : CapabilitiesPayload
  rxActive : Bool
  rxReady : Bool
  rxMessageId : UInt32
  rxTotalSize : UInt32
  rxNextOffset : UInt32
  rxTerminator : Terminator
  rxData : Bytes
  timeCodes : RingQueue TimeCode timeCodeQueueDepth
  history : History

/-- The code of the backend. -/
abbrev Program (α : Type) := Process Request Request.Answer Context α

/-- Ask the environment. -/
def ask (q : Request) : Program q.Answer := Process.request q

variable (c : Context)

/-- Add to the history. -/
def Context.note (f : History → History) : Context :=
  { c with history := f c.history }

/-- A record has been written. -/
def Context.noteSent (frame : Bytes) : Context :=
  c.note fun h => { h with sent := h.sent ++ [frame] }

/-- A record has been read. -/
def Context.noteRead (frame : Bytes) : Context :=
  c.note fun h => { h with read := h.read ++ [frame] }

/-- The records that were read are done with. -/
def Context.noteHandled : Context := c.note fun h => { h with handled := h.read }

/-- `clear_rx`. -/
def Context.clearRx : Context :=
  { c with
    rxActive := false
    rxReady := false
    rxMessageId := 0
    rxTotalSize := 0
    rxNextOffset := 0
    rxTerminator := .eop }

/-- The packet and the time codes that have arrived are dropped. -/
def Context.clearArrived : Context :=
  { c.clearRx with timeCodes := c.timeCodes.clear }

/-- The packet in the buffer. -/
def Context.rxPacket : Packet :=
  ⟨c.rxData.take c.rxTotalSize.toNat, c.rxTerminator⟩

/-! ## Time -/

/-- `monotonic_us`. -/
def monotonicUs : Program UInt64 := ask .clock

/-- The deadline that never comes. -/
def noDeadline : UInt64 := 0xffffffffffffffff

/-- `deadline_for`. -/
def deadlineFor (timeoutUs : Timeout) : Program UInt64 := do
  if timeoutUs = timeoutInfinite then
    return noDeadline
  else
    let now ← monotonicUs
    return if noDeadline - now < timeoutUs then noDeadline - 1 else now + timeoutUs

/-- `poll_timeout_ms`. -/
def pollTimeoutMs (deadline : UInt64) : Program Int := do
  if deadline = noDeadline then
    return -1
  else
    let now ← monotonicUs
    if now ≥ deadline then
      return 0
    else
      let remaining := deadline - now
      return if remaining > 2147483647 * 1000 then 2147483647
        else ((remaining + 999) / 1000).toNat

/-- `status_to_result`. -/
def statusToResult (status : Int32) : Result :=
  if status = Status.ok.toWire then .ok
  else if status = Status.invalidArgument.toWire then .invalidArgument
  else if status = Status.invalidState.toWire then .invalidState
  else if status = Status.timeout.toWire then .timeout
  else if status = Status.unsupported.toWire then .unsupported
  else if status = Status.resourceExhausted.toWire then .resourceExhausted
  else if status = Status.linkUnavailable.toWire then .linkUnavailable
  else if status = Status.bufferTooSmall.toWire then .bufferTooSmall
  else if status = Status.invalidPacket.toWire then .invalidPacket
  else .backend

/-! ## The socket -/

/-- The connection is gone. -/
def Context.disconnected : Context :=
  { c.clearArrived with connected := false, state := .errorWait }

/-- `mark_disconnected`. -/
def markDisconnected : Program Unit := do
  if (← get).connected then
    ask .close
  modify Context.disconnected

section Calls

variable (fuel : Nat)

/-- The loop of `wait_fd`. -/
def waitFdLoop (output : Bool) (deadline : UInt64) : Nat → Program Result
  | 0 => Process.hang
  | n + 1 => do
    let timeout ← pollTimeoutMs deadline
    match ← ask (.poll output timeout) with
    | .hungUp =>
      markDisconnected
      return .linkUnavailable
    | .ready => return .ok
    | .other => waitFdLoop output deadline n
    | .timedOut => return .timeout
    | .interrupted => waitFdLoop output deadline n
    | .error =>
      markDisconnected
      return .linkUnavailable

/-- `wait_fd`. -/
def waitFd (output : Bool) (deadline : UInt64) : Program Result := waitFdLoop output deadline fuel

/-- Whether an interrupted call is out of time. -/
def interruptedTooLate (deadline : UInt64) : Program Bool := do
  if deadline = noDeadline then
    return false
  else
    return decide ((← pollTimeoutMs deadline) = 0)

/-- The loop of `send_record`. -/
def sendRecordLoop (frame : Bytes) (deadline : UInt64) : Nat → Program Result
  | 0 => Process.hang
  | n + 1 => do
    match ← ask (.send frame) with
    | .sent =>
      modify fun c => c.noteSent frame
      return .ok
    | .short =>
      markDisconnected
      return .backend
    | .interrupted =>
      if ← interruptedTooLate deadline then return .timeout
      else sendRecordLoop frame deadline n
    | .wouldBlock =>
      match ← waitFd fuel true deadline with
      | .ok => sendRecordLoop frame deadline n
      | result => return result
    | .error =>
      markDisconnected
      return .linkUnavailable

/-- `send_record`. -/
def sendRecord (frame : Bytes) (deadline : UInt64) : Program Result :=
  sendRecordLoop fuel frame deadline fuel

/-- The size of the buffer a record is read into. -/
def frameCapacity : Nat := headerSize + maxFramePayload

/-- The loop of `receive_record`. A record without bytes looks like the end of the
connection, and one that is too long is cut. -/
def receiveRecordLoop (deadline : UInt64) : Nat → Program (Except Result Bytes)
  | 0 => Process.hang
  | n + 1 => do
    match ← ask .recv with
    | .record [] =>
      markDisconnected
      return .error .linkUnavailable
    | .record bytes =>
      modify fun c => c.noteRead bytes
      return .ok (bytes.take frameCapacity)
    | .ended =>
      markDisconnected
      return .error .linkUnavailable
    | .interrupted =>
      if ← interruptedTooLate deadline then return .error .timeout
      else receiveRecordLoop deadline n
    | .wouldBlock =>
      match ← waitFd fuel false deadline with
      | .ok => receiveRecordLoop deadline n
      | result => return .error result
    | .error =>
      markDisconnected
      return .error .linkUnavailable

/-- `receive_record`. -/
def receiveRecord (deadline : UInt64) : Program (Except Result Bytes) :=
  receiveRecordLoop fuel deadline fuel

/-! ## Events -/

/-- `queue_time_code`. -/
def queueTimeCode (payload : Bytes) : Option Context :=
  if h : c.timeCodes.count < timeCodeQueueDepth then
    some { c with timeCodes := c.timeCodes.push ⟨byteAt payload 0, byteAt payload 1⟩ h }
  else none

/-- The first part of the DATA_RX case of `process_event`: the fragment starts a
packet, or continues the one that has been started. -/
def admitFragment (header : Header) : Option Context :=
  if header.has flagFragmentStart then
    if c.rxActive || header.fragmentOffset != 0
        || decide (header.totalSize.toNat > maxLogicalPacket) then none
    else some { c with
      rxActive := true
      rxMessageId := header.messageId
      rxTotalSize := header.totalSize
      rxNextOffset := 0 }
  else if !c.rxActive || c.rxMessageId != header.messageId
      || c.rxTotalSize != header.totalSize then none
  else some c

/-- The second part: the bytes of the fragment go in, and the last one completes
the packet. -/
def storeFragment (header : Header) (payload : Bytes) : Result × Context :=
  if header.fragmentOffset != c.rxNextOffset
      || decide (header.payloadSize > c.rxTotalSize - c.rxNextOffset) then (.backend, c.clearRx)
  else
    let c := { c with
      rxData := c.rxData.take c.rxNextOffset.toNat ++ payload
      rxNextOffset := c.rxNextOffset + header.payloadSize }
    if !header.has flagFragmentEnd then (.ok, c)
    else if c.rxNextOffset != c.rxTotalSize then (.backend, c.clearRx)
    else (.ok, { c with rxTerminator := header.terminator, rxActive := false, rxReady := true })

/-- `process_event`. The state a LINK_STATE_EVENT carries is one of the states,
since the record has passed the codec. -/
def processEvent (header : Header) (payload : Bytes) : Result × Context :=
  if header.type = MessageType.linkStateEvent.toByte then
    (.ok, { c with state := (LinkState.ofWire (decodeU32Payload payload)).getD c.state })
  else if header.type = MessageType.timeCodeRx.toByte then
    match queueTimeCode c payload with
    | some c => (.ok, c)
    | none => (.resourceExhausted, c)
  else if header.type = MessageType.dataRx.toByte then
    if c.rxReady then (.resourceExhausted, c)
    else
      match admitFragment c header with
      | none => (.backend, c)
      | some c => storeFragment c header payload
  else (.backend, c)

/-- An event has been read. -/
def takeEvent (header : Header) (payload : Bytes) : Program Result := do
  let c ← get
  set (processEvent c header payload).2.noteHandled
  return (processEvent c header payload).1

/-! ## Requests -/

/-- The loop of `wait_response`: the status and the payload of the response, which
must fit the capacity. -/
def waitResponseLoop (type : UInt8) (requestId : UInt32) (capacity : Nat) (deadline : UInt64) :
    Nat → Program (Except Result (Int32 × Bytes))
  | 0 => Process.hang
  | n + 1 => do
    match ← receiveRecord fuel deadline with
    | .error result => return .error result
    | .ok frame =>
      match validateFrame frame with
      | .error _ =>
        markDisconnected
        return .error .backend
      | .ok header =>
        if header.has flagResponse then
          if header.type ≠ type ∨ header.requestId ≠ requestId then
            markDisconnected
            return .error .backend
          else
            modify Context.noteHandled
            if header.payloadSize.toNat > capacity then return .error .backend
            else return .ok (header.status, payloadOf frame)
        else
          match ← takeEvent header (payloadOf frame) with
          | .ok => waitResponseLoop type requestId capacity deadline n
          | result => return .error result

/-- `wait_response`. -/
def waitResponse (type : UInt8) (requestId : UInt32) (capacity : Nat) (deadline : UInt64) :
    Program (Except Result (Int32 × Bytes)) :=
  waitResponseLoop fuel type requestId capacity deadline fuel

/-- What a response that was waited for comes to. -/
def responseResult (response : Except Result (Int32 × Bytes)) :
    Except Result Bytes := do
  let (status, payload) ← response
  match statusToResult status with
  | .ok => .ok payload
  | result => .error result

/-- The next request number is taken. -/
def takeRequestId : Program UInt32 := do
  let c ← get
  set { c with nextRequestId := c.nextRequestId + 1 }
  return c.nextRequestId

/-- The next message number is taken. -/
def takeMessageId : Program UInt32 := do
  let c ← get
  set { c with nextMessageId := c.nextMessageId + 1 }
  return c.nextMessageId

/-- The header of a request. -/
def requestHeader (portId : UInt32) (type : MessageType) (payload : Bytes)
    (requestId : UInt32) : Header :=
  { Header.ofType type.toByte with
    payloadSize := UInt32.ofNat payload.length
    requestId := requestId
    portId := portId }

/-- `send_request`: the payload of the response, if its status is OK. -/
def sendRequest (type : MessageType) (payload : Bytes) (capacity : Nat) (deadline : UInt64) :
    Program (Except Result Bytes) := do
  let requestId ← takeRequestId
  if payload.length > statisticsPayloadSize then
    return .error .invalidArgument
  else
    match encodeHeader (requestHeader (← get).portId type payload requestId) with
    | .error _ => return .error .backend
    | .ok bytes =>
      match ← sendRecord fuel (bytes ++ payload) deadline with
      | .ok => return responseResult (← waitResponse fuel type.toByte requestId capacity deadline)
      | result => return .error result

/-- The result of a request whose payload is not looked at. -/
def resultOf : Except Result Bytes → Result
  | .ok _ => .ok
  | .error result => result

/-! ## Connecting -/

/-- The payload of HELLO. -/
def helloPayload : Bytes := [versionMajor, versionMinor, 0, 0]

/-- A step of the handshake has failed: the connection is given up. -/
def giveUp (result : Result) : Program Result := do
  markDisconnected
  return result

/-- The end of `connect_session`: a port that was started is started again. -/
def restart (deadline : UInt64) : Program Result := do
  if (← get).desiredStarted then
    match ← sendRequest fuel .start [] 0 deadline with
    | .error result => giveUp result
    | .ok _ => return .ok
  else
    return .ok

/-- `connect_session` once the port is attached. -/
def readCapabilities (deadline : UInt64) : Program Result := do
  match ← sendRequest fuel .getCapabilities [] capabilitiesPayloadSize deadline with
  | .error result => giveUp result
  | .ok response =>
    if response.length ≠ capabilitiesPayloadSize then giveUp .backend
    else
      modify fun c => { c with capabilities := decodeCapabilities response }
      restart fuel deadline

/-- `connect_session` once the socket is connected. -/
def handshake (deadline : UInt64) : Program Result := do
  match ← sendRequest fuel .hello helloPayload capabilitiesPayloadSize deadline with
  | .error result => giveUp result
  | .ok response =>
    if response ≠ helloPayload then giveUp .unsupported
    else
      match ← sendRequest fuel .attach [] 0 deadline with
      | .error result => giveUp result
      | .ok _ =>
        modify fun c => { c.clearArrived with state := .errorReset }
        readCapabilities fuel deadline

/-- `connect_session`. -/
def connectSession (deadline : UInt64) : Program Result := do
  match ← ask .connect with
  | .noSocket => return .linkUnavailable
  | .refused =>
    modify fun c => { c with connected := true }
    giveUp .linkUnavailable
  | .connected =>
    modify fun c => { c with connected := true, history := {} }
    handshake fuel deadline

/-- `ensure_connected`. -/
def ensureConnected (deadline : UInt64) : Program Result := do
  if (← get).connected then return .ok
  else connectSession fuel deadline

/-- Go on once the port is connected, or say why it is not. -/
def whenConnected {α : Type} (deadline : UInt64) (failed : Result → α) (body : Program α) :
    Program α := do
  match ← ensureConnected fuel deadline with
  | .ok => body
  | result => return failed result

/-! ## The calls

A call takes its deadline, connects if it must, and goes on with its body. -/

/-- The body of `request_simple`. -/
def requestResult (type : MessageType) (payload : Bytes) (deadline : UInt64) :
    Program Result := do
  return resultOf (← sendRequest fuel type payload 0 deadline)

/-- `request_simple`. -/
def requestSimple (type : MessageType) (timeoutUs : Timeout) : Program Result := do
  let deadline ← deadlineFor timeoutUs
  whenConnected fuel deadline id (requestResult fuel type [] deadline)

/-- `device_construct`. -/
def deviceConstruct : Program Result := do
  let deadline ← deadlineFor 1000000
  connectSession fuel deadline

/-- `device_destroy`. -/
def deviceDestroy : Program Unit := do
  if (← get).connected then
    let deadline ← deadlineFor 100000
    let _ ← sendRequest fuel .detach [] 0 deadline
    if (← get).connected then
      ask .close
  modify fun c => { c with connected := false }

/-- `device_start`. -/
def deviceStart : Program Result := do
  modify fun c => { c with desiredStarted := true }
  requestSimple fuel .start timeoutInfinite

/-- `device_stop`. -/
def deviceStop : Program Result := do
  modify fun c => { c with desiredStarted := false }
  requestSimple fuel .stop timeoutInfinite

/-- `device_reset`. -/
def deviceReset : Program Result := do
  modify fun c => { c with desiredStarted := false }
  let result ← requestSimple fuel .reset timeoutInfinite
  if result = .ok then
    modify Context.clearArrived
  return result

/-- The body of `device_get_link_state`. -/
def readLinkState (deadline : UInt64) : Program Result := do
  match ← sendRequest fuel .getLinkState [] linkStatePayloadSize deadline with
  | .error result => return result
  | .ok payload =>
    if payload.length = linkStatePayloadSize then
      modify fun c => { c with state := (LinkState.ofWire (decodeU32Payload payload)).getD c.state }
    return .ok

/-- `device_get_link_state`. -/
def deviceGetLinkState : Program (Result × LinkState) := do
  let deadline ← deadlineFor 250000
  let result ← whenConnected fuel deadline id (readLinkState fuel deadline)
  return (result, (← get).state)

/-- The end of `device_send`: the packet is complete, and its response follows. -/
def awaitSent (requestId : UInt32) (deadline : UInt64) : Program Result := do
  return resultOf (responseResult
    (← waitResponse fuel MessageType.dataTx.toByte requestId 0 deadline))

/-- The loop of `device_send` from an offset on. -/
def sendFragments (cut : Fragmentation) (deadline : UInt64) : Nat → UInt32 → Program Result
  | 0, _ => Process.hang
  | n + 1, offset => do
    match cut.frame offset with
    | .error _ => return .backend
    | .ok frame =>
      match ← sendRecord fuel frame deadline with
      | .ok =>
        if isFinal cut.length offset then awaitSent fuel cut.requestId deadline
        else sendFragments cut deadline n (offset + chunkAt cut.length offset)
      | result => return result

/-- The packet of a call as it is cut. -/
def cutOf (portId requestId messageId : UInt32) (packet : Packet) : Fragmentation :=
  ⟨.dataTx, requestId, portId, messageId, packet.bytes, packet.terminator⟩

/-- The body of `device_send`. -/
def sendPacket (packet : Packet) (deadline : UInt64) : Program Result := do
  let requestId ← takeRequestId
  let messageId ← takeMessageId
  sendFragments fuel (cutOf (← get).portId requestId messageId packet) deadline fuel 0

/-- `device_send`. -/
def deviceSend (packet : Packet) (timeoutUs : Timeout) : Program Result := do
  let deadline ← deadlineFor timeoutUs
  whenConnected fuel deadline id (sendPacket fuel packet deadline)

/-- An event is read by a call that waits for no response. -/
def serviceRecord (deadline : UInt64) (refused : Program Unit) : Program Result := do
  match ← receiveRecord fuel deadline with
  | .error result => return result
  | .ok frame =>
    match validateFrame frame with
    | .error _ =>
      refused
      return .backend
    | .ok header =>
      if header.has flagResponse then
        refused
        return .backend
      else takeEvent header (payloadOf frame)

/-- Events are read until there is what the call waits for. -/
def serviceLoop (ready : Context → Bool) (refused : Program Unit) (deadline : UInt64) :
    Nat → Program Result
  | 0 => Process.hang
  | n + 1 => do
    if ready (← get) then return .ok
    else
      match ← serviceRecord fuel deadline refused with
      | .ok => serviceLoop ready refused deadline n
      | result => return result

/-- A record that is no event is dropped. -/
def dropRecord : Program Unit := modify Context.noteHandled

/-- `service_until_packet`. -/
def serviceUntilPacket (deadline : UInt64) : Program Result :=
  serviceLoop fuel Context.rxReady dropRecord deadline fuel

/-- What `device_receive` says of a packet: its length and terminator, and its bytes
if there was room for them. -/
structure Received where
  length : Nat
  terminator : Terminator
  bytes : Option Bytes
deriving DecidableEq, Repr

/-- The packet in the buffer is handed out, if there is room for it. -/
def handOut (capacity : Nat) : Program (Result × Option Received) := do
  let c ← get
  if capacity < c.rxTotalSize.toNat then
    return (.bufferTooSmall, some ⟨c.rxTotalSize.toNat, c.rxTerminator, none⟩)
  else
    set (c.clearRx.note fun h => { h with packets := h.packets ++ [c.rxPacket] })
    return (.ok, some ⟨c.rxTotalSize.toNat, c.rxTerminator, some c.rxPacket.bytes⟩)

/-- The body of `device_receive`. -/
def receivePacket (capacity : Nat) (deadline : UInt64) :
    Program (Result × Option Received) := do
  match ← serviceUntilPacket fuel deadline with
  | .ok => handOut capacity
  | result => return (result, none)

/-- `device_receive`. -/
def deviceReceive (capacity : Nat) (timeoutUs : Timeout) :
    Program (Result × Option Received) := do
  let deadline ← deadlineFor timeoutUs
  whenConnected fuel deadline (·, none) (receivePacket fuel capacity deadline)

/-- `device_send_time_code`. -/
def deviceSendTimeCode (code : TimeCode) (timeoutUs : Timeout) : Program Result := do
  let deadline ← deadlineFor timeoutUs
  whenConnected fuel deadline id
    (requestResult fuel .timeCodeTx [code.timeCount, code.controlFlags] deadline)

/-- The first time code of the queue is handed out. -/
def handOutTimeCode : Program (Result × Option TimeCode) := do
  let c ← get
  if h : c.timeCodes.count ≠ 0 then
    let code := c.timeCodes.slots c.timeCodes.head
    set ({ c with timeCodes := c.timeCodes.dropFront h }.note
      fun h => { h with timeCodes := h.timeCodes ++ [code] })
    return (.ok, some code)
  else
    return (.backend, none)

/-- The body of `device_receive_time_code`. -/
def receiveTimeCode (deadline : UInt64) : Program (Result × Option TimeCode) := do
  match ← serviceLoop fuel (fun c => c.timeCodes.count != 0) dropRecord deadline fuel with
  | .ok => handOutTimeCode
  | result => return (result, none)

/-- `device_receive_time_code`. -/
def deviceReceiveTimeCode (timeoutUs : Timeout) : Program (Result × Option TimeCode) := do
  let deadline ← deadlineFor timeoutUs
  whenConnected fuel deadline (·, none) (receiveTimeCode fuel deadline)

/-- `device_ready_events`. -/
def deviceReadyEvents (interests : ReadyEvents) : ReadyEvents :=
  ⟨interests.rxPacket && c.rxReady, interests.rxTimeCode && c.timeCodes.count != 0⟩

/-- The loop of `device_wait`, which reads an event before it looks again. -/
def waitEvents (interests : ReadyEvents) (deadline : UInt64) : Program (Result × ReadyEvents) := do
  match ← serviceRecord fuel deadline markDisconnected with
  | .ok =>
    match ← serviceLoop fuel (fun c => (deviceReadyEvents c interests).any) markDisconnected
        deadline fuel with
    | .ok => return (.ok, deviceReadyEvents (← get) interests)
    | result => return (result, ⟨false, false⟩)
  | result => return (result, ⟨false, false⟩)

/-- `device_wait`. -/
def deviceWait (interests : ReadyEvents) (timeoutUs : Timeout) :
    Program (Result × ReadyEvents) := do
  let deadline ← deadlineFor timeoutUs
  let ready := deviceReadyEvents (← get) interests
  if ready.any then return (.ok, ready)
  else whenConnected fuel deadline (·, ⟨false, false⟩) (waitEvents fuel interests deadline)

/-- The body of `device_get_statistics`. -/
def readStatistics (deadline : UInt64) : Program (Result × Option Statistics) := do
  match ← sendRequest fuel .getStatistics [] statisticsPayloadSize deadline with
  | .error result => return (result, none)
  | .ok payload =>
    if payload.length ≠ statisticsPayloadSize then return (.backend, none)
    else return (.ok, some (decodeStatistics payload))

/-- `device_get_statistics`. -/
def deviceGetStatistics : Program (Result × Option Statistics) := do
  let deadline ← deadlineFor 250000
  whenConnected fuel deadline (·, none) (readStatistics fuel deadline)

/-- `device_clear_statistics`. -/
def deviceClearStatistics : Program Result := requestSimple fuel .clearStatistics 250000

/-- What an application calls once the port is open. -/
inductive Call
  | destroy | start | stop | reset | getLinkState
  | send (packet : Packet) (timeoutUs : Timeout)
  | receive (capacity : Nat) (timeoutUs : Timeout)
  | sendTimeCode (code : TimeCode) (timeoutUs : Timeout)
  | receiveTimeCode (timeoutUs : Timeout)
  | wait (interests : ReadyEvents) (timeoutUs : Timeout)
  | getStatistics | clearStatistics
deriving DecidableEq, Repr

/-- The code of a call, and its result. What else a call hands out is in the
history, where it is part of a property. -/
def Call.code : Call → Program Result
  | .destroy => do
    deviceDestroy fuel
    return .ok
  | .start => deviceStart fuel
  | .stop => deviceStop fuel
  | .reset => deviceReset fuel
  | .getLinkState => Prod.fst <$> deviceGetLinkState fuel
  | .send packet timeoutUs => deviceSend fuel packet timeoutUs
  | .receive capacity timeoutUs => Prod.fst <$> deviceReceive fuel capacity timeoutUs
  | .sendTimeCode code timeoutUs => deviceSendTimeCode fuel code timeoutUs
  | .receiveTimeCode timeoutUs => Prod.fst <$> deviceReceiveTimeCode fuel timeoutUs
  | .wait interests timeoutUs => Prod.fst <$> deviceWait fuel interests timeoutUs
  | .getStatistics => Prod.fst <$> deviceGetStatistics fuel
  | .clearStatistics => deviceClearStatistics fuel

end Calls

/-- The context before `device_construct` connects. -/
def Context.initial (portId : UInt32) : Context where
  portId := portId
  connected := false
  nextRequestId := 1
  nextMessageId := 1
  desiredStarted := false
  state := .errorReset
  capabilities := ⟨0, 0, 0, 0, 0⟩
  rxActive := false
  rxReady := false
  rxMessageId := 0
  rxTotalSize := 0
  rxNextOffset := 0
  rxTerminator := .eop
  rxData := []
  timeCodes := RingQueue.empty (fun _ => ⟨0, 0⟩) (by decide)
  history := {}

end Device
