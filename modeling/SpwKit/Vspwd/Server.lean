import SpwKit.Lib.RingBuffer
import SpwKit.Device.Fragments
import Mathlib.Logic.Function.Basic

/-!
# The virtual SpaceWire daemon

`vspwd` serves two virtual ports, the ends of one link, to up to four clients. A
client that has said hello may attach to a free port and then owns it, or stay
unattached and watch ports. What an owner sends is put together from its
fragments and queued at the other port; what is queued at a port is written to
its owner's socket record by record, when the socket takes it. One of the ports
may be bridged to a remote link instead of being owned.

The server is a state and functions on it, one for each function of the code. A
record written to a socket is an output; whether the socket takes it is a
parameter (`SendResult`), as are the answers of the remote link's port.
-/

open Vspd

namespace Vspwd

/-- `VSPWD_PORT_COUNT`. -/
abbrev portCount : Nat := 2
/-- `VSPWD_CLIENT_COUNT`. -/
abbrev clientCount : Nat := 4
/-- `VSPWD_PACKET_QUEUE_DEPTH`. -/
def packetQueueDepth : Nat := 2
/-- `VSPWD_TIME_CODE_QUEUE_DEPTH`. -/
def timeCodeQueueDepth : Nat := 8

/-- A port of the daemon. -/
abbrev PortId := Fin portCount
/-- A place for a client. -/
abbrev ClientIndex := Fin clientCount

instance clientCount_neZero : NeZero clientCount := ⟨by decide⟩

/-! ## State -/

/-- `vspwd_packet_slot_t`. The data are the bytes below the length. -/
structure PacketSlot where
  data : Bytes
  offset : UInt32
  messageId : UInt32
  terminator : Terminator
deriving DecidableEq, Repr

/-- The packet in a slot. -/
def PacketSlot.packet (slot : PacketSlot) : Packet := ⟨slot.data, slot.terminator⟩

/-- `vspwd_port_t`. -/
structure Port where
  clientIndex : Option ClientIndex
  started : Bool
  resetLatched : Bool
  everAttached : Bool
  bridged : Bool
  state : LinkState
  stateEventPending : Bool
  nextMessageId : UInt32
  packets : RingQueue PacketSlot packetQueueDepth
  timeCodes : RingQueue TimeCode timeCodeQueueDepth
  statistics : Statistics

/-- `vspwd_reassembly_t`. The data begin with the bytes below the next offset. -/
structure Reassembly where
  active : Bool
  requestId : UInt32
  messageId : UInt32
  totalSize : UInt32
  nextOffset : UInt32
  terminator : Terminator
  data : Bytes
deriving DecidableEq, Repr

/-- `vspwd_client_t`. A descriptor that is not there is none; the response are
its bytes below the response size. -/
structure Client where
  fd : Option Nat
  helloDone : Bool
  portId : Option PortId
  monitorMask : UInt32
  monitorPendingMask : UInt32
  responsePending : Bool
  response : Bytes
  reassembly : Reassembly
deriving DecidableEq, Repr

/-- `vspwd_udp_bridge_t` of a bridge that is enabled. -/
structure Bridge where
  portId : PortId
  state : LinkState
deriving DecidableEq, Repr

/-- `vspwd_server_t`. -/
structure Server where
  clients : ClientIndex → Client
  ports : PortId → Port
  bridge : Option Bridge

/-- A reassembly with nothing in it. -/
def Reassembly.initial : Reassembly := ⟨false, 0, 0, 0, 0, .eop, []⟩

/-- A client's place that is zeroed, with a descriptor or without. -/
def Client.zeroed (fd : Option Nat) : Client :=
  ⟨fd, false, none, 0, 0, false, [], Reassembly.initial⟩

/-- A port as `vspwd_init_server` leaves it. -/
def Port.initial : Port where
  clientIndex := none
  started := false
  resetLatched := false
  everAttached := false
  bridged := false
  state := .errorReset
  stateEventPending := false
  nextMessageId := 1
  packets := RingQueue.empty (fun _ => ⟨[], 0, 0, .eop⟩) (by decide)
  timeCodes := RingQueue.empty (fun _ => ⟨0, 0⟩) (by decide)
  statistics := {}

/-- `vspwd_init_server`. -/
def initServer : Server where
  clients := fun _ => Client.zeroed none
  ports := fun _ => Port.initial
  bridge := none

namespace Server

/-- Change one port. -/
def updatePort (s : Server) (p : PortId) (f : Port → Port) : Server :=
  { s with ports := Function.update s.ports p (f (s.ports p)) }

/-- Change one client. -/
def updateClient (s : Server) (i : ClientIndex) (f : Client → Client) : Server :=
  { s with clients := Function.update s.clients i (f (s.clients i)) }

end Server

/-! ## Helpers of the code -/

variable (port : Port)

/-- `vspwd_next_message_id`: the number taken and the port afterwards. -/
def nextMessageId : UInt32 × Port :=
  let result := if port.nextMessageId == 0 then port.nextMessageId + 1 else port.nextMessageId
  let next := result + 1
  (result, { port with nextMessageId := if next == 0 then 1 else next })

/-- `vspwd_peer_port`. -/
def peerPort (p : PortId) : PortId := if p = 0 then 1 else 0

/-- `vspwd_clear_reassembly`. -/
def Reassembly.clear (r : Reassembly) : Reassembly :=
  { r with
    active := false
    requestId := 0
    messageId := 0
    totalSize := 0
    nextOffset := 0
    terminator := .eop }

/-- `vspwd_clear_port_queues`. -/
def Port.clearQueues : Port :=
  { port with packets := port.packets.clear, timeCodes := port.timeCodes.clear }

variable (s : Server) (i : ClientIndex) (p : PortId) (request : Header) (send : Bytes → SendResult)

/-- The state of the bridge, which is as it was initialised where there is none. -/
def Server.bridgeState : LinkState := (s.bridge.map Bridge.state).getD .errorReset

/-- `vspwd_calculate_state`. -/
def calculateState : LinkState :=
  let port := s.ports p
  let peer := s.ports (peerPort p)
  if port.bridged then s.bridgeState
  else if port.clientIndex.isNone then .errorReset
  else if port.resetLatched then .errorReset
  else if !port.started then .ready
  else if peer.bridged then
    if peer.state = .run then .run
    else if peer.state = .errorWait then .errorWait
    else .connecting
  else if peer.clientIndex.isSome && peer.started && !peer.resetLatched then .run
  else if peer.clientIndex.isSome then .connecting
  else if peer.everAttached then .errorWait else .connecting

/-- The bit of a port in a mask. -/
def portBit : UInt32 := 1 <<< UInt32.ofNat p.val

variable (client : Client)

/-- A client watches a port: it is connected, has said hello, owns no port and
has subscribed. -/
def Client.watches (p : PortId) : Bool :=
  client.fd.isSome && client.helloDone && client.portId.isNone
    && (client.monitorMask &&& portBit p) != 0

/-- `vspwd_mark_port_changed`. -/
def markPortChanged : Server :=
  { s with clients := fun i =>
      if (s.clients i).watches p then
        { s.clients i with
          monitorPendingMask := (s.clients i).monitorPendingMask ||| portBit p }
      else s.clients i }

/-- A link error is counted where a state says there is one. -/
def Port.countLinkError (state : LinkState) : Port :=
  if state = .errorWait then
    { port with statistics := { port.statistics with
        linkErrors := port.statistics.linkErrors + 1 } }
  else port

/-- One turn of the loop of `vspwd_update_states`. -/
def updateState : Server :=
  let port := s.ports p
  if port.clientIndex.isNone && !port.bridged then
    s.updatePort p (fun port => { port with state := .errorReset, stateEventPending := false })
  else
    let next := calculateState s p
    if next ≠ port.state then
      markPortChanged (s.updatePort p (fun port =>
        { port.countLinkError next with state := next, stateEventPending := true })) p
    else s

/-- `vspwd_update_states`. -/
def updateStates : Server := updateState (updateState s 0) 1

/-! ## Responses -/

/-- The header `vspwd_queue_response` answers a request with. -/
def responseHeader (status : Status) (payloadSize : UInt32) : Header :=
  { Header.ofType request.type with
    flags := flagResponse
    payloadSize := if status = .ok then payloadSize else 0
    requestId := request.requestId
    portId := request.portId
    status := status.toWire }

/-- `vspwd_queue_response`, with the client afterwards if it returns true. -/
def queueResponse (request : Header) (status : Status) (payload : Bytes) : Option Client :=
  if client.responsePending || decide (payload.length > statisticsPayloadSize) then none
  else
    match encodeHeader (responseHeader request status (UInt32.ofNat payload.length)) with
    | .error _ => none
    | .ok bytes =>
      some { client with
        response := bytes ++ (if status = .ok then payload else [])
        responsePending := true }

/-- `vspwd_validate_attached_request`, with the port the client owns where the
status is OK. -/
def validateAttachedRequest (header : Header) : Except Status PortId :=
  match client.portId with
  | none => .error .invalidState
  | some p =>
    if !client.helloDone then .error .invalidState
    else if header.portId != UInt32.ofNat p.val then .error .invalidArgument
    else .ok p

/-- `vspwd_validate_management_request` of a request that is about no port. -/
def validateManagementRequest : Except Status Unit :=
  if !client.helloDone || client.portId.isSome then .error .invalidState else .ok ()

/-- `vspwd_validate_management_request` of a request about a port, with the port
where the status is OK. -/
def validateManagementPort (header : Header) : Except Status PortId := do
  validateManagementRequest client
  if h : header.portId.toNat < portCount then .ok ⟨header.portId.toNat, h⟩
  else .error .invalidArgument

/-- `vspwd_port_info_to_wire`. -/
def portInfoToWire : PortInfoPayload where
  flags := (if port.clientIndex.isSome then 0x01 else 0)
    ||| (if port.started then 0x02 else 0)
    ||| (if port.resetLatched then 0x04 else 0)
    ||| (if port.everAttached then 0x08 else 0)
    ||| (if port.bridged then 0x10 else 0)
  linkState := port.state.toWire
  packetQueueCount := UInt32.ofNat port.packets.count
  timeCodeQueueCount := UInt32.ofNat port.timeCodes.count

/-- `vspwd_port_snapshot_to_wire`. -/
def portSnapshotToWire : PortSnapshotPayload :=
  ⟨portInfoToWire port, port.statistics⟩

/-! ## Ownership of a port -/

/-- A port that has lost its owner. -/
def Port.release : Port :=
  { port.clearQueues with
    clientIndex := none
    started := false
    resetLatched := false
    state := .errorReset
    stateEventPending := false }

/-- The part of `vspwd_detach_client` about the port: it is released if the
client owns it. -/
def releasePort : Server :=
  match (s.clients i).portId with
  | none => s
  | some p =>
    if (s.ports p).clientIndex = some i then markPortChanged (s.updatePort p Port.release) p
    else s

/-- `vspwd_detach_client`. -/
def detachClient : Server :=
  updateStates ((releasePort s i).updateClient i (fun client =>
    { client with portId := none, reassembly := client.reassembly.clear }))

/-- `vspwd_close_client`. -/
def closeClient : Server :=
  (detachClient s i).updateClient i (fun _ => Client.zeroed none)

/-- A port that a client comes to own. -/
def Port.attach (i : ClientIndex) : Port :=
  { port.clearQueues with
    clientIndex := some i
    started := false
    resetLatched := false
    everAttached := true
    state := .errorReset
    stateEventPending := false
    nextMessageId := 1
    statistics := {} }

/-- What a granted ATTACH does. -/
def attachClient : Server :=
  updateStates ((s.updateClient i (fun client => { client with portId := some p })).updatePort p
    (fun port => port.attach i))

/-- What a granted START does. -/
def startPort : Server :=
  updateStates (s.updatePort p (fun port => { port with started := true, resetLatched := false }))

/-- What a granted STOP does. -/
def stopPort : Server :=
  updateStates (s.updatePort p (fun port => { port with started := false, resetLatched := false }))

/-- What a granted RESET does. -/
def resetPort : Server :=
  updateStates ((s.updatePort p (fun port =>
      { port.clearQueues with started := false, resetLatched := true })).updateClient i
    (fun client => { client with reassembly := client.reassembly.clear }))

/-- What clearing the statistics of a port does. -/
def clearPortStatistics : Server :=
  markPortChanged (s.updatePort p (fun port => { port with statistics := {} })) p

/-- What a granted SUBSCRIBE_PORT does. -/
def subscribePort : Server :=
  s.updateClient i (fun client =>
    { client with
      monitorMask := client.monitorMask ||| portBit p
      monitorPendingMask := client.monitorPendingMask ||| portBit p })

/-- What a granted UNSUBSCRIBE_PORT does. -/
def unsubscribePort : Server :=
  s.updateClient i (fun client =>
    { client with
      monitorMask := client.monitorMask &&& ~~~portBit p
      monitorPendingMask := client.monitorPendingMask &&& ~~~portBit p })

/-! ## Packets and time codes from an owner -/

/-- Queue a packet at a port, where there is room, under the next message
number. -/
def Port.pushPacket (packet : Packet) (h : port.packets.count < packetQueueDepth) : Port :=
  { (Vspwd.nextMessageId port).2 with
    packets := port.packets.push
      ⟨packet.bytes, 0, (Vspwd.nextMessageId port).1, packet.terminator⟩ h }

/-- A packet sent from a port is counted. -/
def Port.countTxPacket (packet : Packet) : Port :=
  { port with statistics := { port.statistics with
      txPackets := port.statistics.txPackets + 1
      txBytes := port.statistics.txBytes + UInt64.ofNat packet.bytes.length
      eepPackets := port.statistics.eepPackets + (if packet.terminator = .eep then 1 else 0) } }

/-- What a packet or time code that a queue has no room for counts as. -/
def Port.countDropped : Port :=
  { port with statistics := { port.statistics with
      droppedPackets := port.statistics.droppedPackets + 1 } }

/-- `vspwd_enqueue_packet`, with the server afterwards if it returns true. -/
def enqueuePacket (source : PortId) (packet : Packet) : Option Server :=
  let destination := peerPort source
  if (s.ports source).state ≠ .run ∨ (s.ports destination).state ≠ .run then none
  else if h : (s.ports destination).packets.count < packetQueueDepth then
    let s := s.updatePort destination (fun _ => (s.ports destination).pushPacket packet h)
    let s := s.updatePort source (fun port => port.countTxPacket packet)
    some (markPortChanged (markPortChanged s source) destination)
  else none

/-- The dropped packet of a port is counted and its watchers told. -/
def dropPacket (source : PortId) : Server :=
  markPortChanged (s.updatePort source Port.countDropped) source

/-- The first part of `vspwd_accept_data_fragment`: whether a fragment continues
the reassembly or starts one, and the reassembly it goes into. -/
def Reassembly.admits (r : Reassembly) (header : Header) : Option Reassembly :=
  let start := header.has flagFragmentStart
  if !r.active then
    if !start || header.fragmentOffset != 0 then none
    else some { r with
      active := true
      requestId := header.requestId
      messageId := header.messageId
      totalSize := header.totalSize
      nextOffset := 0 }
  else if start || r.requestId != header.requestId || r.messageId != header.messageId
      || r.totalSize != header.totalSize || r.nextOffset != header.fragmentOffset then none
  else some r

/-- The bytes of a fragment go in. -/
def Reassembly.store (r : Reassembly) (header : Header) (payload : Bytes) : Reassembly :=
  { r with
    data := r.data.take header.fragmentOffset.toNat ++ payload
    nextOffset := header.fragmentOffset + header.payloadSize }

/-- The packet of a reassembly that is complete. -/
def Reassembly.packet (r : Reassembly) : Packet := ⟨r.data.take r.totalSize.toNat, r.terminator⟩

/-- Replace the reassembly of a client. -/
def Server.setReassembly (r : Reassembly) : Server :=
  s.updateClient i (fun client => { client with reassembly := r })

/-- The last part of `vspwd_accept_data_fragment`: a complete packet is queued at
the other port, or the status says why not. -/
def deliverPacket (packet : Packet) : Status × Server :=
  if (s.ports p).state ≠ .run then (.linkUnavailable, s)
  else if (s.ports (peerPort p)).packets.count ≥ packetQueueDepth then
    (.resourceExhausted, dropPacket s p)
  else
    match enqueuePacket s p packet with
    | none => (.linkUnavailable, s)
    | some s' => (.ok, s')

/-- `vspwd_accept_data_fragment`, of a client that owns a port. -/
def acceptDataFragment (header : Header) (payload : Bytes) : Status × Server :=
  match (s.clients i).reassembly.admits header with
  | none => (.invalidPacket, s)
  | some r =>
    let r := r.store header payload
    if !header.has flagFragmentEnd then (.ok, s.setReassembly i r)
    else if r.nextOffset != r.totalSize then (.invalidPacket, s.setReassembly i r)
    else
      let r := { r with terminator := header.terminator }
      deliverPacket (s.setReassembly i r) p r.packet

/-- Queue a time code at a port, where there is room. -/
def Port.pushTimeCode (code : TimeCode) (h : port.timeCodes.count < timeCodeQueueDepth) : Port :=
  { port with timeCodes := port.timeCodes.push code h }

/-- A time code sent from a port is counted. -/
def Port.countTxTimeCode : Port :=
  { port with statistics := { port.statistics with
      txTimeCodes := port.statistics.txTimeCodes + 1 } }

/-- `vspwd_enqueue_time_code`, with the server afterwards if it returns true. -/
def enqueueTimeCode (source : PortId) (code : TimeCode) : Option Server :=
  let destination := peerPort source
  if (s.ports source).state ≠ .run ∨ (s.ports destination).state ≠ .run then none
  else if h : (s.ports destination).timeCodes.count < timeCodeQueueDepth then
    let s := s.updatePort destination (fun _ => (s.ports destination).pushTimeCode code h)
    let s := s.updatePort source Port.countTxTimeCode
    some (markPortChanged (markPortChanged s source) destination)
  else none

/-- The part of a TIME_CODE_TX request after the checks of the client. -/
def deliverTimeCode (code : TimeCode) : Status × Server :=
  if (s.ports p).state ≠ .run then (.linkUnavailable, s)
  else if (s.ports (peerPort p)).timeCodes.count ≥ timeCodeQueueDepth then
    (.resourceExhausted, dropPacket s p)
  else
    match enqueueTimeCode s p code with
    | none => (.linkUnavailable, s)
    | some s' => (.ok, s')

/-! ## Requests -/

/-- A request is answered: the response is queued, or the client refused. -/
def reply (status : Status) (payload : Bytes) : Bool × Server :=
  match queueResponse (s.clients i) request status payload with
  | none => (false, s)
  | some client => (true, s.updateClient i (fun _ => client))

/-- A request of an owner that changes the server and is answered without a
payload. -/
def replyAttached (change : PortId → Server) : Bool × Server :=
  match validateAttachedRequest (s.clients i) request with
  | .error status => reply s i request status []
  | .ok p => reply (change p) i request .ok []

/-- A request of an owner that only reads its port. -/
def replyAttachedRead (payload : Port → Bytes) : Bool × Server :=
  match validateAttachedRequest (s.clients i) request with
  | .error status => reply s i request status []
  | .ok p => reply s i request .ok (payload (s.ports p))

/-- A request about a port of a client that owns none, which changes the server
and is answered without a payload. -/
def replyManagement (change : PortId → Server) : Bool × Server :=
  match validateManagementPort (s.clients i) request with
  | .error status => reply s i request status []
  | .ok p => reply (change p) i request .ok []

/-- A request about a port of a client that owns none, which only reads it. -/
def replyManagementRead (payload : Port → Bytes) : Bool × Server :=
  match validateManagementPort (s.clients i) request with
  | .error status => reply s i request status []
  | .ok p => reply s i request .ok (payload (s.ports p))

/-- The payload of a HELLO and of its response. -/
def helloPayload : Bytes := [versionMajor, versionMinor, 0, 0]

/-- The HELLO case of `vspwd_handle_request`. -/
def handleHello : Bool × Server :=
  if (s.clients i).portId.isSome then reply s i request .invalidState helloPayload
  else
    reply (s.updateClient i (fun client => { client with helloDone := true })) i request .ok
      helloPayload

/-- The ATTACH case of `vspwd_handle_request`. -/
def handleAttach : Bool × Server :=
  if !(s.clients i).helloDone || (s.clients i).portId.isSome then
    reply s i request .invalidState []
  else if h : request.portId.toNat < portCount then
    let p : PortId := ⟨request.portId.toNat, h⟩
    if (s.ports p).bridged then reply s i request .resourceExhausted []
    else if (s.ports p).clientIndex.isSome then reply s i request .resourceExhausted []
    else reply (attachClient s i p) i request .ok []
  else reply s i request .invalidArgument []

/-- The DETACH case of `vspwd_handle_request`, which answers before it detaches. -/
def handleDetach : Bool × Server :=
  match validateAttachedRequest (s.clients i) request with
  | .error status => reply s i request status []
  | .ok _ =>
    match reply s i request .ok [] with
    | (false, s) => (false, s)
    | (true, s) => (true, detachClient s i)

/-- The capabilities of a port. -/
def portCapabilities : CapabilitiesPayload where
  bits := 0x01 ||| 0x02 ||| 0x04 ||| 0x08
  maxPacketSize := UInt32.ofNat maxLogicalPacket
  txQueueDepth := UInt32.ofNat packetQueueDepth
  rxQueueDepth := UInt32.ofNat packetQueueDepth
  bufferAlignment := 1

/-- The bounds of the daemon. -/
def serverInfo : ServerInfoPayload where
  portCount := UInt32.ofNat Vspwd.portCount
  clientCapacity := UInt32.ofNat clientCount
  packetQueueDepth := UInt32.ofNat Vspwd.packetQueueDepth
  timeCodeQueueDepth := UInt32.ofNat Vspwd.timeCodeQueueDepth
  maxLogicalPacket := UInt32.ofNat Vspd.maxLogicalPacket

/-- The status of a DATA_TX request and the server after it was looked at. -/
def acceptDataTx (payload : Bytes) : Status × Server :=
  match validateAttachedRequest (s.clients i) request with
  | .error status => (status, s)
  | .ok p => acceptDataFragment s i p request payload

/-- Clear the reassembly of a client. -/
def Server.clearReassembly : Server :=
  s.updateClient i (fun client => { client with reassembly := client.reassembly.clear })

/-- The DATA_TX case of `vspwd_handle_request`. -/
def handleDataTx (payload : Bytes) : Bool × Server :=
  let (status, s) := acceptDataTx s i request payload
  if status = .invalidPacket then (false, s.clearReassembly i)
  else if !request.has flagFragmentEnd then (decide (status = .ok), s)
  else reply (s.clearReassembly i) i request status []

/-- The TIME_CODE_TX case of `vspwd_handle_request`. -/
def handleTimeCodeTx (payload : Bytes) : Bool × Server :=
  match validateAttachedRequest (s.clients i) request with
  | .error status => reply s i request status []
  | .ok p =>
    let (status, s) :=
      deliverTimeCode s p ⟨BigEndian.byteAt payload 0, BigEndian.byteAt payload 1⟩
    reply s i request status []

/-- The GET_SERVER_INFO case of `vspwd_handle_request`. -/
def handleGetServerInfo : Bool × Server :=
  match validateManagementRequest (s.clients i) with
  | .error status => reply s i request status []
  | .ok _ => reply s i request .ok (encodeServerInfo serverInfo)

/-- The `switch` of `vspwd_handle_request`. -/
def dispatch (payload : Bytes) : Bool × Server :=
  match MessageType.ofByte request.type with
  | some .hello => handleHello s i request
  | some .attach => handleAttach s i request
  | some .detach => handleDetach s i request
  | some .start => replyAttached s i request (startPort s)
  | some .stop => replyAttached s i request (stopPort s)
  | some .reset => replyAttached s i request (resetPort s i)
  | some .getLinkState =>
    replyAttachedRead s i request (fun port => encodeU32Payload port.state.toWire)
  | some .getCapabilities =>
    replyAttachedRead s i request (fun _ => encodeCapabilities portCapabilities)
  | some .dataTx => handleDataTx s i request payload
  | some .timeCodeTx => handleTimeCodeTx s i request payload
  | some .getStatistics =>
    replyAttachedRead s i request (fun port => encodeStatistics port.statistics)
  | some .clearStatistics => replyAttached s i request (clearPortStatistics s)
  | some .getServerInfo => handleGetServerInfo s i request
  | some .getPortInfo =>
    replyManagementRead s i request (fun port => encodePortInfo (portInfoToWire port))
  | some .getPortStatistics =>
    replyManagementRead s i request (fun port => encodeStatistics port.statistics)
  | some .clearPortStatistics => replyManagement s i request (clearPortStatistics s)
  | some .subscribePort => replyManagement s i request (subscribePort s i)
  | some .unsubscribePort => replyManagement s i request (unsubscribePort s i)
  | _ => (false, s)

/-- `vspwd_handle_request`: whether the client may stay, and the server
afterwards. -/
def handleRequest (frame : Bytes) : Bool × Server :=
  let client := s.clients i
  if client.responsePending then (false, s)
  else
    match validateFrame frame with
    | .error _ => (false, s)
    | .ok request =>
      if request.has flagResponse || typeIsEvent request.type then (false, s)
      else if !client.helloDone && request.type != MessageType.hello.toByte then (false, s)
      else dispatch s i request (payloadOf frame)

/-! ## Output

A socket that does not take a record leaves everything as it is; only the code
that called looks at the reason. -/

/-- What `vspwd_send_record` comes to: the record is written, the socket is full,
or it has failed. -/
inductive SendResult
  | sent | wouldBlock | failed
deriving DecidableEq, Repr

/-- What a flush comes to: the server, the record it has written if it has
written one, and whether it may go on. -/
structure Flush where
  server : Server
  written : List Bytes
  result : SendResult

/-- A flush that had nothing to do. -/
def Flush.nothing : Flush := ⟨s, [], .sent⟩

/-- A flush of one record: `change` is what follows when the socket takes it. A
record whose header cannot be written is not sent. -/
def flushRecord (frame : Except CodecError Bytes) (change : Server) : Flush :=
  match frame with
  | .error _ => ⟨s, [], .failed⟩
  | .ok bytes =>
    match send bytes with
    | .sent => ⟨change, [bytes], .sent⟩
    | .wouldBlock => ⟨s, [], .wouldBlock⟩
    | .failed => ⟨s, [], .failed⟩

/-- `vspwd_flush_response`. -/
def flushResponse : Flush :=
  if !(s.clients i).responsePending then Flush.nothing s
  else flushRecord s send (.ok (s.clients i).response) (s.updateClient i (fun client =>
    { client with responsePending := false, response := [] }))

/-- The record of an event that carries a payload of its own. -/
def eventFrame (type : MessageType) (p : PortId) (payload : Bytes) : Except CodecError Bytes :=
  (encodeHeader { Header.ofType type.toByte with
    payloadSize := UInt32.ofNat payload.length
    portId := UInt32.ofNat p.val }).map (· ++ payload)

/-- `vspwd_flush_state_event`. -/
def flushStateEvent : Flush :=
  match (s.clients i).portId with
  | none => Flush.nothing s
  | some p =>
    if !(s.ports p).stateEventPending then Flush.nothing s
    else
      flushRecord s send
        (eventFrame .linkStateEvent p (encodeU32Payload (s.ports p).state.toWire))
        (s.updatePort p (fun port => { port with stateEventPending := false }))

/-- How the packet in a slot is cut. -/
def PacketSlot.fragmentation (slot : PacketSlot) (p : PortId) : Fragmentation where
  type := .dataRx
  requestId := 0
  portId := UInt32.ofNat p.val
  messageId := slot.messageId
  data := slot.data
  terminator := slot.terminator

/-- A packet delivered to a port's owner is counted. -/
def Port.countRxPacket (length : Nat) : Port :=
  { port with statistics := { port.statistics with
      rxPackets := port.statistics.rxPackets + 1
      rxBytes := port.statistics.rxBytes + UInt64.ofNat length } }

/-- A fragment of the oldest packet has been written, and it was not the last. -/
def advanceSlot (slot : PacketSlot) (chunk : UInt32) : Server :=
  s.updatePort p (fun port =>
    { port with packets := port.packets.setFront { slot with offset := slot.offset + chunk } })

/-- The last fragment of the oldest packet has been written. -/
def popPacket (slot : PacketSlot) : Server :=
  if h : (s.ports p).packets.count ≠ 0 then
    markPortChanged (s.updatePort p (fun _ =>
      { (s.ports p).countRxPacket slot.data.length with
        packets := (s.ports p).packets.dropFront h })) p
  else s

/-- `vspwd_flush_packet_event`. -/
def flushPacketEvent : Flush :=
  match (s.clients i).portId with
  | none => Flush.nothing s
  | some p =>
    match (s.ports p).packets.front with
    | none => Flush.nothing s
    | some slot =>
      let cut := slot.fragmentation p
      flushRecord s send (cut.frame slot.offset)
        (if isFinal cut.length slot.offset then popPacket s p slot
          else advanceSlot s p slot (chunkAt cut.length slot.offset))

/-- The oldest time code of a port has been written. -/
def popTimeCode : Server :=
  if h : (s.ports p).timeCodes.count ≠ 0 then
    markPortChanged (s.updatePort p (fun port =>
      { port with
        timeCodes := (s.ports p).timeCodes.dropFront h
        statistics := { port.statistics with
          rxTimeCodes := port.statistics.rxTimeCodes + 1 } })) p
  else s

/-- `vspwd_flush_time_code_event`. -/
def flushTimeCodeEvent : Flush :=
  match (s.clients i).portId with
  | none => Flush.nothing s
  | some p =>
    match (s.ports p).timeCodes.front with
    | none => Flush.nothing s
    | some code =>
      flushRecord s send (eventFrame .timeCodeRx p [code.timeCount, code.controlFlags])
        (popTimeCode s p)

/-- The first port a client has a snapshot pending for. -/
def Client.pendingPort : Option PortId :=
  if (client.monitorPendingMask &&& portBit 0) != 0 then some 0
  else if (client.monitorPendingMask &&& portBit 1) != 0 then some 1
  else none

/-- `vspwd_flush_monitor_event`. -/
def flushMonitorEvent : Flush :=
  if (s.clients i).portId.isSome then Flush.nothing s
  else
    match (s.clients i).pendingPort with
    | none => Flush.nothing s
    | some p =>
      flushRecord s send
        (eventFrame .portSnapshotEvent p (encodePortSnapshot (portSnapshotToWire (s.ports p))))
        (s.updateClient i (fun client =>
          { client with monitorPendingMask := client.monitorPendingMask &&& ~~~portBit p }))

/-- One flush after another, as long as they succeed. -/
def Flush.andThen (f : Flush) (next : Server → Flush) : Flush :=
  if f.result = .sent then
    { next f.server with written := f.written ++ (next f.server).written }
  else f

/-- `vspwd_flush_client`. After a state event that was sent none is pending, so the
check that follows it in the code never holds. -/
def flushClient : Flush :=
  if (s.clients i).responsePending then flushResponse s i send
  else if (s.clients i).portId.isNone then flushMonitorEvent s i send
  else
    (flushStateEvent s i send).andThen (fun s =>
      match (s.clients i).portId with
      | some p =>
        if (s.ports p).stateEventPending then Flush.nothing s
        else
          (flushPacketEvent s i send).andThen (fun s => flushTimeCodeEvent s i send)
      | none => (flushPacketEvent s i send).andThen (fun s => flushTimeCodeEvent s i send))

/-! ## The bridge

The remote link is a port of its own, and what its calls return is given: a state
or a failure, whether a packet or time code was taken, and what has arrived. A
received packet fits the buffer it was received into, and the remote port hands
out no time code that is not one. -/

/-- A packet that fits `rx_packet`. -/
abbrev BridgePacket := { packet : Packet // packet.bytes.length ≤ maxLogicalPacket }

/-- A time code of the remote link. -/
abbrev BridgeTimeCode := { code : TimeCode // code.valid = true }

/-- A call on the port of the remote link that moves something, and what it answers:
whether what is sent is taken, and what is received if there is something. -/
inductive BridgeCall
  | send (packet : Packet) (taken : Bool)
  | sendTimeCode (code : TimeCode) (taken : Bool)
  | receive (answer : Option BridgePacket)
  | receiveTimeCode (answer : Option BridgeTimeCode)
deriving DecidableEq, Repr

/-- `vspwd_bridge_refresh_state`, where `spw_port_get_link_state` gives a state or
fails. -/
def bridgeRefreshState (answer : Option LinkState) : Server :=
  match s.bridge with
  | none => s
  | some bridge =>
    let state := answer.getD .errorWait
    if state ≠ bridge.state then
      let s := { s with bridge := some { bridge with state := state } }
      updateStates
        (if (s.ports bridge.portId).state ≠ state then
          markPortChanged (s.updatePort bridge.portId (fun port =>
            { port.countLinkError state with state := state })) bridge.portId
        else s)
    else s

/-- `vspwd_bridge_pop_packet`: the call of `spw_port_send`, if it is made, and the server
afterwards. -/
def bridgePopPacket (taken : Bool) : Option BridgeCall × Server :=
  match s.bridge with
  | none => (none, s)
  | some bridge =>
    match (s.ports bridge.portId).packets.front with
    | none => (none, s)
    | some slot =>
      if bridge.state ≠ .run then (none, s)
      else (some (.send slot.packet taken), if taken then popPacket s bridge.portId slot else s)

/-- `vspwd_bridge_pop_time_code`. -/
def bridgePopTimeCode (taken : Bool) : Option BridgeCall × Server :=
  match s.bridge with
  | none => (none, s)
  | some bridge =>
    match (s.ports bridge.portId).timeCodes.front with
    | none => (none, s)
    | some code =>
      if bridge.state ≠ .run then (none, s)
      else (some (.sendTimeCode code taken), if taken then popTimeCode s bridge.portId else s)

/-- `vspwd_bridge_push_packet`: the call of `spw_port_receive`, if it is made, and the server
afterwards. -/
def bridgePushPacket (answer : Option BridgePacket) : Option BridgeCall × Server :=
  match s.bridge with
  | none => (none, s)
  | some bridge =>
    let bridgeId := bridge.portId
    let localId := peerPort bridgeId
    if bridge.state ≠ .run ∨ (s.ports localId).state ≠ .run then (none, s)
    else if h : (s.ports localId).packets.count < packetQueueDepth then
      (some (.receive answer), match answer with
        | none => s
        | some packet =>
          let s := s.updatePort localId (fun _ => (s.ports localId).pushPacket packet h)
          let s := s.updatePort bridgeId (fun port => port.countTxPacket packet)
          markPortChanged (markPortChanged s bridgeId) localId)
    else (none, s)

/-- `vspwd_bridge_push_time_code`. -/
def bridgePushTimeCode (answer : Option BridgeTimeCode) : Option BridgeCall × Server :=
  match s.bridge with
  | none => (none, s)
  | some bridge =>
    let bridgeId := bridge.portId
    let localId := peerPort bridgeId
    if bridge.state ≠ .run ∨ (s.ports localId).state ≠ .run then (none, s)
    else if h : (s.ports localId).timeCodes.count < timeCodeQueueDepth then
      (some (.receiveTimeCode answer), match answer with
        | none => s
        | some code =>
          let s := s.updatePort localId (fun _ => (s.ports localId).pushTimeCode code h)
          let s := s.updatePort bridgeId Port.countTxTimeCode
          markPortChanged (markPortChanged s bridgeId) localId)
    else (none, s)

/-- `vspwd_open_bridge` with a configuration that enables it, where the remote
port has opened and started. -/
def openBridge (answer : Option LinkState) : Server :=
  bridgeRefreshState
    (({ s with bridge := some ⟨p, .connecting⟩ } : Server).updatePort p (fun port =>
      { port with
        bridged := true
        started := true
        resetLatched := false
        state := .connecting
        nextMessageId := 1 })) answer

/-! ## The main loop

One pass of the loop services the bridge, lets clients in and then looks at each
client in turn: it closes one whose socket has failed, handles one record, writes
what the socket takes, and closes a client that a step of this refuses. Each of
these is an action, and the actions of a pass come in an order that the sockets
choose; so a run is any list of actions. The bridge is serviced in several
actions, for the remote link may change between two calls. -/

/-- What `recvmsg` gives. -/
inductive Receipt
  | record (frame : Bytes)
  | nothing
  | ended
deriving DecidableEq, Repr

/-- `VSPWD_FRAME_MAX`. -/
def frameMax : Nat := headerSize + maxFramePayload

/-- `vspwd_receive_one`: whether the client may stay, and the server afterwards. -/
def receiveOne : Receipt → Bool × Server
  | .record frame => if frame.length > frameMax then (false, s) else handleRequest s i frame
  | .nothing => (true, s)
  | .ended => (false, s)

/-- The first free place for a client. -/
def freeSlot : Option ClientIndex :=
  (List.finRange clientCount).find? (fun i => (s.clients i).fd.isNone)

/-- **What the daemon does next.** -/
inductive Action
  /-- A connection is accepted. -/
  | accept (fd : Nat)
  /-- A client's socket has failed. -/
  | hangup (i : ClientIndex)
  /-- A client's socket is read. -/
  | receive (i : ClientIndex) (receipt : Receipt)
  /-- A client's socket is written to. -/
  | flush (i : ClientIndex) (send : Bytes → SendResult)
  | bridgeRefresh (answer : Option LinkState)
  | bridgePopPacket (taken : Bool)
  | bridgePopTimeCode (taken : Bool)
  | bridgePushPacket (answer : Option BridgePacket)
  | bridgePushTimeCode (answer : Option BridgeTimeCode)

/-- One turn of the loop of `vspwd_accept_clients`: the connection gets the first
free place, or is closed. -/
def acceptClient (fd : Nat) : Server :=
  match freeSlot s with
  | none => s
  | some i => s.updateClient i (fun _ => Client.zeroed (some fd))

/-- A client is closed where it may not stay. -/
def keepOrClose (r : Bool × Server) : Server :=
  if r.1 then r.2 else closeClient r.2 i

/-- **One action.** A place without a connection is passed over. -/
def Server.step : Action → Server
  | .accept fd => acceptClient s fd
  | .hangup i => if (s.clients i).fd.isNone then s else closeClient s i
  | .receive i receipt =>
    if (s.clients i).fd.isNone then s else keepOrClose i (receiveOne s i receipt)
  | .flush i send =>
    if (s.clients i).fd.isNone then s
    else
      keepOrClose i (decide ((flushClient s i send).result ≠ .failed),
      (flushClient s i send).server)
  | .bridgeRefresh answer => bridgeRefreshState s answer
  | .bridgePopPacket taken => (Vspwd.bridgePopPacket s taken).2
  | .bridgePopTimeCode taken => (Vspwd.bridgePopTimeCode s taken).2
  | .bridgePushPacket answer => (Vspwd.bridgePushPacket s answer).2
  | .bridgePushTimeCode answer => (Vspwd.bridgePushTimeCode s answer).2

/-- The call on the remote link's port that an action makes. -/
def Server.calls : Action → Option BridgeCall
  | .bridgePopPacket taken => (Vspwd.bridgePopPacket s taken).1
  | .bridgePopTimeCode taken => (Vspwd.bridgePopTimeCode s taken).1
  | .bridgePushPacket answer => (Vspwd.bridgePushPacket s answer).1
  | .bridgePushTimeCode answer => (Vspwd.bridgePushTimeCode s answer).1
  | _ => none

/-- The records an action writes, to the client it is about. -/
def Server.writes : Action → List Bytes
  | .flush i send => if (s.clients i).fd.isNone then [] else (flushClient s i send).written
  | _ => []

/-- The states the daemon may start in: without a bridge, or with one. -/
inductive Started : Server → Prop
  | plain : Started initServer
  | bridged (p : PortId) (answer : Option LinkState) : Started (openBridge initServer p answer)

/-- **The states the daemon reaches.** -/
inductive Reachable : Server → Prop
  | start {s : Server} (h : Started s) : Reachable s
  | step {s : Server} (h : Reachable s) (a : Action) : Reachable (s.step a)

end Vspwd
