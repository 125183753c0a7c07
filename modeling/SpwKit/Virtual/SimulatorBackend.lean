import SpwKit.Virtual.VirtualLink
import SpwKit.Lib.Endpoint

/-!
# The simulator backend: `simulator_backend.c`

A call on a simulator port locks its link, looks at both endpoints and, where it
has to, waits on a condition of the link until the other side has moved. While it
waits the lock is free: the other port may make any call, and the link that is
found when the wait is over is another one. So a call is a program
(`Interactive.Process`) whose state is the backend and the link as it holds it,
and the answer to a wait brings the link with it. Between two waits nothing else
happens: what a call does outside the lock is about its own backend, and no other
call is made on the same port meanwhile.

`World` is the registry with any number of ports, each idle or in a call; a run is
any list of actions.
-/

open Interactive Core

namespace Simulator

/-! ## Data -/

/-- The array behind a buffer. -/
abbrev Storage := Nat → UInt8

/-- A descriptor of a backend. -/
inductive BufferRef
  | tx (i : Fin packetQueueDepth)
  | rx
deriving DecidableEq, Repr

/-- `spw_simulator_backend_t`. -/
structure SimulatorBackend where
  linkId : UInt64
  endpointIndex : EndpointIndex
  link : Option LinkIndex
  txBuffers : Fin packetQueueDepth → Buffer Storage
  rxBuffer : Buffer Storage
  rxBufferAcquired : Bool

namespace SimulatorBackend

/-- A descriptor. -/
def load (b : SimulatorBackend) : BufferRef → Buffer Storage
  | .tx i => b.txBuffers i
  | .rx => b.rxBuffer

/-- Change a descriptor. -/
def store (b : SimulatorBackend) (ref : BufferRef) (buffer : Buffer Storage) : SimulatorBackend :=
  match ref with
  | .tx i => { b with txBuffers := Function.update b.txBuffers i buffer }
  | .rx => { b with rxBuffer := buffer }

end SimulatorBackend

/-- A descriptor as `initialize_zero_copy_buffers` leaves it, over its storage. -/
def freshBuffer (data : Storage) (direction : BufferDirection) (token : Nat) : Buffer Storage where
  data := data
  length := 0
  capacity := maxPacketSize
  terminator := Terminator.eop.toByte
  owner := true
  direction := some direction
  state := .free
  token := token
  ownerEpoch := false
  epoch := 0

/-- `initialize_zero_copy_buffers`. -/
def SimulatorBackend.initializeZeroCopyBuffers (b : SimulatorBackend) : SimulatorBackend :=
  { b with
    txBuffers := fun i => freshBuffer (b.txBuffers i).data .tx i.val
    rxBuffer := freshBuffer b.rxBuffer.data .rx 0
    rxBufferAcquired := false }

/-- `simulator_construct` up to `attach_backend`. -/
def simulatorConstruct (linkId : UInt64) (e : EndpointIndex) : SimulatorBackend where
  linkId := linkId
  endpointIndex := e
  link := none
  txBuffers i := freshBuffer (fun _ => 0) .tx i.val
  rxBuffer := freshBuffer (fun _ => 0) .rx 0
  rxBufferAcquired := false

/-- What a call holds: its backend, and the link while it is locked. -/
structure Context where
  backend : SimulatorBackend
  link : VirtualLink

namespace Context

/-- The endpoint of the port. -/
def own (c : Context) : EndpointState := c.link.endpoints c.backend.endpointIndex

/-- The endpoint of the other port. -/
def peer (c : Context) : EndpointState := c.link.endpoints (peerIndex c.backend.endpointIndex)

/-- Change the link. -/
def onLink (c : Context) (f : VirtualLink → EndpointIndex → VirtualLink) : Context :=
  { c with link := f c.link c.backend.endpointIndex }

/-- Change a descriptor. -/
def setBuffer (c : Context) (ref : BufferRef) (buffer : Buffer Storage) : Context :=
  { c with backend := c.backend.store ref buffer }

end Context

/-! ## Waiting -/

/-- The conditions a call waits on. -/
inductive Condition
  | link | zeroCopy
deriving DecidableEq, Repr

/-- `spw_host_condition_wait`, with whether it is to wait without a limit. -/
structure Wait where
  condition : Condition
  infinite : Bool
deriving DecidableEq, Repr

/-- How a wait ends: it was signalled, or has failed, which a timed one also does when its
time is over; or the deadline has passed before it began. -/
inductive Wake
  | signalled | failed | expired
deriving DecidableEq, Repr

/-- **A program of the simulator.** A wait is answered with the link as it is then. -/
abbrev Sim := Process Wait (fun _ => Wake × VirtualLink) Context

variable (fuel : Nat)

variable (timeoutUs : Timeout)

/-- `wait_condition`. -/
def waitCondition (condition : Condition) (timeoutUs : Timeout) (predicate : Context → Bool) :
    Nat → Sim Bool
  | 0 => Process.hang
  | fuel + 1 => do
    let c ← get
    if predicate c then return true
    else if timeoutUs = timeoutImmediate then return false
    else
      let (wake, link) ← Process.request ⟨condition, decide (timeoutUs = timeoutInfinite)⟩
      modify fun c => { c with link := link }
      match wake with
      | .signalled => waitCondition condition timeoutUs predicate fuel
      | .failed =>
        if timeoutUs = timeoutInfinite then return false
        else
          let c ← get
          return predicate c
      -- there is no deadline where the wait has no limit
      | .expired =>
        if timeoutUs = timeoutInfinite then waitCondition condition timeoutUs predicate fuel
        else return false

/-! ## Lifecycle -/

/-- A call on the link of the backend, which answers without waiting. -/
def withLink (f : VirtualLink → EndpointIndex → Result × VirtualLink) : Sim Result := do
  let c ← get
  if c.backend.link.isNone then return .invalidState
  else
    set { c with link := (f c.link c.backend.endpointIndex).2 }
    return (f c.link c.backend.endpointIndex).1

/-- `simulator_start`. -/
def simulatorStart : Sim Result := withLink VirtualLink.start

/-- `simulator_stop`. -/
def simulatorStop : Sim Result := withLink VirtualLink.stop

/-- `simulator_reset`. -/
def simulatorReset : Sim Result := do
  let result ← withLink VirtualLink.reset
  if result = .ok then
    modify fun c => { c with backend := c.backend.initializeZeroCopyBuffers }
  return result

/-- A call that reads the endpoint of the port. -/
def readOwn {α : Type} (f : EndpointState → α) : Sim (Result × Option α) := do
  let c ← get
  if c.backend.link.isNone then return (.invalidState, none)
  else if c.own.attached = false then return (.linkUnavailable, none)
  else return (.ok, some (f c.own))

/-- `simulator_get_link_state`. -/
def simulatorGetLinkState : Sim (Result × Option LinkState) := readOwn EndpointState.state

/-- `simulator_get_statistics`. -/
def simulatorGetStatistics : Sim (Result × Option Statistics) :=
  readOwn EndpointState.statistics

/-- `simulator_clear_statistics`. -/
def simulatorClearStatistics : Sim Result :=
  withLink fun link e =>
    if (link.endpoints e).attached = false then (.linkUnavailable, link)
    else (.ok, link.update e fun own => { own with statistics := {} })

/-! ## Copied transfers -/

/-- `packet_space_ready`. -/
def packetSpaceReady (c : Context) : Bool :=
  !c.own.started || !c.peer.available || decide (c.peer.packets.count < packetQueueDepth)

/-- `time_code_space_ready`. -/
def timeCodeSpaceReady (c : Context) : Bool :=
  !c.own.started || !c.peer.available || decide (c.peer.timeCodes.count < timeCodeQueueDepth)

/-- `packet_receive_ready`. -/
def packetReceiveReady (c : Context) : Bool :=
  decide (c.own.packets.count > 0) || !c.own.started || !c.peer.available

/-- `time_code_receive_ready`. -/
def timeCodeReceiveReady (c : Context) : Bool :=
  decide (c.own.timeCodes.count > 0) || !c.own.started || !c.peer.available

/-- What a send returns that has not found room. -/
def noRoom : Result :=
  if timeoutUs = timeoutImmediate then .resourceExhausted else .timeout

/-- `simulator_send`. -/
def simulatorSend (packet : PortPacket) (timeoutUs : Timeout) : Sim Result := do
  let c ← get
  if c.backend.link.isNone then return .invalidState
  else if validTerminator packet.terminator = false ∨ packet.length > maxPacketSize then
    return .invalidPacket
  else if packet.length > 0 ∧ packet.data.isNone then return .invalidArgument
  else if packet.capacity ≠ 0 ∧ packet.capacity < packet.length then return .invalidPacket
  else if c.own.attached = false ∨ c.own.started = false then return .invalidState
  else if c.peer.available = false then return .linkUnavailable
  else
    let ready ← waitCondition .link timeoutUs packetSpaceReady fuel
    if ready = false then return noRoom timeoutUs
    else
      let c ← get
      if c.own.started = false then return .invalidState
      else if c.peer.available = false then return .linkUnavailable
      else if c.peer.packets.count = packetQueueDepth then return .timeout
      else
        set (c.onLink fun link e => link.sendPacket e packet.packet)
        return .ok

/-- What a receive returns that has found nothing. -/
def nothingThere (c : Context) : Result :=
  if c.peer.available = false then .linkUnavailable else .timeout

/-- `simulator_receive`. -/
def simulatorReceive (buffer : ReceiveBuffer) (timeoutUs : Timeout) :
    Sim (Result × Option PacketOut) := do
  let c ← get
  if c.backend.link.isNone then return (.invalidState, none)
  else if c.own.attached = false ∨ c.own.started = false then return (.invalidState, none)
  else
    let ready ← waitCondition .link timeoutUs packetReceiveReady fuel
    if ready = false then return (.timeout, none)
    else
      let c ← get
      if c.own.started = false then return (.invalidState, none)
      else if c.own.packets.count = 0 then return (nothingThere c, none)
      else
        let slot := c.own.packets.front
        if slot.bytes.length > buffer.capacity then
          return (.bufferTooSmall, some ⟨slot.bytes.length, slot.terminator, none⟩)
        else if slot.bytes.length > 0 ∧ buffer.hasData = false then
          return (.invalidArgument, some ⟨slot.bytes.length, slot.terminator, none⟩)
        else
          set (c.onLink VirtualLink.takePacket)
          return (.ok, some ⟨slot.bytes.length, slot.terminator, some slot.bytes⟩)

/-- `simulator_send_time_code`. The wait is over only where there is room, so the code does
not look again. -/
def simulatorSendTimeCode (code : TimeCode) (timeoutUs : Timeout) : Sim Result := do
  let c ← get
  if c.backend.link.isNone then return .invalidState
  else if validTimeCode code = false then return .invalidArgument
  else if c.own.attached = false ∨ c.own.started = false then return .invalidState
  else if c.peer.available = false then return .linkUnavailable
  else
    let ready ← waitCondition .link timeoutUs timeCodeSpaceReady fuel
    if ready = false then return noRoom timeoutUs
    else
      let c ← get
      if c.own.started = false then return .invalidState
      else if c.peer.available = false then return .linkUnavailable
      else
        set (c.onLink fun link e => link.sendTimeCode e code)
        return .ok

/-- `simulator_receive_time_code`. -/
def simulatorReceiveTimeCode : Sim (Result × Option TimeCode) := do
  let c ← get
  if c.backend.link.isNone then return (.invalidState, none)
  else if c.own.attached = false ∨ c.own.started = false then return (.invalidState, none)
  else
    let ready ← waitCondition .link timeoutUs timeCodeReceiveReady fuel
    if ready = false then return (.timeout, none)
    else
      let c ← get
      if c.own.started = false then return (.invalidState, none)
      else if c.own.timeCodes.count = 0 then return (nothingThere c, none)
      else
        set (c.onLink VirtualLink.takeTimeCode)
        return (.ok, some c.own.timeCodes.front)

/-- `SIMULATOR_OPS`, up to the zero-copy functions. -/
def simulatorOps : BackendOps Wait (fun _ => Wake × VirtualLink) Context where
  start := simulatorStart
  stop := simulatorStop
  reset := simulatorReset
  getLinkState := simulatorGetLinkState
  send := simulatorSend fuel
  receive := simulatorReceive fuel
  sendTimeCode := simulatorSendTimeCode fuel
  receiveTimeCode := simulatorReceiveTimeCode fuel
  getStatistics := simulatorGetStatistics
  clearStatistics := simulatorClearStatistics

/-! ## Zero-copy -/

/-- The first transmit descriptor in a state. -/
def SimulatorBackend.findTxBuffer (b : SimulatorBackend) (state : BufferState) :
    Option (Fin packetQueueDepth) :=
  (List.finRange packetQueueDepth).find? fun i => decide ((b.txBuffers i).state = state)

/-- `find_free_tx_buffer`. -/
def SimulatorBackend.findFreeTxBuffer (b : SimulatorBackend) : Option (Fin packetQueueDepth) :=
  b.findTxBuffer .free

/-- `find_completed_tx_buffer`. -/
def SimulatorBackend.findCompletedTxBuffer (b : SimulatorBackend) : Option (Fin packetQueueDepth) :=
  b.findTxBuffer .completed

/-- Look for a transmit descriptor, and wait for one where there is none. -/
def awaitTxBuffer (state : BufferState) (timeoutUs : Timeout) : Sim Bool := do
  let c ← get
  if (c.backend.findTxBuffer state).isSome then return true
  else
    waitCondition .zeroCopy timeoutUs (fun c => (c.backend.findTxBuffer state).isSome) fuel

/-- `simulator_acquire_tx_buffer`. -/
def simulatorAcquireTxBuffer (minCapacity : Nat) (timeoutUs : Timeout) :
    Sim (Result × Option BufferRef) := do
  if minCapacity > maxPacketSize then return (.bufferTooSmall, none)
  else
    let ready ← awaitTxBuffer fuel .free timeoutUs
    if ready = false then return (noRoom timeoutUs, none)
    else
      let c ← get
      match c.backend.findFreeTxBuffer with
      | none => return (.resourceExhausted, none)
      | some i =>
        set (c.setBuffer (.tx i) { c.backend.txBuffers i with
          length := 0
          terminator := Terminator.eop.toByte
          state := .application })
        return (.ok, some (.tx i))

/-- A descriptor is one of the backend's, for a direction, that the application owns. -/
def heldFor (direction : BufferDirection) (buffer : Buffer Storage) : Bool :=
  buffer.owner && decide (buffer.direction = some direction)
    && decide (buffer.state = .application)

/-- `simulator_submit_tx_buffer`. -/
def simulatorSubmitTxBuffer (ref : BufferRef) (timeoutUs : Timeout) : Sim Result := do
  let c ← get
  let buffer := c.backend.load ref
  if heldFor .tx buffer = false then return .invalidState
  else if buffer.length > buffer.capacity ∨ buffer.length > maxPacketSize
      ∨ validTerminator buffer.terminator = false then return .invalidPacket
  else
    set (c.setBuffer ref { buffer with state := .backend })
    let result ← simulatorSend fuel
      ⟨⟨some buffer.data, buffer.length, buffer.terminator⟩, buffer.capacity⟩ timeoutUs
    modify fun c => c.setBuffer ref { c.backend.load ref with
      state := if result = .ok then .completed else .application }
    return result

/-- `simulator_reclaim_tx_buffer`. -/
def simulatorReclaimTxBuffer : Sim (Result × Option BufferRef) := do
  let ready ← awaitTxBuffer fuel .completed timeoutUs
  if ready = false then return (.timeout, none)
  else
    let c ← get
    match c.backend.findCompletedTxBuffer with
    | none => return (.timeout, none)
    | some i =>
      set (c.setBuffer (.tx i) { c.backend.txBuffers i with state := .application })
      return (.ok, some (.tx i))

/-- A descriptor that is given back. -/
def Buffer.release (buffer : Buffer Storage) : Buffer Storage :=
  { buffer with length := 0, terminator := Terminator.eop.toByte, state := .free }

/-- `simulator_release_tx_buffer`. -/
def simulatorReleaseTxBuffer (ref : BufferRef) : Sim Result := do
  let c ← get
  let buffer := c.backend.load ref
  if heldFor .tx buffer = false then return .invalidState
  else
    set (c.setBuffer ref (Buffer.release buffer))
    return .ok

/-- The storage of a buffer with bytes copied into it. -/
def copyInto (data : Storage) (bytes : Bytes) : Storage :=
  fun i => bytes.getD i (data i)

/-- `simulator_acquire_rx_buffer`. -/
def simulatorAcquireRxBuffer : Sim (Result × Option BufferRef) := do
  let available ←
    waitCondition .zeroCopy timeoutUs (fun c => !c.backend.rxBufferAcquired) fuel
  if available = false then return (noRoom timeoutUs, none)
  else
    modify fun c => { c with backend := { c.backend with
      rxBufferAcquired := true
      rxBuffer := { c.backend.rxBuffer with state := .backend } } }
    let (result, packet) ← simulatorReceive fuel ⟨true, maxPacketSize⟩ timeoutUs
    match result, packet with
    | .ok, some out =>
      modify fun c => c.setBuffer .rx { c.backend.rxBuffer with
        data := copyInto c.backend.rxBuffer.data (out.bytes.getD [])
        length := out.length
        terminator := out.terminator.toByte
        state := .application }
      return (.ok, some .rx)
    | result, _ =>
      modify fun c => { c with backend := { c.backend with
        rxBufferAcquired := false
        rxBuffer := { c.backend.rxBuffer with state := .free } } }
      return (result, none)

/-- `simulator_release_rx_buffer`. -/
def simulatorReleaseRxBuffer (ref : BufferRef) : Sim Result := do
  let c ← get
  let buffer := c.backend.load ref
  if ref ≠ .rx ∨ heldFor .rx buffer = false ∨ c.backend.rxBufferAcquired = false then
    return .invalidState
  else
    set { c with backend := { c.backend with
      rxBuffer := Buffer.release buffer
      rxBufferAcquired := false } }
    return .ok

/-- `SIMULATOR_OPS`, the zero-copy functions. -/
def simulatorBuffers : BufferOps Wait (fun _ => Wake × VirtualLink) Context Storage BufferRef where
  supported _ := true
  load c ref := c.backend.load ref
  store ref buffer c := c.setBuffer ref buffer
  acquireTxBuffer := simulatorAcquireTxBuffer fuel
  submitTxBuffer := simulatorSubmitTxBuffer fuel
  reclaimTxBuffer := simulatorReclaimTxBuffer fuel
  releaseTxBuffer := simulatorReleaseTxBuffer
  acquireRxBuffer := simulatorAcquireRxBuffer fuel
  releaseRxBuffer := simulatorReleaseRxBuffer

/-! ## Ports in a process -/

/-- A call on a simulator port. -/
abbrev Call := Core.Call BufferRef

/-- What it returns. -/
abbrev Reply := Core.Reply Storage BufferRef

/-- The code of a call. -/
def code (call : Call) : Process Wait (fun _ => Wake × VirtualLink) (Opened Context) Reply :=
  call.run (simulatorOps fuel) (simulatorBuffers fuel)

/-- A call that is under way. -/
abbrev Running := Step Wait (fun _ => Wake × VirtualLink) (Opened Context) Reply

/-- A call that was made, with the port as it was then. -/
structure Pending where
  call : Call
  before : Opened Context

/-- What a port is doing. -/
abbrev PortActivity := Activity Wait (fun _ => Wake × VirtualLink) (Opened Context) Pending Reply

/-- The state of a port. -/
def PortActivity.state : PortActivity → Opened Context
  | .idle o => o
  | .busy _ x => x.rest

/-- The port as it is, or was when the call was made that is under way. -/
def PortActivity.before : PortActivity → Opened Context
  | .idle o => o
  | .busy pending _ => pending.before

/-- **The registry and the ports that are open.** -/
structure World where
  registry : Registry
  ports : Nat → Option PortActivity

/-- The process at its start. -/
def World.initial : World := ⟨fun _ => VirtualLink.initial, fun _ => none⟩

/-- **What happens next.** -/
inductive Action
  /-- A port is opened. -/
  | open (port : Nat) (linkId : UInt64) (e : EndpointIndex)
  /-- A port is closed. -/
  | close (port : Nat)
  /-- A call is made. -/
  | call (port : Nat) (call : Call)
  /-- A call that waits goes on. -/
  | wake (port : Nat) (wake : Wake)
  /-- The application writes to a buffer it owns. -/
  | fill (port : Nat) (ref : BufferRef) (data : Storage)

/-- What an action has shown. -/
inductive Outcome
  | nothing
  /-- What opening a port has returned. -/
  | opened (port : Nat) (result : Result)
  /-- What a call has returned. -/
  | returned (port : Nat) (call : Call) (reply : Reply)

/-- The link as a port finds it. -/
def Registry.seenBy (registry : Registry) (o : Opened Context) : VirtualLink :=
  match o.context.backend.link with
  | none => o.context.link
  | some i => registry i

/-- A port that has locked its link. -/
def Registry.lock (registry : Registry) (o : Opened Context) : Opened Context :=
  { o with context := { o.context with link := registry.seenBy o } }

/-- The registry after a port has had its link locked. -/
def Registry.unlock (registry : Registry) (o : Opened Context) : Registry :=
  match o.context.backend.link with
  | none => registry
  | some i => Function.update registry i o.context.link

/-- A call runs up to where it waits or returns. -/
def World.settle (w : World) (port : Nat) (pending : Pending) (x : Running) : World × Outcome :=
  match x with
  | .done o reply =>
    (⟨w.registry.unlock o, Function.update w.ports port (some (.idle o))⟩,
      .returned port pending.call reply)
  | .ask o q k =>
    (⟨w.registry.unlock o, Function.update w.ports port (some (.busy pending (.ask o q k)))⟩,
      .nothing)
  | .hang o =>
    (⟨w.registry.unlock o, Function.update w.ports port (some (.busy pending (.hang o)))⟩,
      .nothing)

/-- A port is opened: `simulator_construct`, and the port where it returns OK. -/
def World.openPort (w : World) (port : Nat) (linkId : UInt64) (e : EndpointIndex) :
    World × Outcome :=
  match attachBackend w.registry linkId e with
  | (.error result, registry) => ({ w with registry := registry }, .opened port result)
  | (.ok i, registry) =>
    (⟨registry, Function.update w.ports port (some (.idle
      ⟨Port.opened, ⟨{ simulatorConstruct linkId e with link := some i }, registry i⟩⟩))⟩,
      .opened port .ok)

/-- **One action.** What is not allowed does nothing: a port is opened where it is not open,
and closed or called where no call is under way. -/
def World.step (w : World) : Action → World × Outcome
  | .open port linkId e =>
    match w.ports port with
    | none => w.openPort port linkId e
    | some _ => (w, .nothing)
  | .close port =>
    match w.ports port with
    | some (.idle o) =>
      match o.context.backend.link with
      | none => ({ w with ports := Function.update w.ports port none }, .nothing)
      | some i =>
        (⟨detachBackend w.registry i o.context.backend.endpointIndex,
          Function.update w.ports port none⟩, .nothing)
    | _ => (w, .nothing)
  | .call port call =>
    match w.ports port with
    | some (.idle o) => w.settle port ⟨call, o⟩ (code fuel call (w.registry.lock o))
    | _ => (w, .nothing)
  | .wake port wake =>
    match w.ports port with
    | some (.busy pending (.ask o _ k)) =>
      w.settle port pending (k (wake, w.registry.seenBy o))
    | _ => (w, .nothing)
  | .fill port ref data =>
    match w.ports port with
    | some (.idle o) =>
      if o.port.applicationOwned (o.context.backend.load ref) then
        ({ w with ports := Function.update w.ports port (some (.idle { o with
            context := o.context.setBuffer ref
              { o.context.backend.load ref with data := data } })) }, .nothing)
      else (w, .nothing)
    | _ => (w, .nothing)

/-- A port that is open, as it is or was when the call was made that is under way. -/
def World.before (w : World) (port : Nat) : Option (Opened Context) :=
  (w.ports port).map PortActivity.before

/-- **The worlds there are.** -/
inductive Reachable : World → Prop
  | initial : Reachable World.initial
  | step {w : World} (h : Reachable w) (a : Action) : Reachable (w.step fuel a).1

/-- The world after a list of actions. -/
def World.after (actions : List Action) : World :=
  actions.foldl (fun w a => (w.step fuel a).1) World.initial

theorem Reachable.foldl {w : World} (h : Reachable fuel w) (actions : List Action) :
    Reachable fuel (actions.foldl (fun w a => (w.step fuel a).1) w) := by
  induction actions generalizing w with
  | nil => exact h
  | cons a actions ih => exact ih (h.step a)

theorem reachable_after (actions : List Action) : Reachable fuel (World.after fuel actions) :=
  Reachable.initial.foldl fuel actions

/-- Two ports of one link are opened and started. -/
def startPair : List Action :=
  [.open 0 7 0, .open 1 7 1, .call 0 .start, .call 1 .start]

end Simulator
