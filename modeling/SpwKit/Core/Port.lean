import SpwKit.Lib.Component
import SpwKit.Types

/-!
# The port: `port.c`

A port is what an application holds. It keeps two words of its own, whether it was
started and the epoch its buffers belong to, and passes every call on to the
backend it was opened with, through a table of functions. What a caller hands in
is checked here, the same way for every backend; only then is the backend called.
A call of a transfer on a port that was not started never reaches its backend.

A zero-copy buffer is a descriptor in the backend's memory that the application
holds a pointer to. Whether the application owns it is written in the descriptor:
its state, and the epoch the port had when the buffer was last handed out. A
pointer is a place of the backend (`BufferHandle.own`), or points to a descriptor
of another port.
-/

open Interactive

namespace Core

/-! ## Data -/

/-- `spw_port_t`, of a port that is open. -/
structure Port where
  locallyStarted : Bool
  ownershipEpoch : UInt64
deriving DecidableEq, Repr

/-- The port as `spw_port_open_in_place` leaves it. -/
def Port.opened : Port := ⟨false, 1⟩

/-- `spw_packet_t` as an application hands it in for sending. -/
structure PortPacket extends SendPacket where
  capacity : Nat

/-- The packet that is sent. Its terminator is one where the port has checked it. -/
def PortPacket.packet (p : PortPacket) : Packet :=
  ⟨p.bytes, (Terminator.ofByte p.terminator).getD .eop⟩

/-- What a receive has written to the caller's packet: the length and the terminator,
and the bytes where they were copied. -/
structure PacketOut where
  length : Nat
  terminator : Terminator
  bytes : Option Bytes
deriving DecidableEq, Repr

/-- `valid_terminator`. -/
def validTerminator (terminator : UInt8) : Bool := (Terminator.ofByte terminator).isSome

/-- `valid_time_code` of the port, the loopback and the simulator: a count of six bits and
no flags. -/
def validTimeCode (code : TimeCode) : Bool :=
  decide (code.timeCount ≤ 63) && decide (code.controlFlags = 0)

/-- `spw_buffer_direction_internal_t`. -/
inductive BufferDirection
  | tx | rx
deriving DecidableEq, Repr

/-- `spw_buffer_state_internal_t`. -/
inductive BufferState
  | free | application | backend | completed
deriving DecidableEq, Repr

/-- `struct spw_buffer`. A descriptor that is zeroed has no direction and no owner; the
owner's epoch is the port's, or there is none. -/
structure Buffer (δ : Type) where
  data : δ
  length : Nat
  capacity : Nat
  terminator : UInt8
  owner : Bool
  direction : Option BufferDirection
  state : BufferState
  token : Nat
  ownerEpoch : Bool
  epoch : UInt64
deriving DecidableEq, Repr

/-- `spw_buffer_view_t`. -/
structure BufferView (δ : Type) where
  data : δ
  length : Nat
  capacity : Nat
  terminator : UInt8
deriving DecidableEq, Repr

/-- A pointer to a buffer that is not null. -/
inductive BufferHandle (β : Type)
  /-- A descriptor of this port's backend. -/
  | own (ref : β)
  /-- A descriptor of another port. -/
  | foreign
deriving DecidableEq, Repr

variable {δ β : Type}

/-- `application_owned`. -/
def Port.applicationOwned (port : Port) (buffer : Buffer δ) : Bool :=
  decide (buffer.state = .application) && buffer.ownerEpoch
    && decide (buffer.epoch = port.ownershipEpoch)

/-- `bind_buffer_epoch`. -/
def Port.bindBufferEpoch (port : Port) (buffer : Buffer δ) : Buffer δ :=
  { buffer with ownerEpoch := true, epoch := port.ownershipEpoch }

/-- The epoch after a reset, which is never 0. -/
def Port.nextEpoch (port : Port) : UInt64 :=
  if port.ownershipEpoch + 1 = 0 then 1 else port.ownershipEpoch + 1

/-- A port with the context of its backend. -/
structure Opened (σ : Type) where
  port : Port
  context : σ

/-! ## Backends -/

variable {Req : Type} {Ans : Req → Type} {σ α : Type}

/-- `spw_backend_ops_t`: the functions every backend has. -/
structure BackendOps (Req : Type) (Ans : Req → Type) (σ : Type) where
  start : Process Req Ans σ Result
  stop : Process Req Ans σ Result
  reset : Process Req Ans σ Result
  getLinkState : Process Req Ans σ (Result × Option LinkState)
  send : PortPacket → Timeout → Process Req Ans σ Result
  receive : ReceiveBuffer → Timeout → Process Req Ans σ (Result × Option PacketOut)
  sendTimeCode : TimeCode → Timeout → Process Req Ans σ Result
  receiveTimeCode : Timeout → Process Req Ans σ (Result × Option TimeCode)
  getStatistics : Process Req Ans σ (Result × Option Statistics)
  clearStatistics : Process Req Ans σ Result

/-- `spw_backend_ops_t`: the zero-copy functions, and the memory of the descriptors. -/
structure BufferOps (Req : Type) (Ans : Req → Type) (σ δ β : Type) where
  /-- Whether the table has the functions at all. -/
  supported : σ → Bool
  load : σ → β → Buffer δ
  store : β → Buffer δ → σ → σ
  acquireTxBuffer : Nat → Timeout → Process Req Ans σ (Result × Option β)
  submitTxBuffer : β → Timeout → Process Req Ans σ Result
  reclaimTxBuffer : Timeout → Process Req Ans σ (Result × Option β)
  releaseTxBuffer : β → Process Req Ans σ Result
  acquireRxBuffer : Timeout → Process Req Ans σ (Result × Option β)
  releaseRxBuffer : β → Process Req Ans σ Result

/-- A backend without zero-copy: the functions are not there, and there is no descriptor. -/
def noBuffers (Req : Type) (Ans : Req → Type) (σ : Type) : BufferOps Req Ans σ Unit Empty where
  supported _ := false
  load _ ref := ref.elim
  store ref _ _ := ref.elim
  acquireTxBuffer _ _ := pure (.unsupported, none)
  submitTxBuffer ref _ := ref.elim
  reclaimTxBuffer _ := pure (.unsupported, none)
  releaseTxBuffer ref := ref.elim
  acquireRxBuffer _ := pure (.unsupported, none)
  releaseRxBuffer ref := ref.elim

/-- A call of the backend. -/
def onContext (p : Process Req Ans σ α) : Process Req Ans (Opened σ) α :=
  p.within Opened.context (fun o context => { o with context := context })

theorem onContext_done {p : Process Req Ans σ α} {o : Opened σ} {c : σ} {a : α}
    (h : p o.context = .done c a) : onContext p o = .done ⟨o.port, c⟩ a := by
  rw [onContext, Process.within_apply, h]
  rfl

/-! ## Lifecycle and copied transfers -/

section Calls

variable (ops : BackendOps Req Ans σ)

/-- `spw_port_start`. -/
def spwPortStart : Process Req Ans (Opened σ) Result := do
  let result ← onContext ops.start
  if result = .ok then
    modify fun o => { o with port := { o.port with locallyStarted := true } }
  return result

/-- `spw_port_stop`. -/
def spwPortStop : Process Req Ans (Opened σ) Result := do
  let result ← onContext ops.stop
  if result = .ok then
    modify fun o => { o with port := { o.port with locallyStarted := false } }
  return result

/-- `spw_port_reset`. -/
def spwPortReset : Process Req Ans (Opened σ) Result := do
  let result ← onContext ops.reset
  if result = .ok then
    modify fun o => { o with port := ⟨false, o.port.nextEpoch⟩ }
  return result

/-- Where a call of the backend has returned OK, the port is changed. -/
theorem onContext_change (p : Process Req Ans σ Result) (change : Port → Port) (o : Opened σ) :
    (do
      let result ← onContext p
      if result = .ok then modify fun o => { o with port := change o.port }
      return result : Process Req Ans (Opened σ) Result) o
      = (onContext p o).bind fun result o' =>
          .done (if result = .ok then { o' with port := change o'.port } else o') result := by
  refine congrArg (Step.bind _) (funext fun result => funext fun o' => ?_)
  show (if result = .ok then _ else _ : Process Req Ans (Opened σ) Result) o' = _
  split_ifs <;> rfl

/-- `spw_port_get_link_state`. -/
def spwPortGetLinkState : Process Req Ans (Opened σ) (Result × Option LinkState) :=
  onContext ops.getLinkState

/-- `spw_port_send`. -/
def spwPortSend (packet : Option PortPacket) (timeoutUs : Timeout) :
    Process Req Ans (Opened σ) Result := do
  match packet with
  | none => return .invalidArgument
  | some packet =>
    if packet.length ≠ 0 ∧ packet.data.isNone then return .invalidArgument
    else if validTerminator packet.terminator = false
        ∨ (packet.capacity ≠ 0 ∧ packet.capacity < packet.length) then return .invalidPacket
    else
      let o ← get
      if o.port.locallyStarted = false then return .invalidState
      else onContext (ops.send packet timeoutUs)

/-- `spw_port_receive`. -/
def spwPortReceive (buffer : Option ReceiveBuffer) (timeoutUs : Timeout) :
    Process Req Ans (Opened σ) (Result × Option PacketOut) := do
  match buffer with
  | none => return (.invalidArgument, none)
  | some buffer =>
    if buffer.capacity ≠ 0 ∧ buffer.hasData = false then return (.invalidArgument, none)
    else
      let o ← get
      if o.port.locallyStarted = false then return (.invalidState, none)
      else onContext (ops.receive buffer timeoutUs)

/-- `spw_port_send_time_code`. -/
def spwPortSendTimeCode (code : Option TimeCode) (timeoutUs : Timeout) :
    Process Req Ans (Opened σ) Result := do
  match code with
  | none => return .invalidArgument
  | some code =>
    if validTimeCode code = false then return .invalidArgument
    else
      let o ← get
      if o.port.locallyStarted = false then return .invalidState
      else onContext (ops.sendTimeCode code timeoutUs)

/-- `spw_port_receive_time_code`, with whether there is a place for the time code. -/
def spwPortReceiveTimeCode (hasCode : Bool) (timeoutUs : Timeout) :
    Process Req Ans (Opened σ) (Result × Option TimeCode) := do
  if hasCode = false then return (.invalidArgument, none)
  else
    let o ← get
    if o.port.locallyStarted = false then return (.invalidState, none)
    else onContext (ops.receiveTimeCode timeoutUs)

section Started

variable {o : Opened σ} (hstarted : o.port.locallyStarted = true) (timeoutUs : Timeout)

include hstarted

/-- A send on a port that was started, with what is checked first. -/
theorem spwPortSend_started (packet : PortPacket) :
    spwPortSend ops (some packet) timeoutUs o =
      if packet.length ≠ 0 ∧ packet.data.isNone then .done o .invalidArgument
      else if validTerminator packet.terminator = false
          ∨ (packet.capacity ≠ 0 ∧ packet.capacity < packet.length) then .done o .invalidPacket
      else onContext (ops.send packet timeoutUs) o := by
  unfold spwPortSend
  dsimp only
  split_ifs
  · rfl
  · rfl
  · rw [Process.bind_apply, Process.get_apply, Step.bind_done, if_neg (by simp [hstarted])]

theorem spwPortReceive_started (buffer : ReceiveBuffer) :
    spwPortReceive ops (some buffer) timeoutUs o =
      if buffer.capacity ≠ 0 ∧ buffer.hasData = false then .done o (.invalidArgument, none)
      else onContext (ops.receive buffer timeoutUs) o := by
  unfold spwPortReceive
  dsimp only
  split_ifs
  · rfl
  · rw [Process.bind_apply, Process.get_apply, Step.bind_done, if_neg (by simp [hstarted])]

theorem spwPortSendTimeCode_started (code : TimeCode) :
    spwPortSendTimeCode ops (some code) timeoutUs o =
      if validTimeCode code = false then .done o .invalidArgument
      else onContext (ops.sendTimeCode code timeoutUs) o := by
  unfold spwPortSendTimeCode
  dsimp only
  split_ifs
  · rfl
  · rw [Process.bind_apply, Process.get_apply, Step.bind_done, if_neg (by simp [hstarted])]

theorem spwPortReceiveTimeCode_started :
    spwPortReceiveTimeCode ops true timeoutUs o = onContext (ops.receiveTimeCode timeoutUs) o := by
  unfold spwPortReceiveTimeCode
  rw [if_neg (by simp), Process.bind_apply, Process.get_apply, Step.bind_done,
    if_neg (by simp [hstarted])]

end Started

/-- `spw_port_get_statistics`. -/
def spwPortGetStatistics : Process Req Ans (Opened σ) (Result × Option Statistics) :=
  onContext ops.getStatistics

/-- `spw_port_clear_statistics`. -/
def spwPortClearStatistics : Process Req Ans (Opened σ) Result := onContext ops.clearStatistics

end Calls

/-! ## Zero-copy -/

section Buffers

variable (buffers : BufferOps Req Ans σ δ β)

/-- `buffer_owned_by_port`. A descriptor of another port points to that port's epoch. -/
def ownedByPort (o : Opened σ) : BufferHandle β → Bool
  | .own ref => o.port.applicationOwned (buffers.load o.context ref)
  | .foreign => false

/-- Change a descriptor. -/
def Opened.setBuffer (o : Opened σ) (ref : β) (buffer : Buffer δ) : Opened σ :=
  { o with context := buffers.store ref buffer o.context }

/-- `spw_buffer_get_view`. -/
def spwBufferGetView (ref : β) :
    Process Req Ans (Opened σ) (Result × Option (BufferView δ)) := do
  let o ← get
  let buffer := buffers.load o.context ref
  if o.port.applicationOwned buffer = false then return (.invalidState, none)
  else return (.ok, some ⟨buffer.data, buffer.length, buffer.capacity, buffer.terminator⟩)

/-- `spw_buffer_set_packet`. -/
def spwBufferSetPacket (ref : β) (length : Nat) (terminator : UInt8) :
    Process Req Ans (Opened σ) Result := do
  let o ← get
  let buffer := buffers.load o.context ref
  if o.port.applicationOwned buffer = false then return .invalidState
  else if buffer.direction ≠ some .tx then return .invalidState
  else if length > buffer.capacity ∨ validTerminator terminator = false then
    return .invalidPacket
  else
    set (o.setBuffer buffers ref { buffer with length := length, terminator := terminator })
    return .ok

/-- A buffer that the backend hands out is bound to the port's epoch. -/
def handOut (acquire : Process Req Ans σ (Result × Option β)) :
    Process Req Ans (Opened σ) (Result × Option (BufferHandle β)) := do
  let o ← get
  if o.port.locallyStarted = false then return (.invalidState, none)
  else if buffers.supported o.context = false then return (.unsupported, none)
  else
    let (result, out) ← onContext acquire
    match out with
    | none => return (result, none)
    | some ref =>
      if result = .ok then
        modify fun o =>
          o.setBuffer buffers ref (o.port.bindBufferEpoch (buffers.load o.context ref))
      return (result, some (.own ref))

/-- `spw_port_acquire_tx_buffer`. -/
def spwPortAcquireTxBuffer (minCapacity : Nat) (timeoutUs : Timeout) :
    Process Req Ans (Opened σ) (Result × Option (BufferHandle β)) :=
  handOut buffers (buffers.acquireTxBuffer minCapacity timeoutUs)

/-- `spw_port_reclaim_tx_buffer`. -/
def spwPortReclaimTxBuffer (timeoutUs : Timeout) :
    Process Req Ans (Opened σ) (Result × Option (BufferHandle β)) :=
  handOut buffers (buffers.reclaimTxBuffer timeoutUs)

/-- `spw_port_acquire_rx_buffer`. -/
def spwPortAcquireRxBuffer (timeoutUs : Timeout) :
    Process Req Ans (Opened σ) (Result × Option (BufferHandle β)) :=
  handOut buffers (buffers.acquireRxBuffer timeoutUs)

/-- A buffer that the application gives back: where the backend takes it, the caller's
pointer is cleared. -/
def giveBack (handle : BufferHandle β) (give : β → Process Req Ans σ Result) :
    Process Req Ans (Opened σ) (Result × Option (BufferHandle β)) := do
  let o ← get
  if ownedByPort buffers o handle = false then return (.invalidState, some handle)
  else if buffers.supported o.context = false then return (.unsupported, some handle)
  else
    match handle with
    | .foreign => return (.invalidState, some handle)
    | .own ref =>
      let result ← onContext (give ref)
      return (result, if result = .ok then none else some handle)

/-- `spw_port_submit_tx_buffer`, with the caller's pointer afterwards. -/
def spwPortSubmitTxBuffer (handle : Option (BufferHandle β)) (timeoutUs : Timeout) :
    Process Req Ans (Opened σ) (Result × Option (BufferHandle β)) := do
  match handle with
  | none => return (.invalidArgument, none)
  | some handle =>
    let o ← get
    if o.port.locallyStarted = false then return (.invalidState, some handle)
    else giveBack buffers handle (fun ref => buffers.submitTxBuffer ref timeoutUs)

/-- `spw_port_release_tx_buffer`, with the caller's pointer afterwards. -/
def spwPortReleaseTxBuffer (handle : Option (BufferHandle β)) :
    Process Req Ans (Opened σ) (Result × Option (BufferHandle β)) := do
  match handle with
  | none => return (.invalidArgument, none)
  | some handle => giveBack buffers handle buffers.releaseTxBuffer

/-- `spw_port_release_rx_buffer`, with the caller's pointer afterwards. -/
def spwPortReleaseRxBuffer (handle : Option (BufferHandle β)) :
    Process Req Ans (Opened σ) (Result × Option (BufferHandle β)) := do
  match handle with
  | none => return (.invalidArgument, none)
  | some handle => giveBack buffers handle buffers.releaseRxBuffer

end Buffers

/-! ## Calls -/

/-- **A call of the public interface**, with its arguments. -/
inductive Call (β : Type)
  | start | stop | reset | getLinkState
  | send (packet : Option PortPacket) (timeoutUs : Timeout)
  | receive (buffer : Option ReceiveBuffer) (timeoutUs : Timeout)
  | sendTimeCode (code : Option TimeCode) (timeoutUs : Timeout)
  | receiveTimeCode (hasCode : Bool) (timeoutUs : Timeout)
  | getStatistics | clearStatistics
  | getView (ref : β)
  | setPacket (ref : β) (length : Nat) (terminator : UInt8)
  | acquireTx (minCapacity : Nat) (timeoutUs : Timeout)
  | submitTx (handle : Option (BufferHandle β)) (timeoutUs : Timeout)
  | reclaimTx (timeoutUs : Timeout)
  | releaseTx (handle : Option (BufferHandle β))
  | acquireRx (timeoutUs : Timeout)
  | releaseRx (handle : Option (BufferHandle β))

/-- **What a call returns**: the result, and what it has written to its caller. -/
structure Reply (δ β : Type) where
  result : Result
  linkState : Option LinkState := none
  packet : Option PacketOut := none
  timeCode : Option TimeCode := none
  statistics : Option Statistics := none
  view : Option (BufferView δ) := none
  /-- The caller's pointer after a zero-copy call. -/
  handle : Option (BufferHandle β) := none
deriving DecidableEq, Repr

/-- **The code of a call.** -/
def Call.run (ops : BackendOps Req Ans σ) (buffers : BufferOps Req Ans σ δ β) :
    Call β → Process Req Ans (Opened σ) (Reply δ β)
  | .start => do return { result := ← spwPortStart ops }
  | .stop => do return { result := ← spwPortStop ops }
  | .reset => do return { result := ← spwPortReset ops }
  | .getLinkState => do
    let (result, state) ← spwPortGetLinkState ops
    return { result := result, linkState := state }
  | .send packet timeoutUs => do return { result := ← spwPortSend ops packet timeoutUs }
  | .receive buffer timeoutUs => do
    let (result, packet) ← spwPortReceive ops buffer timeoutUs
    return { result := result, packet := packet }
  | .sendTimeCode code timeoutUs => do
    return { result := ← spwPortSendTimeCode ops code timeoutUs }
  | .receiveTimeCode hasCode timeoutUs => do
    let (result, code) ← spwPortReceiveTimeCode ops hasCode timeoutUs
    return { result := result, timeCode := code }
  | .getStatistics => do
    let (result, statistics) ← spwPortGetStatistics ops
    return { result := result, statistics := statistics }
  | .clearStatistics => do return { result := ← spwPortClearStatistics ops }
  | .getView ref => do
    let (result, view) ← spwBufferGetView buffers ref
    return { result := result, view := view }
  | .setPacket ref length terminator => do
    return { result := ← spwBufferSetPacket buffers ref length terminator }
  | .acquireTx minCapacity timeoutUs => do
    let (result, handle) ← spwPortAcquireTxBuffer buffers minCapacity timeoutUs
    return { result := result, handle := handle }
  | .submitTx handle timeoutUs => do
    let (result, handle) ← spwPortSubmitTxBuffer buffers handle timeoutUs
    return { result := result, handle := handle }
  | .reclaimTx timeoutUs => do
    let (result, handle) ← spwPortReclaimTxBuffer buffers timeoutUs
    return { result := result, handle := handle }
  | .releaseTx handle => do
    let (result, handle) ← spwPortReleaseTxBuffer buffers handle
    return { result := result, handle := handle }
  | .acquireRx timeoutUs => do
    let (result, handle) ← spwPortAcquireRxBuffer buffers timeoutUs
    return { result := result, handle := handle }
  | .releaseRx handle => do
    let (result, handle) ← spwPortReleaseRxBuffer buffers handle
    return { result := result, handle := handle }

end Core
