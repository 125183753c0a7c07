import SpwKit.Core.Calls
import SpwKit.Lib.Endpoint

/-!
# The driver backend: `driver_backend.c`

The backend stands between the port and a driver that somebody else has written,
the provider, which it reaches through a table of callbacks. What a callback
returns is the provider's business: any result, any descriptor, any token. So a
call is a program (`Interactive.Process`) whose requests are the callbacks and
whose answers are arbitrary. A callback does not re-enter the port, and so the
backend is the same before and after it.

For zero-copy the backend keeps a slot for each buffer that the provider has
handed out: the descriptor the application holds a pointer to, the provider's own
descriptor with its token, and whether the slot is in use. The first slots are for
sending and the others for receiving.
-/

open Interactive Core

namespace Driver

/-! ## Data -/

/-- A pointer of the provider's, which may be null. -/
abbrev Pointer := Option Nat

/-- `spw_driver_buffer_t`. -/
structure DriverBuffer where
  data : Pointer
  length : Nat
  capacity : Nat
  terminator : UInt8
  token : UInt64
deriving DecidableEq, Repr

/-- `spw_driver_sync_direction_t`. -/
inductive SyncDirection
  | toDevice | fromDevice
deriving DecidableEq, Repr

/-- `spw_driver_ops_t`: which of the callbacks that may be left out there are. -/
structure DriverOps where
  sendTimeCode : Bool
  receiveTimeCode : Bool
  getStatistics : Bool
  clearStatistics : Bool
  syncBuffer : Bool
  /-- The six callbacks of zero-copy, which come together. -/
  completeDmaOps : Bool
deriving DecidableEq, Repr

/-- `spw_driver_config_t`. -/
structure DriverConfig where
  ops : DriverOps
  txBufferSlots : Nat
  rxBufferSlots : Nat
deriving DecidableEq, Repr

namespace DriverConfig

variable (config : DriverConfig)

/-- `zero_copy_enabled_config`. -/
def zeroCopyEnabled : Bool :=
  config.ops.completeDmaOps && decide (config.txBufferSlots ≠ 0)
    && decide (config.rxBufferSlots ≠ 0)

/-- `tx_slot_count`, as `driver_construct` sets it. -/
def txSlotCount : Nat := if config.zeroCopyEnabled then config.txBufferSlots else 0

/-- `rx_slot_count`, as `driver_construct` sets it. -/
def rxSlotCount : Nat := if config.zeroCopyEnabled then config.rxBufferSlots else 0

/-- A place in the array of slots. -/
abbrev SlotIndex := Fin (config.txSlotCount + config.rxSlotCount)

end DriverConfig

/-- `spw_driver_buffer_slot_t`. -/
structure Slot where
  buffer : Buffer Pointer
  driverBuffer : DriverBuffer
  active : Bool
deriving DecidableEq, Repr

/-- `clear_slot`. -/
def Slot.cleared : Slot where
  buffer :=
    { data := none, length := 0, capacity := 0, terminator := 0, owner := false,
      direction := none, state := .free, token := 0, ownerEpoch := false, epoch := 0 }
  driverBuffer := ⟨none, 0, 0, 0, 0⟩
  active := false

/-- `spw_driver_backend_t`. -/
structure DriverBackend (config : DriverConfig) where
  slots : config.SlotIndex → Slot

variable {config : DriverConfig}

/-- `clear_slots`, and `driver_construct`. -/
def clearSlots : DriverBackend config := ⟨fun _ => .cleared⟩

namespace DriverBackend

variable (b : DriverBackend config)

/-- Change a slot. -/
def update (i : config.SlotIndex) (slot : Slot) : DriverBackend config :=
  ⟨Function.update b.slots i slot⟩

/-- `find_free_slot`. -/
def findFreeSlot (first count : Nat) : Option config.SlotIndex :=
  (List.finRange _).find? fun i =>
    decide (first ≤ i.val) && decide (i.val < first + count) && !(b.slots i).active

/-- `token_in_use`. -/
def tokenInUse (token : UInt64) : Bool :=
  (List.finRange _).any fun i =>
    (b.slots i).active && decide ((b.slots i).driverBuffer.token = token)

/-- `find_slot_for_public_buffer`. -/
def findSlotForPublicBuffer (ref : config.SlotIndex) (direction : BufferDirection) :
    Option config.SlotIndex :=
  (List.finRange _).find? fun i =>
    (b.slots i).active && decide (i = ref) && (b.slots i).buffer.owner
      && decide ((b.slots i).buffer.direction = some direction)

/-- `find_tx_slot_for_token`. -/
def findTxSlotForToken (token : UInt64) : Option config.SlotIndex :=
  (List.finRange _).find? fun i =>
    decide (i.val < config.txSlotCount) && (b.slots i).active
      && decide ((b.slots i).driverBuffer.token = token)
      && decide ((b.slots i).buffer.state = .backend)

end DriverBackend

/-- `validate_driver_buffer`. -/
def validateDriverBuffer (buffer : DriverBuffer) (requirePacketMetadata : Bool) : Result :=
  if buffer.length > buffer.capacity ∨ (buffer.capacity ≠ 0 ∧ buffer.data.isNone) then .backend
  else if requirePacketMetadata = true ∧ validTerminator buffer.terminator = false then .backend
  else .ok

/-- `expose_slot`, of a slot with the provider's descriptor. -/
def exposeSlot (slot : Slot) (descriptor : DriverBuffer) (token : Nat)
    (direction : BufferDirection) (state : BufferState) : Slot where
  buffer := { slot.buffer with
    data := descriptor.data
    length := descriptor.length
    capacity := descriptor.capacity
    terminator := descriptor.terminator
    owner := true
    direction := some direction
    state := state
    token := token }
  driverBuffer := descriptor
  active := true

/-- The length and the terminator that the application has set are the provider's, too. -/
def Slot.withMetadata (slot : Slot) : Slot :=
  { slot with driverBuffer := { slot.driverBuffer with
      length := slot.buffer.length, terminator := slot.buffer.terminator } }

/-! ## Callbacks -/

/-- **The callbacks** of a provider, with what they are called with. -/
inductive Callback
  | start | stop | reset | getLinkState
  | send (packet : PortPacket) (timeoutUs : Timeout)
  | receive (buffer : ReceiveBuffer) (timeoutUs : Timeout)
  | sendTimeCode (code : TimeCode) (timeoutUs : Timeout)
  | receiveTimeCode (timeoutUs : Timeout)
  | getStatistics | clearStatistics
  | acquireTxBuffer (minCapacity : Nat) (timeoutUs : Timeout)
  | submitTxBuffer (buffer : DriverBuffer) (timeoutUs : Timeout)
  | reclaimTxBuffer (timeoutUs : Timeout)
  | releaseTxBuffer (buffer : DriverBuffer)
  | acquireRxBuffer (timeoutUs : Timeout)
  | releaseRxBuffer (buffer : DriverBuffer)
  | syncBuffer (buffer : DriverBuffer) (direction : SyncDirection)

/-- What a callback returns: a result, and what it has written. -/
def Callback.Answer : Callback → Type
  | .getLinkState => Result × Option LinkState
  | .receive _ _ => Result × Option PacketOut
  | .receiveTimeCode _ => Result × Option TimeCode
  | .getStatistics => Result × Option Statistics
  | .acquireTxBuffer _ _ | .reclaimTxBuffer _ | .acquireRxBuffer _ => Result × DriverBuffer
  | _ => Result

/-- **A program of the driver backend.** -/
abbrev Drv (config : DriverConfig) := Process Callback Callback.Answer (DriverBackend config)

/-- Call back. -/
def callback (q : Callback) : Drv config q.Answer := Process.request q

/-! ## Lifecycle and copied transfers -/

/-- `driver_start`. -/
def driverStart : Drv config Result := callback .start

/-- `driver_stop`. -/
def driverStop : Drv config Result := callback .stop

/-- `driver_reset`. -/
def driverReset : Drv config Result := do
  let result : Result ← callback .reset
  if result = .ok then
    set (clearSlots : DriverBackend config)
  return result

/-- `driver_get_link_state`. -/
def driverGetLinkState : Drv config (Result × Option LinkState) := callback .getLinkState

/-- `driver_send`. -/
def driverSend (packet : PortPacket) (timeoutUs : Timeout) : Drv config Result :=
  callback (.send packet timeoutUs)

/-- `driver_receive`. -/
def driverReceive (buffer : ReceiveBuffer) (timeoutUs : Timeout) :
    Drv config (Result × Option PacketOut) :=
  callback (.receive buffer timeoutUs)

/-- `driver_send_time_code`. -/
def driverSendTimeCode (code : TimeCode) (timeoutUs : Timeout) : Drv config Result :=
  if config.ops.sendTimeCode then callback (.sendTimeCode code timeoutUs)
  else pure .unsupported

/-- `driver_receive_time_code`. -/
def driverReceiveTimeCode (timeoutUs : Timeout) : Drv config (Result × Option TimeCode) :=
  if config.ops.receiveTimeCode then callback (.receiveTimeCode timeoutUs)
  else pure (.unsupported, none)

/-- `driver_get_statistics`. -/
def driverGetStatistics : Drv config (Result × Option Statistics) :=
  if config.ops.getStatistics then callback .getStatistics
  else pure (.unsupported, some {})

/-- `driver_clear_statistics`. -/
def driverClearStatistics : Drv config Result :=
  if config.ops.clearStatistics then callback .clearStatistics else pure .unsupported

/-- `DRIVER_OPS`. -/
def driverOps (config : DriverConfig) :
    BackendOps Callback Callback.Answer (DriverBackend config) where
  start := driverStart
  stop := driverStop
  reset := driverReset
  getLinkState := driverGetLinkState
  send := driverSend
  receive := driverReceive
  sendTimeCode := driverSendTimeCode
  receiveTimeCode := driverReceiveTimeCode
  getStatistics := driverGetStatistics
  clearStatistics := driverClearStatistics

/-! ## Zero-copy -/

/-- `sync_buffer`, where there is one. -/
def syncBuffer (buffer : DriverBuffer) (direction : SyncDirection) : Drv config Result :=
  if config.ops.syncBuffer then callback (.syncBuffer buffer direction) else pure .ok

/-- `driver_acquire_tx_buffer`. -/
def driverAcquireTxBuffer (minCapacity : Nat) (timeoutUs : Timeout) :
    Drv config (Result × Option config.SlotIndex) := do
  let b ← get
  match b.findFreeSlot 0 config.txSlotCount with
  | none => return (.resourceExhausted, none)
  | some i =>
    let answer : Result × DriverBuffer ← callback (.acquireTxBuffer minCapacity timeoutUs)
    let (result, descriptor) := answer
    if result ≠ .ok then return (result, none)
    else if validateDriverBuffer descriptor false ≠ .ok ∨ descriptor.capacity < minCapacity
        ∨ b.tokenInUse descriptor.token = true then
      let _ : Result ← callback (.releaseTxBuffer descriptor)
      return (.backend, none)
    else
      let descriptor := { descriptor with length := 0, terminator := Terminator.eop.toByte }
      set (b.update i (exposeSlot (b.slots i) descriptor i.val .tx .application))
      return (.ok, some i)

/-- `driver_submit_tx_buffer`. -/
def driverSubmitTxBuffer (ref : config.SlotIndex) (timeoutUs : Timeout) : Drv config Result := do
  let b ← get
  match b.findSlotForPublicBuffer ref .tx with
  | none => return .invalidState
  | some i =>
    if (b.slots i).buffer.state ≠ .application then return .invalidState
    else
      let slot := (b.slots i).withMetadata
      set (b.update i slot)
      if validTerminator slot.driverBuffer.terminator = false
          ∨ slot.driverBuffer.length > slot.driverBuffer.capacity then return .invalidPacket
      else
        let synced ← syncBuffer slot.driverBuffer .toDevice
        if synced ≠ .ok then return synced
        else
          let result : Result ← callback (.submitTxBuffer slot.driverBuffer timeoutUs)
          if result = .ok then
            set (b.update i { slot with buffer := { slot.buffer with state := .backend } })
          return result

/-- `driver_reclaim_tx_buffer`. -/
def driverReclaimTxBuffer (timeoutUs : Timeout) :
    Drv config (Result × Option config.SlotIndex) := do
  let answer : Result × DriverBuffer ← callback (.reclaimTxBuffer timeoutUs)
  let (result, descriptor) := answer
  if result ≠ .ok then return (result, none)
  else
    let b ← get
    match b.findTxSlotForToken descriptor.token with
    | none => return (.backend, none)
    | some i =>
      if validateDriverBuffer descriptor false ≠ .ok then return (.backend, none)
      else
        set (b.update i (exposeSlot (b.slots i) descriptor i.val .tx .application))
        return (.ok, some i)

/-- `driver_release_tx_buffer`. -/
def driverReleaseTxBuffer (ref : config.SlotIndex) : Drv config Result := do
  let b ← get
  match b.findSlotForPublicBuffer ref .tx with
  | none => return .invalidState
  | some i =>
    if (b.slots i).buffer.state ≠ .application then return .invalidState
    else
      let slot := (b.slots i).withMetadata
      set (b.update i slot)
      let result : Result ← callback (.releaseTxBuffer slot.driverBuffer)
      if result = .ok then
        set (b.update i .cleared)
      return result

/-- `driver_acquire_rx_buffer`. -/
def driverAcquireRxBuffer (timeoutUs : Timeout) :
    Drv config (Result × Option config.SlotIndex) := do
  let b ← get
  match b.findFreeSlot config.txSlotCount config.rxSlotCount with
  | none => return (.resourceExhausted, none)
  | some i =>
    let answer : Result × DriverBuffer ← callback (.acquireRxBuffer timeoutUs)
    let (result, descriptor) := answer
    if result ≠ .ok then return (result, none)
    else if validateDriverBuffer descriptor true ≠ .ok
        ∨ b.tokenInUse descriptor.token = true then
      let _ : Result ← callback (.releaseRxBuffer descriptor)
      return (.backend, none)
    else
      let synced ← syncBuffer descriptor .fromDevice
      if synced ≠ .ok then
        let _ : Result ← callback (.releaseRxBuffer descriptor)
        return (synced, none)
      else
        set (b.update i (exposeSlot (b.slots i) descriptor i.val .rx .application))
        return (.ok, some i)

/-- `driver_release_rx_buffer`. -/
def driverReleaseRxBuffer (ref : config.SlotIndex) : Drv config Result := do
  let b ← get
  match b.findSlotForPublicBuffer ref .rx with
  | none => return .invalidState
  | some i =>
    if (b.slots i).buffer.state ≠ .application then return .invalidState
    else
      let result : Result ← callback (.releaseRxBuffer (b.slots i).driverBuffer)
      if result = .ok then
        set (b.update i .cleared)
      return result

/-- `DRIVER_DMA_OPS`, where `spw_driver_backend_factory` chooses it. -/
def driverBuffers (config : DriverConfig) :
    BufferOps Callback Callback.Answer (DriverBackend config) Pointer config.SlotIndex where
  supported _ := config.zeroCopyEnabled
  load b ref := (b.slots ref).buffer
  store ref buffer b := b.update ref { b.slots ref with buffer := buffer }
  acquireTxBuffer := driverAcquireTxBuffer
  submitTxBuffer := driverSubmitTxBuffer
  reclaimTxBuffer := driverReclaimTxBuffer
  releaseTxBuffer := driverReleaseTxBuffer
  acquireRxBuffer := driverAcquireRxBuffer
  releaseRxBuffer := driverReleaseRxBuffer

/-! ## Runs -/

/-- A call on a driver port. -/
abbrev Call (config : DriverConfig) := Core.Call config.SlotIndex

/-- What it returns. -/
abbrev Reply (config : DriverConfig) := Core.Reply Pointer config.SlotIndex

/-- The code of a call. -/
def code (call : Call config) :
    Process Callback Callback.Answer (Opened (DriverBackend config)) (Reply config) :=
  call.run (driverOps config) (driverBuffers config)

/-- A callback that the provider has answered, with the port as it was. -/
abbrev Exchange (config : DriverConfig) :=
  Interactive.Exchange Callback Callback.Answer (Opened (DriverBackend config))

/-- **A driver port**: what it is doing, the callbacks it has made so far, and the calls that
have returned. -/
abbrev DriverPort (config : DriverConfig) :=
  Endpoint Callback Callback.Answer (Opened (DriverBackend config)) (List (Exchange config))
    (Call config) (Reply config)

/-- A port that has been opened. -/
def DriverPort.opened (config : DriverConfig) : DriverPort config :=
  ⟨.idle ⟨.opened, clearSlots⟩, [], []⟩

/-- What happens: a call is made, or the provider answers. -/
inductive Action (config : DriverConfig)
  | call (call : Call config)
  | answer (reply : (q : Callback) → q.Answer)

/-- Any answer will do. -/
def provides (o : Opened (DriverBackend config)) (out : List (Exchange config)) (q : Callback)
    (r : q.Answer) : Option (List (Exchange config)) :=
  some (out ++ [⟨o, q, r⟩])

/-- **One action.** What cannot happen changes nothing. -/
def DriverPort.step (p : DriverPort config) : Action config → DriverPort config
  | .call call => (p.begin code call).getD p
  | .answer reply => (p.answer provides reply).getD p

/-- **A run**: any calls, and any answers of the provider. -/
def DriverPort.run (config : DriverConfig) (actions : List (Action config)) : DriverPort config :=
  actions.foldl DriverPort.step (.opened config)

end Driver
