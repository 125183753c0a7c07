import SpwKit.Types
import SpwKit.Lib.RingBuffer
import SpwKit.Cuse.VspwCuseRecord

/-!
# The presenter of the character device

`spwcuse` stands between the users of `/dev/vspwX` and a port. The callbacks of the
file system put reads and writes into two rings; the broker, a thread of its own,
answers reads from a third ring, of records, passes writes on to the port and fetches
what the port has received. One mutex guards the rings.

The broker is given by the places it can be at between two sections under the
mutex or two calls of the port (`Broker`), and by what it does from each of them
(`Broker.step`). A callback is one section under the mutex and the replies that follow
it (`Callback.run`). An interleaving is a list of actions (`Presenter.run`).

The history keeps what was replied, what the port handed over, what was passed on
to it, and the writes that were queued. The code reads none of it.
-/

namespace Cuse

open BigEndian

/-- `SPWCUSE_READ_QUEUE_DEPTH`. -/
def readQueueDepth : Nat := 16

/-- `SPWCUSE_WRITE_QUEUE_DEPTH`. -/
def writeQueueDepth : Nat := 16

/-- `SPWCUSE_RECORD_QUEUE_DEPTH`. -/
def recordQueueDepth : Nat := 16

/-- `SPWCUSE_BACKEND_WAIT_US`. -/
def backendWaitUs : Timeout := 20000

/-- `fuse_req_t`: requests are numbered as they arrive. -/
abbrev Req := Nat

/-- `struct fuse_pollhandle*`. -/
abbrev PollHandle := Nat

/-- The error numbers the presenter replies with. -/
inductive Errno
  | success | einval | ebusy | eagain | eopnotsupp | enobufs | enolink | emsgsize | eio | eintr
deriving DecidableEq, Repr

/-- `result_to_errno`. -/
def resultToErrno : Result → Errno
  | .ok => .success
  | .invalidArgument | .invalidPacket => .einval
  | .invalidState => .ebusy
  | .timeout => .eagain
  | .unsupported => .eopnotsupp
  | .resourceExhausted => .enobufs
  | .linkUnavailable => .enolink
  | .bufferTooSmall => .emsgsize
  | .backend => .eio

/-- `spwcuse_pending_read_t`. -/
structure PendingRead where
  req : Req
  size : Nat
  nonblocking : Bool
deriving DecidableEq, Repr

/-- `spwcuse_pending_write_t`: the record is a copy of what was written. -/
structure PendingWrite where
  req : Req
  record : Bytes
deriving DecidableEq, Repr

/-- `POLLIN | POLLRDNORM` and `POLLOUT | POLLWRNORM`. -/
structure PollEvents where
  readable : Bool
  writable : Bool
deriving DecidableEq, Repr

/-- What goes to the file system. -/
inductive Reply
  | err (req : Req) (errno : Errno)
  | buf (req : Req) (data : Bytes)
  | write (req : Req) (size : Nat)
  | poll (req : Req) (events : PollEvents)
  | opened (req : Req)
  | notify (handle : PollHandle)
  | destroy (handle : PollHandle)
deriving DecidableEq, Repr

/-- The request a reply ends. -/
def Reply.req : Reply → Option Req
  | .err req _ | .buf req _ | .write req _ | .poll req _ | .opened req => some req
  | .notify _ | .destroy _ => none

/-- The record a reply hands to a reader. -/
def Reply.data : Reply → Option Bytes
  | .buf _ data => some data
  | _ => none

/-- `spwcuse_state_t`, as far as it is shared. -/
structure State where
  stopping : Bool
  opened : Bool
  reads : RingBuffer PendingRead readQueueDepth
  writes : RingBuffer PendingWrite writeQueueDepth
  records : RingBuffer Bytes recordQueueDepth
  pollHandle : Option PollHandle

/-! ## Sections under the mutex -/

/-- `notify_poll_handle`. -/
def notifyPollHandle : Option PollHandle → List Reply
  | none => []
  | some handle => [.notify handle, .destroy handle]

variable (s : State)

/-- `take_poll_handle_locked`. -/
def takePollHandle : Option PollHandle × State :=
  (s.pollHandle, { s with pollHandle := none })

/-- `current_poll_events_locked`. -/
def currentPollEvents : PollEvents :=
  ⟨s.records.count != 0, decide (s.writes.count < writeQueueDepth)⟩

/-- `enqueue_read_locked`. -/
def enqueueRead (pending : PendingRead) : Option State :=
  if h : s.reads.count < readQueueDepth then some { s with reads := s.reads.push pending h }
  else none

/-- `enqueue_write_locked`. -/
def enqueueWrite (pending : PendingWrite) : Option State :=
  if h : s.writes.count < writeQueueDepth then some { s with writes := s.writes.push pending h }
  else none

/-- `pop_write_locked`. -/
def popWrite : Option (PendingWrite × State) :=
  match s.writes.pop with
  | none => none
  | some (pending, writes) => some (pending, { s with writes := writes })

/-- `enqueue_record_locked`. -/
def enqueueRecord (type flags : UInt8) (payload : Bytes) : Option State :=
  if h : s.records.count < recordQueueDepth then
    if recordMaxPayload < payload.length then none
    else match encodeHeader ⟨type, flags, payload.length.toUInt32⟩ with
      | .error _ => none
      | .ok header => some { s with records := s.records.push (header ++ payload) h }
  else none

/-- The type, the flags and the payload of what the port handed over. -/
def eventFields : Event → UInt8 × UInt8 × Bytes
  | .data packet =>
    (recordData, if packet.terminator = .eep then recordFlagEep else 0, packet.bytes)
  | .timeCode code => (recordTimeCode, 0, [code.timeCount, code.controlFlags])

/-- The section of `receive_one_ready_record`, for either kind of event. -/
def queueEvent (event : Event) : Option (Option PollHandle × State) :=
  let (type, flags, payload) := eventFields event
  match enqueueRecord s type flags payload with
  | none => none
  | some s' => some (takePollHandle s')

/-- The section of `service_one_read`: the oldest read meets the oldest record, which
stays where it is if the read is too small for it. -/
def serviceOneRead : Option (PendingRead × Option Bytes × State) :=
  match s.reads.pop, s.records.pop with
  | some (pending, reads), some (record, records) =>
    if record.length ≤ pending.size then
      some (pending, some record, { s with reads := reads, records := records })
    else some (pending, none, { s with reads := reads })
  | _, _ => none

/-- The reply of `service_one_read`. -/
def readReply (pending : PendingRead) : Option Bytes → Reply
  | none => .err pending.req .emsgsize
  | some record => .buf pending.req record

/-- The oldest read does not block. -/
def headNonblocking : Bool :=
  s.reads.count != 0 && (s.reads.slots s.reads.head).nonblocking

/-- The section in which a read that does not block is refused. -/
def refuseRead : Option Req × State :=
  if s.records.count = 0 ∧ headNonblocking s then
    match s.reads.pop with
    | none => (none, s)
    | some (pending, reads) => (some pending.req, { s with reads := reads })
  else (none, s)

/-- The loop of `cuse_release` over the reads. -/
def cancelReads : Nat → State → List Req × State
  | 0, s => ([], s)
  | n + 1, s =>
    match s.reads.pop with
    | none => ([], s)
    | some (pending, reads) =>
      let (cancelled, s') := cancelReads n { s with reads := reads }
      (pending.req :: cancelled, s')

/-! ## Writes -/

/-- `validate_user_record`. -/
def validateUserRecord (data : Bytes) : Except Errno RecordHeader :=
  if data.length < recordHeaderSize then .error .einval
  else match decodeHeader data with
    | .error _ => .error .einval
    | .ok header =>
      if data.length - recordHeaderSize ≠ header.payloadSize.toNat then .error .emsgsize
      else if validatePayload header (data.drop recordHeaderSize) ≠ .ok then .error .einval
      else .ok header

/-- What `process_write` passes on to the port. -/
def writeEvent (header : RecordHeader) (record : Bytes) : Event :=
  if header.type = recordData then
    .data ⟨record.drop recordHeaderSize,
      if header.flags &&& recordFlagEep ≠ 0 then .eep else .eop⟩
  else .timeCode ⟨byteAt record recordHeaderSize, byteAt record (recordHeaderSize + 1)⟩

/-- `process_write`: what is passed on to the port, which answers with `result`, and
the reply. -/
def processWrite (pending : PendingWrite) (result : Result) : Option Event × Reply :=
  match validateUserRecord pending.record with
  | .error errno => (none, .err pending.req errno)
  | .ok header =>
    (some (writeEvent header pending.record),
      if result = .ok then .write pending.req pending.record.length
      else .err pending.req (resultToErrno result))

/-! ## The broker -/

/-- A packet that fits into `rx_storage`. -/
abbrev StoredPacket := { packet : Packet // packet.bytes.length ≤ recordMaxPayload }

/-- What the calls of the port return, whichever of them is made. -/
structure PortAnswers where
  send : Result
  wait : Result × ReadyEvents
  receive : Except Result StoredPacket
  receiveTimeCode : Except Result TimeCode

/-- **The places of the broker**: before the mutex of `service_one_read`, with its reply
to send; before the mutex of the main section; in `pthread_cond_wait`; with a write in hand;
before `spw_port_wait`; before the mutex and with the reply of a read that is refused; before
`receive_one_ready_record`, with an event to queue, past the queueing, and before the look
at the room that is left; and past the loop. -/
inductive Broker
  | service
  | reply (pending : PendingRead) (record : Option Bytes)
  | decide
  | asleep
  | write (pending : PendingWrite) (handle : Option PollHandle)
  | wait (timeout : Timeout)
  | refuse
  | refused (req : Req)
  | receive (ready : ReadyEvents)
  | queue (event : Event)
  | drain (handle : Option PollHandle)
  | room (ready : ReadyEvents)
  | finished
deriving DecidableEq, Repr

/-- The main section of `broker_main`. -/
def decideWork : Broker × State :=
  if s.stopping then (.finished, s)
  else match popWrite s with
    | some (pending, s') =>
      let (handle, s'') := takePollHandle s'
      (.write pending handle, s'')
    | none =>
      if s.records.count < recordQueueDepth ∧ (s.reads.count ≠ 0 ∨ s.pollHandle.isSome) then
        (.wait (if headNonblocking s then timeoutImmediate else backendWaitUs), s)
      else (.asleep, s)

/-- The calls of `receive_one_ready_record`: the event the port hands over, if any. -/
def receiveEvent (answers : PortAnswers) (ready : ReadyEvents) : Option Event :=
  match ready.rxPacket, answers.receive, ready.rxTimeCode, answers.receiveTimeCode with
  | true, .ok packet, _, _ => some (.data packet.1)
  | _, _, true, .ok code => some (.timeCode code)
  | _, _, _, _ => none

/-- What the broker does in one go: its next place, the shared state, what it replies,
the event it was handed and the event it passed on. -/
structure Turn where
  broker : Broker
  state : State
  replies : List Reply := []
  received : Option Event := none
  sent : Option Event := none

/-- `broker_main`, from one place to the next. The broker may also wake up for no
reason. -/
def Broker.step (answers : PortAnswers) (s : State) : Broker → Turn
  | .service =>
    match serviceOneRead s with
    | none => ⟨.decide, s, [], none, none⟩
    | some (pending, record, s') => ⟨.reply pending record, s', [], none, none⟩
  | .reply pending record => ⟨.service, s, [readReply pending record], none, none⟩
  | .decide =>
    let decided := decideWork s
    ⟨decided.1, decided.2, [], none, none⟩
  | .asleep => ⟨.service, s, [], none, none⟩
  | .write pending handle =>
    let written := processWrite pending answers.send
    ⟨.service, s, notifyPollHandle handle ++ [written.2], none, written.1⟩
  | .wait timeout =>
    if answers.wait.1 = .timeout ∧ timeout = timeoutImmediate then ⟨.refuse, s, [], none, none⟩
    else if answers.wait.1 = .ok ∧ answers.wait.2.any then
      ⟨.receive answers.wait.2, s, [], none, none⟩
    else ⟨.service, s, [], none, none⟩
  | .refuse =>
    match refuseRead s with
    | (none, s') => ⟨.service, s', [], none, none⟩
    | (some req, s') => ⟨.refused req, s', [], none, none⟩
  | .refused req => ⟨.service, s, [.err req .eagain], none, none⟩
  | .receive ready =>
    match receiveEvent answers ready with
    | none => ⟨.service, s, [], none, none⟩
    | some event => ⟨.queue event, s, [], some event, none⟩
  | .queue event =>
    match queueEvent s event with
    | none => ⟨.service, s, [], none, none⟩
    | some (handle, s') => ⟨.drain handle, s', [], none, none⟩
  | .drain handle =>
    if answers.wait.1 = .ok ∧ answers.wait.2.any then
      ⟨.room answers.wait.2, s, notifyPollHandle handle, none, none⟩
    else ⟨.service, s, notifyPollHandle handle, none, none⟩
  | .room ready =>
    if recordQueueDepth ≤ s.records.count then ⟨.service, s, [], none, none⟩
    else ⟨.receive ready, s, [], none, none⟩
  | .finished => ⟨.finished, s, [], none, none⟩

/-! ## The callbacks -/

/-- A call of the file system. -/
inductive Callback
  | open
  | read (size : Nat) (nonblocking : Bool)
  | write (data : Bytes) (nonblocking : Bool)
  | poll (handle : Option PollHandle)
  | release
deriving DecidableEq, Repr

/-- What a callback leaves behind: the shared state, whether it signalled, and the
replies it has still to send. -/
structure Called where
  state : State
  signalled : Bool
  replies : List Reply

/-- The reply to a request that finds its queue full. -/
def refusal (req : Req) (nonblocking : Bool) : Reply :=
  .err req (if nonblocking then .eagain else .enobufs)

/-- `cuse_open`. -/
def cuseOpen (req : Req) : Called :=
  if s.opened then ⟨s, false, [.err req .ebusy]⟩
  else ⟨{ s with opened := true }, false, [.opened req]⟩

/-- `cuse_read`. -/
def cuseRead (req : Req) (size : Nat) (nonblocking : Bool) : Called :=
  match enqueueRead s ⟨req, size, nonblocking⟩ with
  | some s' => ⟨s', true, []⟩
  | none => ⟨s, false, [refusal req nonblocking]⟩

/-- `cuse_write`. -/
def cuseWrite (req : Req) (data : Bytes) (nonblocking : Bool) : Called :=
  match validateUserRecord data with
  | .error errno => ⟨s, false, [.err req errno]⟩
  | .ok _ =>
    match enqueueWrite s ⟨req, data⟩ with
    | some s' => ⟨s', true, []⟩
    | none => ⟨s, false, [refusal req nonblocking]⟩

/-- `cuse_poll`: one handle is kept at most. -/
def cusePoll (req : Req) : Option PollHandle → Called
  | none => ⟨s, false, [.poll req (currentPollEvents s)]⟩
  | some handle =>
    match s.pollHandle with
    | none => ⟨{ s with pollHandle := some handle }, true, [.poll req (currentPollEvents s)]⟩
    | some _ => ⟨s, true, [.destroy handle, .poll req (currentPollEvents s)]⟩

/-- `cuse_release`. -/
def cuseRelease (req : Req) : Called :=
  let (cancelled, s') := cancelReads readQueueDepth { s with opened := false }
  let (handle, s'') := takePollHandle s'
  ⟨s'', false, cancelled.map (.err · .eintr) ++ handle.toList.map .destroy ++ [.err req .success]⟩

/-- The callbacks. -/
def Callback.run (req : Req) : Callback → Called
  | .open => cuseOpen s req
  | .read size nonblocking => cuseRead s req size nonblocking
  | .write data nonblocking => cuseWrite s req data nonblocking
  | .poll handle => cusePoll s req handle
  | .release => cuseRelease s req

/-! ## Interleavings -/

/-- What has happened so far. -/
structure History where
  replies : List Reply := []
  received : List Event := []
  sent : List Event := []
  accepted : List PendingWrite := []
deriving DecidableEq, Repr

/-- **The presenter**: the shared state, the place of the broker, the replies that every
callback has still to send, and the number of the next request. -/
structure Presenter where
  state : State
  broker : Broker
  callbacks : List (List Reply)
  nextReq : Req
  history : History

/-- `pthread_cond_signal`, which is lost on a broker that does not wait. -/
def Broker.signal : Broker → Broker
  | .asleep => .service
  | broker => broker

/-- What can happen next: a callback is called, a callback sends its next reply, the
broker goes on, or the presenter is told to stop. -/
inductive Action
  | call (callback : Callback)
  | reply (index : Nat)
  | broker (answers : PortAnswers)
  | stop

/-- A write that a callback queued. -/
def acceptedBy (req : Req) : Callback → List PendingWrite
  | .write data nonblocking =>
    if (cuseWrite s req data nonblocking).signalled then [⟨req, data⟩] else []
  | _ => []

variable (p : Presenter)

/-- A callback takes the mutex. -/
def Presenter.call (callback : Callback) : Presenter :=
  let called := callback.run p.state p.nextReq
  { state := called.state
    broker := if called.signalled then p.broker.signal else p.broker
    callbacks := p.callbacks ++ [called.replies]
    nextReq := p.nextReq + 1
    history := { p.history with
      accepted := p.history.accepted ++ acceptedBy p.state p.nextReq callback } }

/-- The next reply of a callback. -/
def Presenter.owed (index : Nat) : Option Reply :=
  (p.callbacks.getD index []).head?

/-- A callback sends its next reply. -/
def Presenter.reply (index : Nat) : Presenter :=
  { p with
    callbacks := p.callbacks.modify index List.tail
    history := { p.history with
      replies := p.history.replies ++ (p.owed index).toList } }

/-- The broker goes on. -/
def Presenter.turn (answers : PortAnswers) : Presenter :=
  let turn := p.broker.step answers p.state
  { p with
    state := turn.state
    broker := turn.broker
    history := { p.history with
      replies := p.history.replies ++ turn.replies
      received := p.history.received ++ turn.received.toList
      sent := p.history.sent ++ turn.sent.toList } }

/-- `cleanup_state`, up to the join. -/
def Presenter.stop : Presenter :=
  { p with state := { p.state with stopping := true }, broker := p.broker.signal }

/-- One step of an interleaving. -/
def Presenter.step : Action → Presenter
  | .call callback => p.call callback
  | .reply index => p.reply index
  | .broker answers => p.turn answers
  | .stop => p.stop

/-- An interleaving. -/
def Presenter.run (actions : List Action) : Presenter :=
  actions.foldl Presenter.step p

/-- The presenter as the broker starts. -/
def Presenter.initial : Presenter where
  state :=
    { stopping := false
      opened := false
      reads := .empty (fun _ => ⟨0, 0, false⟩) (by decide)
      writes := .empty (fun _ => ⟨0, []⟩) (by decide)
      records := .empty (fun _ => []) (by decide)
      pollHandle := none }
  broker := .service
  callbacks := []
  nextReq := 0
  history := {}

/-- **The reachable states** of the interleavings whose actions are all allowed in the
state they are taken in. -/
inductive Presenter.ReachableBy (allowed : Presenter → Action → Prop) : Presenter → Prop
  | initial : ReachableBy allowed .initial
  | step {p : Presenter} (a : Action) :
      ReachableBy allowed p → allowed p a → ReachableBy allowed (p.step a)

/-- The states that some interleaving reaches. -/
abbrev Presenter.Reachable : Prop := p.ReachableBy fun _ _ => True

variable {allowed : Presenter → Action → Prop} {p : Presenter}

theorem Presenter.ReachableBy.run (h : p.ReachableBy allowed) (hall : ∀ p a, allowed p a) :
    ∀ actions, (p.run actions).ReachableBy allowed := by
  intro actions
  induction actions generalizing p with
  | nil => exact h
  | cons a actions ih => exact ih (.step a h (hall p a))

/-- A property of the initial state that every allowed action keeps holds of every state
reached. -/
theorem Presenter.ReachableBy.invariant {P : Presenter → Prop} (hinitial : P .initial)
    (hstep : ∀ p a, P p → allowed p a → P (p.step a)) (h : p.ReachableBy allowed) : P p := by
  induction h with
  | initial => exact hinitial
  | step a _ hallowed ih => exact hstep _ a ih hallowed

/-! ## The sections on lists -/

section Sections

variable {s s' : State}

theorem enqueueRead_eq_some {pending : PendingRead} (h : enqueueRead s pending = some s') :
    s'.reads.toList = s.reads.toList ++ [pending]
      ∧ s' = { s with reads := s'.reads } := by
  unfold enqueueRead at h
  split_ifs at h with hroom
  obtain rfl := Option.some.inj h
  exact ⟨RingBuffer.toList_push _ _ _, rfl⟩

theorem enqueueWrite_eq_some {pending : PendingWrite} (h : enqueueWrite s pending = some s') :
    s'.writes.toList = s.writes.toList ++ [pending]
      ∧ s' = { s with writes := s'.writes } := by
  unfold enqueueWrite at h
  split_ifs at h with hroom
  obtain rfl := Option.some.inj h
  exact ⟨RingBuffer.toList_push _ _ _, rfl⟩

/-- A write is taken off the front, and only if there is none, none is. -/
theorem popWrite_cases (s : State) :
    (popWrite s = none ∧ s.writes.toList = []) ∨
      ∃ pending writes, popWrite s = some (pending, { s with writes := writes })
        ∧ s.writes.toList = pending :: writes.toList := by
  unfold popWrite
  obtain ⟨hpop, hlist⟩ | ⟨pending, writes, hpop, hlist⟩ := s.writes.pop_cases
  · exact Or.inl ⟨by rw [hpop], hlist⟩
  · exact Or.inr ⟨pending, writes, by rw [hpop], hlist⟩

/-- `service_one_read` does nothing where there is no read or no record. -/
theorem serviceOneRead_eq_none (h : serviceOneRead s = none) :
    s.reads.toList = [] ∨ s.records.toList = [] := by
  unfold serviceOneRead at h
  obtain ⟨-, hreads⟩ | ⟨pending, reads, hreads, -⟩ := s.reads.pop_cases
  · exact Or.inl hreads
  obtain ⟨-, hrecords⟩ | ⟨record, records, hrecords, -⟩ := s.records.pop_cases
  · exact Or.inr hrecords
  rw [hreads, hrecords] at h
  dsimp only at h
  split_ifs at h

/-- `service_one_read` takes the oldest read, and the oldest record if the read has room
for it. -/
theorem serviceOneRead_eq_some {pending : PendingRead} {record : Option Bytes}
    (h : serviceOneRead s = some (pending, record, s')) :
    s.reads.toList = pending :: s'.reads.toList
      ∧ s.records.toList = record.toList ++ s'.records.toList
      ∧ s' = { s with reads := s'.reads, records := s'.records } := by
  unfold serviceOneRead at h
  obtain ⟨hreads, -⟩ | ⟨read, reads, hreads, hlist⟩ := s.reads.pop_cases
  · rw [hreads] at h
    exact absurd h (by simp)
  obtain ⟨hrecords, -⟩ | ⟨oldest, records, hrecords, hlist'⟩ := s.records.pop_cases
  · rw [hreads, hrecords] at h
    exact absurd h (by simp)
  rw [hreads, hrecords] at h
  dsimp only at h
  split_ifs at h with hsize
  · obtain ⟨rfl, rfl, rfl⟩ : read = pending ∧ some oldest = record ∧ _ = s' := by
      simpa using h
    exact ⟨hlist, hlist', rfl⟩
  · obtain ⟨rfl, rfl, rfl⟩ : read = pending ∧ none = record ∧ _ = s' := by
      simpa using h
    exact ⟨hlist, rfl, rfl⟩

/-- An event whose payload a record can hold. -/
def Event.Fits (event : Event) : Prop := (eventFields event).2.2.length ≤ recordMaxPayload

/-- **The record of an event**, header and payload. -/
def recordOf (event : Event) : Bytes :=
  let (type, flags, payload) := eventFields event
  headerBytes ⟨type, flags, payload.length.toUInt32⟩ ++ payload

/-- The header of an event that fits passes. -/
theorem validateHeader_event {event : Event} (h : Event.Fits event) :
    validateHeader ⟨(eventFields event).1, (eventFields event).2.1,
      (eventFields event).2.2.length.toUInt32⟩ = .ok := by
  cases event with
  | timeCode code => exact validateHeader_timeCode
  | data packet =>
    have hsize : packet.bytes.length.toUInt32.toNat = packet.bytes.length :=
      Nat.mod_eq_of_lt (lt_of_le_of_lt h (by decide))
    refine validateHeader_data ?_ (hsize.trans_le h)
    show (if packet.terminator = .eep then recordFlagEep else 0) &&& ~~~recordKnownFlags = 0
    split_ifs <;> decide

/-- An event is queued as one record, exactly if there is a slot for it and it fits. -/
theorem queueEvent_cases (s : State) (event : Event) :
    (queueEvent s event = none ∧ ¬ (s.records.count < recordQueueDepth ∧ Event.Fits event)) ∨
      ∃ records, queueEvent s event
          = some (s.pollHandle, { s with records := records, pollHandle := none })
        ∧ records.toList = s.records.toList ++ [recordOf event] := by
  unfold queueEvent enqueueRecord
  by_cases hroom : s.records.count < recordQueueDepth
  · by_cases hfits : Event.Fits event
    · refine Or.inr ⟨s.records.push (recordOf event) hroom, ?_, RingBuffer.toList_push _ _ _⟩
      simp only [dif_pos hroom, if_neg (not_lt.mpr hfits),
        encodeHeader_of_valid (validateHeader_event hfits)]
      rfl
    · refine Or.inl ⟨?_, fun h => hfits h.2⟩
      simp only [dif_pos hroom, if_pos (not_le.mp hfits)]
  · refine Or.inl ⟨?_, fun h => hroom h.1⟩
    simp only [dif_neg hroom]

/-- What the port hands over fits. -/
theorem receiveEvent_fits {answers : PortAnswers} {ready : ReadyEvents} {event : Event}
    (h : receiveEvent answers ready = some event) : Event.Fits event := by
  unfold receiveEvent at h
  split at h
  · next packet _ _ =>
    obtain rfl := Option.some.inj h
    exact packet.2
  · obtain rfl := Option.some.inj h
    show 2 ≤ recordMaxPayload
    decide
  · cases h

/-- A read that is refused is the oldest one. -/
theorem refuseRead_cases (s : State) :
    refuseRead s = (none, s) ∨
      ∃ pending reads, refuseRead s = (some pending.req, { s with reads := reads })
        ∧ s.reads.toList = pending :: reads.toList := by
  unfold refuseRead
  split_ifs with h
  · obtain ⟨hpop, -⟩ | ⟨pending, reads, hpop, hlist⟩ := s.reads.pop_cases
    · exact Or.inl (by rw [hpop])
    · exact Or.inr ⟨pending, reads, by rw [hpop], hlist⟩
  · exact Or.inl rfl

/-- `cuse_release` takes every read. -/
theorem cancelReads_eq : ∀ (n : Nat) (s : State), s.reads.count ≤ n →
    ∃ reads, cancelReads n s = (s.reads.toList.map PendingRead.req, { s with reads := reads })
      ∧ reads.toList = []
  | 0, s, hn => by
    have hnil : s.reads.toList = [] := by
      rw [← List.length_eq_zero_iff, RingBuffer.toList_length]
      exact Nat.le_zero.mp hn
    exact ⟨s.reads, by rw [hnil]; rfl, hnil⟩
  | n + 1, s, hn => by
    obtain ⟨hpop, hnil⟩ | ⟨pending, reads, hpop, hlist⟩ := s.reads.pop_cases
    · exact ⟨s.reads, by simp only [cancelReads, hpop, hnil, List.map_nil], hnil⟩
    · have hcount : reads.count ≤ n := by
        have hlength := congrArg List.length hlist
        rw [RingBuffer.toList_length, List.length_cons, RingBuffer.toList_length] at hlength
        omega
      obtain ⟨rest, hrest, hnil⟩ := cancelReads_eq n { s with reads := reads } hcount
      refine ⟨rest, ?_, hnil⟩
      simp only [cancelReads, hpop, hrest, hlist, List.map_cons]

end Sections

/-! ## What a callback and the broker do

Every invariant is proved from these two relations, by cases. -/

/-- **What a callback does**, with the writes that it queues: it replies and leaves the
rings alone, queues a read or a write, or takes every read. -/
inductive Callback.Effect (s : State) (req : Req) : Callback → Called → List PendingWrite → Prop
  | answered {callback : Callback} {s' : State} {signalled : Bool} {replies : List Reply}
      (hreads : s'.reads = s.reads) (hwrites : s'.writes = s.writes)
      (hrecords : s'.records = s.records) (hreq : replies.filterMap Reply.req = [req])
      (hdata : replies.filterMap Reply.data = []) :
      Effect s req callback ⟨s', signalled, replies⟩ []
  | readQueued {size : Nat} {nonblocking : Bool}
      {reads : RingBuffer PendingRead readQueueDepth}
      (hreads : reads.toList = s.reads.toList ++ [⟨req, size, nonblocking⟩]) :
      Effect s req (.read size nonblocking) ⟨{ s with reads := reads }, true, []⟩ []
  | writeQueued {data : Bytes} {nonblocking : Bool}
      {writes : RingBuffer PendingWrite writeQueueDepth} {header : RecordHeader}
      (hwrites : writes.toList = s.writes.toList ++ [⟨req, data⟩])
      (hvalid : validateUserRecord data = .ok header) :
      Effect s req (.write data nonblocking) ⟨{ s with writes := writes }, true, []⟩ [⟨req, data⟩]
  | cancelled {s' : State} {replies : List Reply}
      (hreads : s'.reads.toList = []) (hwrites : s'.writes = s.writes)
      (hrecords : s'.records = s.records)
      (hreq : replies.filterMap Reply.req = s.reads.toList.map PendingRead.req ++ [req])
      (hdata : replies.filterMap Reply.data = []) :
      Effect s req .release ⟨s', false, replies⟩ []

theorem filterMap_req_err (reqs : List Req) (errno : Errno) :
    (reqs.map (Reply.err · errno)).filterMap Reply.req = reqs := by
  simp [List.filterMap_map, Function.comp_def, Reply.req]

theorem filterMap_data_err (reqs : List Req) (errno : Errno) :
    (reqs.map (Reply.err · errno)).filterMap Reply.data = [] := by
  simp [List.filterMap_map, Function.comp_def, Reply.data]

theorem Callback.run_effect (s : State) (req : Req) (callback : Callback) :
    callback.Effect s req (callback.run s req) (acceptedBy s req callback) := by
  cases callback with
  | «open» =>
    show Effect s req _ (cuseOpen s req) []
    unfold cuseOpen
    split_ifs
    · exact .answered rfl rfl rfl rfl rfl
    · exact .answered rfl rfl rfl rfl rfl
  | read size nonblocking =>
    show Effect s req _ (cuseRead s req size nonblocking) []
    unfold cuseRead
    cases hread : enqueueRead s ⟨req, size, nonblocking⟩ with
    | none => exact .answered rfl rfl rfl rfl rfl
    | some s' =>
      obtain ⟨hlist, hs⟩ := enqueueRead_eq_some hread
      rw [hs]
      exact .readQueued hlist
  | write data nonblocking =>
    show Effect s req _ (cuseWrite s req data nonblocking)
      (if (cuseWrite s req data nonblocking).signalled then [⟨req, data⟩] else [])
    unfold cuseWrite
    cases hvalid : validateUserRecord data with
    | error errno => exact .answered rfl rfl rfl rfl rfl
    | ok header =>
      cases hwrite : enqueueWrite s ⟨req, data⟩ with
      | none => exact .answered rfl rfl rfl rfl rfl
      | some s' =>
        obtain ⟨hlist, hs⟩ := enqueueWrite_eq_some hwrite
        dsimp only
        rw [hs]
        exact .writeQueued hlist hvalid
  | poll handle =>
    show Effect s req _ (cusePoll s req handle) []
    unfold cusePoll
    cases handle with
    | none => exact .answered rfl rfl rfl rfl rfl
    | some handle =>
      cases s.pollHandle with
      | none | some kept => exact .answered rfl rfl rfl rfl rfl
  | release =>
    obtain ⟨reads, hcancel, hnil⟩ := cancelReads_eq readQueueDepth { s with opened := false }
      s.reads.count_le
    show Effect s req _ (cuseRelease s req) []
    unfold cuseRelease
    rw [hcancel]
    refine .cancelled hnil rfl rfl ?_ ?_
    · rw [List.filterMap_append, List.filterMap_append, filterMap_req_err]
      cases s.pollHandle <;> simp [Reply.req]
    · rw [List.filterMap_append, List.filterMap_append, filterMap_data_err]
      cases s.pollHandle <;> rfl

/-- **What the broker does** from each of its places. -/
inductive Broker.Effect (s : State) : Broker → Turn → Prop
  | noRead (h : s.reads.toList = [] ∨ s.records.toList = []) :
      Effect s .service ⟨.decide, s, [], none, none⟩
  | takesRead {pending : PendingRead} {record : Option Bytes}
      {reads : RingBuffer PendingRead readQueueDepth}
      {records : RingBuffer Bytes recordQueueDepth}
      (hreads : s.reads.toList = pending :: reads.toList)
      (hrecords : s.records.toList = record.toList ++ records.toList) :
      Effect s .service
        ⟨.reply pending record, { s with reads := reads, records := records }, [], none, none⟩
  | replies {pending : PendingRead} {record : Option Bytes} :
      Effect s (.reply pending record) ⟨.service, s, [readReply pending record], none, none⟩
  | stops : Effect s .decide ⟨.finished, s, [], none, none⟩
  | takesWrite {pending : PendingWrite} {handle : Option PollHandle}
      {writes : RingBuffer PendingWrite writeQueueDepth}
      (hwrites : s.writes.toList = pending :: writes.toList) :
      Effect s .decide
        ⟨.write pending handle, { s with writes := writes, pollHandle := none }, [], none, none⟩
  | asksPort {timeout : Timeout} (hroom : s.records.count < recordQueueDepth) :
      Effect s .decide ⟨.wait timeout, s, [], none, none⟩
  | sleeps (hwrites : s.writes.toList = [])
      (hidle : ¬ (s.records.count < recordQueueDepth ∧ s.reads.count ≠ 0)) :
      Effect s .decide ⟨.asleep, s, [], none, none⟩
  | wakes : Effect s .asleep ⟨.service, s, [], none, none⟩
  | writes {pending : PendingWrite} {handle : Option PollHandle} {result : Result} :
      Effect s (.write pending handle) ⟨.service, s,
        notifyPollHandle handle ++ [(processWrite pending result).2], none,
        (processWrite pending result).1⟩
  | refusing {timeout : Timeout} : Effect s (.wait timeout) ⟨.refuse, s, [], none, none⟩
  | ready {timeout : Timeout} {ready : ReadyEvents} :
      Effect s (.wait timeout) ⟨.receive ready, s, [], none, none⟩
  | gives {timeout : Timeout} : Effect s (.wait timeout) ⟨.service, s, [], none, none⟩
  | keepsRead : Effect s .refuse ⟨.service, s, [], none, none⟩
  | refusesRead {pending : PendingRead} {reads : RingBuffer PendingRead readQueueDepth}
      (hreads : s.reads.toList = pending :: reads.toList) :
      Effect s .refuse ⟨.refused pending.req, { s with reads := reads }, [], none, none⟩
  | refuses {req : Req} :
      Effect s (.refused req) ⟨.service, s, [.err req .eagain], none, none⟩
  | nothing {ready : ReadyEvents} : Effect s (.receive ready) ⟨.service, s, [], none, none⟩
  | receives {ready : ReadyEvents} {event : Event} (hfits : Event.Fits event) :
      Effect s (.receive ready) ⟨.queue event, s, [], some event, none⟩
  | noRoom {event : Event}
      (hnone : ¬ (s.records.count < recordQueueDepth ∧ Event.Fits event)) :
      Effect s (.queue event) ⟨.service, s, [], none, none⟩
  | queues {event : Event} {handle : Option PollHandle}
      {records : RingBuffer Bytes recordQueueDepth}
      (hrecords : records.toList = s.records.toList ++ [recordOf event]) :
      Effect s (.queue event)
        ⟨.drain handle, { s with records := records, pollHandle := none }, [], none, none⟩
  | more {handle : Option PollHandle} {ready : ReadyEvents} :
      Effect s (.drain handle) ⟨.room ready, s, notifyPollHandle handle, none, none⟩
  | noMore {handle : Option PollHandle} :
      Effect s (.drain handle) ⟨.service, s, notifyPollHandle handle, none, none⟩
  | full {ready : ReadyEvents} : Effect s (.room ready) ⟨.service, s, [], none, none⟩
  | again {ready : ReadyEvents} (hroom : s.records.count < recordQueueDepth) :
      Effect s (.room ready) ⟨.receive ready, s, [], none, none⟩
  | stays : Effect s .finished ⟨.finished, s, [], none, none⟩

theorem decideWork_effect (s : State) :
    Broker.Effect s .decide ⟨(decideWork s).1, (decideWork s).2, [], none, none⟩ := by
  unfold decideWork
  obtain ⟨hpop, hnil⟩ | ⟨pending, writes, hpop, hlist⟩ := popWrite_cases s
  · rw [hpop]
    dsimp only
    split_ifs with hstop hwait hhead
    · exact .stops
    · exact .asksPort hwait.1
    · exact .asksPort hwait.1
    · exact .sleeps hnil fun h => hwait ⟨h.1, Or.inl h.2⟩
  · rw [hpop]
    dsimp only
    split_ifs
    · exact .stops
    · exact .takesWrite hlist

theorem Broker.step_effect (answers : PortAnswers) (s : State) (b : Broker) :
    b.Effect s (b.step answers s) := by
  cases b with
  | service =>
    unfold Broker.step
    cases hservice : serviceOneRead s with
    | none => exact .noRead (serviceOneRead_eq_none hservice)
    | some taken =>
      obtain ⟨pending, record, s'⟩ := taken
      obtain ⟨hreads, hrecords, hs⟩ := serviceOneRead_eq_some hservice
      dsimp only
      rw [hs]
      exact .takesRead hreads hrecords
  | reply pending record => exact .replies
  | decide => exact decideWork_effect s
  | asleep => exact .wakes
  | write pending handle => exact .writes
  | wait timeout =>
    simp only [Broker.step]
    split_ifs
    · exact .refusing
    · exact .ready
    · exact .gives
  | refuse =>
    unfold Broker.step
    obtain hkeep | ⟨pending, reads, hrefuse, hlist⟩ := refuseRead_cases s
    · rw [hkeep]
      exact .keepsRead
    · rw [hrefuse]
      exact .refusesRead hlist
  | refused req => exact .refuses
  | receive ready =>
    simp only [Broker.step]
    cases hevent : receiveEvent answers ready with
    | none => exact .nothing
    | some event => exact .receives (receiveEvent_fits hevent)
  | queue event =>
    simp only [Broker.step]
    obtain ⟨hqueue, hnone⟩ | ⟨records, hqueue, hrecords⟩ := queueEvent_cases s event
    · rw [hqueue]
      exact .noRoom hnone
    · rw [hqueue]
      exact .queues hrecords
  | drain handle =>
    simp only [Broker.step]
    split_ifs
    · exact .more
    · exact .noMore
  | room ready =>
    simp only [Broker.step]
    split_ifs with hfull
    · exact .full
    · exact .again (not_le.mp hfull)
  | finished => exact .stays

end Cuse
