import SpwKit.Core.Calls
import SpwKit.Virtual.Waits

/-!
# What a call on a simulator port comes to

A call that has returned is as good as one that was made at once, on the link it
found last. `Effect` lists what a call can do that way, and `code_effect` says
that every call does one of these things, whatever the other port has done while
it was waiting.
-/

open Interactive Core

namespace Simulator

variable {b : SimulatorBackend} {fuel : Nat}

/-- The port with another link. -/
def seeing (o : Opened Context) (link : VirtualLink) : Opened Context :=
  { o with context := o.context.at link }

/-- **What a call comes to**, made at once on the link that is there. What is refused leaves
everything as it is, the caller's pointer too. -/
inductive Effect (o : Opened Context) : Call → Reply → Opened Context → Prop
  | refused (call : Call) (reply : Reply) (hresult : reply.result ≠ .ok)
      (hhandle : reply.handle = call.handedIn) : Effect o call reply o
  /-- A packet was to be acquired, and there was none. -/
  | rxReturned (timeoutUs : Timeout) (result : Result) (hresult : result ≠ .ok)
      (hfree : o.context.backend.rxBufferAcquired = false) :
      Effect o (.acquireRx timeoutUs) { result := result } { o with context := { o.context with
        backend := o.context.backend.setRx false
          { o.context.backend.rxBuffer with state := .free } } }
  | linkState : Effect o .getLinkState
      { result := .ok, linkState := some o.context.own.state } o
  | statistics : Effect o .getStatistics
      { result := .ok, statistics := some o.context.own.statistics } o
  | view (ref : BufferRef) (view : BufferView Storage) :
      Effect o (.getView ref) { result := .ok, view := some view } o
  | start (hattached : o.context.own.attached = true) :
      Effect o .start { result := .ok } ⟨{ o.port with locallyStarted := true },
        o.context.onLink fun link e => (link.start e).2⟩
  | stop (hattached : o.context.own.attached = true) :
      Effect o .stop { result := .ok } ⟨{ o.port with locallyStarted := false },
        o.context.onLink fun link e => (link.stop e).2⟩
  | reset (hattached : o.context.own.attached = true) :
      Effect o .reset { result := .ok } ⟨⟨false, o.port.nextEpoch⟩,
        ⟨o.context.backend.initializeZeroCopyBuffers,
          (o.context.link.reset o.context.backend.endpointIndex).2⟩⟩
  | clearStatistics : Effect o .clearStatistics { result := .ok } { o with
      context := o.context.onLink fun link e =>
        link.update e fun own => { own with statistics := {} } }
  | sent (packet : PortPacket) (timeoutUs : Timeout)
      (hstarted : o.context.own.started = true) (hpeer : o.context.peer.available = true)
      (hroom : o.context.peer.packets.count ≠ packetQueueDepth)
      (hterminator : validTerminator packet.terminator = true)
      (hlength : packet.length ≤ maxPacketSize) :
      Effect o (.send (some packet) timeoutUs) { result := .ok } { o with
        context := o.context.onLink fun link e => link.sendPacket e packet.packet }
  | received (buffer : ReceiveBuffer) (timeoutUs : Timeout)
      (hstarted : o.context.own.started = true) (hcount : o.context.own.packets.count ≠ 0)
      (hcapacity : o.context.own.packets.front.bytes.length ≤ buffer.capacity) :
      Effect o (.receive (some buffer) timeoutUs)
        { result := .ok, packet := some ⟨o.context.own.packets.front.bytes.length,
          o.context.own.packets.front.terminator, some o.context.own.packets.front.bytes⟩ }
        { o with context := o.context.onLink VirtualLink.takePacket }
  | timeCodeSent (code : TimeCode) (timeoutUs : Timeout)
      (hstarted : o.context.own.started = true) (hpeer : o.context.peer.available = true)
      (hroom : o.context.peer.timeCodes.count < timeCodeQueueDepth) :
      Effect o (.sendTimeCode (some code) timeoutUs) { result := .ok } { o with
        context := o.context.onLink fun link e => link.sendTimeCode e code }
  | timeCodeReceived (timeoutUs : Timeout)
      (hstarted : o.context.own.started = true) (hcount : o.context.own.timeCodes.count ≠ 0) :
      Effect o (.receiveTimeCode true timeoutUs)
        { result := .ok, timeCode := some o.context.own.timeCodes.front }
        { o with context := o.context.onLink VirtualLink.takeTimeCode }
  | setPacket (ref : BufferRef) (length : Nat) (terminator : UInt8)
      (howned : o.port.applicationOwned (o.context.backend.load ref) = true)
      (hdirection : (o.context.backend.load ref).direction = some .tx)
      (hlength : length ≤ (o.context.backend.load ref).capacity)
      (hterminator : validTerminator terminator = true) :
      Effect o (.setPacket ref length terminator) { result := .ok } { o with
        context := o.context.setBuffer ref
          { o.context.backend.load ref with length := length, terminator := terminator } }
  | acquiredTx (minCapacity : Nat) (timeoutUs : Timeout) (i : Fin packetQueueDepth)
      (hfree : (o.context.backend.txBuffers i).state = .free) :
      Effect o (.acquireTx minCapacity timeoutUs)
        { result := .ok, handle := some (.own (.tx i)) } { o with
          context := o.context.setBuffer (.tx i)
            (o.port.bindBufferEpoch { o.context.backend.txBuffers i with
              length := 0
              terminator := Terminator.eop.toByte
              state := .application }) }
  | submitted (ref : BufferRef) (timeoutUs : Timeout)
      (howned : o.port.applicationOwned (o.context.backend.load ref) = true)
      (hheld : heldFor .tx (o.context.backend.load ref) = true)
      (hstarted : o.context.own.started = true) (hpeer : o.context.peer.available = true)
      (hroom : o.context.peer.packets.count ≠ packetQueueDepth)
      (hterminator : validTerminator (o.context.backend.load ref).terminator = true)
      (hlength : (o.context.backend.load ref).length ≤ maxPacketSize) :
      Effect o (.submitTx (some (.own ref)) timeoutUs) { result := .ok } { o with
        context := (o.context.onLink fun link e =>
          link.sendPacket e (bufferPacket (o.context.backend.load ref)).packet).setBuffer ref
            { o.context.backend.load ref with state := .completed } }
  | reclaimed (timeoutUs : Timeout) (i : Fin packetQueueDepth)
      (hcompleted : (o.context.backend.txBuffers i).state = .completed) :
      Effect o (.reclaimTx timeoutUs)
        { result := .ok, handle := some (.own (.tx i)) } { o with
          context := o.context.setBuffer (.tx i)
            (o.port.bindBufferEpoch
              { o.context.backend.txBuffers i with state := .application }) }
  | releasedTx (ref : BufferRef)
      (howned : o.port.applicationOwned (o.context.backend.load ref) = true)
      (hheld : heldFor .tx (o.context.backend.load ref) = true) :
      Effect o (.releaseTx (some (.own ref))) { result := .ok } { o with
        context := o.context.setBuffer ref (Buffer.release (o.context.backend.load ref)) }
  | acquiredRx (timeoutUs : Timeout) (hfree : o.context.backend.rxBufferAcquired = false)
      (hstarted : o.context.own.started = true) (hcount : o.context.own.packets.count ≠ 0) :
      Effect o (.acquireRx timeoutUs) { result := .ok, handle := some (.own .rx) } { o with
        context := { o.context.onLink VirtualLink.takePacket with
          backend := o.context.backend.setRx true (o.port.bindBufferEpoch
            (rxFilled o.context.backend.rxBuffer o.context.own.packets.front)) } }
  | releasedRx (howned : o.port.applicationOwned o.context.backend.rxBuffer = true)
      (hheld : heldFor .rx o.context.backend.rxBuffer = true)
      (hacquired : o.context.backend.rxBufferAcquired = true) :
      Effect o (.releaseRx (some (.own .rx))) { result := .ok } { o with
        context := { o.context with
          backend := o.context.backend.setRx false (Buffer.release o.context.backend.rxBuffer) } }

/-- What is kept at a wait, of a port. -/
def portSetting (b : SimulatorBackend) :
    Setting Wait (fun _ => Wake × VirtualLink) (Opened Context) VirtualLink Unit where
  inv o link e := (lockSetting b).inv o.context link e
  answers _ _ _ _ r link := link = r.2

/-! ## The code -/

section Code

variable {Q : Context → Result → VirtualLink → Unit → Prop} {c : Context}

/-- A call on the link that is refused where the endpoint is not attached. -/
theorem sat_withLink {f : VirtualLink → EndpointIndex → Result × VirtualLink}
    {g : VirtualLink → EndpointIndex → VirtualLink}
    (hf : ∀ link e, f link e =
      if (link.endpoints e).attached = false then (.linkUnavailable, link) else (.ok, g link e))
    (hrefused : ∀ result, result ≠ .ok → Q c result c.link ())
    (hdone : c.own.attached = true → Q (c.onLink g) .ok c.link ()) :
    Step.Sat (lockSetting b) Q (withLink f c) c.link () := by
  rw [withLink, Process.bind_apply, Process.get_apply, Step.bind_done]
  refine Step.sat_ite (fun _ => hrefused _ (by decide)) fun _ => ?_
  rw [hf]
  by_cases hattached : (c.link.endpoints c.backend.endpointIndex).attached = false
  · rw [if_pos hattached]
    exact hrefused .linkUnavailable (by decide)
  · rw [if_neg hattached]
    exact hdone (Bool.eq_true_of_not_eq_false hattached)

theorem start_eq (link : VirtualLink) (e : EndpointIndex) :
    link.start e = if (link.endpoints e).attached = false then (.linkUnavailable, link)
      else (.ok, (link.start e).2) := by
  unfold VirtualLink.start
  split_ifs <;> rfl

theorem stop_eq (link : VirtualLink) (e : EndpointIndex) :
    link.stop e = if (link.endpoints e).attached = false then (.linkUnavailable, link)
      else (.ok, (link.stop e).2) := by
  unfold VirtualLink.stop
  split_ifs <;> rfl

theorem reset_eq (link : VirtualLink) (e : EndpointIndex) :
    link.reset e = if (link.endpoints e).attached = false then (.linkUnavailable, link)
      else (.ok, (link.reset e).2) := by
  unfold VirtualLink.reset
  split_ifs <;> rfl

theorem sat_simulatorReset (hrefused : ∀ result, result ≠ .ok → Q c result c.link ())
    (hdone : c.own.attached = true → Q ⟨c.backend.initializeZeroCopyBuffers,
      (c.link.reset c.backend.endpointIndex).2⟩ .ok c.link ()) :
    Step.Sat (lockSetting b) Q (simulatorReset c) c.link () := by
  refine Step.Sat.bind (fun _ _ _ _ hq => hq) (sat_withLink reset_eq (fun result hresult => ?_)
    fun hattached => ?_)
  · show Step.Sat _ _ ((if result = .ok then _ else _ : Sim Result) c) _ _
    rw [if_neg hresult]
    exact hrefused result hresult
  · exact hdone hattached

theorem sat_readOwn {α : Type} {f : EndpointState → α}
    {Q : Context → Result × Option α → VirtualLink → Unit → Prop}
    (hrefused : ∀ result, result ≠ .ok → Q c (result, none) c.link ())
    (hread : Q c (.ok, some (f c.own)) c.link ()) :
    Step.Sat (lockSetting b) Q (readOwn f c) c.link () := by
  rw [readOwn, Process.bind_apply, Process.get_apply, Step.bind_done]
  refine Step.sat_ite (fun _ => hrefused _ (by decide)) fun _ => ?_
  exact Step.sat_ite (fun _ => hrefused _ (by decide)) fun _ => hread

/-- **Every call does one of the things an effect says**, whatever the other port has done
while it was waiting. -/
theorem code_effect (o : Opened Context) (call : Call) : Step.Sat (portSetting o.context.backend)
    (fun o' reply link _ => Effect (seeing o link) call reply o')
    (code fuel call o) o.context.link () := by
  have hplace := SamePlace.refl o.context.backend
  -- what the port changes where the backend has done its part
  have hkept : ∀ (port : Port) (result : Result), result ≠ .ok →
      Effect o call { result := result, handle := call.handedIn }
        ⟨if result = .ok then port else o.port, o.context⟩ := fun port result hresult => by
    rw [if_neg hresult]
    exact .refused _ _ hresult rfl
  refine sat_run call (fun _ hresult => .refused _ _ hresult rfl) ?_
  cases call with
  | start => exact sat_withLink start_eq (hkept _) .start
  | stop => exact sat_withLink stop_eq (hkept _) .stop
  | reset => exact sat_simulatorReset (hkept _) .reset
  | getLinkState => exact sat_readOwn (fun _ hresult => .refused _ _ hresult rfl) .linkState
  | getStatistics => exact sat_readOwn (fun _ hresult => .refused _ _ hresult rfl) .statistics
  | clearStatistics =>
    exact sat_withLink (g := fun link e => link.update e fun own => { own with statistics := {} })
      (fun _ _ => rfl) (fun _ hresult => .refused _ _ hresult rfl) fun _ => .clearStatistics
  | send packet timeoutUs =>
    rintro packet rfl -
    exact sat_simulatorSend hplace timeoutUs (fun _ _ hresult => .refused _ _ hresult rfl) packet
      fun link => Effect.sent (o := seeing o link) packet timeoutUs
  | receive buffer timeoutUs =>
    rintro buffer rfl -
    exact sat_simulatorReceive hplace timeoutUs buffer
      (fun _ _ _ hresult => .refused _ _ hresult rfl)
      fun link => Effect.received (o := seeing o link) buffer timeoutUs
  | sendTimeCode timeCode timeoutUs =>
    rintro timeCode rfl -
    exact sat_simulatorSendTimeCode hplace timeoutUs
      (fun _ _ hresult => .refused _ _ hresult rfl) timeCode
      fun link => Effect.timeCodeSent (o := seeing o link) timeCode timeoutUs
  | receiveTimeCode hasCode timeoutUs =>
    rintro rfl -
    exact sat_simulatorReceiveTimeCode hplace timeoutUs
      (fun _ _ hresult => .refused _ _ hresult rfl)
      fun link => Effect.timeCodeReceived (o := seeing o link) timeoutUs
  | getView ref => exact fun _ => .view ref _
  | setPacket ref length terminator => exact .setPacket ref length terminator
  | acquireTx minCapacity timeoutUs =>
    refine sat_simulatorAcquireTxBuffer hplace timeoutUs
      (fun _ _ hresult => .inl ⟨rfl, .refused _ _ hresult rfl⟩) minCapacity
      fun link i hfree => .inr ⟨.tx i, rfl, ?_⟩
    show Effect _ _ _ ⟨o.port, (Context.setBuffer _ _ _).setBuffer _
      (o.port.bindBufferEpoch ((Context.setBuffer _ _ _).backend.load _))⟩
    rw [Context.setBuffer_setBuffer, Context.load_setBuffer]
    exact Effect.acquiredTx (o := seeing o link) minCapacity timeoutUs i hfree
  | reclaimTx timeoutUs =>
    refine sat_simulatorReclaimTxBuffer hplace timeoutUs
      (fun _ _ hresult => .inl ⟨rfl, .refused _ _ hresult rfl⟩)
      fun link i hcompleted => .inr ⟨.tx i, rfl, ?_⟩
    show Effect _ _ _ ⟨o.port, (Context.setBuffer _ _ _).setBuffer _
      (o.port.bindBufferEpoch ((Context.setBuffer _ _ _).backend.load _))⟩
    rw [Context.setBuffer_setBuffer, Context.load_setBuffer]
    exact Effect.reclaimed (o := seeing o link) timeoutUs i hcompleted
  | acquireRx timeoutUs =>
    exact sat_simulatorAcquireRxBuffer hplace timeoutUs
      (fun _ _ hresult => .inl ⟨rfl, .refused _ _ hresult rfl⟩)
      (fun _ _ hresult hfree => .inl ⟨rfl, .rxReturned timeoutUs _ hresult hfree⟩)
      fun _ hfree hstarted hcount =>
        .inr ⟨.rx, rfl, .acquiredRx timeoutUs hfree hstarted hcount⟩
  | submitTx handle timeoutUs =>
    rintro ref rfl howned
    exact sat_simulatorSubmitTxBuffer hplace timeoutUs ref
      (fun _ _ hresult => .refused _ _ hresult (if_neg hresult))
      fun link => Effect.submitted (o := seeing o link) ref timeoutUs howned
  | releaseTx handle =>
    rintro ref rfl howned
    exact sat_simulatorReleaseTxBuffer ref
      (fun _ _ hresult => .refused _ _ hresult (if_neg hresult)) (.releasedTx ref howned)
  | releaseRx handle =>
    rintro ref rfl howned
    refine sat_simulatorReleaseRxBuffer ref
      (fun _ _ hresult => .refused _ _ hresult (if_neg hresult)) ?_
    rintro rfl hheld hacquired
    exact .releasedRx howned hheld hacquired

end Code

end Simulator
