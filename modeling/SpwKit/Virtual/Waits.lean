import SpwKit.Virtual.SimulatorBackend

/-!
# What the functions of the simulator backend come to

However often a function of the backend waits, everything it does to the link it
does at its end: up to then it has only looked. So one that has returned is as
good as one that was called on the link it found last. The rule of a function says
what is to be shown of each thing it can have done there, with what the code has
checked before, whatever the other port has done while it was waiting.
-/

open Interactive Core

namespace Simulator

/-- The context with another link. -/
def Context.at (c : Context) (link : VirtualLink) : Context := { c with link := link }

variable {b : SimulatorBackend}

@[simp] theorem Context.at_link (c : Context) (link : VirtualLink) : (c.at link).link = link := rfl

@[simp] theorem Context.at_backend (c : Context) (link : VirtualLink) :
    (c.at link).backend = c.backend := rfl

/-- A backend is at the same end of the same link. -/
structure SamePlace (b b' : SimulatorBackend) : Prop where
  linkId : b'.linkId = b.linkId
  endpointIndex : b'.endpointIndex = b.endpointIndex
  link : b'.link = b.link

theorem SamePlace.refl (b : SimulatorBackend) : SamePlace b b := ⟨rfl, rfl, rfl⟩

theorem SamePlace.store {b' : SimulatorBackend} (h : SamePlace b b') (ref : BufferRef)
    (buffer : Buffer Storage) : SamePlace b (b'.store ref buffer) := by
  cases ref <;> exact ⟨h.linkId, h.endpointIndex, h.link⟩

variable (buffer : Buffer Storage)

@[simp] theorem load_store_self (b : SimulatorBackend) (ref : BufferRef) (buffer : Buffer Storage) :
    (b.store ref buffer).load ref = buffer := by
  cases ref <;> simp [SimulatorBackend.store, SimulatorBackend.load]

theorem load_store_of_ne (b : SimulatorBackend) {ref ref' : BufferRef} (buffer : Buffer Storage)
    (h : ref' ≠ ref) : (b.store ref buffer).load ref' = b.load ref' := by
  cases ref <;> cases ref' <;>
    simp_all [SimulatorBackend.store, SimulatorBackend.load]

/-- The packet in a buffer, as it is sent. -/
def bufferPacket : PortPacket :=
  ⟨⟨some buffer.data, buffer.length, buffer.terminator⟩, buffer.capacity⟩

/-! ## The rule of a wait -/

/-- **What is kept at a wait**: the link is as it was found, and the backend is at the end
of the link it was at. An answer brings the link that is found next. -/
def lockSetting (b : SimulatorBackend) :
    Setting Wait (fun _ => Wake × VirtualLink) Context VirtualLink Unit where
  inv c link _ := c.link = link ∧ SamePlace b c.backend
  answers _ _ _ _ r link := link = r.2

variable {b : SimulatorBackend} {fuel : Nat}

/-- **A wait** leaves the backend as it is, and what it waited for holds where it says so. -/
theorem sat_waitCondition (condition : Condition) (timeoutUs : Timeout)
    (predicate : Context → Bool) (fuel : Nat) {c : Context} (hplace : SamePlace b c.backend) :
    Step.Sat (lockSetting b)
      (fun c' ready link _ => c' = c.at link ∧ (ready = true → predicate c' = true))
      (waitCondition condition timeoutUs predicate fuel c) c.link () := by
  induction fuel generalizing c with
  | zero => exact ⟨rfl, hplace⟩
  | succ fuel ih =>
    rw [waitCondition, Process.bind_apply, Process.get_apply, Step.bind_done]
    by_cases hready : predicate c = true
    · rw [if_pos hready]
      exact ⟨rfl, fun _ => hready⟩
    rw [if_neg hready]
    by_cases htimeout : timeoutUs = timeoutImmediate
    · rw [if_pos htimeout]
      exact ⟨rfl, fun h => absurd h Bool.false_ne_true⟩
    rw [if_neg htimeout]
    refine ⟨⟨rfl, hplace⟩, fun _ _ r link hr => ?_⟩
    obtain ⟨wake, found⟩ := r
    obtain rfl : link = found := hr
    have hloop : Step.Sat (lockSetting b)
        (fun c' ready link _ => c' = c.at link ∧ (ready = true → predicate c' = true))
        (waitCondition condition timeoutUs predicate fuel (c.at link)) link () :=
      ih (c := c.at link) hplace
    by_cases hinfinite : timeoutUs = timeoutInfinite
    · subst hinfinite
      cases wake with
      | signalled | expired => exact hloop
      | failed => exact ⟨rfl, fun h => absurd h Bool.false_ne_true⟩
    · simp only [if_neg hinfinite]
      cases wake with
      | signalled => exact hloop
      | failed => exact ⟨rfl, fun h => h⟩
      | expired => exact ⟨rfl, fun h => absurd h Bool.false_ne_true⟩

/-! ## Copied transfers -/

theorem noRoom_ne_ok (timeoutUs : Timeout) : noRoom timeoutUs ≠ .ok := by
  unfold noRoom
  split_ifs <;> decide

theorem nothingThere_ne_ok (c : Context) : nothingThere c ≠ .ok := by
  unfold nothingThere
  split_ifs <;> decide

section Transfers

variable {c : Context} (hplace : SamePlace b c.backend) (timeoutUs : Timeout)

include hplace

section Send

variable {Q : Context → Result → VirtualLink → Unit → Prop}
  (hrefused : ∀ link result, result ≠ .ok → Q (c.at link) result link ())

include hrefused

theorem sat_simulatorSend (packet : PortPacket)
    (hsent : ∀ link, (c.at link).own.started = true → (c.at link).peer.available = true →
      (c.at link).peer.packets.count ≠ packetQueueDepth →
      validTerminator packet.terminator = true → packet.length ≤ maxPacketSize →
      Q ((c.at link).onLink fun link e => link.sendPacket e packet.packet) .ok link ()) :
    Step.Sat (lockSetting b) Q (simulatorSend fuel packet timeoutUs c) c.link () := by
  rw [simulatorSend, Process.bind_apply, Process.get_apply, Step.bind_done]
  refine Step.sat_ite (fun _ => hrefused _ _ (by decide)) fun _ => ?_
  refine Step.sat_ite (fun _ => hrefused _ _ (by decide)) fun hpacket => ?_
  iterate 4 refine Step.sat_ite (fun _ => hrefused _ _ (by decide)) fun _ => ?_
  simp only [not_or, Bool.not_eq_false, not_lt] at hpacket
  rw [Process.bind_apply]
  refine (sat_waitCondition .link timeoutUs packetSpaceReady fuel hplace).bind ?_
  rintro c' ready link _ ⟨rfl, -⟩
  cases ready with
  | false => exact hrefused _ _ (noRoom_ne_ok timeoutUs)
  | true =>
    show Step.Sat _ _ ((if (c.at link).own.started = false then _ else _ : Sim Result) _) _ _
    refine Step.sat_ite (fun _ => hrefused _ _ (by decide)) fun hstopped => ?_
    refine Step.sat_ite (fun _ => hrefused _ _ (by decide)) fun hgone => ?_
    refine Step.sat_ite (fun _ => hrefused _ _ (by decide)) fun hfull => ?_
    exact hsent link (by simpa using hstopped) (by simpa using hgone) hfull hpacket.1 hpacket.2

theorem sat_simulatorSendTimeCode (code : TimeCode)
    (hsent : ∀ link, (c.at link).own.started = true → (c.at link).peer.available = true →
      (c.at link).peer.timeCodes.count < timeCodeQueueDepth →
      Q ((c.at link).onLink fun link e => link.sendTimeCode e code) .ok link ()) :
    Step.Sat (lockSetting b) Q (simulatorSendTimeCode fuel code timeoutUs c) c.link () := by
  rw [simulatorSendTimeCode, Process.bind_apply, Process.get_apply, Step.bind_done]
  iterate 4 refine Step.sat_ite (fun _ => hrefused _ _ (by decide)) fun _ => ?_
  rw [Process.bind_apply]
  refine (sat_waitCondition .link timeoutUs timeCodeSpaceReady fuel hplace).bind ?_
  rintro c' ready link _ ⟨rfl, hready⟩
  cases ready with
  | false => exact hrefused _ _ (noRoom_ne_ok timeoutUs)
  | true =>
    have hspace := hready rfl
    show Step.Sat _ _ ((if (c.at link).own.started = false then _ else _ : Sim Result) _) _ _
    refine Step.sat_ite (fun _ => hrefused _ _ (by decide)) fun hstopped => ?_
    refine Step.sat_ite (fun _ => hrefused _ _ (by decide)) fun hgone => ?_
    -- the wait was over, and not because an end has stopped
    rw [Bool.not_eq_false] at hstopped hgone
    have hroom : (c.at link).peer.timeCodes.count < timeCodeQueueDepth := by
      simpa [timeCodeSpaceReady, hstopped, hgone] using hspace
    exact hsent link hstopped hgone hroom

end Send

theorem sat_simulatorReceive (buffer : ReceiveBuffer)
    {Q : Context → Result × Option PacketOut → VirtualLink → Unit → Prop}
    (hrefused : ∀ link result out, result ≠ .ok → Q (c.at link) (result, out) link ())
    (hreceived : ∀ link, (c.at link).own.started = true → (c.at link).own.packets.count ≠ 0 →
      (c.at link).own.packets.front.bytes.length ≤ buffer.capacity →
      Q ((c.at link).onLink VirtualLink.takePacket)
        (.ok, some ⟨(c.at link).own.packets.front.bytes.length,
          (c.at link).own.packets.front.terminator, some (c.at link).own.packets.front.bytes⟩)
        link ()) :
    Step.Sat (lockSetting b) Q (simulatorReceive fuel buffer timeoutUs c) c.link () := by
  rw [simulatorReceive, Process.bind_apply, Process.get_apply, Step.bind_done]
  iterate 2 refine Step.sat_ite (fun _ => hrefused _ _ _ (by decide)) fun _ => ?_
  rw [Process.bind_apply]
  refine (sat_waitCondition .link timeoutUs packetReceiveReady fuel hplace).bind ?_
  rintro c' ready link _ ⟨rfl, -⟩
  cases ready with
  | false => exact hrefused _ _ _ (by decide)
  | true =>
    show Step.Sat _ _ ((if (c.at link).own.started = false then _ else _ : Sim _) _) _ _
    refine Step.sat_ite (fun _ => hrefused _ _ _ (by decide)) fun hstopped => ?_
    refine Step.sat_ite (fun _ => hrefused _ _ _ (nothingThere_ne_ok _)) fun hempty => ?_
    show Step.Sat _ _ ((if (c.at link).own.packets.front.bytes.length > buffer.capacity
      then _ else _ : Sim _) _) _ _
    refine Step.sat_ite (fun _ => hrefused _ _ _ (by simp)) fun hsmall => ?_
    refine Step.sat_ite (fun _ => hrefused _ _ _ (by simp)) fun _ => ?_
    exact hreceived link (by simpa using hstopped) hempty (by simpa using hsmall)

theorem sat_simulatorReceiveTimeCode
    {Q : Context → Result × Option TimeCode → VirtualLink → Unit → Prop}
    (hrefused : ∀ link result, result ≠ .ok → Q (c.at link) (result, none) link ())
    (hreceived : ∀ link, (c.at link).own.started = true → (c.at link).own.timeCodes.count ≠ 0 →
      Q ((c.at link).onLink VirtualLink.takeTimeCode)
        (.ok, some (c.at link).own.timeCodes.front) link ()) :
    Step.Sat (lockSetting b) Q (simulatorReceiveTimeCode fuel timeoutUs c) c.link () := by
  rw [simulatorReceiveTimeCode, Process.bind_apply, Process.get_apply, Step.bind_done]
  iterate 2 refine Step.sat_ite (fun _ => hrefused _ _ (by decide)) fun _ => ?_
  rw [Process.bind_apply]
  refine (sat_waitCondition .link timeoutUs timeCodeReceiveReady fuel hplace).bind ?_
  rintro c' ready link _ ⟨rfl, -⟩
  cases ready with
  | false => exact hrefused _ _ (by decide)
  | true =>
    show Step.Sat _ _ ((if (c.at link).own.started = false then _ else _ : Sim _) _) _ _
    refine Step.sat_ite (fun _ => hrefused _ _ (by decide)) fun hstopped => ?_
    refine Step.sat_ite (fun _ => hrefused _ _ (nothingThere_ne_ok _)) fun hempty => ?_
    exact hreceived link (by simpa using hstopped) hempty

end Transfers

/-! ## Zero-copy -/

/-- The backend with its receive buffer changed. -/
def SimulatorBackend.setRx (b : SimulatorBackend) (acquired : Bool) (buffer : Buffer Storage) :
    SimulatorBackend :=
  { b with rxBufferAcquired := acquired, rxBuffer := buffer }

/-- The receive buffer with a packet in it. -/
def rxFilled (packet : Packet) : Buffer Storage :=
  { buffer with
    data := copyInto buffer.data packet.bytes
    length := packet.bytes.length
    terminator := packet.terminator.toByte
    state := .application }

theorem store_store (b : SimulatorBackend) (ref : BufferRef) (x y : Buffer Storage) :
    (b.store ref x).store ref y = b.store ref y := by
  cases ref <;> simp [SimulatorBackend.store]

theorem store_load (b : SimulatorBackend) (ref : BufferRef) : b.store ref (b.load ref) = b := by
  cases ref <;> simp [SimulatorBackend.store, SimulatorBackend.load]

@[simp] theorem store_endpointIndex (b : SimulatorBackend) (ref : BufferRef)
    (buffer : Buffer Storage) : (b.store ref buffer).endpointIndex = b.endpointIndex := by
  cases ref <;> rfl

namespace Context

variable (c : Context) (ref : BufferRef) (x y : Buffer Storage) (link : VirtualLink)

theorem own_setBuffer : ((c.setBuffer ref x).at link).own = (c.at link).own := by
  simp [own, setBuffer, Context.at]

theorem peer_setBuffer : ((c.setBuffer ref x).at link).peer = (c.at link).peer := by
  simp [peer, setBuffer, Context.at]

theorem load_setBuffer : (c.setBuffer ref x).backend.load ref = x := load_store_self _ ref x

theorem setBuffer_setBuffer : (c.setBuffer ref x).setBuffer ref y = c.setBuffer ref y := by
  simp [setBuffer, store_store]

/-- A descriptor that was changed while the link was used is changed once more. -/
theorem onLink_setBuffer (f : VirtualLink → EndpointIndex → VirtualLink) :
    (((c.setBuffer ref x).at link).onLink f).setBuffer ref y
      = ((c.at link).onLink f).setBuffer ref y := by
  simp [onLink, setBuffer, Context.at, store_store]

end Context

theorem findTxBuffer_eq_some {state : BufferState} {i : Fin packetQueueDepth}
    (h : b.findTxBuffer state = some i) : (b.txBuffers i).state = state := by
  simpa using List.find?_some h

section ZeroCopy

variable {c : Context} (hplace : SamePlace b c.backend) (timeoutUs : Timeout)

include hplace

theorem sat_awaitTxBuffer (state : BufferState) :
    Step.Sat (lockSetting b) (fun c' _ link _ => c' = c.at link)
      (awaitTxBuffer fuel state timeoutUs c) c.link () := by
  rw [awaitTxBuffer, Process.bind_apply, Process.get_apply, Step.bind_done]
  split_ifs with hfound
  · rfl
  · exact (sat_waitCondition .zeroCopy timeoutUs _ fuel hplace).mono fun _ _ _ _ h => h.1

section HandOut

variable {Q : Context → Result × Option BufferRef → VirtualLink → Unit → Prop}
  (hrefused : ∀ link result, result ≠ .ok → Q (c.at link) (result, none) link ())

include hrefused

theorem sat_simulatorAcquireTxBuffer (minCapacity : Nat)
    (hacquired : ∀ link i, (c.backend.txBuffers i).state = .free →
      Q ((c.at link).setBuffer (.tx i) { c.backend.txBuffers i with
        length := 0
        terminator := Terminator.eop.toByte
        state := .application }) (.ok, some (.tx i)) link ()) :
    Step.Sat (lockSetting b) Q (simulatorAcquireTxBuffer fuel minCapacity timeoutUs c)
      c.link () := by
  unfold simulatorAcquireTxBuffer
  split_ifs with hcapacity
  · exact hrefused _ _ (by decide)
  · rw [Process.bind_apply]
    refine (sat_awaitTxBuffer hplace timeoutUs .free).bind ?_
    rintro c' ready link _ rfl
    cases ready with
    | false => exact hrefused _ _ (noRoom_ne_ok timeoutUs)
    | true =>
      rw [if_neg (by decide), Process.bind_apply, Process.get_apply, Step.bind_done]
      cases hfind : (c.at link).backend.findFreeTxBuffer with
      | none => exact hrefused _ _ (by decide)
      | some i => exact hacquired link i (findTxBuffer_eq_some hfind)

theorem sat_simulatorReclaimTxBuffer
    (hreclaimed : ∀ link i, (c.backend.txBuffers i).state = .completed →
      Q ((c.at link).setBuffer (.tx i) { c.backend.txBuffers i with state := .application })
        (.ok, some (.tx i)) link ()) :
    Step.Sat (lockSetting b) Q (simulatorReclaimTxBuffer fuel timeoutUs c) c.link () := by
  rw [simulatorReclaimTxBuffer, Process.bind_apply]
  refine (sat_awaitTxBuffer hplace timeoutUs .completed).bind ?_
  rintro c' ready link _ rfl
  cases ready with
  | false => exact hrefused _ _ (by decide)
  | true =>
    rw [if_neg (by decide), Process.bind_apply, Process.get_apply, Step.bind_done]
    cases hfind : (c.at link).backend.findCompletedTxBuffer with
    | none => exact hrefused _ _ (by decide)
    | some i => exact hreclaimed link i (findTxBuffer_eq_some hfind)

/-- An acquisition that has found no packet leaves the receive buffer free. -/
theorem sat_simulatorAcquireRxBuffer
    (hreturned : ∀ link result, result ≠ .ok → c.backend.rxBufferAcquired = false →
      Q { c.at link with
        backend := c.backend.setRx false { c.backend.rxBuffer with state := .free } }
        (result, none) link ())
    (hacquired : ∀ link, c.backend.rxBufferAcquired = false → (c.at link).own.started = true →
      (c.at link).own.packets.count ≠ 0 →
      Q { (c.at link).onLink VirtualLink.takePacket with
        backend := c.backend.setRx true
          (rxFilled c.backend.rxBuffer (c.at link).own.packets.front) } (.ok, some .rx) link ()) :
    Step.Sat (lockSetting b) Q (simulatorAcquireRxBuffer fuel timeoutUs c) c.link () := by
  rw [simulatorAcquireRxBuffer, Process.bind_apply]
  refine (sat_waitCondition .zeroCopy timeoutUs _ fuel hplace).bind ?_
  rintro c' available link _ ⟨rfl, hready⟩
  cases available with
  | false => exact hrefused _ _ (noRoom_ne_ok timeoutUs)
  | true =>
    have hfree : c.backend.rxBufferAcquired = false := by simpa using hready rfl
    let marked : Context := { c.at link with
      backend := c.backend.setRx true { c.backend.rxBuffer with state := .backend } }
    have hmarked : SamePlace b marked.backend :=
      ⟨hplace.linkId, hplace.endpointIndex, hplace.link⟩
    show Step.Sat _ _ ((simulatorReceive fuel ⟨true, maxPacketSize⟩ timeoutUs marked).bind _) _ _
    refine Step.Sat.bind (fun _ _ _ _ hq => hq) (sat_simulatorReceive hmarked timeoutUs
      ⟨true, maxPacketSize⟩ (fun link' result out hresult => ?_)
      fun link' hstarted hcount _ => hacquired link' hfree hstarted hcount)
    have hback := hreturned link' result hresult hfree
    cases result with
    | ok => exact absurd rfl hresult
    | _ => exact hback

end HandOut

section GiveBack

variable (ref : BufferRef) {Q : Context → Result → VirtualLink → Unit → Prop}
  (hrefused : ∀ link result, result ≠ .ok → Q (c.at link) result link ())

include hrefused

theorem sat_simulatorSubmitTxBuffer
    (hsubmitted : ∀ link, heldFor .tx (c.backend.load ref) = true →
      (c.at link).own.started = true → (c.at link).peer.available = true →
      (c.at link).peer.packets.count ≠ packetQueueDepth →
      validTerminator (c.backend.load ref).terminator = true →
      (c.backend.load ref).length ≤ maxPacketSize →
      Q (((c.at link).onLink fun link e =>
        link.sendPacket e (bufferPacket (c.backend.load ref)).packet).setBuffer ref
          { c.backend.load ref with state := .completed }) .ok link ()) :
    Step.Sat (lockSetting b) Q (simulatorSubmitTxBuffer fuel ref timeoutUs c) c.link () := by
  rw [simulatorSubmitTxBuffer, Process.bind_apply, Process.get_apply, Step.bind_done]
  split_ifs with hheld hpacket
  · exact hrefused _ _ (by decide)
  · exact hrefused _ _ (by decide)
  · rw [Bool.not_eq_false] at hheld
    have hstate : (c.backend.load ref).state = .application := by
      simp only [heldFor, Bool.and_eq_true, decide_eq_true_eq] at hheld
      exact hheld.2
    rw [Process.bind_apply, Process.set_apply, Step.bind_done, Process.bind_apply]
    have hmarked : SamePlace b
        (c.setBuffer ref { c.backend.load ref with state := .backend }).backend :=
      hplace.store ref _
    refine Step.Sat.bind (fun _ _ _ _ hq => hq) (sat_simulatorSend hmarked timeoutUs
      (fun link result hresult => ?_) (bufferPacket (c.backend.load ref))
      fun link hstarted hpeer hroom hterminator hlength => ?_)
    · -- the descriptor is the application's again, as it was
      have hback : { c.backend.load ref with state := .application } = c.backend.load ref := by
        rw [← hstate]
      show Q (Context.setBuffer (Context.at _ link) ref _) result link ()
      rw [if_neg hresult]
      simp only [Context.at_backend, Context.setBuffer, load_store_self]
      rw [hback, store_store, store_load]
      exact hrefused link result hresult
    · rw [Context.own_setBuffer] at hstarted
      rw [Context.peer_setBuffer] at hpeer hroom
      show Q (Context.setBuffer (Context.onLink _ _) ref _) .ok link ()
      rw [Context.onLink_setBuffer]
      simp only [Context.onLink, Context.setBuffer, Context.at_backend, load_store_self, if_true]
      exact hsubmitted link hheld hstarted hpeer hroom hterminator hlength

omit hplace

theorem sat_simulatorReleaseTxBuffer
    (hreleased : heldFor .tx (c.backend.load ref) = true →
      Q (c.setBuffer ref (Buffer.release (c.backend.load ref))) .ok c.link ()) :
    Step.Sat (lockSetting b) Q (simulatorReleaseTxBuffer ref c) c.link () := by
  rw [simulatorReleaseTxBuffer, Process.bind_apply, Process.get_apply, Step.bind_done]
  show Step.Sat _ _ ((if heldFor .tx (c.backend.load ref) = false then _ else _ : Sim _) _) _ _
  exact Step.sat_ite (fun _ => hrefused _ _ (by decide)) fun hheld => hreleased
    (by simpa using hheld)

theorem sat_simulatorReleaseRxBuffer
    (hreleased : ref = .rx → heldFor .rx c.backend.rxBuffer = true →
      c.backend.rxBufferAcquired = true → Q { c with
        backend := c.backend.setRx false (Buffer.release c.backend.rxBuffer) } .ok c.link ()) :
    Step.Sat (lockSetting b) Q (simulatorReleaseRxBuffer ref c) c.link () := by
  rw [simulatorReleaseRxBuffer, Process.bind_apply, Process.get_apply, Step.bind_done]
  show Step.Sat _ _ ((if ref ≠ .rx ∨ heldFor .rx (c.backend.load ref) = false
    ∨ c.backend.rxBufferAcquired = false then _ else _ : Sim _) _) _ _
  refine Step.sat_ite (fun _ => hrefused _ _ (by decide)) fun hheld => ?_
  simp only [not_or, ne_eq, not_not, Bool.not_eq_false] at hheld
  obtain ⟨rfl, hheld, hacquired⟩ := hheld
  exact hreleased rfl hheld hacquired

end GiveBack

end ZeroCopy

end Simulator
