import SpwKit.Virtual.RegistryInvariant

/-!
# A virtual link is two pairs of bounded queues

What an endpoint has been sent and has not yet taken lies in two rings, one of
packets and one of time codes, each with a head, a tail and a count that four
entry points write to. Seen from outside an endpoint has two lists
(`Queues`), and an operation of a port does to them one of a few things
(`FifoStep`): it appends to the lists of the other end, takes from its own, or
empties its own. `link_refines_fifos` says that every action on the ports of a
process is one of these, and which: a call that was refused, or has not returned,
does nothing.
-/

open Interactive Core

namespace Simulator

/-! ## The abstract link -/

/-- What an endpoint has been sent, oldest first. -/
structure Queues where
  packets : List Packet
  timeCodes : List TimeCode
deriving DecidableEq, Repr

/-- Nothing. -/
def Queues.empty : Queues := ⟨[], []⟩

/-- What an operation does to the queues. -/
inductive FifoEvent
  | kept
  | sent (packet : Packet)
  | received (packet : Packet)
  | timeCodeSent (code : TimeCode)
  | timeCodeReceived (code : TimeCode)
  | cleared
deriving DecidableEq, Repr

/-- **A link of bounded queues**: what an operation at an end does to the queues of the two
ends. -/
inductive FifoStep (q : EndpointIndex → Queues) (e : EndpointIndex) :
    FifoEvent → (EndpointIndex → Queues) → Prop
  | kept : FifoStep q e .kept q
  | sent (packet : Packet) (hroom : (q (peerIndex e)).packets.length < packetQueueDepth) :
      FifoStep q e (.sent packet) (Function.update q (peerIndex e)
        { q (peerIndex e) with packets := (q (peerIndex e)).packets ++ [packet] })
  | received (packet : Packet) (rest : List Packet) (hhead : (q e).packets = packet :: rest) :
      FifoStep q e (.received packet) (Function.update q e { q e with packets := rest })
  | timeCodeSent (code : TimeCode)
      (hroom : (q (peerIndex e)).timeCodes.length < timeCodeQueueDepth) :
      FifoStep q e (.timeCodeSent code) (Function.update q (peerIndex e)
        { q (peerIndex e) with timeCodes := (q (peerIndex e)).timeCodes ++ [code] })
  | timeCodeReceived (code : TimeCode) (rest : List TimeCode)
      (hhead : (q e).timeCodes = code :: rest) :
      FifoStep q e (.timeCodeReceived code) (Function.update q e { q e with timeCodes := rest })
  | cleared : FifoStep q e .cleared (Function.update q e .empty)

/-- A call that moves nothing over the link. -/
def movesNothing : Call → Bool
  | .start | .stop | .getLinkState | .getStatistics | .clearStatistics | .getView _
  | .setPacket _ _ _ | .acquireTx _ _ | .reclaimTx _ | .releaseTx _ | .releaseRx _ => true
  | _ => false

/-- **What a call that has returned shows of the queues**, between a backend before it and
after it. -/
inductive Shows (before after : SimulatorBackend) : Call → Reply → FifoEvent → Prop
  /-- Whatever returns an error has done nothing. -/
  | refused (call : Call) (reply : Reply) (hresult : reply.result ≠ .ok) :
      Shows before after call reply .kept
  | other (call : Call) (reply : Reply) (hcall : movesNothing call = true) :
      Shows before after call reply .kept
  | reset : Shows before after .reset { result := .ok } .cleared
  | sent (packet : PortPacket) (timeoutUs : Timeout)
      (hterminator : validTerminator packet.terminator = true) :
      Shows before after (.send (some packet) timeoutUs) { result := .ok } (.sent packet.packet)
  /-- The packet that was in the descriptor. -/
  | submitted (ref : BufferRef) (timeoutUs : Timeout)
      (hterminator : validTerminator (before.load ref).terminator = true) :
      Shows before after (.submitTx (some (.own ref)) timeoutUs) { result := .ok }
        (.sent (bufferPacket (before.load ref)).packet)
  | received (buffer : ReceiveBuffer) (timeoutUs : Timeout) (packet : Packet) :
      Shows before after (.receive (some buffer) timeoutUs)
        { result := .ok, packet := some ⟨packet.bytes.length, packet.terminator,
        some packet.bytes⟩ }
        (.received packet)
  /-- The packet that is in the descriptor. -/
  | acquired (timeoutUs : Timeout) :
      Shows before after (.acquireRx timeoutUs) { result := .ok, handle := some (.own .rx) }
        (.received (bufferPacket (after.load .rx)).packet)
  | timeCodeSent (code : TimeCode) (timeoutUs : Timeout) :
      Shows before after (.sendTimeCode (some code) timeoutUs) { result := .ok }
        (.timeCodeSent code)
  | timeCodeReceived (timeoutUs : Timeout) (code : TimeCode) :
      Shows before after (.receiveTimeCode true timeoutUs) { result := .ok, timeCode := some code }
        (.timeCodeReceived code)

/-! ## The rings of a link -/

/-- The lists that the rings of an endpoint are. -/
def EndpointState.queues (endpoint : EndpointState) : Queues :=
  ⟨endpoint.packets.toList packetQueueDepth, endpoint.timeCodes.toList timeCodeQueueDepth⟩

/-- The queues of a link. -/
def VirtualLink.queues (link : VirtualLink) (e : EndpointIndex) : Queues :=
  (link.endpoints e).queues

/-- The rings of an endpoint are in order, and empty where it is not attached. -/
structure EndpointState.RingsFit (endpoint : EndpointState) : Prop where
  packets : endpoint.packets.Consistent packetQueueDepth
  timeCodes : endpoint.timeCodes.Consistent timeCodeQueueDepth
  idle : endpoint.attached = false → endpoint.queues = .empty

/-- The rings of a link are in order. -/
def VirtualLink.RingsFit (link : VirtualLink) : Prop := ∀ e, (link.endpoints e).RingsFit

variable {a : Action} {i : LinkIndex} {m : Machine} {outcome : Outcome} {registry : Registry}

theorem ringsFit_reset : resetEndpoint.RingsFit :=
  ⟨.zeroed _ (by decide), .zeroed _ (by decide), fun _ => rfl⟩

section Rings

variable {link link' : VirtualLink} {e : EndpointIndex} {f : EndpointState → EndpointState}
  {q : EndpointIndex → Queues} {x y : EndpointState}

/-- What the rings of an endpoint are in order by. -/
def EndpointState.rings (x : EndpointState) : RawRing Packet × RawRing TimeCode × Bool :=
  (x.packets, x.timeCodes, x.attached)

theorem rings_disconnect (x : EndpointState) : x.disconnect.rings = x.rings := by
  unfold EndpointState.disconnect
  split_ifs <;> rfl

theorem rings_lose (x : EndpointState) : x.lose.rings = x.rings := by
  unfold EndpointState.lose
  split_ifs <;> rfl

theorem rings_update (hf : (f (link.endpoints e)).rings = (link.endpoints e).rings)
    (e' : EndpointIndex) : ((link.update e f).endpoints e').rings = (link.endpoints e').rings := by
  rcases eq_or_eq_peerIndex e e' with rfl | rfl
  · rw [VirtualLink.update_own, hf]
  · rw [VirtualLink.update_peer]

theorem queues_of_rings (h : y.rings = x.rings) : y.queues = x.queues := by
  simp only [EndpointState.rings, Prod.mk.injEq] at h
  rw [EndpointState.queues, h.1, h.2.1]
  rfl

theorem EndpointState.RingsFit.of_rings (h : x.RingsFit) (hsame : y.rings = x.rings) :
    y.RingsFit := by
  have hqueues := queues_of_rings hsame
  simp only [EndpointState.rings, Prod.mk.injEq] at hsame
  exact ⟨hsame.1 ▸ h.packets, hsame.2.1 ▸ h.timeCodes,
    fun hidle => hqueues.trans (h.idle (hsame.2.2 ▸ hidle))⟩

/-- **What an operation leaves**: rings that are in order, and queues. -/
structure Leaves (link : VirtualLink) (q : EndpointIndex → Queues) : Prop where
  fit : link.RingsFit
  queues : link.queues = q

theorem VirtualLink.RingsFit.leaves (h : link.RingsFit) : Leaves link link.queues := ⟨h, rfl⟩

/-- A change that is not about rings. -/
theorem Leaves.of_rings (h : Leaves link q)
    (hsame : ∀ e, (link'.endpoints e).rings = (link.endpoints e).rings) : Leaves link' q :=
  ⟨fun e => (h.fit e).of_rings (hsame e),
    (funext fun e => queues_of_rings (hsame e)).trans h.queues⟩

theorem Leaves.update (h : Leaves link q) (hf : (f (link.endpoints e)).RingsFit) :
    Leaves (link.update e f) (Function.update q e (f (link.endpoints e)).queues) := by
  refine ⟨fun e' => ?_, funext fun e' => ?_⟩
  all_goals rcases eq_or_eq_peerIndex e e' with rfl | rfl
  · rw [VirtualLink.update_own]
    exact hf
  · rw [VirtualLink.update_peer]
    exact h.fit _
  · simp [VirtualLink.queues]
  · simp [← h.queues, VirtualLink.queues, peerIndex_ne]

variable (h : link.RingsFit)

include h

theorem leaves_sendPacket (hpeer : (link.endpoints (peerIndex e)).available = true)
    (hroom : (link.endpoints (peerIndex e)).packets.count < packetQueueDepth) (packet : Packet) :
    Leaves (link.sendPacket e packet) (Function.update link.queues (peerIndex e)
      { link.queues (peerIndex e) with
        packets := (link.queues (peerIndex e)).packets ++ [packet] }) := by
  have hattached := ((available_iff _).mp hpeer).1
  have hqueue := (h (peerIndex e)).packets.toList_push hroom packet
  rw [VirtualLink.queues, EndpointState.queues, ← hqueue]
  exact (h.leaves.update ⟨(h (peerIndex e)).packets.push hroom packet, (h (peerIndex e)).timeCodes,
    fun hidle => by simp [hattached] at hidle⟩).of_rings (rings_update rfl)

theorem leaves_sendTimeCode (hpeer : (link.endpoints (peerIndex e)).available = true)
    (hroom : (link.endpoints (peerIndex e)).timeCodes.count < timeCodeQueueDepth)
    (code : TimeCode) :
    Leaves (link.sendTimeCode e code) (Function.update link.queues (peerIndex e)
      { link.queues (peerIndex e) with
        timeCodes := (link.queues (peerIndex e)).timeCodes ++ [code] }) := by
  have hattached := ((available_iff _).mp hpeer).1
  have hqueue := (h (peerIndex e)).timeCodes.toList_push hroom code
  rw [VirtualLink.queues, EndpointState.queues, ← hqueue]
  exact (h.leaves.update ⟨(h (peerIndex e)).packets, (h (peerIndex e)).timeCodes.push hroom code,
    fun hidle => by simp [hattached] at hidle⟩).of_rings (rings_update rfl)

/-- The head of a queue and what is left when it is taken. -/
theorem leaves_takePacket (hcount : (link.endpoints e).packets.count ≠ 0) :
    ∃ rest, (link.queues e).packets = (link.endpoints e).packets.front :: rest
      ∧ Leaves (link.takePacket e)
        (Function.update link.queues e { link.queues e with packets := rest }) := by
  refine ⟨_, (h e).packets.toList_eq_cons hcount,
    h.leaves.update ⟨(h e).packets.drop hcount, (h e).timeCodes, fun hidle => ?_⟩⟩
  -- an endpoint that is not attached has nothing to take
  have hempty : (link.endpoints e).packets.toList packetQueueDepth = [] :=
    congrArg Queues.packets ((h e).idle hidle)
  exact absurd (RawRing.toList_eq_nil_iff.mp hempty) hcount

theorem leaves_takeTimeCode (hcount : (link.endpoints e).timeCodes.count ≠ 0) :
    ∃ rest, (link.queues e).timeCodes = (link.endpoints e).timeCodes.front :: rest
      ∧ Leaves (link.takeTimeCode e)
        (Function.update link.queues e { link.queues e with timeCodes := rest }) := by
  refine ⟨_, (h e).timeCodes.toList_eq_cons hcount,
    h.leaves.update ⟨(h e).packets, (h e).timeCodes.drop hcount, fun hidle => ?_⟩⟩
  have hempty : (link.endpoints e).timeCodes.toList timeCodeQueueDepth = [] :=
    congrArg Queues.timeCodes ((h e).idle hidle)
  exact absurd (RawRing.toList_eq_nil_iff.mp hempty) hcount

theorem leaves_start (hattached : (link.endpoints e).attached = true) :
    Leaves (link.start e).2 link.queues := by
  rw [VirtualLink.start, if_neg (by simp [hattached])]
  exact (h.leaves.of_rings (rings_update (e := e)
    (f := fun own => { own with started := true, state := .connecting }) rfl)).of_rings fun _ => rfl

theorem leaves_stop (hattached : (link.endpoints e).attached = true) :
    Leaves (link.stop e).2 link.queues := by
  rw [VirtualLink.stop, if_neg (by simp [hattached])]
  exact (h.leaves.of_rings (rings_update rfl)).of_rings (rings_update (rings_disconnect _))

theorem leaves_reset (hattached : (link.endpoints e).attached = true) :
    Leaves (link.reset e).2 (Function.update link.queues e .empty) := by
  rw [VirtualLink.reset, if_neg (by simp [hattached])]
  exact (h.leaves.update ⟨.zeroed _ (by decide), .zeroed _ (by decide), fun _ => rfl⟩).of_rings
    (rings_update (rings_lose _))

theorem leaves_attach : Leaves (link.attach e) (Function.update link.queues e .empty) :=
  (h.leaves.update (f := fun _ => { resetEndpoint with attached := true })
    ⟨ringsFit_reset.packets, ringsFit_reset.timeCodes, fun _ => rfl⟩).of_rings fun _ => rfl

theorem leaves_detach : Leaves (link.detach e) (Function.update link.queues e .empty) := by
  rw [detach_eq]
  split_ifs with hpeer
  · exact (h.leaves.update ringsFit_reset).of_rings (rings_update (rings_lose _))
  · -- the other end is not attached, so its queues are empty as well
    refine ⟨fun _ => ringsFit_reset, funext fun e' => ?_⟩
    rcases eq_or_eq_peerIndex e e' with rfl | rfl
    · rw [Function.update_self]
      rfl
    · rw [Function.update_of_ne (peerIndex_ne e)]
      exact ((h (peerIndex e)).idle (by simpa using hpeer)).symm

end Rings

/-! ## What a call does to the queues -/

/-- **What a call does to its link**, with what it moves. -/
inductive LinkOp (link : VirtualLink) (e : EndpointIndex) : Call → FifoEvent → VirtualLink → Prop
  | same (call : Call) : LinkOp link e call .kept link
  | start (hattached : (link.endpoints e).attached = true) :
      LinkOp link e .start .kept (link.start e).2
  | stop (hattached : (link.endpoints e).attached = true) :
      LinkOp link e .stop .kept (link.stop e).2
  | reset (hattached : (link.endpoints e).attached = true) :
      LinkOp link e .reset .cleared (link.reset e).2
  | clearStatistics : LinkOp link e .clearStatistics .kept
      (link.update e fun own => { own with statistics := {} })
  | sent (call : Call) (packet : Packet)
      (hpeer : (link.endpoints (peerIndex e)).available = true)
      (hroom : (link.endpoints (peerIndex e)).packets.count ≠ packetQueueDepth) :
      LinkOp link e call (.sent packet) (link.sendPacket e packet)
  | received (call : Call) (hcount : (link.endpoints e).packets.count ≠ 0) :
      LinkOp link e call (.received (link.endpoints e).packets.front) (link.takePacket e)
  | timeCodeSent (call : Call) (code : TimeCode)
      (hpeer : (link.endpoints (peerIndex e)).available = true)
      (hroom : (link.endpoints (peerIndex e)).timeCodes.count < timeCodeQueueDepth) :
      LinkOp link e call (.timeCodeSent code) (link.sendTimeCode e code)
  | timeCodeReceived (call : Call) (hcount : (link.endpoints e).timeCodes.count ≠ 0) :
      LinkOp link e call (.timeCodeReceived (link.endpoints e).timeCodes.front)
        (link.takeTimeCode e)

theorem map_range_getD (bytes : Bytes) (data : Storage) :
    (List.range bytes.length).map (fun i => bytes.getD i (data i)) = bytes := by
  refine List.ext_getElem (by simp) fun i hi hi' => ?_
  simp [List.getD_eq_getElem?_getD, hi']

/-- The packet in a receive buffer that was filled. -/
theorem bufferPacket_rxFilled (buffer : Buffer Storage) (packet : Packet) :
    (bufferPacket (rxFilled buffer packet)).packet = packet := by
  have hbytes : (bufferPacket (rxFilled buffer packet)).bytes = packet.bytes :=
    map_range_getD packet.bytes buffer.data
  have hterminator : (bufferPacket (rxFilled buffer packet)).terminator
      = packet.terminator.toByte := rfl
  rw [PortPacket.packet, hbytes, hterminator, Terminator.ofByte_toByte]
  rfl

/-- What a call does to its link, its reply shows. -/
theorem Effect.linkOp {o o' : Opened Context} {call : Call} {reply : Reply}
    (h : Effect o call reply o') :
    ∃ event, Shows o.context.backend o'.context.backend call reply event
      ∧ LinkOp o.context.link o.context.backend.endpointIndex call event o'.context.link := by
  cases h with
  | refused _ _ hresult | rxReturned _ _ hresult => exact ⟨.kept, .refused _ _ hresult, .same _⟩
  | linkState | statistics | view | setPacket | acquiredTx | reclaimed | releasedTx | releasedRx =>
    exact ⟨.kept, .other _ _ rfl, .same _⟩
  | clearStatistics => exact ⟨.kept, .other _ _ rfl, .clearStatistics⟩
  | start hattached => exact ⟨.kept, .other _ _ rfl, .start hattached⟩
  | stop hattached => exact ⟨.kept, .other _ _ rfl, .stop hattached⟩
  | reset hattached => exact ⟨.cleared, .reset, .reset hattached⟩
  | sent packet timeoutUs _ hpeer hroom hterminator =>
    exact ⟨_, .sent packet timeoutUs hterminator, .sent _ _ hpeer hroom⟩
  | submitted ref timeoutUs _ _ _ hpeer hroom hterminator =>
    exact ⟨_, .submitted ref timeoutUs hterminator, .sent _ _ hpeer hroom⟩
  | received buffer timeoutUs _ hcount =>
    exact ⟨_, .received buffer timeoutUs _, .received _ hcount⟩
  | acquiredRx timeoutUs _ _ hcount =>
    refine ⟨_, .acquired timeoutUs, ?_⟩
    show LinkOp _ _ _ (.received (bufferPacket (rxFilled _ _)).packet) _
    rw [bufferPacket_rxFilled]
    exact .received _ hcount
  | timeCodeSent code timeoutUs _ hpeer hroom =>
    exact ⟨_, .timeCodeSent code timeoutUs, .timeCodeSent _ code hpeer hroom⟩
  | timeCodeReceived timeoutUs _ hcount =>
    exact ⟨_, .timeCodeReceived timeoutUs _, .timeCodeReceived _ hcount⟩

theorem FifoStep.of_leaves {link' : VirtualLink} {q q' : EndpointIndex → Queues}
    {e : EndpointIndex} {event : FifoEvent} (hstep : FifoStep q e event q') (h : Leaves link' q') :
    link'.RingsFit ∧ FifoStep q e event link'.queues :=
  ⟨h.fit, h.queues.symm ▸ hstep⟩

/-- **An operation on a link is a step of the queues.** -/
theorem LinkOp.fifo {link link' : VirtualLink} {e : EndpointIndex} {call : Call}
    {event : FifoEvent} (h : LinkOp link e call event link') (hfit : link.RingsFit) :
    link'.RingsFit ∧ FifoStep link.queues e event link'.queues := by
  cases h with
  | same => exact ⟨hfit, .kept⟩
  | clearStatistics => exact FifoStep.kept.of_leaves (hfit.leaves.of_rings (rings_update rfl))
  | start hattached => exact FifoStep.kept.of_leaves (leaves_start hfit hattached)
  | stop hattached => exact FifoStep.kept.of_leaves (leaves_stop hfit hattached)
  | reset hattached => exact FifoStep.cleared.of_leaves (leaves_reset hfit hattached)
  | sent _ packet hpeer hroom =>
    have hroom := Nat.lt_of_le_of_ne (hfit (peerIndex e)).packets.count_le hroom
    refine (FifoStep.sent packet ?_).of_leaves (leaves_sendPacket hfit hpeer hroom packet)
    rwa [VirtualLink.queues, EndpointState.queues, RawRing.toList_length]
  | received _ hcount =>
    obtain ⟨rest, hhead, hleaves⟩ := leaves_takePacket hfit hcount
    exact (FifoStep.received _ rest hhead).of_leaves hleaves
  | timeCodeSent _ code hpeer hroom =>
    refine (FifoStep.timeCodeSent code ?_).of_leaves (leaves_sendTimeCode hfit hpeer hroom code)
    rwa [VirtualLink.queues, EndpointState.queues, RawRing.toList_length]
  | timeCodeReceived _ hcount =>
    obtain ⟨rest, hhead, hleaves⟩ := leaves_takeTimeCode hfit hcount
    exact (FifoStep.timeCodeReceived _ rest hhead).of_leaves hleaves

/-! ## What an action does to the queues -/

/-- The queues of all links. -/
def Registry.queues (registry : Registry) (i : LinkIndex) : EndpointIndex → Queues :=
  (registry i).queues

theorem Registry.queues_update (registry : Registry) (i : LinkIndex) (link : VirtualLink) :
    Registry.queues (Function.update registry i link)
      = Function.update registry.queues i link.queues := by
  funext j
  by_cases hj : j = i
  · subst hj
    simp [Registry.queues]
  · simp [Registry.queues, hj]

/-- The rings of all links are in order. -/
def Registry.RingsFit (registry : Registry) : Prop := ∀ i, (registry i).RingsFit

theorem Registry.RingsFit.update (h : registry.RingsFit) {link : VirtualLink}
    (hlink : link.RingsFit) : Registry.RingsFit (Function.update registry i link) := by
  intro j
  by_cases hj : j = i
  · subst hj
    simpa using hlink
  · simpa [hj] using h j

/-- A link that has an end attached has that end's queues empty. -/
theorem Attaches.fifo {registry' : Registry} {linkId : UInt64} {e : EndpointIndex}
    (hsound : registry.Sound) (hfit : registry.RingsFit)
    (h : Attaches registry linkId e (.ok i, registry')) :
    registry'.RingsFit ∧ registry'.queues
      = Function.update registry.queues i (Function.update (registry.queues i) e .empty) := by
  cases h with
  | joined _ hallocated hid hfree =>
    have hleaves := leaves_attach (e := e) (hfit i)
    exact ⟨hfit.update hleaves.fit, (Registry.queues_update ..).trans (by rw [hleaves.queues]; rfl)⟩
  | fresh _ hunknown hfree =>
    -- the entry was free, so nothing was left in it
    have hempty : registry.queues i = fun _ => .empty := by
      funext e'
      exact (hfit i e').idle (Bool.eq_false_of_not_eq_true
        (hsound.not_attachedAt_of_free hfree e'))
    have hleaves : Leaves (VirtualLink.attach ⟨true, linkId, fun _ => resetEndpoint⟩ e) _ :=
      leaves_attach fun _ => ringsFit_reset
    refine ⟨hfit.update hleaves.fit, ?_⟩
    rw [Registry.queues_update, hleaves.queues, hempty]
    rfl

/-- **The rings stay in order.** -/
theorem Machine.Step.ringsFit {m' : Machine} (hstep : m.Step a outcome m') (h : m.Ordered)
    (hfit : m.registry.RingsFit) : m'.registry.RingsFit := by
  cases hstep with
  | silent | filled => exact hfit
  | opened port linkId e i registry hport hattach =>
    exact (Attaches.fifo h.sound hfit (hattach ▸ attachBackend_attaches m.registry linkId e)).1
  | notOpened port linkId e result registry hport hattach =>
    have hcases := attachBackend_attaches m.registry linkId e
    rw [hattach] at hcases
    cases hcases <;> exact hfit
  | closed port o i hport hlink => exact hfit.update (leaves_detach (hfit i)).fit
  | returned a port call reply o o' i hport hlink heffect =>
    obtain ⟨_, -, hop⟩ := heffect.linkOp
    exact hfit.update (hop.fifo (hfit i)).1

theorem Machine.Reachable.ringsFit (h : m.Reachable) : m.registry.RingsFit := by
  induction h with
  | initial => exact fun _ _ => ringsFit_reset
  | step hm hstep ih => exact hstep.ringsFit hm.ordered ih

/-- The queues of all links. -/
def World.queues (w : World) : LinkIndex → EndpointIndex → Queues := w.registry.queues

/-- **What an action does to the queues of the links.** -/
inductive LinkStep (w : World) : Action → Outcome → World → Prop
  /-- Nothing is seen: no port was opened or closed, and nothing has happened to the queues. -/
  | silent (a : Action) (w' : World)
      (hports : ∀ port, (w'.before port).isSome = (w.before port).isSome)
      (hkept : w'.queues = w.queues) : LinkStep w a .nothing w'
  /-- A port was opened: its own queues are empty. -/
  | opened (port : Nat) (linkId : UInt64) (e : EndpointIndex) (i : LinkIndex) (w' : World)
      (hport : w'.PortAt port i e)
      (hqueues : w'.queues
        = Function.update w.queues i (Function.update (w.queues i) e .empty)) :
      LinkStep w (.open port linkId e) (.opened port .ok) w'
  | notOpened (port : Nat) (linkId : UInt64) (e : EndpointIndex) (result : Result) (w' : World)
      (hresult : result ≠ .ok) (hkept : w'.queues = w.queues) :
      LinkStep w (.open port linkId e) (.opened port result) w'
  /-- A port was closed: its own queues are empty. -/
  | closed (port : Nat) (i : LinkIndex) (e : EndpointIndex) (w' : World)
      (hport : w.PortAt port i e) (hclosed : w'.ports port = none)
      (hqueues : w'.queues
        = Function.update w.queues i (Function.update (w.queues i) e .empty)) :
      LinkStep w (.close port) .nothing w'
  /-- A call has returned: it has taken a step on the queues of its link, by what was in its
  descriptors when it was made. -/
  | returned (a : Action) (port : Nat) (call : Call) (reply : Reply) (i : LinkIndex)
      (before after : Opened Context) (event : FifoEvent) (q : EndpointIndex → Queues)
      (w' : World) (hbefore : w.before port = some before)
      (hlink : before.context.backend.link = some i)
      (hafter : w'.before port = some after)
      (hshows : Shows before.context.backend after.context.backend call reply event)
      (hstep : FifoStep (w.queues i) before.context.backend.endpointIndex event q)
      (hqueues : w'.queues = Function.update w.queues i q) :
      LinkStep w a (.returned port call reply) w'

/-- A step of the machine is one on the queues. -/
theorem linkStep_of_step {w w' : World} (hordered : w.machine.Ordered) (hfit : w.registry.RingsFit)
    (hfits : w.Fits) (hfits' : w'.Fits) (hstep : w.machine.Step a outcome w'.machine) :
    LinkStep w a outcome w' := by
  have hregistry : w'.registry = w'.machine.registry := rfl
  have hports : w'.before = w'.machine.ports := rfl
  generalize w'.machine = m' at hstep hregistry hports
  cases hstep with
  | silent =>
    exact .silent a w' (fun port => congrArg Option.isSome (congrFun hports port))
      (congrArg Registry.queues hregistry)
  | filled port ref data o hport =>
    refine .silent _ w' (fun port' => ?_) (congrArg Registry.queues hregistry)
    have hopen : (w.before port).isSome = true := by simp [show w.before port = some o from hport]
    rw [hports]
    by_cases hp : port' = port
    · simp [hp, hopen]
    · simp [hp, World.machine]
  | opened port linkId e i registry hport hattach =>
    have hcases := attachBackend_attaches w.registry linkId e
    rw [show attachBackend w.registry linkId e = (.ok i, registry) from hattach] at hcases
    refine .opened port linkId e i w' ((hfits'.portAt_iff port i e).mpr ?_) ?_
    · exact ⟨_, (congrFun hports port).trans (Function.update_self ..), rfl, rfl⟩
    · rw [World.queues, hregistry]
      exact (hcases.fifo hordered.sound hfit).2
  | notOpened port linkId e result registry hport hattach =>
    have hcases := attachBackend_attaches w.registry linkId e
    rw [show attachBackend w.registry linkId e = (.error result, registry) from hattach] at hcases
    have hkept : registry = w.registry ∧ result ≠ .ok := by
      cases hcases <;> exact ⟨rfl, by decide⟩
    exact .notOpened port linkId e result w' hkept.2
      (congrArg Registry.queues (hregistry.trans hkept.1))
  | closed port o i hport hlink =>
    refine .closed port i o.context.backend.endpointIndex w' ?_ ?_ ?_
    · exact (hfits.portAt_iff _ _ _).mpr ⟨o, hport, hlink, rfl⟩
    · have hbefore : w'.before port = none :=
        (congrFun hports port).trans (Function.update_self ..)
      simpa [World.before] using hbefore
    · rw [World.queues, hregistry]
      show Registry.queues (detachBackend w.registry i _) = _
      rw [detachBackend, Registry.queues_update, (leaves_detach (hfit i)).queues]
      rfl
  | returned _ port call reply o o' i hport hlink heffect =>
    obtain ⟨event, hshows, hop⟩ := heffect.linkOp
    have hfifo := (hop.fifo (hfit i)).2
    refine .returned a port call reply i o o' event o'.context.link.queues w' hport hlink
      ((congrFun hports port).trans (Function.update_self ..)) hshows hfifo ?_
    rw [World.queues, hregistry]
    exact Registry.queues_update _ _ _

/-- **A virtual link refines bounded queues.** In every world that ports can reach, the rings
of every endpoint are lists of at most eight elements, and every action is one on these
lists. -/
theorem link_refines_fifos {fuel : Nat} {w : World} (hreachable : Reachable fuel w) (a : Action) :
    (∀ i e, (w.queues i e).packets.length ≤ packetQueueDepth
      ∧ (w.queues i e).timeCodes.length ≤ timeCodeQueueDepth)
    ∧ LinkStep w a (w.step fuel a).2 (w.step fuel a).1 := by
  have hordered := hreachable.machine.ordered
  have hfit : w.registry.RingsFit := hreachable.machine.ringsFit
  obtain ⟨hstep, hfits'⟩ := hreachable.fits.step fuel a
  refine ⟨fun i e => ?_, ?_⟩
  · have hpackets := (hfit i e).packets.count_le
    have htimeCodes := (hfit i e).timeCodes.count_le
    simp only [World.queues, Registry.queues, VirtualLink.queues, EndpointState.queues,
      RawRing.toList_length]
    exact ⟨hpackets, htimeCodes⟩
  · exact linkStep_of_step hordered hfit hreachable.fits hfits' hstep

/-- A packet of two bytes that ends with an error. -/
def samplePacket : PortPacket := ⟨⟨some fun i => UInt8.ofNat i, 2, Terminator.eep.toByte⟩, 0⟩

/-- A packet that one of two ports sends is in the other one's queue. -/
theorem link_refines_fifos_send :
    Reachable 1 (World.after 1 startPair)
    ∧ LinkStep (World.after 1 startPair) (.call 0 (.send (some samplePacket) 0))
      ((World.after 1 startPair).step 1 (.call 0 (.send (some samplePacket) 0))).2
      ((World.after 1 startPair).step 1 (.call 0 (.send (some samplePacket) 0))).1
    ∧ ((World.after 1 startPair).step 1 (.call 0 (.send (some samplePacket) 0))).1.queues
      ⟨0, by decide⟩ 1 = ⟨[⟨[0, 1], .eep⟩], []⟩ :=
  ⟨reachable_after 1 startPair, (link_refines_fifos (reachable_after 1 startPair) _).2,
    by decide +kernel⟩

end Simulator
