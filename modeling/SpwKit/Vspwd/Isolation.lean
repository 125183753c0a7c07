import SpwKit.Vspwd.LinkStates

/-!
# What a client can do to the others

A client sends what it likes, and the daemon acts on it. This module bounds what
follows. A record that is refused changes nothing but the client that sent it,
and closing that client only takes its port away. A request of an owner reaches
the other port through one thing queued there and through the computed state. A
request of a client that owns nothing touches no port, unless it attaches or
clears counters. Of another client nothing ever changes but the mask of the
snapshots it is to be sent.
-/

open Vspd BigEndian

namespace Vspwd

/-! ## Computing coherent states again -/

variable {i j : ClientIndex} {p q : PortId} {s s₁ : Server} {status : Status}

theorem updateState_of_coherent (he : Exclusive s) (hc : Coherent s) (p : PortId) :
    updateState s p = s := by
  simp only [updateState]
  split_ifs with hidle hnext
  · simp only [Bool.and_eq_true, Option.isNone_iff_eq_none, Bool.not_eq_true'] at hidle
    have hrest := he.idle p hidle.2 hidle.1
    have hport : ({ s.ports p with state := .errorReset, stateEventPending := false } : Port)
        = s.ports p := by
      rw [← hrest.state, ← hrest.stateEventPending]
    rw [Server.updatePort, hport, Function.update_eq_self]
  · exact absurd (hc p).symm hnext
  · rfl

/-- **Where the states are coherent, computing them again changes nothing.** -/
theorem updateStates_of_coherent (he : Exclusive s) (hc : Coherent s) : updateStates s = s := by
  rw [updateStates, updateState_of_coherent he hc, updateState_of_coherent he hc]

/-! ## Other clients -/

theorem unmarked_updateClient_of_ne (f : Client → Client) (h : j ≠ i) :
    ((s.updateClient i f).clients j).unmarked = (s.clients j).unmarked := by
  rw [Server.updateClient_clients, if_neg h]

theorem unmarked_detachClient (h : j ≠ i) :
    ((detachClient s i).clients j).unmarked = (s.clients j).unmarked := by
  rw [detachClient, unmarked_updateStates, unmarked_updateClient_of_ne _ h]
  unfold releasePort
  split
  · rfl
  · split_ifs
    · rw [unmarked_markPortChanged]
      rfl
    · rfl

theorem unmarked_closeClient (h : j ≠ i) :
    ((closeClient s i).clients j).unmarked = (s.clients j).unmarked := by
  rw [closeClient, unmarked_updateClient_of_ne _ h, unmarked_detachClient h]

/-- A request changes nothing of another client but its pending snapshots. -/
theorem Effect.unmarked {request : Header} {payload : Bytes}
    (h : Effect s i request payload status s₁) (hj : j ≠ i) :
    (s₁.clients j).unmarked = (s.clients j).unmarked := by
  cases h with
  | nothing => rfl
  | hello | subscribe p | unsubscribe p | dataRefused => exact unmarked_updateClient_of_ne _ hj
  | attach p =>
    rw [attachClient, unmarked_updateStates, Server.updatePort_clients]
    exact unmarked_updateClient_of_ne _ hj
  | detach => exact unmarked_detachClient hj
  | start p =>
    rw [startPort, unmarked_updateStates]
    rfl
  | stop p =>
    rw [stopPort, unmarked_updateStates]
    rfl
  | reset p =>
    rw [resetPort, unmarked_updateStates, unmarked_updateClient_of_ne _ hj]
    rfl
  | clearStatistics p | clearPortStatistics p => exact unmarked_markPortChanged _ p j
  | data p r status s₂ htype hend howns hadmits hcomplete hdeliver =>
    exact (unmarked_updateClient_of_ne _ hj).trans
      ((unmarked_deliverPacket hdeliver j).trans (unmarked_updateClient_of_ne _ hj))
  | timeCode p status s₂ htype howns hdeliver => exact unmarked_deliverTimeCode hdeliver j

theorem Handled.unmarked {s' : Server} {frame : Bytes} {ok : Bool} (h : Handled s i frame ok s')
    (hj : j ≠ i) : (s'.clients j).unmarked = (s.clients j).unmarked := by
  cases h with
  | refused r | fragment => exact unmarked_updateClient_of_ne _ hj
  | answered request status payload s₁ hfree hvalid hrequest hanswerable hfinal heffect =>
    exact (unmarked_updateClient_of_ne _ hj).trans (heffect.unmarked hj)

/-! ## The other port -/

/-- Statistics without the link errors. -/
def withoutLinkErrors (statistics : Statistics) : Statistics := { statistics with linkErrors := 0 }

/-- **What an owner may do to the other port**: one packet or time code is queued
behind those that are there, a packet under the port's next message number, and the
state, its event and the link errors are computed again. -/
structure Reached (before after : Port) : Prop where
  clientIndex : after.clientIndex = before.clientIndex
  started : after.started = before.started
  resetLatched : after.resetLatched = before.resetLatched
  everAttached : after.everAttached = before.everAttached
  bridged : after.bridged = before.bridged
  statistics : withoutLinkErrors after.statistics = withoutLinkErrors before.statistics
  queues :
    (after.packets.toList = before.packets.toList
        ∧ after.timeCodes.toList = before.timeCodes.toList
        ∧ after.nextMessageId = before.nextMessageId)
      ∨ (∃ slot, after.packets.toList = before.packets.toList ++ [slot]
        ∧ after.timeCodes.toList = before.timeCodes.toList
        ∧ slot.messageId = (nextMessageId before).1
        ∧ after.nextMessageId = (nextMessageId before).2.nextMessageId)
      ∨ ∃ code, after.timeCodes.toList = before.timeCodes.toList ++ [code]
        ∧ after.packets.toList = before.packets.toList
        ∧ after.nextMessageId = before.nextMessageId

theorem Reached.of_stateless {before after : Port} (h : after.stateless = before.stateless) :
    Reached before after where
  clientIndex := clientIndex_of_stateless h
  started := started_of_stateless h
  resetLatched := resetLatched_of_stateless h
  everAttached := everAttached_of_stateless h
  bridged := bridged_of_stateless h
  statistics := congrArg Port.statistics h
  queues := Or.inl ⟨by rw [packets_of_stateless h], by rw [timeCodes_of_stateless h],
    nextMessageId_of_stateless h⟩

theorem Reached.refl (port : Port) : Reached port port := .of_stateless rfl

theorem Reached.pushPacket (port : Port) (packet : Packet)
    (hroom : port.packets.count < packetQueueDepth) :
    Reached port (port.pushPacket packet hroom) where
  clientIndex := rfl
  started := rfl
  resetLatched := rfl
  everAttached := rfl
  bridged := rfl
  statistics := rfl
  queues := Or.inr (Or.inl ⟨_, RingQueue.toList_push _ _ hroom, rfl, rfl, rfl⟩)

theorem Reached.pushTimeCode (port : Port) (code : TimeCode)
    (hroom : port.timeCodes.count < timeCodeQueueDepth) :
    Reached port (port.pushTimeCode code hroom) where
  clientIndex := rfl
  started := rfl
  resetLatched := rfl
  everAttached := rfl
  bridged := rfl
  statistics := rfl
  queues := Or.inr (Or.inr ⟨code, RingQueue.toList_push _ _ hroom, rfl, rfl⟩)

theorem stateless_detachClient (h : (s.clients i).portId ≠ some q) :
    ((detachClient s i).ports q).stateless = (s.ports q).stateless := by
  rw [detachClient, stateless_updateStates, Server.updateClient_ports]
  unfold releasePort
  split
  · rfl
  · rename_i p hport
    have hq : q ≠ p := fun hqp => h (hqp ▸ hport)
    split_ifs
    · simp [hq]
    · rfl

/-- The states are computed again after a change to another port. -/
theorem stateless_updateStates_of_ne (f : Port → Port) (h : q ≠ p) :
    ((updateStates (s.updatePort p f)).ports q).stateless = (s.ports q).stateless := by
  rw [stateless_updateStates, Server.updatePort_ports, if_neg h]

/-- A request of an owner does no more than this to the other port. -/
theorem Effect.reached {request : Header} {payload : Bytes}
    (h : Effect s i request payload status s₁) (howns : (s.clients i).portId = some p)
    (hq : q ≠ p) :
    Reached (s.ports q) (s₁.ports q) := by
  have hsame : ∀ {p'}, (s.clients i).portId = some p' → q ≠ p' := fun hp' => by
    rw [howns] at hp'
    rwa [← Option.some.inj hp']
  cases h with
  | nothing | hello | subscribe | unsubscribe | dataRefused => exact .refl _
  | attach p' htype hhello hport | clearPortStatistics p' htype hport =>
    cases howns.symm.trans hport
  | detach p' => exact .of_stateless (stateless_detachClient fun hp' => hsame hp' rfl)
  | start p' htype hp' | stop p' htype hp' =>
    exact .of_stateless (stateless_updateStates_of_ne _ (hsame hp'))
  | reset p' htype hp' =>
    refine .of_stateless ?_
    rw [resetPort, stateless_updateStates, Server.updateClient_ports, Server.updatePort_ports,
      if_neg (hsame hp')]
  | clearStatistics p' htype hp' =>
    refine .of_stateless ?_
    rw [Vspwd.clearPortStatistics, markPortChanged_ports, Server.updatePort_ports,
      if_neg (hsame hp')]
  | data p' r status s₂ htype hend hp' hadmits hcomplete hdeliver =>
    obtain rfl := eq_peerPort_of_ne (hsame hp')
    obtain ⟨-, -, -, hroom, rfl⟩ | ⟨-, rfl⟩ | ⟨-, rfl⟩ := deliverPacket_cases hdeliver
    · show Reached _ ((Server.transferPacket _ p' _ hroom).ports (peerPort p'))
      rw [Server.transferPacket, transfer_destination]
      exact .pushPacket _ _ hroom
    · refine .of_stateless ?_
      show ((dropPacket _ p').ports (peerPort p')).stateless = _
      simp [dropPacket, Server.setReassembly]
    · exact .refl _
  | timeCode p' status s₂ htype hp' hdeliver =>
    obtain rfl := eq_peerPort_of_ne (hsame hp')
    obtain ⟨-, -, -, hroom, rfl⟩ | ⟨-, rfl⟩ | ⟨-, rfl⟩ := deliverTimeCode_cases hdeliver
    · rw [Server.transferTimeCode, transfer_destination]
      exact .pushTimeCode _ _ hroom
    · refine .of_stateless ?_
      simp [dropPacket]
    · exact .refl _

/-! ## Clients that own nothing -/

/-- **A request of a client that owns nothing** touches no port, unless it attaches
to one or clears the counters of one. -/
theorem Effect.ports_of_unattached {request : Header} {payload : Bytes}
    (h : Effect s i request payload status s₁) (hport : (s.clients i).portId = none) :
    s₁.ports = s.ports
      ∨ (request.type = MessageType.attach.toByte ∧ ∃ p, s₁ = attachClient s i p)
      ∨ (request.type = MessageType.clearPortStatistics.toByte
        ∧ ∃ p : PortId, request.portId.toNat = p.val
          ∧ s₁.ports = Function.update s.ports p { s.ports p with statistics := {} }) := by
  have hnone : ∀ {p}, (s.clients i).portId = some p → False := fun hp => by
    cases hport.symm.trans hp
  cases h with
  | nothing | hello => exact Or.inl rfl
  | attach p htype => exact Or.inr (Or.inl ⟨htype, p, rfl⟩)
  | detach p htype howns | start p htype howns | stop p htype howns | reset p htype howns
  | clearStatistics p htype howns | data p r status s₂ htype hend howns
  | timeCode p status s₂ htype howns => exact (hnone howns).elim
  | clearPortStatistics p htype _ hp => exact Or.inr (Or.inr ⟨htype, p, hp, rfl⟩)
  | subscribe | unsubscribe | dataRefused => exact Or.inl rfl

/-- Closing a client that owns nothing touches neither a port nor another client. -/
theorem closeClient_of_unattached (he : Exclusive s) (hc : Coherent s)
    (hport : (s.clients i).portId = none) :
    closeClient s i = s.updateClient i (fun _ => Client.zeroed none) := by
  have hreleased : releasePort s i = s := by
    unfold releasePort
    rw [hport]
  have he' : Exclusive (s.updateClient i (fun client =>
      { client with portId := none, reassembly := client.reassembly.clear })) :=
    he.updateClient i _ hport.symm (fun hne => (hne hport).elim) (fun _ => rfl)
  rw [closeClient, detachClient, hreleased, updateStates_of_coherent he' (hc.updateClient i _)]
  simp only [Server.updateClient, Function.update_idem]

/-! ## Isolation -/

/-- **What follows when a client is closed.** Of the other clients at most the
pending snapshots change; a port it did not own keeps everything but its state,
the pending event and the link errors; and if it owned nothing, nothing else
changes at all. -/
structure ClosedOff (i : ClientIndex) (s s' : Server) : Prop where
  client : s'.clients i = Client.zeroed none
  bridge : s'.bridge = s.bridge
  clients : ∀ j, j ≠ i → (s'.clients j).unmarked = (s.clients j).unmarked
  ports : ∀ q, (s.clients i).portId ≠ some q →
    (s'.ports q).stateless = (s.ports q).stateless
  unattached : (s.clients i).portId = none →
    s'.ports = s.ports ∧ ∀ j, j ≠ i → s'.clients j = s.clients j

theorem closedOff_closeClient (he : Exclusive s) (hc : Coherent s) (i : ClientIndex) :
    ClosedOff i s (closeClient s i) where
  client := by simp [closeClient]
  bridge := by
    have hreleased : (releasePort s i).bridge = s.bridge := by
      unfold releasePort
      split
      · rfl
      · split_ifs <;> rfl
    simp [closeClient, detachClient, hreleased]
  clients := fun j hj => unmarked_closeClient hj
  ports := fun q hq => stateless_detachClient hq
  unattached := fun hport => by
    rw [closeClient_of_unattached he hc hport]
    exact ⟨rfl, fun j hj => by rw [Server.updateClient_clients, if_neg hj]⟩

/-- **What a client sends reaches the others in no other way than these.** A record
that is refused changes no port and no other client, and the close that follows
takes away the client's port and otherwise only shows in the computed state. A
request of an owner reaches the other port as `Reached` says. A request of a
client that owns nothing touches no port, unless it is granted an ATTACH or
clears the counters of the port it names. No request changes another client
beyond the snapshots pending for it. -/
theorem requests_isolated {s : Server} (h : Reachable s) (c : ClientIndex) (frame : Bytes) :
    ((handleRequest s c frame).1 = false →
        (handleRequest s c frame).2.ports = s.ports
          ∧ (∀ j, j ≠ c → (handleRequest s c frame).2.clients j = s.clients j)
          ∧ ClosedOff c s (closeClient (handleRequest s c frame).2 c))
      ∧ (∀ p, (s.clients c).portId = some p → ∀ q, q ≠ p →
        Reached (s.ports q) ((handleRequest s c frame).2.ports q))
      ∧ ((s.clients c).portId = none →
        (handleRequest s c frame).2.ports = s.ports
          ∨ (∃ request p, validateFrame frame = .ok request
            ∧ request.type = MessageType.attach.toByte
            ∧ ((handleRequest s c frame).2.clients c).portId = some p)
          ∨ ∃ (request : Header) (p : PortId), validateFrame frame = .ok request
            ∧ request.type = MessageType.clearPortStatistics.toByte
            ∧ request.portId.toNat = p.val
            ∧ (handleRequest s c frame).2.ports
              = Function.update s.ports p { s.ports p with statistics := {} })
      ∧ ∀ j, j ≠ c →
        ((handleRequest s c frame).2.clients j).unmarked = (s.clients j).unmarked := by
  have hhandled := handleRequest_handled s c frame
  generalize handleRequest s c frame = r at hhandled
  obtain ⟨ok, s'⟩ := r
  refine ⟨fun hok => ?_, fun p howns q hq => ?_, fun hport => ?_, fun j hj => hhandled.unmarked hj⟩
  · obtain rfl : ok = false := hok
    refine ⟨?_, ?_, ?_⟩
    · cases hhandled with
      | refused r => rfl
    · cases hhandled with
      | refused r =>
        intro j hj
        show (s.setReassembly c r).clients j = s.clients j
        rw [Server.setReassembly, Server.updateClient_clients, if_neg hj]
    · show ClosedOff c s (closeClient s' c)
      rw [hhandled.closeClient]
      exact closedOff_closeClient h.exclusive h.coherent c
  · cases hhandled with
    | refused r | fragment => exact .refl _
    | answered request status payload s₁ hfree hvalid hrequest hanswerable hfinal heffect =>
      exact heffect.reached howns hq
  · cases hhandled with
    | refused r | fragment => exact Or.inl rfl
    | answered request status payload s₁ hfree hvalid hrequest hanswerable hfinal heffect =>
      obtain hsame | ⟨htype, p, rfl⟩ | ⟨htype, p, hp, hports⟩ := heffect.ports_of_unattached hport
      · exact Or.inl hsame
      · refine Or.inr (Or.inl ⟨request, p, hvalid, htype, ?_⟩)
        simp [attachClient, Client.respond]
      · exact Or.inr (Or.inr ⟨request, p, hvalid, htype, hp, hports⟩)

/-- The owner of one port stops it: the owner of the other sees the state change. -/
theorem requests_isolated_stop :
    ((initServer.run linkSample).clients 0).portId = some 0
      ∧ ((handleRequest (initServer.run linkSample) 0 (requestRecord .stop 4 0 [])).2.ports 1).state
        ≠ ((initServer.run linkSample).ports 1).state
      ∧ Reached ((initServer.run linkSample).ports 1)
        ((handleRequest (initServer.run linkSample) 0 (requestRecord .stop 4 0 [])).2.ports 1) := by
  have howns : ((initServer.run linkSample).clients 0).portId = some 0 := by decide +kernel
  refine ⟨howns, by decide +kernel, ?_⟩
  exact (requests_isolated ((Reachable.start .plain).run linkSample) 0
    (requestRecord .stop 4 0 [])).2.1 0 howns 1 (by decide)

end Vspwd
