import SpwKit.Vspwd.Server

/-!
# What the helpers of the daemon change

Two helpers are called from almost everywhere: telling the watchers of a port
that it has changed, and computing the states of both ports again. The first
touches one mask of each client, the second also the state of a port, its
pending event and its link errors. `Client.unmarked` and `Port.stateless` forget
just that, so that "nothing else has changed" is an equation, and every other
field is read through both helpers by `simp`.
-/

open Vspd

namespace Vspwd

/-! ## One port, one client -/

namespace Server

variable (s : Server)

variable (p : PortId)

@[simp] theorem updatePort_ports (f : Port → Port) (q : PortId) :
    (s.updatePort p f).ports q = if q = p then f (s.ports p) else s.ports q := by
  simp [updatePort, Function.update_apply]

@[simp] theorem updatePort_clients (f : Port → Port) :
    (s.updatePort p f).clients = s.clients := rfl

@[simp] theorem updatePort_bridge (f : Port → Port) :
    (s.updatePort p f).bridge = s.bridge := rfl

@[simp] theorem updateClient_clients (i : ClientIndex) (f : Client → Client) (j : ClientIndex) :
    (s.updateClient i f).clients j = if j = i then f (s.clients i) else s.clients j := by
  simp [updateClient, Function.update_apply]

@[simp] theorem updateClient_ports (i : ClientIndex) (f : Client → Client) :
    (s.updateClient i f).ports = s.ports := rfl

@[simp] theorem updateClient_bridge (i : ClientIndex) (f : Client → Client) :
    (s.updateClient i f).bridge = s.bridge := rfl

end Server

/-! ## Two ports -/

variable {p : PortId} {s s' : Server} {status : Status}

@[simp] theorem peerPort_ne (p : PortId) : peerPort p ≠ p := by
  revert p
  decide

@[simp] theorem ne_peerPort (p : PortId) : p ≠ peerPort p := (peerPort_ne p).symm

@[simp] theorem peerPort_peerPort (p : PortId) : peerPort (peerPort p) = p := by
  revert p
  decide

/-- A port is one of the two. -/
theorem eq_or_eq_peerPort (p q : PortId) : q = p ∨ q = peerPort p := by
  revert p q
  decide

theorem eq_peerPort_of_ne {q : PortId} (h : q ≠ p) : q = peerPort p :=
  (eq_or_eq_peerPort p q).resolve_left h

/-- The number of a port on the wire says which one it is. -/
theorem portId_wire_inj (p q : PortId) : UInt32.ofNat p.val = UInt32.ofNat q.val ↔ p = q := by
  revert p q
  decide

/-! ## Masks

A mask is looked at and changed one bit at a time. -/

theorem toBitVec_portBit (p : PortId) : (portBit p).toBitVec = BitVec.twoPow 32 p.val := by
  revert p
  decide

/-- A mask has the bit of a port. -/
theorem and_portBit_ne (mask : UInt32) (p : PortId) :
    ((mask &&& portBit p) != 0) = mask.toBitVec.getLsbD p.val := by
  have hne : BitVec.twoPow 32 p.val ≠ 0#32 := by
    revert p
    decide
  have h : (mask &&& portBit p).toBitVec
      = if mask.toBitVec.getLsbD p.val then BitVec.twoPow 32 p.val else 0#32 := by
    rw [UInt32.toBitVec_and, toBitVec_portBit, BitVec.and_twoPow]
  cases hbit : mask.toBitVec.getLsbD p.val with
  | false =>
    rw [hbit] at h
    have hzero : mask &&& portBit p = 0 := UInt32.toBitVec_inj.mp h
    simp [hzero]
  | true =>
    rw [hbit, if_pos rfl] at h
    have hbits : mask &&& portBit p ≠ 0 := fun h0 => by
      rw [h0] at h
      exact hne h.symm
    simpa using hbits

/-- Setting the bit of a port. -/
@[simp] theorem or_portBit_ne (mask : UInt32) (p q : PortId) :
    (((mask ||| portBit p) &&& portBit q) != 0)
      = (((mask &&& portBit q) != 0) || decide (q = p)) := by
  rw [and_portBit_ne, and_portBit_ne, UInt32.toBitVec_or, toBitVec_portBit, BitVec.getLsbD_or]
  congr 1
  revert p q
  decide

/-- Clearing the bit of a port. -/
@[simp] theorem andNot_portBit_ne (mask : UInt32) (p q : PortId) :
    (((mask &&& ~~~portBit p) &&& portBit q) != 0)
      = (((mask &&& portBit q) != 0) && !decide (q = p)) := by
  rw [and_portBit_ne, and_portBit_ne, UInt32.toBitVec_and, UInt32.toBitVec_not,
    toBitVec_portBit, BitVec.getLsbD_and]
  congr 1
  revert p q
  decide

/-! ## Telling the watchers -/

/-- A client without what is pending for it as a watcher. -/
def Client.unmarked (client : Client) : Client := { client with monitorPendingMask := 0 }

/-- A port without its state, its pending event and its link errors. -/
def Port.stateless (port : Port) : Port :=
  { port with
    state := .errorReset
    stateEventPending := false
    statistics := { port.statistics with linkErrors := 0 } }

@[simp] theorem markPortChanged_ports (s : Server) (p : PortId) :
    (markPortChanged s p).ports = s.ports := rfl

@[simp] theorem markPortChanged_bridge (s : Server) (p : PortId) :
    (markPortChanged s p).bridge = s.bridge := rfl

/-- Telling the watchers changes nothing of a client but what is pending for it. -/
theorem unmarked_markPortChanged (s : Server) (p : PortId) (i : ClientIndex) :
    ((markPortChanged s p).clients i).unmarked = (s.clients i).unmarked := by
  simp only [markPortChanged]
  split_ifs <;> rfl

/-- What is pending for a client after the watchers were told. -/
theorem markPortChanged_pending (s : Server) (p : PortId) (i : ClientIndex) (q : PortId) :
    ((((markPortChanged s p).clients i).monitorPendingMask &&& portBit q) != 0)
      = ((((s.clients i).monitorPendingMask &&& portBit q) != 0)
        || ((s.clients i).watches p && decide (q = p))) := by
  simp only [markPortChanged]
  split_ifs with h
  · rw [or_portBit_ne, h, Bool.true_and]
  · simp [h]

section Marked

variable {c d : Client} (h : c.unmarked = d.unmarked)

include h

theorem fd_of_unmarked : c.fd = d.fd := congrArg (fun c => c.fd) h

theorem helloDone_of_unmarked : c.helloDone = d.helloDone := congrArg (fun c => c.helloDone) h

theorem portId_of_unmarked : c.portId = d.portId := congrArg (fun c => c.portId) h

theorem monitorMask_of_unmarked : c.monitorMask = d.monitorMask :=
  congrArg (fun c => c.monitorMask) h

theorem responsePending_of_unmarked : c.responsePending = d.responsePending :=
  congrArg (fun c => c.responsePending) h

theorem response_of_unmarked : c.response = d.response := congrArg (fun c => c.response) h

theorem reassembly_of_unmarked : c.reassembly = d.reassembly :=
  congrArg (fun c => c.reassembly) h

theorem watches_of_unmarked (p : PortId) : c.watches p = d.watches p := by
  simp only [Client.watches, fd_of_unmarked h, helloDone_of_unmarked h, portId_of_unmarked h,
    monitorMask_of_unmarked h]

end Marked

section Stateless

variable {a b : Port} (h : a.stateless = b.stateless)

include h

theorem clientIndex_of_stateless : a.clientIndex = b.clientIndex :=
  congrArg (fun a => a.clientIndex) h

theorem started_of_stateless : a.started = b.started := congrArg (fun a => a.started) h

theorem resetLatched_of_stateless : a.resetLatched = b.resetLatched :=
  congrArg (fun a => a.resetLatched) h

theorem everAttached_of_stateless : a.everAttached = b.everAttached :=
  congrArg (fun a => a.everAttached) h

theorem bridged_of_stateless : a.bridged = b.bridged := congrArg (fun a => a.bridged) h

theorem nextMessageId_of_stateless : a.nextMessageId = b.nextMessageId :=
  congrArg (fun a => a.nextMessageId) h

theorem packets_of_stateless : a.packets = b.packets := congrArg (fun a => a.packets) h

theorem timeCodes_of_stateless : a.timeCodes = b.timeCodes := congrArg (fun a => a.timeCodes) h

end Stateless

/-! ## Computing the states again -/

theorem unmarked_updateState (s : Server) (p : PortId) (i : ClientIndex) :
    ((updateState s p).clients i).unmarked = (s.clients i).unmarked := by
  simp only [updateState]
  split_ifs
  · rfl
  · rw [unmarked_markPortChanged]
    rfl
  · rfl

theorem stateless_updateState (s : Server) (p q : PortId) :
    ((updateState s p).ports q).stateless = (s.ports q).stateless := by
  simp only [updateState]
  split_ifs
  · rw [Server.updatePort_ports]
    split_ifs with hq
    · subst hq
      rfl
    · rfl
  · rw [markPortChanged_ports, Server.updatePort_ports]
    split_ifs with hq
    · subst hq
      simp only [Port.countLinkError]
      split_ifs <;> rfl
    · rfl
  · rfl

@[simp] theorem updateState_bridge (s : Server) (p : PortId) :
    (updateState s p).bridge = s.bridge := by
  simp only [updateState]
  split_ifs <;> rfl

/-- **Computing the states again changes nothing of a client but what is pending
for it as a watcher.** -/
theorem unmarked_updateStates (s : Server) (i : ClientIndex) :
    ((updateStates s).clients i).unmarked = (s.clients i).unmarked := by
  rw [updateStates, unmarked_updateState, unmarked_updateState]

/-- **Computing the states again changes nothing of a port but its state, its
pending event and its link errors.** -/
theorem stateless_updateStates (s : Server) (q : PortId) :
    ((updateStates s).ports q).stateless = (s.ports q).stateless := by
  rw [updateStates, stateless_updateState, stateless_updateState]

theorem unmarked_bridgeRefreshState (s : Server) (answer : Option LinkState) (j : ClientIndex) :
    ((bridgeRefreshState s answer).clients j).unmarked = (s.clients j).unmarked := by
  unfold bridgeRefreshState
  split
  · rfl
  · simp only
    split_ifs
    · rw [unmarked_updateStates, unmarked_markPortChanged]
      rfl
    · rw [unmarked_updateStates]
    · rfl

theorem stateless_bridgeRefreshState (s : Server) (answer : Option LinkState) (q : PortId) :
    ((bridgeRefreshState s answer).ports q).stateless = (s.ports q).stateless := by
  unfold bridgeRefreshState
  split
  · rfl
  · simp only
    split_ifs
    · rw [stateless_updateStates, markPortChanged_ports, Server.updatePort_ports]
      unfold Port.countLinkError
      split_ifs with hq
      · rw [hq]
        rfl
      · rw [hq]
        rfl
      · rfl
    · rw [stateless_updateStates]
    · rfl

@[simp] theorem updateStates_bridge (s : Server) : (updateStates s).bridge = s.bridge := by
  rw [updateStates, updateState_bridge, updateState_bridge]

section Fields

variable (s : Server) (p q : PortId) (i : ClientIndex)

@[simp] theorem markPortChanged_fd : ((markPortChanged s p).clients i).fd = (s.clients i).fd :=
  fd_of_unmarked (unmarked_markPortChanged s p i)

@[simp] theorem markPortChanged_helloDone :
    ((markPortChanged s p).clients i).helloDone = (s.clients i).helloDone :=
  helloDone_of_unmarked (unmarked_markPortChanged s p i)

@[simp] theorem markPortChanged_portId :
    ((markPortChanged s p).clients i).portId = (s.clients i).portId :=
  portId_of_unmarked (unmarked_markPortChanged s p i)

@[simp] theorem markPortChanged_monitorMask :
    ((markPortChanged s p).clients i).monitorMask = (s.clients i).monitorMask :=
  monitorMask_of_unmarked (unmarked_markPortChanged s p i)

@[simp] theorem markPortChanged_responsePending :
    ((markPortChanged s p).clients i).responsePending = (s.clients i).responsePending :=
  responsePending_of_unmarked (unmarked_markPortChanged s p i)

@[simp] theorem markPortChanged_response :
    ((markPortChanged s p).clients i).response = (s.clients i).response :=
  response_of_unmarked (unmarked_markPortChanged s p i)

@[simp] theorem markPortChanged_reassembly :
    ((markPortChanged s p).clients i).reassembly = (s.clients i).reassembly :=
  reassembly_of_unmarked (unmarked_markPortChanged s p i)

@[simp] theorem updateStates_fd : ((updateStates s).clients i).fd = (s.clients i).fd :=
  fd_of_unmarked (unmarked_updateStates s i)

@[simp] theorem updateStates_helloDone :
    ((updateStates s).clients i).helloDone = (s.clients i).helloDone :=
  helloDone_of_unmarked (unmarked_updateStates s i)

@[simp] theorem updateStates_portId : ((updateStates s).clients i).portId = (s.clients i).portId :=
  portId_of_unmarked (unmarked_updateStates s i)

@[simp] theorem updateStates_monitorMask :
    ((updateStates s).clients i).monitorMask = (s.clients i).monitorMask :=
  monitorMask_of_unmarked (unmarked_updateStates s i)

@[simp] theorem updateStates_responsePending :
    ((updateStates s).clients i).responsePending = (s.clients i).responsePending :=
  responsePending_of_unmarked (unmarked_updateStates s i)

@[simp] theorem updateStates_reassembly :
    ((updateStates s).clients i).reassembly = (s.clients i).reassembly :=
  reassembly_of_unmarked (unmarked_updateStates s i)

@[simp] theorem updateStates_clientIndex :
    ((updateStates s).ports q).clientIndex = (s.ports q).clientIndex :=
  clientIndex_of_stateless (stateless_updateStates s q)

@[simp] theorem updateStates_bridged : ((updateStates s).ports q).bridged = (s.ports q).bridged :=
  bridged_of_stateless (stateless_updateStates s q)

@[simp] theorem updateStates_packets : ((updateStates s).ports q).packets = (s.ports q).packets :=
  packets_of_stateless (stateless_updateStates s q)

@[simp] theorem updateStates_timeCodes :
    ((updateStates s).ports q).timeCodes = (s.ports q).timeCodes :=
  timeCodes_of_stateless (stateless_updateStates s q)

end Fields

/-! ## Passing something on

A packet or time code that is taken in at a port goes into a queue of the other
one, and both ports have changed. This is how a client's packets are passed on
and how the bridge's are. -/

/-- One port is pushed to, the other counts, and the watchers of both are told. -/
def Server.transfer (s : Server) (source : PortId) (push count : Port → Port) : Server :=
  markPortChanged (markPortChanged
    ((s.updatePort (peerPort source) push).updatePort source count) source) (peerPort source)

/-- A packet goes from a port to the other one, which has room. -/
def Server.transferPacket (s : Server) (source : PortId) (packet : Packet)
    (hroom : (s.ports (peerPort source)).packets.count < packetQueueDepth) : Server :=
  s.transfer source (fun _ => (s.ports (peerPort source)).pushPacket packet hroom)
    (fun port => port.countTxPacket packet)

/-- A time code goes from a port to the other one, which has room. -/
def Server.transferTimeCode (s : Server) (source : PortId) (code : TimeCode)
    (hroom : (s.ports (peerPort source)).timeCodes.count < timeCodeQueueDepth) : Server :=
  s.transfer source (fun _ => (s.ports (peerPort source)).pushTimeCode code hroom)
    Port.countTxTimeCode

theorem unmarked_transfer (s : Server) (source : PortId) (push count : Port → Port)
    (i : ClientIndex) :
    ((s.transfer source push count).clients i).unmarked = (s.clients i).unmarked := by
  rw [Server.transfer, unmarked_markPortChanged, unmarked_markPortChanged]
  rfl

theorem transfer_source (s : Server) (source : PortId) (push count : Port → Port) :
    (s.transfer source push count).ports source = count (s.ports source) := by
  simp [Server.transfer]

theorem transfer_destination (s : Server) (source : PortId) (push count : Port → Port) :
    (s.transfer source push count).ports (peerPort source)
      = push (s.ports (peerPort source)) := by
  simp [Server.transfer]

/-- A packet is queued between two ports in RUN, where there is room. -/
theorem enqueuePacket_eq_some {packet : Packet} (h : enqueuePacket s p packet = some s') :
    (s.ports p).state = .run ∧ (s.ports (peerPort p)).state = .run
      ∧ ∃ hroom, s' = s.transferPacket p packet hroom := by
  unfold enqueuePacket at h
  simp only at h
  split_ifs at h with hstate hroom
  rw [not_or, not_not, not_not] at hstate
  exact ⟨hstate.1, hstate.2, hroom, (Option.some.inj h).symm⟩

theorem enqueueTimeCode_eq_some {code : TimeCode} (h : enqueueTimeCode s p code = some s') :
    (s.ports p).state = .run ∧ (s.ports (peerPort p)).state = .run
      ∧ ∃ hroom, s' = s.transferTimeCode p code hroom := by
  unfold enqueueTimeCode at h
  simp only at h
  split_ifs at h with hstate hroom
  rw [not_or, not_not, not_not] at hstate
  exact ⟨hstate.1, hstate.2, hroom, (Option.some.inj h).symm⟩

/-- What delivering a packet comes to: it is queued, or counted as dropped, or
nothing happens. -/
theorem deliverPacket_cases {packet : Packet} (h : deliverPacket s p packet = (status, s')) :
    (status = .ok ∧ (s.ports p).state = .run ∧ (s.ports (peerPort p)).state = .run
        ∧ ∃ hroom, s' = s.transferPacket p packet hroom)
      ∨ (status = .resourceExhausted ∧ s' = dropPacket s p)
      ∨ (status = .linkUnavailable ∧ s' = s) := by
  unfold deliverPacket at h
  split_ifs at h
  · cases h
    exact .inr (.inr ⟨rfl, rfl⟩)
  · cases h
    exact .inr (.inl ⟨rfl, rfl⟩)
  split at h
  · cases h
    exact .inr (.inr ⟨rfl, rfl⟩)
  · next henqueue =>
    cases h
    exact .inl ⟨rfl, enqueuePacket_eq_some henqueue⟩

/-- What delivering a time code comes to. -/
theorem deliverTimeCode_cases {code : TimeCode} (h : deliverTimeCode s p code = (status, s')) :
    (status = .ok ∧ (s.ports p).state = .run ∧ (s.ports (peerPort p)).state = .run
        ∧ ∃ hroom, s' = s.transferTimeCode p code hroom)
      ∨ (status = .resourceExhausted ∧ s' = dropPacket s p)
      ∨ (status = .linkUnavailable ∧ s' = s) := by
  unfold deliverTimeCode at h
  split_ifs at h
  · cases h
    exact .inr (.inr ⟨rfl, rfl⟩)
  · cases h
    exact .inr (.inl ⟨rfl, rfl⟩)
  split at h
  · cases h
    exact .inr (.inr ⟨rfl, rfl⟩)
  · next henqueue =>
    cases h
    exact .inl ⟨rfl, enqueueTimeCode_eq_some henqueue⟩

theorem unmarked_deliverPacket {packet : Packet} (h : deliverPacket s p packet = (status, s'))
    (j : ClientIndex) : (s'.clients j).unmarked = (s.clients j).unmarked := by
  obtain ⟨-, -, -, hroom, rfl⟩ | ⟨-, rfl⟩ | ⟨-, rfl⟩ := deliverPacket_cases h
  · exact unmarked_transfer _ _ _ _ j
  · exact unmarked_markPortChanged _ p j
  · rfl

theorem unmarked_deliverTimeCode {code : TimeCode} (h : deliverTimeCode s p code = (status, s'))
    (j : ClientIndex) : (s'.clients j).unmarked = (s.clients j).unmarked := by
  obtain ⟨-, -, -, hroom, rfl⟩ | ⟨-, rfl⟩ | ⟨-, rfl⟩ := deliverTimeCode_cases h
  · exact unmarked_transfer _ _ _ _ j
  · exact unmarked_markPortChanged _ p j
  · rfl

/-! ## The actions of the bridge -/

/-- The action is one of the bridge. -/
def Action.ofBridge : Action → Bool
  | .accept _ | .hangup _ | .receive _ _ | .flush _ _ => false
  | .bridgeRefresh _ | .bridgePopPacket _ | .bridgePopTimeCode _ | .bridgePushPacket _
  | .bridgePushTimeCode _ => true

/-- Something has gone over in a call. -/
def BridgeCall.succeeds : BridgeCall → Bool
  | .send _ taken | .sendTimeCode _ taken => taken
  | .receive answer => answer.isSome
  | .receiveTimeCode answer => answer.isSome

/-- **What the bridge does to the server**, with the call that goes with it. -/
inductive BridgeMove (s : Server) : Option BridgeCall → Server → Prop
  | refresh (answer : Option LinkState) : BridgeMove s none (bridgeRefreshState s answer)
  | popPacket (b : Bridge) (slot : PacketSlot) (hb : s.bridge = some b)
      (hfront : (s.ports b.portId).packets.front = some slot) :
      BridgeMove s (some (.send slot.packet true)) (Vspwd.popPacket s b.portId slot)
  | popTimeCode (b : Bridge) (code : TimeCode) (hb : s.bridge = some b)
      (hfront : (s.ports b.portId).timeCodes.front = some code) :
      BridgeMove s (some (.sendTimeCode code true)) (Vspwd.popTimeCode s b.portId)
  | pushPacket (b : Bridge) (packet : BridgePacket)
      (hroom : (s.ports (peerPort b.portId)).packets.count < packetQueueDepth)
      (hb : s.bridge = some b) (hrun : (s.ports (peerPort b.portId)).state = .run) :
      BridgeMove s (some (.receive (some packet))) (s.transferPacket b.portId packet hroom)
  | pushTimeCode (b : Bridge) (code : BridgeTimeCode)
      (hroom : (s.ports (peerPort b.portId)).timeCodes.count < timeCodeQueueDepth)
      (hb : s.bridge = some b) (hrun : (s.ports (peerPort b.portId)).state = .run) :
      BridgeMove s (some (.receiveTimeCode (some code))) (s.transferTimeCode b.portId code hroom)

/-- The bridge has done nothing: it has made no call, or one that failed. -/
def Rests (s : Server) (r : Option BridgeCall × Server) : Prop :=
  r.2 = s ∧ ∀ call, r.1 = some call → call.succeeds = false

theorem rests_none (s : Server) : Rests s (none, s) := ⟨rfl, fun _ h => by cases h⟩

theorem rests_failed {call : BridgeCall} (h : call.succeeds = false) : Rests s (some call, s) :=
  ⟨rfl, by rintro _ ⟨⟩; exact h⟩

/-- The bridge has done nothing, or made one move. -/
abbrev RestsOrMoves (s : Server) (r : Option BridgeCall × Server) : Prop :=
  Rests s r ∨ BridgeMove s r.1 r.2

theorem bridgePopPacket_cases (s : Server) (taken : Bool) :
    RestsOrMoves s (bridgePopPacket s taken) := by
  unfold bridgePopPacket
  cases hb : s.bridge with
  | none => exact .inl (rests_none s)
  | some b =>
    dsimp only
    cases hfront : (s.ports b.portId).packets.front with
    | none => exact .inl (rests_none s)
    | some slot =>
      dsimp only
      split_ifs with _ htaken
      · exact .inl (rests_none s)
      · exact .inr (htaken ▸ .popPacket b slot hb hfront)
      · exact .inl (rests_failed (Bool.eq_false_iff.mpr htaken))

theorem bridgePopTimeCode_cases (s : Server) (taken : Bool) :
    RestsOrMoves s (bridgePopTimeCode s taken) := by
  unfold bridgePopTimeCode
  cases hb : s.bridge with
  | none => exact .inl (rests_none s)
  | some b =>
    dsimp only
    cases hfront : (s.ports b.portId).timeCodes.front with
    | none => exact .inl (rests_none s)
    | some code =>
      dsimp only
      split_ifs with _ htaken
      · exact .inl (rests_none s)
      · exact .inr (htaken ▸ .popTimeCode b code hb hfront)
      · exact .inl (rests_failed (Bool.eq_false_iff.mpr htaken))

theorem bridgePushPacket_cases (s : Server) (answer : Option BridgePacket) :
    RestsOrMoves s (bridgePushPacket s answer) := by
  unfold bridgePushPacket
  cases hb : s.bridge with
  | none => exact .inl (rests_none s)
  | some b =>
    dsimp only
    split_ifs with hstate hroom
    · exact .inl (rests_none s)
    · cases answer with
      | none => exact .inl (rests_failed rfl)
      | some packet =>
        rw [not_or, not_not, not_not] at hstate
        exact .inr (.pushPacket b packet hroom hb hstate.2)
    · exact .inl (rests_none s)

theorem bridgePushTimeCode_cases (s : Server) (answer : Option BridgeTimeCode) :
    RestsOrMoves s (bridgePushTimeCode s answer) := by
  unfold bridgePushTimeCode
  cases hb : s.bridge with
  | none => exact .inl (rests_none s)
  | some b =>
    dsimp only
    split_ifs with hstate hroom
    · exact .inl (rests_none s)
    · cases answer with
      | none => exact .inl (rests_failed rfl)
      | some code =>
        rw [not_or, not_not, not_not] at hstate
        exact .inr (.pushTimeCode b code hroom hb hstate.2)
    · exact .inl (rests_none s)

/-- **An action of the bridge is nothing, or one move.** -/
theorem bridge_cases (s : Server) {a : Action} (ha : a.ofBridge = true) :
    RestsOrMoves s (s.calls a, s.step a) := by
  cases a with
  | accept | hangup | receive | flush => exact absurd ha Bool.false_ne_true
  | bridgeRefresh answer => exact .inr (.refresh answer)
  | bridgePopPacket taken => exact bridgePopPacket_cases s taken
  | bridgePopTimeCode taken => exact bridgePopTimeCode_cases s taken
  | bridgePushPacket answer => exact bridgePushPacket_cases s answer
  | bridgePushTimeCode answer => exact bridgePushTimeCode_cases s answer

/-! ## Filling the response slot -/

/-- A client whose response slot has been filled. -/
def Client.respond (client : Client) (bytes : Bytes) : Client :=
  { client with response := bytes, responsePending := true }

/-- The response slot of a client is filled. -/
def Server.respond (s : Server) (i : ClientIndex) (bytes : Bytes) : Server :=
  s.updateClient i (fun client => client.respond bytes)

@[simp] theorem respond_ports (s : Server) (i : ClientIndex) (bytes : Bytes) :
    (s.respond i bytes).ports = s.ports := rfl

@[simp] theorem respond_clients (s : Server) (i : ClientIndex) (bytes : Bytes) (j : ClientIndex) :
    (s.respond i bytes).clients j
      = if j = i then (s.clients i).respond bytes else s.clients j :=
  Server.updateClient_clients s i _ j

/-! ## Servers that agree on all but one client

What a client was doing when it is closed makes no difference afterwards. And a response
touches nothing the rest of the daemon looks at, so it does not matter whether a client is
answered before or after it is detached. -/

/-- A client that has been told of a port, if it watches it. -/
def Client.mark (client : Client) (p : PortId) : Client :=
  if client.watches p then
    { client with monitorPendingMask := client.monitorPendingMask ||| portBit p }
  else client

/-- **Two servers agree on everything but one client**, and that is related. -/
structure AgreeOff (R : Client → Client → Prop) (i : ClientIndex) (s t : Server) : Prop where
  ports : s.ports = t.ports
  bridge : s.bridge = t.bridge
  clients : ∀ j, j ≠ i → s.clients j = t.clients j
  client : R (s.clients i) (t.clients i)

namespace AgreeOff

variable {R R' : Client → Client → Prop} {i : ClientIndex} {s t : Server}

theorem updateClient (h : AgreeOff R i s t) {f g : Client → Client}
    (hfg : R' (f (s.clients i)) (g (t.clients i))) :
    AgreeOff R' i (s.updateClient i f) (t.updateClient i g) := by
  refine ⟨h.ports, h.bridge, fun j hj => ?_, ?_⟩
  · rw [Server.updateClient_clients, Server.updateClient_clients, if_neg hj, if_neg hj]
    exact h.clients j hj
  · rwa [Server.updateClient_clients, Server.updateClient_clients, if_pos rfl, if_pos rfl]

theorem update {f : Client → Client} (hf : R (f (s.clients i)) (s.clients i)) :
    AgreeOff R i (s.updateClient i f) s := by
  refine ⟨rfl, rfl, fun j hj => ?_, ?_⟩
  · rw [Server.updateClient_clients, if_neg hj]
  · rwa [Server.updateClient_clients, if_pos rfl]

theorem updatePort (h : AgreeOff R i s t) (p : PortId) (f : Port → Port) :
    AgreeOff R i (s.updatePort p f) (t.updatePort p f) := by
  refine ⟨?_, h.bridge, h.clients, h.client⟩
  simp only [Server.updatePort, h.ports]

/-- Servers that agree on the client too are the same. -/
protected theorem eq (h : AgreeOff (· = ·) i s t) : s = t := by
  have hclients : s.clients = t.clients := by
    funext j
    by_cases hj : j = i
    · rw [hj, h.client]
    · exact h.clients j hj
  obtain ⟨clients, ports, bridge⟩ := s
  obtain ⟨clients', ports', bridge'⟩ := t
  obtain rfl : ports = ports' := h.ports
  obtain rfl : bridge = bridge' := h.bridge
  obtain rfl : clients = clients' := hclients
  rfl

section Marks

variable (hR : ∀ {c d : Client} (p : PortId), R c d → R (c.mark p) (d.mark p))

include hR

theorem markPortChanged (h : AgreeOff R i s t) (p : PortId) :
    AgreeOff R i (markPortChanged s p) (markPortChanged t p) := by
  refine ⟨h.ports, h.bridge, fun j hj => ?_, hR p h.client⟩
  simp only [Vspwd.markPortChanged, h.clients j hj]

theorem updateState (h : AgreeOff R i s t) (p : PortId) :
    AgreeOff R i (updateState s p) (updateState t p) := by
  have hcalc : calculateState s p = calculateState t p := by
    simp only [calculateState, Server.bridgeState, h.ports, h.bridge]
  simp only [Vspwd.updateState, h.ports, hcalc]
  split_ifs
  · exact h.updatePort p _
  · exact (h.updatePort p _).markPortChanged hR p
  · exact h

theorem releasePort (h : AgreeOff R i s t) (hport : (s.clients i).portId = (t.clients i).portId) :
    AgreeOff R i (releasePort s i) (releasePort t i) := by
  simp only [Vspwd.releasePort, hport, h.ports]
  cases (t.clients i).portId with
  | none => exact h
  | some p =>
    by_cases howner : (t.ports p).clientIndex = some i
    · simp only [howner, if_true]
      exact (h.updatePort p _).markPortChanged hR p
    · simp only [howner, if_false]
      exact h

theorem detachClient (h : AgreeOff R i s t) (hport : (s.clients i).portId = (t.clients i).portId)
    (hdetach : ∀ {c d : Client}, R c d →
      R { c with portId := none, reassembly := c.reassembly.clear }
        { d with portId := none, reassembly := d.reassembly.clear }) :
    AgreeOff R i (detachClient s i) (detachClient t i) := by
  have hreleased := h.releasePort hR hport
  exact ((hreleased.updateClient (hdetach hreleased.client)).updateState hR 0).updateState hR 1

end Marks

/-- **Closing a client depends on nothing of the client but the port it owns.** -/
theorem closeClient (h : AgreeOff (fun _ _ => True) i s t)
    (hport : (s.clients i).portId = (t.clients i).portId) : closeClient s i = closeClient t i :=
  AgreeOff.eq ((h.detachClient (fun _ _ => trivial) hport fun _ => trivial).updateClient rfl)

/-- **A client may be answered before or after it is detached.** -/
theorem detachClient_respond (s : Server) (i : ClientIndex) (bytes : Bytes) :
    Vspwd.detachClient (s.respond i bytes) i = (Vspwd.detachClient s i).respond i bytes := by
  have hmark : ∀ {c d : Client} (p : PortId), c = d.respond bytes →
      c.mark p = (d.mark p).respond bytes := by
    rintro _ d p rfl
    have hwatches : (d.respond bytes).watches p = d.watches p := rfl
    simp only [Client.mark, hwatches]
    split_ifs <;> rfl
  have hagree : AgreeOff (fun c d => c = d.respond bytes) i (s.respond i bytes) s := .update rfl
  have hdetached := hagree.detachClient hmark (by rw [hagree.client]; rfl) (by rintro _ _ rfl; rfl)
  refine AgreeOff.eq (i := i) ⟨hdetached.ports, hdetached.bridge, fun j hj => ?_, ?_⟩
  · rw [respond_clients, if_neg hj]
    exact hdetached.clients j hj
  · rw [respond_clients, if_pos rfl]
    exact hdetached.client

end AgreeOff

end Vspwd
