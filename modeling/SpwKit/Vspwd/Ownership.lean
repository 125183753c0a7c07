import SpwKit.Vspwd.Steps

/-!
# Who owns a port

A port names the client that owns it and a client the port it owns; the two are
changed one after the other when a client attaches, detaches or goes away.
`Exclusive` says that they always agree, and what a port is like that nobody
owns: it is stopped, its queues are empty and its link is down. A packet is only
queued at a port in RUN, so nothing is ever queued at a port nobody reads.
-/

open Vspd BigEndian

namespace Vspwd

/-- A port at rest. -/
structure Port.Idle (port : Port) : Prop where
  started : port.started = false
  resetLatched : port.resetLatched = false
  packets : port.packets.count = 0
  timeCodes : port.timeCodes.count = 0
  state : port.state = .errorReset
  stateEventPending : port.stateEventPending = false

/-- **Ports and clients agree on who owns what.** -/
structure Exclusive (s : Server) : Prop where
  owner : ∀ p c, (s.ports p).clientIndex = some c ↔ (s.clients c).portId = some p
  connected : ∀ c, (s.clients c).portId ≠ none →
    (s.clients c).fd.isSome = true ∧ (s.clients c).helloDone = true
  unowned : ∀ p, (s.ports p).bridged = true → (s.ports p).clientIndex = none
  idle : ∀ p, (s.ports p).bridged = false → (s.ports p).clientIndex = none → (s.ports p).Idle
  inactive : ∀ c, (s.clients c).portId = none → (s.clients c).reassembly.active = false
  bridge : ∀ p, (s.ports p).bridged = true ↔ s.bridge.map Bridge.portId = some p

/-- The server whose bridge has been opened and not been asked for its state. -/
def bridgeOpened (p : PortId) : Server :=
  ({ initServer with bridge := some ⟨p, .connecting⟩ } : Server).updatePort p (fun port =>
    { port with
      bridged := true
      started := true
      resetLatched := false
      state := .connecting
      nextMessageId := 1 })

namespace Exclusive

variable {s : Server}

/-! ## Changes that leave ownership alone -/

variable {i : ClientIndex} {p : PortId}

/-- A client may change as long as the port it owns stays. -/
theorem updateClient (h : Exclusive s) (i : ClientIndex) (f : Client → Client)
    (hport : (f (s.clients i)).portId = (s.clients i).portId)
    (hconnected : (s.clients i).portId ≠ none →
      (f (s.clients i)).fd.isSome = true ∧ (f (s.clients i)).helloDone = true)
    (hinactive : (s.clients i).portId = none → (f (s.clients i)).reassembly.active = false) :
    Exclusive (s.updateClient i f) := by
  have hports : ∀ c, ((s.updateClient i f).clients c).portId = (s.clients c).portId := by
    intro c
    rw [Server.updateClient_clients]
    split_ifs with hc
    · rw [hc, hport]
    · rfl
  refine ⟨fun p c => ?_, fun c hc => ?_, h.unowned, h.idle, fun c hc => ?_, h.bridge⟩
  · rw [hports]
    exact h.owner p c
  · rw [hports] at hc
    rw [Server.updateClient_clients]
    split_ifs with hi
    · exact hconnected (hi ▸ hc)
    · exact h.connected c hc
  · rw [hports] at hc
    rw [Server.updateClient_clients]
    split_ifs with hi
    · exact hinactive (hi ▸ hc)
    · exact h.inactive c hc

/-- A port may change as long as its owner stays and it stays at rest if nobody
owns it. -/
theorem updatePort (h : Exclusive s) (p : PortId) (f : Port → Port)
    (howner : (f (s.ports p)).clientIndex = (s.ports p).clientIndex)
    (hbridged : (f (s.ports p)).bridged = (s.ports p).bridged)
    (hidle : (s.ports p).bridged = false → (s.ports p).clientIndex = none →
      (s.ports p).Idle → (f (s.ports p)).Idle) :
    Exclusive (s.updatePort p f) := by
  have hports : ∀ q, ((s.updatePort p f).ports q).clientIndex = (s.ports q).clientIndex
      ∧ ((s.updatePort p f).ports q).bridged = (s.ports q).bridged := by
    intro q
    rw [Server.updatePort_ports]
    split_ifs with hq
    · rw [hq]
      exact ⟨howner, hbridged⟩
    · exact ⟨rfl, rfl⟩
  refine ⟨fun q c => ?_, h.connected, fun q hq => ?_, fun q hq hc => ?_, h.inactive, fun q => ?_⟩
  · rw [(hports q).1]
    exact h.owner q c
  · rw [(hports q).2] at hq
    rw [(hports q).1]
    exact h.unowned q hq
  · rw [(hports q).2] at hq
    rw [(hports q).1] at hc
    rw [Server.updatePort_ports]
    split_ifs with hp
    · subst hp
      exact hidle hq hc (h.idle q hq hc)
    · exact h.idle q hq hc
  · rw [(hports q).2]
    exact h.bridge q

theorem markPortChanged (h : Exclusive s) (p : PortId) : Exclusive (markPortChanged s p) := by
  refine ⟨fun q c => ?_, fun c hc => ?_, h.unowned, h.idle, fun c hc => ?_, h.bridge⟩
  · rw [markPortChanged_portId]
    exact h.owner q c
  · rw [markPortChanged_portId] at hc
    rw [markPortChanged_fd, markPortChanged_helloDone]
    exact h.connected c hc
  · rw [markPortChanged_portId] at hc
    rw [markPortChanged_reassembly]
    exact h.inactive c hc

theorem updateState (h : Exclusive s) (p : PortId) : Exclusive (updateState s p) := by
  simp only [Vspwd.updateState]
  split_ifs with hidle
  · exact h.updatePort p _ rfl rfl fun _ _ hp => { hp with state := rfl, stateEventPending := rfl }
  · refine (h.updatePort p _ ?_ ?_ fun hb hc => ?_).markPortChanged p
    · simp only [Port.countLinkError]
      split_ifs <;> rfl
    · simp only [Port.countLinkError]
      split_ifs <;> rfl
    · simp [hb, hc] at hidle
  · exact h

theorem updateStates (h : Exclusive s) : Exclusive (updateStates s) :=
  (h.updateState 0).updateState 1

/-! ## Changes of ownership -/

/-- The client a port names is the one that owns it. -/
theorem clientIndex_of_portId (h : Exclusive s) (howns : (s.clients i).portId = some p) :
    (s.ports p).clientIndex = some i :=
  (h.owner p i).mpr howns

/-- A port that a client owns is not bridged. -/
theorem bridged_of_portId (h : Exclusive s) (howns : (s.clients i).portId = some p) :
    (s.ports p).bridged = false := by
  by_contra hb
  have hnone := h.unowned p (by simpa using hb)
  rw [h.clientIndex_of_portId howns] at hnone
  cases hnone

/-- A change of a port that has an owner. -/
theorem updateOwned (h : Exclusive s) (howns : (s.clients i).portId = some p) (f : Port → Port)
    (howner : (f (s.ports p)).clientIndex = (s.ports p).clientIndex)
    (hbridged : (f (s.ports p)).bridged = (s.ports p).bridged) : Exclusive (s.updatePort p f) := by
  refine h.updatePort p f howner hbridged fun _ hc => ?_
  rw [h.clientIndex_of_portId howns] at hc
  cases hc

theorem attachClient (h : Exclusive s) (hfd : (s.clients i).fd.isSome = true)
    (hhello : (s.clients i).helloDone = true) (hport : (s.clients i).portId = none)
    (hbridged : (s.ports p).bridged = false) (howner : (s.ports p).clientIndex = none) :
    Exclusive (attachClient s i p) := by
  refine updateStates ⟨fun q c => ?_, fun c hc => ?_, fun q hq => ?_, fun q hq hc => ?_,
    fun c hc => ?_, fun q => ?_⟩
  -- the client owned nothing and the port had no owner, so no other pair is affected
  · simp only [Server.updatePort_ports, Server.updatePort_clients, Server.updateClient_ports,
      Server.updateClient_clients]
    by_cases hq : q = p
    · subst hq
      by_cases hc : c = i
      · simp [hc, Port.attach]
      · have hnot : (s.clients c).portId ≠ some q := fun hc => by
          rw [← h.owner, howner] at hc
          cases hc
        simp [hc, hnot, Port.attach, Ne.symm hc]
    · by_cases hc : c = i
      · have hnot : (s.ports q).clientIndex ≠ some c := fun hc' => by
          rw [h.owner, hc, hport] at hc'
          cases hc'
        rw [hc] at hnot
        simpa [hq, hc, Ne.symm hq] using hnot
      · simp only [hq, hc, if_false]
        exact h.owner q c
  · simp only [Server.updatePort_clients, Server.updateClient_clients] at hc ⊢
    split_ifs with hi
    · exact ⟨hfd, hhello⟩
    · rw [if_neg hi] at hc
      exact h.connected c hc
  · simp only [Server.updatePort_ports, Server.updateClient_ports] at hq ⊢
    split_ifs with hp
    · subst hp
      simp [Port.attach, Port.clearQueues, hbridged] at hq
    · rw [if_neg hp] at hq
      exact h.unowned q hq
  · simp only [Server.updatePort_ports, Server.updateClient_ports] at hq hc ⊢
    split_ifs with hp
    · subst hp
      simp [Port.attach] at hc
    · rw [if_neg hp] at hq hc
      exact h.idle q hq hc
  · simp only [Server.updatePort_clients, Server.updateClient_clients] at hc ⊢
    split_ifs with hi
    · simp [hi] at hc
    · rw [if_neg hi] at hc
      exact h.inactive c hc
  · simp only [Server.updatePort_ports, Server.updateClient_ports]
    split_ifs with hp
    · subst hp
      exact h.bridge q
    · exact h.bridge q

/-- A port that is released is at rest. -/
theorem idle_release (port : Port) : port.release.Idle :=
  ⟨rfl, rfl, RingQueue.count_clear _, RingQueue.count_clear _, rfl, rfl⟩

theorem detachClient (h : Exclusive s) (i : ClientIndex) : Exclusive (detachClient s i) := by
  refine updateStates ?_
  cases hport : (s.clients i).portId with
  | none =>
    simp only [releasePort, hport]
    exact h.updateClient i _ hport.symm (fun hne => (hne hport).elim) (fun _ => rfl)
  | some p =>
    have howner := h.clientIndex_of_portId hport
    have hbridged := h.bridged_of_portId hport
    simp only [releasePort, hport, howner, if_true]
    have hgone : ∀ c, c ≠ i → (s.clients c).portId ≠ some p := fun c hc hcp => by
      have := h.clientIndex_of_portId hcp
      rw [howner] at this
      exact hc (Option.some.inj this).symm
    refine ⟨fun q c => ?_, fun c hc => ?_, fun q hq => ?_, fun q hq hc => ?_,
      fun c hc => ?_, fun q => ?_⟩
    · simp only [Server.updateClient_ports, Server.updateClient_clients, markPortChanged_ports,
        Server.updatePort_ports]
      by_cases hc : c = i
      · by_cases hq : q = p
        · simp [hc, hq, Port.release]
        · have hnot : (s.ports q).clientIndex ≠ some c := fun hc' => by
            rw [h.owner, hc, hport] at hc'
            exact hq (Option.some.inj hc').symm
          rw [hc] at hnot
          simpa [hc, hq] using hnot
      · simp only [hc, if_false, markPortChanged_portId, Server.updatePort_clients]
        by_cases hq : q = p
        · simp [hq, Port.release, hgone c hc]
        · simp only [hq, if_false]
          exact h.owner q c
    · simp only [Server.updateClient_clients] at hc ⊢
      split_ifs with hi
      · simp [hi] at hc
      · simp only [hi, if_false, markPortChanged_portId, markPortChanged_fd,
          markPortChanged_helloDone] at hc ⊢
        exact h.connected c hc
    · simp only [Server.updateClient_ports, markPortChanged_ports, Server.updatePort_ports]
        at hq ⊢
      split_ifs with hp
      · rfl
      · rw [if_neg hp] at hq
        exact h.unowned q hq
    · simp only [Server.updateClient_ports, markPortChanged_ports, Server.updatePort_ports]
        at hq hc ⊢
      split_ifs with hp
      · exact idle_release _
      · rw [if_neg hp] at hq hc
        exact h.idle q hq hc
    · simp only [Server.updateClient_clients] at hc ⊢
      split_ifs with hi
      · rfl
      · simp only [hi, if_false, markPortChanged_portId, markPortChanged_reassembly] at hc ⊢
        exact h.inactive c hc
    · simp only [Server.updateClient_ports, markPortChanged_ports, Server.updatePort_ports]
      split_ifs with hp
      · subst hp
        exact h.bridge q
      · exact h.bridge q

/-! ## Moves -/

theorem portId_detachClient (s : Server) (i : ClientIndex) :
    ((Vspwd.detachClient s i).clients i).portId = none := by
  rw [Vspwd.detachClient, updateStates_portId, Server.updateClient_clients, if_pos rfl]

/-- A client that owns no port may be replaced by a fresh one. -/
theorem zeroed (h : Exclusive s) (hport : (s.clients i).portId = none) (fd : Option Nat) :
    Exclusive (s.updateClient i (fun _ => Client.zeroed fd)) :=
  h.updateClient i _ hport.symm (fun hne => (hne hport).elim) (fun _ => rfl)

/-- A change that keeps the port, the connection and the reassembly of a client. -/
theorem updateRest (h : Exclusive s) (i : ClientIndex) (f : Client → Client)
    (hport : (f (s.clients i)).portId = (s.clients i).portId)
    (hfd : (f (s.clients i)).fd = (s.clients i).fd)
    (hhello : (s.clients i).helloDone = true → (f (s.clients i)).helloDone = true)
    (hreassembly : (f (s.clients i)).reassembly = (s.clients i).reassembly) :
    Exclusive (s.updateClient i f) := by
  refine h.updateClient i f hport (fun hne => ?_) (fun hnone => ?_)
  · rw [hfd]
    exact ⟨(h.connected i hne).1, hhello (h.connected i hne).2⟩
  · rw [hreassembly]
    exact h.inactive i hnone

/-- A port in RUN has an owner or is bridged. -/
theorem not_idle_of_run (h : Exclusive s) (hrun : (s.ports p).state = .run) :
    (s.ports p).bridged = false → (s.ports p).clientIndex ≠ none := fun hb hc => by
  have hstate := (h.idle p hb hc).state
  rw [hrun] at hstate
  cases hstate

/-- A port in RUN may change in anything but its owner. -/
theorem updateRunning (h : Exclusive s) (hrun : (s.ports p).state = .run) (f : Port → Port)
    (howner : (f (s.ports p)).clientIndex = (s.ports p).clientIndex)
    (hbridged : (f (s.ports p)).bridged = (s.ports p).bridged) : Exclusive (s.updatePort p f) :=
  h.updatePort p f howner hbridged fun hb hc => (h.not_idle_of_run hrun hb hc).elim

/-- Something may be passed on to a port in RUN. -/
theorem transfer (h : Exclusive s) (hrun : (s.ports (peerPort p)).state = .run)
    (push count : Port → Port)
    (howner : (push (s.ports (peerPort p))).clientIndex = (s.ports (peerPort p)).clientIndex)
    (hbridged : (push (s.ports (peerPort p))).bridged = (s.ports (peerPort p)).bridged)
    (howner' : (count (s.ports p)).clientIndex = (s.ports p).clientIndex)
    (hbridged' : (count (s.ports p)).bridged = (s.ports p).bridged)
    (hidle : (s.ports p).Idle → (count (s.ports p)).Idle) :
    Exclusive (s.transfer p push count) := by
  have hpushed := h.updateRunning hrun push howner hbridged
  have hsource : (s.updatePort (peerPort p) push).ports p = s.ports p := by simp
  refine ((hpushed.updatePort p count ?_ ?_ fun _ _ => ?_).markPortChanged p).markPortChanged _
  · rw [hsource, howner']
  · rw [hsource, hbridged']
  · rw [hsource]
    exact hidle

theorem popPacket (h : Exclusive s) (p : PortId) (slot : PacketSlot) :
    Exclusive (popPacket s p slot) := by
  unfold Vspwd.popPacket
  split_ifs with hcount
  · exact (h.updatePort p _ rfl rfl fun _ _ hp => (hcount hp.packets).elim).markPortChanged p
  · exact h

theorem popTimeCode (h : Exclusive s) (p : PortId) : Exclusive (popTimeCode s p) := by
  unfold Vspwd.popTimeCode
  split_ifs with hcount
  · exact (h.updatePort p _ rfl rfl fun _ _ hp => (hcount hp.timeCodes).elim).markPortChanged p
  · exact h

theorem bridgeRefreshState (h : Exclusive s) (answer : Option LinkState) :
    Exclusive (bridgeRefreshState s answer) := by
  unfold Vspwd.bridgeRefreshState
  split
  · exact h
  · rename_i b hb
    have hbridged : (s.ports b.portId).bridged = true := (h.bridge b.portId).mpr (by rw [hb]; rfl)
    have hstated : ∀ state, Exclusive { s with bridge := some { b with state := state } } :=
      fun state => { h with bridge := fun p => (h.bridge p).trans (by rw [hb]; rfl) }
    simp only
    split_ifs
    · refine updateStates (markPortChanged
        (updatePort (hstated _) b.portId _ ?_ ?_ fun hnot => ?_) b.portId)
      · simp only [Port.countLinkError]
        split_ifs <;> rfl
      · simp only [Port.countLinkError]
        split_ifs <;> rfl
      · rw [show (_ : Bool) = _ from hbridged] at hnot
        cases hnot
    · exact updateStates (hstated _)
    · exact h

/-- **Every move keeps ownership exclusive.** -/
theorem move {s' : Server} (hm : Move s s') (h : Exclusive s) : Exclusive s' := by
  cases hm with
  | accept i fd hfree =>
    refine h.zeroed ?_ _
    by_contra hne
    have hfd := (h.connected i hne).1
    rw [hfree] at hfd
    cases hfd
  | close i => exact (h.detachClient i).zeroed (portId_detachClient s i) none
  | hello i hfd hport => exact h.updateRest i _ rfl rfl (fun _ => rfl) rfl
  | attach i p hfd hhello hport hbridged howner =>
    exact h.attachClient hfd hhello hport hbridged howner
  | detach i => exact h.detachClient i
  | start i p howns | stop i p howns => exact (h.updateOwned howns _ rfl rfl).updateStates
  | reset i p howns =>
    exact ((h.updateOwned howns _ rfl rfl).updateClient i _ rfl
      (fun hne => (h.updateOwned howns _ rfl rfl).connected i hne) (fun _ => rfl)).updateStates
  | clearStatistics p | drop p =>
    exact (h.updatePort p _ rfl rfl fun _ _ hp => { hp with }).markPortChanged p
  | subscribe i p | unsubscribe i p | respond i bytes | responseSent i | snapshotSent i p =>
    exact h.updateRest i _ rfl rfl id rfl
  | reassemble i p header payload r terminator howns =>
    refine h.updateClient i _ rfl (fun hne => h.connected i hne) (fun hnone => ?_)
    rw [howns] at hnone
    cases hnone
  | forget i => exact h.updateClient i _ rfl (fun hne => h.connected i hne) (fun _ => rfl)
  | transferPacket p packet hroom hrun | transferTimeCode p code hroom hrun =>
    exact h.transfer hrun _ _ rfl rfl rfl rfl fun hp => { hp with }
  | stateSent p => exact h.updatePort p _ rfl rfl fun _ _ hp => { hp with stateEventPending := rfl }
  | advance p slot hfront hmore => exact h.updatePort p _ rfl rfl fun _ _ hp => { hp with }
  | popPacket p slot => exact h.popPacket p slot
  | popTimeCode p => exact h.popTimeCode p
  | bridgeRefresh answer => exact h.bridgeRefreshState answer

/-- A port at the start is at rest. -/
theorem idle_initial : Port.initial.Idle := ⟨rfl, rfl, rfl, rfl, rfl, rfl⟩

theorem initial : Exclusive initServer where
  owner := fun p c => by simp [initServer, Port.initial, Client.zeroed]
  connected := fun c hc => (hc rfl).elim
  unowned := fun p hp => rfl
  idle := fun p _ _ => idle_initial
  inactive := fun c _ => rfl
  bridge := fun p => by simp [initServer, Port.initial]

theorem bridgeOpened (p : PortId) : Exclusive (bridgeOpened p) where
  owner := fun q c => by
    simp only [Vspwd.bridgeOpened, Server.updatePort_ports, Server.updatePort_clients]
    split_ifs <;> simp [initServer, Port.initial, Client.zeroed]
  connected := fun c hc => (hc rfl).elim
  unowned := fun q _ => by
    simp only [Vspwd.bridgeOpened, Server.updatePort_ports]
    split_ifs <;> rfl
  idle := fun q hq _ => by
    simp only [Vspwd.bridgeOpened, Server.updatePort_ports] at hq ⊢
    split_ifs with hp
    · simp [hp] at hq
    · exact idle_initial
  inactive := fun c _ => rfl
  bridge := fun q => by
    simp only [Vspwd.bridgeOpened, Server.updatePort_ports, Server.updatePort_bridge,
      Option.map_some, Option.some.injEq]
    split_ifs with hp
    · simp [hp]
    · simpa [initServer, Port.initial] using Ne.symm hp

theorem started (h : Started s) : Exclusive s := by
  cases h with
  | plain => exact initial
  | bridged p answer => exact (bridgeOpened p).bridgeRefreshState answer

end Exclusive

/-- What the daemon reaches has exclusive ownership. -/
theorem Reachable.exclusive {s : Server} (h : Reachable s) : Exclusive s :=
  h.keeps Exclusive.started Exclusive.move

/-- **Ownership is exclusive in every state the daemon reaches.** A port names a
client exactly if the client names the port; such a client is connected and has
said hello; a bridged port has no client; a port with neither is stopped, not
latched, and holds nothing; and a client that owns no port is putting no packet
together. -/
theorem ownership_exclusive {s : Server} (h : Reachable s) :
    (∀ p c, (s.ports p).clientIndex = some c ↔ (s.clients c).portId = some p)
      ∧ (∀ p c, (s.clients c).portId = some p →
        (s.clients c).fd.isSome = true ∧ (s.clients c).helloDone = true)
      ∧ (∀ p, (s.ports p).bridged = true → (s.ports p).clientIndex = none)
      ∧ (∀ p, (s.ports p).bridged = false → (s.ports p).clientIndex = none →
        (s.ports p).started = false ∧ (s.ports p).resetLatched = false
          ∧ (s.ports p).packets.toList = [] ∧ (s.ports p).timeCodes.toList = [])
      ∧ ∀ c, (s.clients c).portId = none → (s.clients c).reassembly.active = false := by
  have he := h.exclusive
  refine ⟨he.owner, fun p c hc => he.connected c (by simp [hc]), he.unowned, fun p hb hc => ?_,
    he.inactive⟩
  have hidle := he.idle p hb hc
  exact ⟨hidle.started, hidle.resetLatched, (RingQueue.toList_eq_nil_iff _).mpr hidle.packets,
    (RingQueue.toList_eq_nil_iff _).mpr hidle.timeCodes⟩

/-- A client that has attached to the second port. -/
def attachedSample : Server :=
  initServer.run (connect 0 7 ++ exchange 0 (requestRecord .attach 2 1 []))

theorem ownership_exclusive_attached :
    (attachedSample.ports 1).clientIndex = some 0
      ∧ (attachedSample.clients 0).portId = some 1
      ∧ (attachedSample.clients 0).helloDone = true
      ∧ (attachedSample.ports 0).packets.toList = [] := by
  have h := ownership_exclusive ((Reachable.start .plain).run
    (connect 0 7 ++ exchange 0 (requestRecord .attach 2 1 [])))
  have howner : (attachedSample.ports 1).clientIndex = some 0 := by decide +kernel
  have hport := (h.1 1 0).mp howner
  have hfree : (attachedSample.ports 0).bridged = false
      ∧ (attachedSample.ports 0).clientIndex = none := by decide +kernel
  exact ⟨howner, hport, (h.2.1 1 0 hport).2, (h.2.2.2.1 0 hfree.1 hfree.2).2.2.1⟩

end Vspwd
