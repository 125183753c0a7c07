import SpwKit.Vspwd.Ownership

/-!
# The states of the two ports

The state of a port is stored, though it is a function of who owns the two ports,
whether they are started, and what the bridge says. It is computed again whenever
one of these has changed, one port after the other, and the state of a bridged
port is an input of the other's. `Coherent` says that the stored states are
always the computed ones. That needs the stored state of a bridged port to be the
bridge's before the pass begins (`BridgeStated`), which is why refreshing the
bridge writes it first.

A link error is counted with each change of a port's state to ERROR_WAIT and with
nothing else (`LinkStep`).
-/

open Vspd BigEndian

namespace Vspwd

/-! ## What the state depends on -/

/-- What the states of both ports are computed from. -/
def Port.wiring (port : Port) : Option ClientIndex × Bool × Bool × Bool × Bool :=
  (port.clientIndex, port.started, port.resetLatched, port.everAttached, port.bridged)

variable {i : ClientIndex} {p q : PortId} {s s' s₁ : Server}

theorem wiring_of_stateless {a b : Port} (h : a.stateless = b.stateless) : a.wiring = b.wiring := by
  show a.stateless.wiring = b.stateless.wiring
  rw [h]

/-- The computed state depends on the wiring of the ports, on the bridge and on
the stored state of a bridged port. -/
theorem calculateState_congr (p : PortId)
    (hwiring : ∀ q, (s'.ports q).wiring = (s.ports q).wiring) (hbridge : s'.bridge = s.bridge)
    (hstate : ∀ q, (s.ports q).bridged = true → (s'.ports q).state = (s.ports q).state) :
    calculateState s' p = calculateState s p := by
  have hp := hwiring p
  have hq := hwiring (peerPort p)
  simp only [Port.wiring, Prod.mk.injEq] at hp hq
  obtain ⟨hc, hs, hl, -, hb⟩ := hp
  obtain ⟨hc', hs', hl', he', hb'⟩ := hq
  simp only [calculateState, Server.bridgeState, hbridge, hc, hs, hl, hb, hc', hs', hl', he', hb']
  cases hbridged : (s.ports (peerPort p)).bridged with
  | false => rfl
  | true => rw [hstate _ hbridged]

/-- The stored state of a bridged port is the bridge's. -/
def BridgeStated (s : Server) : Prop :=
  ∀ p, (s.ports p).bridged = true → (s.ports p).state = s.bridgeState

/-- **The stored states are the computed ones.** -/
def Coherent (s : Server) : Prop := ∀ p, (s.ports p).state = calculateState s p

theorem calculateState_bridged (h : (s.ports p).bridged = true) :
    calculateState s p = s.bridgeState := by
  simp [calculateState, h]

theorem Coherent.bridgeStated (h : Coherent s) : BridgeStated s := fun p hp => by
  rw [h p, calculateState_bridged hp]

theorem state_updateState (s : Server) (p : PortId) :
    ((updateState s p).ports p).state = calculateState s p := by
  simp only [updateState]
  split_ifs with hidle hnext
  · simp only [Bool.and_eq_true, Option.isNone_iff_eq_none, Bool.not_eq_true'] at hidle
    simp [calculateState, hidle.1, hidle.2]
  · simp
  · exact (not_not.mp hnext).symm

theorem ports_updateState_of_ne (h : q ≠ p) : (updateState s p).ports q = s.ports q := by
  simp only [updateState]
  split_ifs <;> simp [h]

theorem BridgeStated.state_of_bridged (h : BridgeStated s) (p : PortId)
    (hq : (s.ports q).bridged = true) : ((updateState s p).ports q).state = (s.ports q).state := by
  by_cases hp : q = p
  · subst hp
    rw [state_updateState, calculateState_bridged hq, h q hq]
  · rw [ports_updateState_of_ne hp]

theorem BridgeStated.calculateState_updateState (h : BridgeStated s) (p q : PortId) :
    calculateState (updateState s p) q = calculateState s q :=
  calculateState_congr q (fun q => wiring_of_stateless (stateless_updateState s p q))
    (updateState_bridge s p) (fun _ hq => h.state_of_bridged p hq)

/-- The two ports' states after they were computed again. -/
theorem BridgeStated.state_updateStates (h : BridgeStated s) (p : PortId) :
    ((updateStates s).ports p).state = calculateState s p := by
  have hsecond := state_updateState (updateState s 0) 1
  rw [h.calculateState_updateState] at hsecond
  have hfirst := state_updateState s 0
  obtain rfl | rfl : p = 0 ∨ p = 1 := eq_or_eq_peerPort 0 p
  · rw [updateStates, ports_updateState_of_ne (by decide), hfirst]
  · exact hsecond

/-- **Computing the states again makes them coherent.** -/
theorem BridgeStated.coherent_updateStates (h : BridgeStated s) :
    Coherent (updateStates s) := fun p => by
  rw [h.state_updateStates p]
  refine (calculateState_congr p (fun q => wiring_of_stateless (stateless_updateStates s q))
    (updateStates_bridge s) fun q hq => ?_).symm
  rw [h.state_updateStates q, calculateState_bridged hq, h q hq]

/-- A change that touches neither states nor wiring. -/
theorem Coherent.of_same (h : Coherent s) (hwiring : ∀ q, (s'.ports q).wiring = (s.ports q).wiring)
    (hstate : ∀ q, (s'.ports q).state = (s.ports q).state) (hbridge : s'.bridge = s.bridge) :
    Coherent s' := fun p => by
  rw [hstate p, h p, calculateState_congr p hwiring hbridge (fun q _ => hstate q)]

/-- A change that leaves bridged ports and the bridge alone. -/
theorem BridgeStated.of_same (h : BridgeStated s) (hports : ∀ q, (s'.ports q).bridged = true →
      (s.ports q).bridged = true ∧ (s'.ports q).state = (s.ports q).state)
    (hbridge : s'.bridge = s.bridge) : BridgeStated s' := fun q hq => by
  obtain ⟨hb, hstate⟩ := hports q hq
  rw [hstate, h q hb, Server.bridgeState, Server.bridgeState, hbridge]

/-! ## Moves -/

namespace Coherent

variable {s s' : Server}

/-- A port changes in neither its state nor its wiring. -/
theorem updatePort (h : Coherent s) (p : PortId) (f : Port → Port)
    (hwiring : (f (s.ports p)).wiring = (s.ports p).wiring)
    (hstate : (f (s.ports p)).state = (s.ports p).state) : Coherent (s.updatePort p f) := by
  refine h.of_same (fun q => ?_) (fun q => ?_) rfl
  · rw [Server.updatePort_ports]
    split_ifs with hq
    · rw [hq, hwiring]
    · rfl
  · rw [Server.updatePort_ports]
    split_ifs with hq
    · rw [hq, hstate]
    · rfl

theorem updateClient (h : Coherent s) (i : ClientIndex) (f : Client → Client) :
    Coherent (s.updateClient i f) := h.of_same (fun _ => rfl) (fun _ => rfl) rfl

theorem markPortChanged (h : Coherent s) (p : PortId) : Coherent (markPortChanged s p) :=
  h.of_same (fun _ => rfl) (fun _ => rfl) rfl

/-- A change to a port that is not bridged. -/
theorem bridgeStated_updatePort (h : Coherent s) (p : PortId) (f : Port → Port)
    (hbridged : (f (s.ports p)).bridged = true →
      (s.ports p).bridged = true ∧ (f (s.ports p)).state = (s.ports p).state) :
    BridgeStated (s.updatePort p f) := by
  refine h.bridgeStated.of_same (fun q => ?_) rfl
  rw [Server.updatePort_ports]
  split_ifs with hq
  · subst hq
    exact hbridged
  · exact fun hb => ⟨hb, rfl⟩

theorem detachClient (h : Coherent s) (he : Exclusive s) (i : ClientIndex) :
    Coherent (detachClient s i) := by
  refine BridgeStated.coherent_updateStates ?_
  show BridgeStated (releasePort s i)
  unfold releasePort
  split
  · exact h.bridgeStated
  · rename_i p hport
    split_ifs
    · refine h.bridgeStated_updatePort p _ fun hb => ?_
      have hfree := he.bridged_of_portId hport
      rw [show (s.ports p).release.bridged = (s.ports p).bridged from rfl, hfree] at hb
      cases hb
    · exact h.bridgeStated

theorem popPacket (h : Coherent s) (p : PortId) (slot : PacketSlot) :
    Coherent (popPacket s p slot) := by
  unfold Vspwd.popPacket
  split_ifs
  · exact (h.updatePort p _ rfl rfl).markPortChanged p
  · exact h

theorem popTimeCode (h : Coherent s) (p : PortId) : Coherent (popTimeCode s p) := by
  unfold Vspwd.popTimeCode
  split_ifs
  · exact (h.updatePort p _ rfl rfl).markPortChanged p
  · exact h

theorem transfer (h : Coherent s) (p : PortId) (push count : Port → Port)
    (hpush : (push (s.ports (peerPort p))).wiring = (s.ports (peerPort p)).wiring)
    (hpush' : (push (s.ports (peerPort p))).state = (s.ports (peerPort p)).state)
    (hcount : (count (s.ports p)).wiring = (s.ports p).wiring)
    (hcount' : (count (s.ports p)).state = (s.ports p).state) :
    Coherent (s.transfer p push count) := by
  refine (updatePort (h.updatePort _ push hpush hpush') p count ?_ ?_ |>.markPortChanged
    p).markPortChanged _
  · simpa using hcount
  · simpa using hcount'

end Coherent

/-- Refreshing the bridge gives its port the state of the bridge, before the
other port's is computed. -/
theorem bridgeRefreshState_cases (he : Exclusive s) (h : BridgeStated s)
    (answer : Option LinkState) :
    bridgeRefreshState s answer = s
      ∨ ∃ (b : Bridge) (s₁ : Server), s.bridge = some b ∧ BridgeStated s₁
        ∧ (s.ports b.portId).state ≠ answer.getD .errorWait
        ∧ s₁ = markPortChanged
          (({ s with bridge := some { b with state := answer.getD .errorWait } } :
            Server).updatePort b.portId (fun port =>
              { port.countLinkError (answer.getD .errorWait) with
                state := answer.getD .errorWait })) b.portId
        ∧ bridgeRefreshState s answer = updateStates s₁ := by
  unfold bridgeRefreshState
  split
  · exact Or.inl rfl
  · rename_i b hb
    have hbridged : (s.ports b.portId).bridged = true := (he.bridge _).mpr (by rw [hb]; rfl)
    have hold : (s.ports b.portId).state = b.state := by
      rw [h _ hbridged, Server.bridgeState, hb]
      rfl
    simp only
    split_ifs with hnew hset
    · refine Or.inr ⟨b, _, hb, fun q hq => ?_, by simpa using hset, rfl, rfl⟩
      have hqb : q = b.portId := by
        have hmap : (s.ports q).bridged = true := by
          rw [markPortChanged_ports, Server.updatePort_ports] at hq
          split_ifs at hq with hqb
          · rw [hqb]
            exact hbridged
          · exact hq
        rw [he.bridge, hb] at hmap
        exact (Option.some.inj hmap).symm
      subst hqb
      simp [Server.bridgeState]
    · exact absurd (hold ▸ not_not.mp hset) (Ne.symm hnew)
    · exact Or.inl rfl

/-- **Every move keeps the states coherent.** -/
theorem Coherent.move (hm : Move s s') (he : Exclusive s) (h : Coherent s) : Coherent s' := by
  cases hm with
  | accept i fd | hello i | subscribe i p | unsubscribe i p | respond i bytes
  | reassemble i | forget i | responseSent i | snapshotSent i p => exact h.updateClient i _
  | close i => exact (h.detachClient he i).updateClient i _
  | attach i p hfd hhello hport hbridged howner =>
    refine BridgeStated.coherent_updateStates ?_
    refine (h.updateClient i _).bridgeStated_updatePort p _ fun hb => ?_
    exact absurd (hbridged.symm.trans hb) Bool.false_ne_true
  | detach i => exact h.detachClient he i
  | start i p | stop i p =>
    exact (h.bridgeStated_updatePort p _ fun hb => ⟨hb, rfl⟩).coherent_updateStates
  | reset i p =>
    have hp : BridgeStated (s.updatePort p (fun port =>
        { port.clearQueues with started := false, resetLatched := true })) :=
      h.bridgeStated_updatePort p _ fun hb => ⟨hb, rfl⟩
    exact BridgeStated.coherent_updateStates hp
  | clearStatistics p => exact (h.updatePort p _ rfl rfl).markPortChanged p
  | drop p => exact (h.updatePort p _ rfl rfl).markPortChanged p
  | transferPacket p packet hroom | transferTimeCode p code hroom =>
    exact h.transfer p _ _ rfl rfl rfl rfl
  | stateSent p | advance p slot => exact h.updatePort p _ rfl rfl
  | popPacket p slot => exact h.popPacket p slot
  | popTimeCode p => exact h.popTimeCode p
  | bridgeRefresh answer =>
    obtain hsame | ⟨b, s₁, -, hstated, -, -, heq⟩ :=
      bridgeRefreshState_cases he h.bridgeStated answer
    · rw [hsame]
      exact h
    · rw [heq]
      exact hstated.coherent_updateStates

theorem Coherent.initial : Coherent initServer := fun p => by
  simp [initServer, calculateState, Port.initial]

theorem Coherent.bridgeOpened (p : PortId) : Coherent (bridgeOpened p) := fun q => by
  obtain rfl | rfl := eq_or_eq_peerPort p q
  · simp [Vspwd.bridgeOpened, calculateState, Server.bridgeState]
  · simp [Vspwd.bridgeOpened, calculateState, initServer, Port.initial]

theorem Coherent.started (hs : Started s) : Coherent s := by
  cases hs with
  | plain => exact .initial
  | bridged p answer =>
    exact Coherent.move (.bridgeRefresh answer) (Exclusive.bridgeOpened p) (bridgeOpened p)

/-- What the daemon reaches has exclusive ownership and coherent states, and
whatever else every move keeps that has these. -/
theorem Reachable.keeps_coherent {P : Server → Prop} (hstart : ∀ {s}, Started s → P s)
    (hmove : ∀ {s s' : Server}, Move s s' → Exclusive s → Coherent s → P s → P s')
    (h : Reachable s) : Coherent s ∧ P s := by
  refine (h.keeps (P := fun s => Exclusive s ∧ Coherent s ∧ P s) (fun hs => ?_)
    (fun hm hs => ?_)).2
  · exact ⟨.started hs, .started hs, hstart hs⟩
  · exact ⟨.move hm hs.1, .move hm hs.1 hs.2.1, hmove hm hs.1 hs.2.1 hs.2.2⟩

theorem Reachable.coherent (h : Reachable s) : Coherent s :=
  (h.keeps_coherent (P := fun _ => True) (fun _ => trivial) (fun _ _ _ _ => trivial)).1

/-! ## Link errors -/

/-- The state of a port and its link errors. -/
def Port.link (port : Port) : LinkState × UInt64 := (port.state, port.statistics.linkErrors)

/-- **A link error is counted with a change to ERROR_WAIT, and only then.** -/
def LinkStep (before after : LinkState × UInt64) : Prop :=
  after.2 = if before.1 ≠ .errorWait ∧ after.1 = .errorWait then before.2 + 1 else before.2

theorem LinkStep.refl (link : LinkState × UInt64) : LinkStep link link := by
  simp [LinkStep]

/-- A change to another state than ERROR_WAIT counts nothing. -/
theorem LinkStep.of_ne {before after : LinkState × UInt64} (hstate : after.1 ≠ .errorWait)
    (herrors : after.2 = before.2) : LinkStep before after := by
  simp [LinkStep, hstate, herrors]

theorem LinkStep.errors_of_ne {before after : LinkState × UInt64} (h : LinkStep before after)
    (hstate : after.1 ≠ .errorWait) : after.2 = before.2 := by
  simpa [LinkStep, hstate] using h

theorem link_countLinkError (port : Port) (state : LinkState) (hne : state ≠ port.state) :
    LinkStep port.link ({ port.countLinkError state with state := state } : Port).link := by
  unfold Port.countLinkError LinkStep Port.link
  split_ifs with hwait hcond hcond
  · rfl
  · exact absurd ⟨fun h => hne (hwait.trans h.symm), hwait⟩ hcond
  · exact absurd hcond.2 hwait
  · rfl

theorem link_updateState (s : Server) (p q : PortId) :
    LinkStep (s.ports q).link ((updateState s p).ports q).link := by
  by_cases hq : q = p
  · subst hq
    simp only [updateState]
    split_ifs with hidle hnext
    · refine .of_ne ?_ ?_ <;> simp [Port.link]
    · rw [markPortChanged_ports, Server.updatePort_ports, if_pos rfl]
      exact link_countLinkError (s.ports q) _ hnext
    · exact .refl _
  · rw [ports_updateState_of_ne hq]
    exact .refl _

/-- Computing the states again counts the changes it makes. -/
theorem link_updateStates (s : Server) (q : PortId) :
    LinkStep (s.ports q).link ((updateStates s).ports q).link := by
  obtain rfl | rfl : q = 0 ∨ q = 1 := eq_or_eq_peerPort 0 q
  · rw [updateStates, ports_updateState_of_ne (by decide)]
    exact link_updateState s 0 0
  · rw [updateStates]
    have h := link_updateState (updateState s 0) 1 1
    rwa [ports_updateState_of_ne (by decide)] at h

/-- The states are computed again after a change that they do not show. -/
theorem link_updateStates_of_eq (h : (s₁.ports q).link = (s.ports q).link) :
    LinkStep (s.ports q).link ((updateStates s₁).ports q).link :=
  h ▸ link_updateStates s₁ q

theorem link_updatePort {f : Port → Port} (hf : (f (s.ports p)).link = (s.ports p).link)
    (q : PortId) : ((s.updatePort p f).ports q).link = (s.ports q).link := by
  rw [Server.updatePort_ports]
  split_ifs with hq
  · rw [hf, hq]
  · rfl

theorem link_detachClient (he : Exclusive s) (i : ClientIndex) (q : PortId) :
    LinkStep (s.ports q).link ((detachClient s i).ports q).link := by
  unfold detachClient
  cases hport : (s.clients i).portId with
  | none =>
    refine link_updateStates_of_eq ?_
    simp [releasePort, hport]
  | some p =>
    have howner := he.clientIndex_of_portId hport
    have hbridged := he.bridged_of_portId hport
    by_cases hq : q = p
    · -- the port that is released is down, whatever it was
      subst hq
      have hreleased : ((releasePort s i).updateClient i (fun client =>
          { client with portId := none, reassembly := client.reassembly.clear })).ports q
          = (s.ports q).release := by
        simp [releasePort, hport, howner]
      have hdown : ((detachClient s i).ports q).state = .errorReset := by
        refine ((he.detachClient i).idle q ?_ ?_).state
        · rw [detachClient, updateStates_bridged, hreleased]
          exact hbridged
        · rw [detachClient, updateStates_clientIndex, hreleased]
          rfl
      have hstep := link_updateStates ((releasePort s i).updateClient i (fun client =>
        { client with portId := none, reassembly := client.reassembly.clear })) q
      rw [hreleased] at hstep
      have hne : ((detachClient s i).ports q).link.1 ≠ .errorWait := by
        simp [Port.link, hdown]
      exact .of_ne hne (hstep.errors_of_ne hne)
    · refine link_updateStates_of_eq ?_
      simp [releasePort, hport, howner, hq]

/-- A port that has just been attached to is ready and has counted nothing. -/
theorem link_attachClient (hc : Coherent s) (i : ClientIndex)
    (hbridged : (s.ports p).bridged = false) :
    ((attachClient s i p).ports p).link = (.ready, 0) := by
  have hstated : BridgeStated ((s.updateClient i (fun client =>
      { client with portId := some p })).updatePort p (fun port => port.attach i)) := by
    refine (hc.updateClient i _).bridgeStated_updatePort p _ fun hb => ?_
    exact absurd (hbridged.symm.trans hb) Bool.false_ne_true
  have hready : ((attachClient s i p).ports p).state = .ready := by
    rw [attachClient, hstated.state_updateStates p]
    simp [calculateState, Port.attach, Port.clearQueues, hbridged]
  have hstep := link_updateStates ((s.updateClient i (fun client =>
      { client with portId := some p })).updatePort p (fun port => port.attach i)) p
  have herrors := hstep.errors_of_ne (by
    show ((attachClient s i p).ports p).state ≠ .errorWait
    rw [hready]
    decide)
  refine Prod.ext hready (herrors.trans ?_)
  simp [Port.attach, Port.link]

theorem link_transfer {push count : Port → Port}
    (hpush : (push (s.ports (peerPort p))).link = (s.ports (peerPort p)).link)
    (hcount : (count (s.ports p)).link = (s.ports p).link) (q : PortId) :
    ((s.transfer p push count).ports q).link = (s.ports q).link := by
  obtain rfl | rfl := eq_or_eq_peerPort p q
  · rw [transfer_source, hcount]
  · rw [transfer_destination, hpush]

theorem link_transferPacket (s : Server) (p : PortId) (packet : Packet) (hroom : _) (q : PortId) :
    ((s.transferPacket p packet hroom).ports q).link = (s.ports q).link :=
  link_transfer rfl rfl q

theorem link_transferTimeCode (s : Server) (p : PortId) (code : TimeCode) (hroom : _)
    (q : PortId) : ((s.transferTimeCode p code hroom).ports q).link = (s.ports q).link :=
  link_transfer rfl rfl q

theorem link_popPacket (s : Server) (p : PortId) (slot : PacketSlot) (q : PortId) :
    ((popPacket s p slot).ports q).link = (s.ports q).link := by
  unfold popPacket
  split_ifs
  · rw [markPortChanged_ports]
    exact link_updatePort rfl q
  · rfl

theorem link_popTimeCode (s : Server) (p q : PortId) :
    ((popTimeCode s p).ports q).link = (s.ports q).link := by
  unfold popTimeCode
  split_ifs
  · rw [markPortChanged_ports]
    exact link_updatePort rfl q
  · rfl

/-- Writing records changes no state. -/
theorem Writes.link {frame : Bytes} (h : Writes s i frame s') (q : PortId) :
    (s'.ports q).link = (s.ports q).link := by
  cases h with
  | response | snapshot => rfl
  | state p | fragment p slot => exact link_updatePort rfl q
  | packet p slot => exact link_popPacket s p slot q
  | timeCode p => exact link_popTimeCode s p q

theorem WritesAll.link {frames : List Bytes} (h : WritesAll i s frames s') (q : PortId) :
    (s'.ports q).link = (s.ports q).link := by
  induction h with
  | nil => rfl
  | cons hfirst _ ih => rw [ih, hfirst.link q]

/-- A request clears the counters of a port: it attaches to it, or asks for that. -/
def ClearsCounters (s : Server) (i : ClientIndex) (request : Header) (p : PortId) : Prop :=
  (request.type = MessageType.attach.toByte ∧ request.portId.toNat = p.val)
    ∨ (request.type = MessageType.clearStatistics.toByte ∧ (s.clients i).portId = some p)
    ∨ (request.type = MessageType.clearPortStatistics.toByte ∧ request.portId.toNat = p.val)

/-- **What a request does to a port's link errors.** It counts the change it makes,
or it clears the counters, and then the state does not come to be ERROR_WAIT. -/
theorem Effect.link {request : Header} {payload : Bytes} {status : Status}
    (h : Effect s i request payload status s₁) (he : Exclusive s) (hc : Coherent s) (q : PortId) :
    LinkStep (s.ports q).link (s₁.ports q).link
      ∨ (s₁.ports q).statistics.linkErrors = 0 ∧ ClearsCounters s i request q
        ∧ ((s₁.ports q).state = .errorWait → (s.ports q).state = .errorWait) := by
  have hsame : ∀ {s' : Server}, (s'.ports q).link = (s.ports q).link →
      LinkStep (s.ports q).link (s'.ports q).link := fun heq => heq ▸ .refl _
  cases h with
  | nothing | hello | subscribe | unsubscribe | dataRefused => exact Or.inl (.refl _)
  | attach p htype hhello hport hp hbridged howner =>
    by_cases hq : q = p
    · subst hq
      have hready := link_attachClient hc i hbridged
      exact Or.inr ⟨congrArg Prod.snd hready, Or.inl ⟨htype, hp⟩, fun hwait =>
        absurd (hwait.symm.trans (congrArg Prod.fst hready)) (by decide)⟩
    · refine Or.inl (link_updateStates_of_eq ?_)
      simp [hq]
  | detach p => exact Or.inl (link_detachClient he i q)
  | start p | stop p => exact Or.inl (link_updateStates_of_eq (link_updatePort rfl q))
  | reset p =>
    refine Or.inl (link_updateStates_of_eq ?_)
    rw [Server.updateClient_ports]
    exact link_updatePort rfl q
  | clearStatistics p htype howns =>
    by_cases hq : q = p
    · subst hq
      refine Or.inr ⟨?_, Or.inr (Or.inl ⟨htype, howns⟩), ?_⟩ <;> simp [Vspwd.clearPortStatistics]
    · refine Or.inl (hsame ?_)
      simp [Vspwd.clearPortStatistics, hq]
  | clearPortStatistics p htype hport hp =>
    by_cases hq : q = p
    · subst hq
      refine Or.inr ⟨?_, Or.inr (Or.inr ⟨htype, hp⟩), ?_⟩ <;> simp [Vspwd.clearPortStatistics]
    · refine Or.inl (hsame ?_)
      simp [Vspwd.clearPortStatistics, hq]
  | data p r status s₂ htype hend howns hadmits hcomplete hdeliver =>
    refine Or.inl (hsame ?_)
    obtain ⟨-, -, -, hroom, rfl⟩ | ⟨-, rfl⟩ | ⟨-, rfl⟩ := deliverPacket_cases hdeliver
    · exact link_transferPacket _ p _ hroom q
    · exact link_updatePort rfl q
    · rfl
  | timeCode p status s₂ htype howns hdeliver =>
    refine Or.inl (hsame ?_)
    obtain ⟨-, -, -, hroom, rfl⟩ | ⟨-, rfl⟩ | ⟨-, rfl⟩ := deliverTimeCode_cases hdeliver
    · exact link_transferTimeCode s p _ hroom q
    · exact link_updatePort rfl q
    · rfl

theorem link_bridgeRefreshState (he : Exclusive s) (hc : Coherent s) (answer : Option LinkState)
    (q : PortId) : LinkStep (s.ports q).link ((bridgeRefreshState s answer).ports q).link := by
  obtain hsame | ⟨b, s₁, hb, hstated, hnew, hs₁, heq⟩ :=
    bridgeRefreshState_cases he hc.bridgeStated answer
  · rw [hsame]
    exact .refl _
  · rw [heq]
    by_cases hq : q = b.portId
    · -- the bridge's port has its state already when the states are computed
      subst hq
      have hstep : LinkStep (s.ports b.portId).link (s₁.ports b.portId).link := by
        rw [hs₁, markPortChanged_ports, Server.updatePort_ports, if_pos rfl]
        exact link_countLinkError (s.ports b.portId) _ hnew.symm
      have hbridged : (s₁.ports b.portId).bridged = true := by
        have hb' := (he.bridge b.portId).mpr (by rw [hb]; rfl)
        rw [hs₁, markPortChanged_ports, Server.updatePort_ports, if_pos rfl]
        simp only [Port.countLinkError]
        split_ifs <;> exact hb'
      have hstays : ((updateStates s₁).ports b.portId).state = (s₁.ports b.portId).state := by
        rw [hstated.state_updateStates, calculateState_bridged hbridged, hstated _ hbridged]
      have hlink : ((updateStates s₁).ports b.portId).link = (s₁.ports b.portId).link := by
        refine Prod.ext hstays ?_
        have hsecond := link_updateStates s₁ b.portId
        rw [LinkStep, if_neg] at hsecond
        · exact hsecond
        · rw [show ((updateStates s₁).ports b.portId).link.1 = (s₁.ports b.portId).link.1
            from hstays]
          exact fun hwait => hwait.1 hwait.2
      rw [hlink]
      exact hstep
    · refine link_updateStates_of_eq ?_
      simp [hs₁, hq]

/-- An action clears the counters of a port: it handles a request that does. -/
def Action.Clears (s : Server) (a : Action) (p : PortId) : Prop :=
  ∃ i frame request, a = .receive i (.record frame) ∧ validateFrame frame = .ok request
    ∧ ClearsCounters s i request p

/-- **Every action counts the changes to ERROR_WAIT, or clears the counters.** -/
theorem step_link (he : Exclusive s) (hc : Coherent s) (a : Action) (q : PortId) :
    LinkStep (s.ports q).link ((s.step a).ports q).link
      ∨ ((s.step a).ports q).statistics.linkErrors = 0 ∧ a.Clears s q
        ∧ (((s.step a).ports q).state = .errorWait → (s.ports q).state = .errorWait) := by
  have hsame : ∀ {port : Port}, port.link = (s.ports q).link →
      LinkStep (s.ports q).link port.link := fun h => h ▸ .refl _
  have hturn := step_turn (Daemon.initial s) a
  rw [show s.step a = ((Daemon.initial s).step a).server from
    ((Daemon.initial s).step_server a).symm]
  generalize (Daemon.initial s).step a = d' at hturn
  cases hturn with
  | nothing | accepted => exact .inl (.refl _)
  | closed _ i => exact .inl (link_detachClient he i q)
  | heard i frame s' hheard =>
    rw [hear_server]
    cases hheard.handled with
    | fragment => exact .inl (.refl _)
    | answered request status payload s₁ hfree hvalid _ _ _ heffect =>
      obtain hstep | ⟨hzero, hclears, hstate⟩ := heffect.link he hc q
      · exact .inl hstep
      · exact .inr ⟨hzero, ⟨i, frame, request, rfl, hvalid, hclears⟩, hstate⟩
  | told i send frames s' hfd hwrites => exact .inl (hsame (hwrites.link q))
  | failed i send frames s' hfd hwrites =>
    left
    rw [← show (s'.ports q).link = (s.ports q).link from hwrites.link q]
    exact link_detachClient (hwrites.moves.keeps Exclusive.move he) i q
  | bridge _ call s' hmove =>
    left
    cases hmove with
    | refresh answer => exact link_bridgeRefreshState he hc answer q
    | popPacket => exact hsame (link_popPacket ..)
    | popTimeCode => exact hsame (link_popTimeCode ..)
    | pushPacket => exact hsame (link_transferPacket ..)
    | pushTimeCode => exact hsame (link_transferTimeCode ..)

/-! ## The states of a reachable daemon -/

/-- A port is attached, started and not latched. -/
def Port.Up (port : Port) : Prop :=
  port.clientIndex.isSome = true ∧ port.started = true ∧ port.resetLatched = false

/-- A local port is in RUN if it and its local peer are up. -/
theorem calculateState_local (hp : (s.ports p).bridged = false)
    (hq : (s.ports (peerPort p)).bridged = false) :
    calculateState s p = .run ↔ (s.ports p).Up ∧ (s.ports (peerPort p)).Up := by
  simp only [calculateState, Port.Up, hp, hq]
  split_ifs <;> simp_all [Option.isSome_iff_ne_none]

/-- A port whose peer is bridged is in RUN if it is up and the bridge is in RUN. -/
theorem calculateState_peerBridged (hp : (s.ports p).bridged = false)
    (hq : (s.ports (peerPort p)).bridged = true) :
    calculateState s p = .run ↔ (s.ports p).Up ∧ (s.ports (peerPort p)).state = .run := by
  simp only [calculateState, Port.Up, hp, hq]
  split_ifs <;> simp_all [Option.isSome_iff_ne_none]

/-- **The states of the two ports are always coherent.** They are the computed
ones; a port without owner and bridge is down and has no event pending; two local
ports are both in RUN, namely when both are up, or neither is; with a bridge, its
port has its state and the other is in RUN when it is up and the bridge is; and
an action counts a link error of a port exactly if it changes the port's state to
ERROR_WAIT, and otherwise leaves the count or clears it on request. -/
theorem link_states_coherent {s : Server} (h : Reachable s) :
    (∀ p, (s.ports p).state = calculateState s p)
      ∧ (∀ p, (s.ports p).clientIndex = none → (s.ports p).bridged = false →
        (s.ports p).state = .errorReset ∧ (s.ports p).stateEventPending = false)
      ∧ (s.bridge = none → ∀ p,
        ((s.ports p).state = .run ↔ (s.ports (peerPort p)).state = .run)
          ∧ ((s.ports p).state = .run ↔ (s.ports p).Up ∧ (s.ports (peerPort p)).Up))
      ∧ (∀ b, s.bridge = some b → (s.ports b.portId).state = b.state
        ∧ ((s.ports (peerPort b.portId)).state = .run
          ↔ (s.ports (peerPort b.portId)).Up ∧ b.state = .run))
      ∧ ∀ a p,
        ((s.ports p).state ≠ .errorWait → ((s.step a).ports p).state = .errorWait →
          ((s.step a).ports p).statistics.linkErrors = (s.ports p).statistics.linkErrors + 1)
        ∧ (((s.ports p).state = .errorWait ∨ ((s.step a).ports p).state ≠ .errorWait) →
          ((s.step a).ports p).statistics.linkErrors = (s.ports p).statistics.linkErrors
            ∨ ((s.step a).ports p).statistics.linkErrors = 0 ∧ a.Clears s p) := by
  have he := h.exclusive
  have hc := h.coherent
  refine ⟨hc, fun p howner hbridged => ?_, fun hnone p => ?_, fun b hb => ?_, fun a p => ?_⟩
  · exact ⟨(he.idle p hbridged howner).state, (he.idle p hbridged howner).stateEventPending⟩
  · have hlocal : ∀ q, (s.ports q).bridged = false := fun q => by
      rw [← Bool.not_eq_true, he.bridge, hnone]
      simp
    have hrun : ∀ q, (s.ports q).state = .run
        ↔ (s.ports q).Up ∧ (s.ports (peerPort q)).Up := fun q => by
      rw [hc q]
      exact calculateState_local (hlocal q) (hlocal _)
    refine ⟨?_, hrun p⟩
    rw [hrun p, hrun (peerPort p), peerPort_peerPort, and_comm]
  · have hbridged : (s.ports b.portId).bridged = true := (he.bridge _).mpr (by rw [hb]; rfl)
    have hstate : (s.ports b.portId).state = b.state := by
      rw [hc.bridgeStated _ hbridged, Server.bridgeState, hb]
      rfl
    have hlocal : (s.ports (peerPort b.portId)).bridged = false := by
      rw [← Bool.not_eq_true, he.bridge, hb]
      simp
    refine ⟨hstate, ?_⟩
    rw [hc (peerPort b.portId), calculateState_peerBridged hlocal (by simpa using hbridged),
      peerPort_peerPort, hstate]
  · obtain hstep | ⟨hzero, hclears, hwait⟩ := step_link he hc a p
    · refine ⟨fun hbefore hafter => ?_, fun hnot => Or.inl ?_⟩
      · rw [LinkStep, if_pos ⟨hbefore, hafter⟩] at hstep
        exact hstep
      · rw [LinkStep, if_neg] at hstep
        · exact hstep
        · exact fun hboth => hnot.elim hboth.1 (fun hne => hne hboth.2)
    · exact ⟨fun hbefore hafter => absurd (hwait hafter) hbefore, fun _ => Or.inr ⟨hzero, hclears⟩⟩

/-- Two clients that have attached and started, and the first one has gone. -/
def linkSample : List Action :=
  connect 0 7 ++ connect 1 8
    ++ exchange 0 (requestRecord .attach 2 0 []) ++ exchange 1 (requestRecord .attach 2 1 [])
    ++ exchange 0 (requestRecord .start 3 0 []) ++ exchange 1 (requestRecord .start 3 1 [])

theorem link_states_coherent_hangup :
    ((initServer.run linkSample).ports 0).state = .run
      ∧ ((initServer.run linkSample).ports 1).state = .run
      ∧ (((initServer.run linkSample).step (.hangup 0)).ports 1).state = .errorWait
      ∧ (((initServer.run linkSample).step (.hangup 0)).ports 1).statistics.linkErrors
        = ((initServer.run linkSample).ports 1).statistics.linkErrors + 1 := by
  have h := link_states_coherent ((Reachable.start .plain).run linkSample)
  have hbridge : (initServer.run linkSample).bridge = none := by decide +kernel
  have hrun : ((initServer.run linkSample).ports 0).state = .run := by decide +kernel
  have hrun' := ((h.2.2.1 hbridge 0).1).mp hrun
  have hwait : (((initServer.run linkSample).step (.hangup 0)).ports 1).state = .errorWait := by
    decide +kernel
  exact ⟨hrun, hrun', hwait, (h.2.2.2.2 (.hangup 0) 1).1 (hrun' ▸ by decide) hwait⟩

end Vspwd
