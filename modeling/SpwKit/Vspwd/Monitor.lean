import SpwKit.Vspwd.Responses

/-!
# What the watchers of a port know

A client that owns no port may subscribe to ports, and is then sent a snapshot
of a port whenever something of it has changed. Each change marks the port in
the masks of its watchers, and a flush writes the snapshot and clears the mark.
So a watcher without a mark has been sent the port as it is: `Fresh`.

A change does not mark a client that owns a port at that time, though the client
stays subscribed. When it detaches it watches again and has missed what has
happened in between, so `Fresh` holds as long as no client detaches that is
subscribed to a port without a mark (`KeepsWatch`), and fails beyond.
-/

open Vspd BigEndian

namespace Vspwd

/-- A client is subscribed to a port. -/
def Client.subscribed (client : Client) (p : PortId) : Bool :=
  (client.monitorMask &&& portBit p) != 0

/-- A snapshot of a port is due to a client. -/
def Client.pending (client : Client) (p : PortId) : Bool :=
  (client.monitorPendingMask &&& portBit p) != 0

variable {d d' : Daemon} {frames : List Bytes} {i : ClientIndex} {p : PortId} {s : Server}

theorem watches_eq (client : Client) (p : PortId) :
    client.watches p
      = (client.fd.isSome && client.helloDone && client.portId.isNone && client.subscribed p) :=
  rfl

/-- The snapshot of a port that a record holds. -/
def snapshotOf (p : PortId) (frame : Bytes) : Option PortSnapshotPayload :=
  match validateFrame frame with
  | .ok header =>
    if header.type = MessageType.portSnapshotEvent.toByte ∧ header.portId = UInt32.ofNat p.val then
      some (decodePortSnapshot (payloadOf frame))
    else none
  | .error _ => none

/-- The last snapshot of a port among the records written to a client. -/
def lastSnapshot (frames : List Bytes) (p : PortId) : Option PortSnapshotPayload :=
  (frames.filterMap (snapshotOf p)).getLast?

/-- What a snapshot shows of a port. -/
theorem portSnapshotToWire_congr {a b : Port} (hwiring : a.wiring = b.wiring)
    (hstate : a.state = b.state) (hpackets : a.packets.count = b.packets.count)
    (htimeCodes : a.timeCodes.count = b.timeCodes.count)
    (hstatistics : a.statistics = b.statistics) :
    portSnapshotToWire a = portSnapshotToWire b := by
  simp only [Port.wiring, Prod.mk.injEq] at hwiring
  obtain ⟨hc, hs, hl, he, hb⟩ := hwiring
  simp only [portSnapshotToWire, portInfoToWire, hc, hs, hl, he, hb, hstate, hpackets, htimeCodes,
    hstatistics]

/-! ## Changes that the watchers are told of -/

/-- **A change of a port is announced**: a watcher of it without a mark was one
before, and the port looks as it did. -/
def Announced (p : PortId) (s s' : Server) : Prop :=
  ∀ i, (s'.clients i).watches p = true → (s'.clients i).pending p = false →
    (s.clients i).watches p = true ∧ (s.clients i).pending p = false
      ∧ portSnapshotToWire (s'.ports p) = portSnapshotToWire (s.ports p)

namespace Announced

variable {p : PortId} {s s' s'' : Server}

theorem refl (p : PortId) (s : Server) : Announced p s s := fun _ hw hp => ⟨hw, hp, rfl⟩

theorem trans (h : Announced p s s') (h' : Announced p s' s'') : Announced p s s'' := by
  intro i hw hp
  obtain ⟨hw', hp', heq'⟩ := h' i hw hp
  obtain ⟨hw'', hp'', heq''⟩ := h i hw' hp'
  exact ⟨hw'', hp'', heq'.trans heq''⟩

/-- Whatever has happened, marking the port announces it. -/
theorem marked (p : PortId) (s t : Server) : Announced p s (markPortChanged t p) := by
  intro i hw hp
  rw [watches_of_unmarked (unmarked_markPortChanged t p i)] at hw
  rw [Client.pending, markPortChanged_pending, hw] at hp
  simp at hp

theorem markPortChanged (p q : PortId) (s : Server) : Announced p s (markPortChanged s q) := by
  intro i hw hp
  rw [watches_of_unmarked (unmarked_markPortChanged s q i)] at hw
  rw [Client.pending, markPortChanged_pending, Bool.or_eq_false_iff] at hp
  exact ⟨hw, hp.1, rfl⟩

theorem updatePort (q : PortId) (f : Port → Port)
    (hf : p = q → portSnapshotToWire (f (s.ports q)) = portSnapshotToWire (s.ports q)) :
    Announced p s (s.updatePort q f) := by
  refine fun i hw hp => ⟨hw, hp, ?_⟩
  rw [Server.updatePort_ports]
  split_ifs with hq
  · rw [hf hq, hq]
  · rfl

theorem updateClient (i : ClientIndex) (f : Client → Client)
    (hf : (f (s.clients i)).watches p = true → (f (s.clients i)).pending p = false →
      (s.clients i).watches p = true ∧ (s.clients i).pending p = false) :
    Announced p s (s.updateClient i f) := by
  intro j hw hp
  rw [Server.updateClient_clients] at hw hp
  split_ifs at hw hp with hj
  · subst hj
    exact ⟨(hf hw hp).1, (hf hw hp).2, rfl⟩
  · exact ⟨hw, hp, rfl⟩

/-- A change of a client that is no watcher afterwards. -/
theorem unwatched (i : ClientIndex) (f : Client → Client)
    (hf : (f (s.clients i)).watches p = false) : Announced p s (s.updateClient i f) :=
  updateClient i f fun hw => absurd (hf.symm.trans hw) Bool.false_ne_true

end Announced

/-- A port nobody owns or bridges is down. -/
def Quiet (s : Server) : Prop :=
  ∀ p, (s.ports p).clientIndex = none → (s.ports p).bridged = false →
    (s.ports p).state = .errorReset

theorem Exclusive.quiet (h : Exclusive s) : Quiet s :=
  fun p hc hb => (h.idle p hb hc).state

/-- Computing a state announces the change it makes. -/
theorem Quiet.announced_updateState (h : Quiet s) (p q : PortId) :
    Announced p s (updateState s q) := by
  simp only [updateState]
  split_ifs with hidle hnext
  · refine .updatePort q _ fun _ => ?_
    simp only [Bool.and_eq_true, Option.isNone_iff_eq_none, Bool.not_eq_true'] at hidle
    rw [portSnapshotToWire, portSnapshotToWire, portInfoToWire, portInfoToWire,
      h q hidle.1 hidle.2]
  · by_cases hp : p = q
    · subst hp
      exact .marked p s _
    · exact (Announced.updatePort q _ fun heq => (hp heq).elim).trans (.markPortChanged p q _)
  · exact .refl p s

theorem Quiet.updateState (h : Quiet s) (q : PortId) : Quiet (updateState s q) := by
  intro p hc hb
  by_cases hp : p = q
  · subst hp
    rw [clientIndex_of_stateless (stateless_updateState s p p)] at hc
    rw [bridged_of_stateless (stateless_updateState s p p)] at hb
    rw [state_updateState]
    simp [calculateState, hc, hb]
  · rw [ports_updateState_of_ne hp] at hc hb ⊢
    exact h p hc hb

theorem Quiet.announced_updateStates (h : Quiet s) (p : PortId) : Announced p s (updateStates s) :=
  (h.announced_updateState p 0).trans ((h.updateState 0).announced_updateState p 1)

/-- A port whose state comes out differently is announced, whatever else of it
has changed. -/
theorem announced_updateStates_of_ne {t : Server} (hquiet : Quiet t) (hstated : BridgeStated t)
    (howned : ¬ ((t.ports p).clientIndex.isNone && !(t.ports p).bridged))
    (hne : calculateState t p ≠ (t.ports p).state) : Announced p s (updateStates t) := by
  have hmark : ∀ u : Server, (u.ports p) = t.ports p → calculateState u p = calculateState t p →
      Announced p s (updateState u p) := by
    intro u hport hcalc
    simp only [updateState, hport, hcalc]
    rw [if_neg howned, if_pos hne]
    exact .marked p s _
  obtain rfl | rfl : p = 0 ∨ p = 1 := eq_or_eq_peerPort 0 p
  · exact (hmark t rfl rfl).trans ((hquiet.updateState 0).announced_updateState 0 1)
  · refine hmark (updateState t 0) ?_ (hstated.calculateState_updateState 0 1)
    exact ports_updateState_of_ne (by decide)

/-! ## Ports that are latched, clients that have not said hello -/

/-- A port that is latched is local, stopped, and holds nothing. -/
def Port.Rests (port : Port) : Prop :=
  port.resetLatched = true → port.bridged = false ∧ port.started = false
    ∧ port.packets.count = 0 ∧ port.timeCodes.count = 0

/-- A client that has not said hello is subscribed to nothing. -/
def Client.Unsubscribed (client : Client) : Prop :=
  client.helloDone = false → ∀ p, client.subscribed p = false

/-- Ports rest while they are latched, and clients subscribe after their hello. -/
abbrev Watchable : Server → Prop := Parts Port.Rests Client.Unsubscribed

theorem Port.rests_of_unlatched {port : Port} (h : port.resetLatched = false) : port.Rests :=
  fun hl => absurd (h.symm.trans hl) Bool.false_ne_true

theorem Client.unsubscribed_of_hello {client : Client} (h : client.helloDone = true) :
    client.Unsubscribed := fun hno => absurd (hno.symm.trans h) Bool.false_ne_true

theorem subscribed_zeroed (fd : Option Nat) (p : PortId) :
    (Client.zeroed fd).subscribed p = false := by
  show (((0 : UInt32) &&& portBit p) != 0) = false
  revert p
  decide

instance : Parts.Lasting Port.Rests Client.Unsubscribed where
  port h hp := by
    rwa [Port.Rests, resetLatched_of_stateless h, bridged_of_stateless h, started_of_stateless h,
      packets_of_stateless h, timeCodes_of_stateless h]
  client h hc := by
    simpa only [Client.Unsubscribed, Client.subscribed, helloDone_of_unmarked h,
      monitorMask_of_unmarked h] using hc
  release _ := Port.rests_of_unlatched rfl
  detach hc := hc
  zeroed _ _ := subscribed_zeroed _

namespace Watchable

variable {s : Server}

variable {p : PortId}

/-- A port in RUN is not latched. -/
theorem unlatched_of_run (h : Watchable s) (hc : Coherent s) (hrun : (s.ports p).state = .run) :
    (s.ports p).resetLatched = false := by
  by_contra hl
  rw [Bool.not_eq_false] at hl
  rw [hc p] at hrun
  simp [calculateState, (h.ports p hl).1, hl] at hrun

/-- What is queued at a port in RUN leaves it unlatched. -/
theorem rests_of_run (h : Watchable s) (hc : Coherent s) (hrun : (s.ports p).state = .run)
    {port : Port} (hport : port.resetLatched = (s.ports p).resetLatched) : port.Rests :=
  Port.rests_of_unlatched (hport.trans (h.unlatched_of_run hc hrun))

theorem popPacket (h : Watchable s) (p : PortId) (slot : PacketSlot) :
    Watchable (popPacket s p slot) := by
  unfold Vspwd.popPacket
  split_ifs with hcount
  · refine (h.updatePort p _ fun hl => ?_).markPortChanged p
    exact absurd (h.ports p hl).2.2.1 hcount
  · exact h

theorem popTimeCode (h : Watchable s) (p : PortId) : Watchable (popTimeCode s p) := by
  unfold Vspwd.popTimeCode
  split_ifs with hcount
  · refine (h.updatePort p _ fun hl => ?_).markPortChanged p
    exact absurd (h.ports p hl).2.2.2 hcount
  · exact h

theorem move {s' : Server} (hm : Move s s') (he : Exclusive s) (hc : Coherent s)
    (h : Watchable s) : Watchable s' := by
  cases hm with
  | accept i fd => exact h.zeroed i _
  | close i => exact (h.detachClient i).zeroed i _
  | hello i => exact h.updateClient i _ (Client.unsubscribed_of_hello rfl)
  | attach i p =>
    refine ((h.updateClient i _ ?_).updatePort p _ ?_).updateStates
    · exact h.clients i
    · exact Port.rests_of_unlatched rfl
  | detach i => exact h.detachClient i
  | start i p | stop i p => exact (h.updatePort p _ (Port.rests_of_unlatched rfl)).updateStates
  | reset i p howns =>
    refine ((h.updatePort p _ fun _ => ?_).updateClient i _ ?_).updateStates
    · exact ⟨he.bridged_of_portId howns, rfl, RingQueue.count_clear _, RingQueue.count_clear _⟩
    · exact h.clients i
  | clearStatistics p | drop p => exact (h.updatePort p _ (h.ports p)).markPortChanged p
  | subscribe i p hhello => exact h.updateClient i _ (Client.unsubscribed_of_hello hhello)
  | unsubscribe i p =>
    refine h.updateClient i _ fun hno q => ?_
    have hq := h.clients i hno q
    unfold Client.subscribed at hq ⊢
    rw [andNot_portBit_ne, hq, Bool.false_and]
  | respond i bytes | reassemble i | forget i | responseSent i | snapshotSent i p =>
    exact h.updateClient i _ (h.clients i)
  | transferPacket p packet hroom hrun | transferTimeCode p code hroom hrun =>
    exact h.transfer p _ _ (h.rests_of_run hc hrun rfl) (h.ports p)
  | stateSent p | advance p slot => exact h.updatePort p _ (h.ports p)
  | popPacket p slot => exact h.popPacket p slot
  | popTimeCode p => exact h.popTimeCode p
  | bridgeRefresh answer => exact h.bridgeRefreshState answer

theorem initial : Watchable initServer :=
  ⟨fun _ => Port.rests_of_unlatched rfl, fun _ _ => subscribed_zeroed _⟩

theorem started (hs : Started s) : Watchable s := by
  cases hs with
  | plain => exact initial
  | bridged p answer =>
    have hopened : Watchable (bridgeOpened p) := by
      refine Parts.updatePort ?_ p _ (Port.rests_of_unlatched rfl)
      exact ⟨initial.ports, initial.clients⟩
    exact hopened.bridgeRefreshState answer

end Watchable

/-! ## Every request announces what it changes -/

section Effects

variable {s : Server} (hk : WellKept s) (hw : Watchable s)

include hk

variable {i : ClientIndex} {p : PortId} {t : Server}

/-- A port that is its owner's to change is announced if its state comes out
differently, and the other port if its does. -/
theorem announced_owned (howns : (s.clients i).portId = some p) (f : Port → Port)
    (howner : (f (s.ports p)).clientIndex = (s.ports p).clientIndex)
    (hbridged : (f (s.ports p)).bridged = (s.ports p).bridged)
    (hstate : (f (s.ports p)).state = (s.ports p).state)
    (hchange : portSnapshotToWire (f (s.ports p)) = portSnapshotToWire (s.ports p)
      ∨ calculateState (s.updatePort p f) p ≠ (s.ports p).state)
    (q : PortId) : Announced q s (updateStates (s.updatePort p f)) := by
  have hquiet : Quiet (s.updatePort p f) :=
    (hk.exclusive.updateOwned howns f howner hbridged).quiet
  have hstated : BridgeStated (s.updatePort p f) :=
    hk.coherent.bridgeStated_updatePort p f fun hb => ⟨hbridged ▸ hb, hstate⟩
  by_cases hq : q = p
  · subst hq
    obtain hsame | hne := hchange
    · exact (Announced.updatePort q f fun _ => hsame).trans (hquiet.announced_updateStates q)
    · refine announced_updateStates_of_ne hquiet hstated ?_ ?_
      · simp [howner, hk.exclusive.clientIndex_of_portId howns]
      · simpa [hstate] using hne
  · exact (Announced.updatePort p f fun heq => (hq heq).elim).trans
      (hquiet.announced_updateStates q)

omit hk in
theorem calculateState_latched (hb : (t.ports p).bridged = false)
    (hl : (t.ports p).resetLatched = true) : calculateState t p = .errorReset := by
  simp [calculateState, hb, hl]

omit hk in
theorem calculateState_stopped (hb : (t.ports p).bridged = false)
    (hc : (t.ports p).clientIndex ≠ none) (hl : (t.ports p).resetLatched = false)
    (hs : (t.ports p).started = false) : calculateState t p = .ready := by
  simp [calculateState, hb, hc, hl, hs]

omit hk in
theorem calculateState_started (hb : (t.ports p).bridged = false)
    (hc : (t.ports p).clientIndex ≠ none) (hl : (t.ports p).resetLatched = false)
    (hs : (t.ports p).started = true) :
    calculateState t p ≠ .errorReset ∧ calculateState t p ≠ .ready := by
  simp only [calculateState, hb, hl, hs]
  split_ifs <;> simp_all

/-- Starting a port that is not started changes its state. -/
theorem announced_startPort (howns : (s.clients i).portId = some p) (q : PortId) :
    Announced q s (startPort s p) := by
  have hb := hk.exclusive.bridged_of_portId howns
  have hc : (s.ports p).clientIndex ≠ none := by simp [hk.exclusive.clientIndex_of_portId howns]
  refine announced_owned hk howns _ rfl rfl rfl ?_ q
  by_cases hup : (s.ports p).started = true ∧ (s.ports p).resetLatched = false
  · left
    refine portSnapshotToWire_congr ?_ rfl rfl rfl rfl
    simp [Port.wiring, hup.1, hup.2]
  · right
    obtain ⟨hreset, hready⟩ := calculateState_started
      (t := s.updatePort p (fun port => { port with started := true, resetLatched := false }))
      (p := p) (by simpa using hb) (by simpa using hc) (by simp) (by simp)
    rw [hk.coherent p]
    cases hl : (s.ports p).resetLatched with
    | true => rwa [calculateState_latched hb hl]
    | false =>
      have hs : (s.ports p).started = false := by
        by_contra hs
        exact hup ⟨by simpa using hs, hl⟩
      rwa [calculateState_stopped hb hc hl hs]

/-- Stopping a port that is not stopped changes its state. -/
theorem announced_stopPort (howns : (s.clients i).portId = some p) (q : PortId) :
    Announced q s (stopPort s p) := by
  have hb := hk.exclusive.bridged_of_portId howns
  have hc : (s.ports p).clientIndex ≠ none := by simp [hk.exclusive.clientIndex_of_portId howns]
  refine announced_owned hk howns _ rfl rfl rfl ?_ q
  have hready := calculateState_stopped
    (t := s.updatePort p (fun port => { port with started := false, resetLatched := false }))
    (p := p) (by simpa using hb) (by simpa using hc) (by simp) (by simp)
  rw [hready]
  cases hl : (s.ports p).resetLatched with
  | true =>
    right
    rw [hk.coherent p, calculateState_latched hb hl]
    decide
  | false =>
    cases hs : (s.ports p).started with
    | true =>
      right
      rw [hk.coherent p]
      exact (calculateState_started hb hc hl hs).2.symm
    | false =>
      left
      refine portSnapshotToWire_congr ?_ rfl rfl rfl rfl
      simp [Port.wiring, hl, hs]

include hw in
/-- Resetting a port that is not latched changes its state; one that is latched
looks the same. -/
theorem announced_resetPort (howns : (s.clients i).portId = some p) (q : PortId) :
    Announced q s (resetPort s i p) := by
  have hb := hk.exclusive.bridged_of_portId howns
  have hc : (s.ports p).clientIndex ≠ none := by simp [hk.exclusive.clientIndex_of_portId howns]
  have hforgot : Announced q s (s.clearReassembly i) := .updateClient i _ fun hw hp => ⟨hw, hp⟩
  have howns' : ((s.clearReassembly i).clients i).portId = some p := by
    simpa [Server.clearReassembly] using howns
  -- the reassembly is cleared after the port is changed, which makes no difference
  refine hforgot.trans (announced_owned (hk.move (.forget i)) howns' (fun port =>
    { port.clearQueues with started := false, resetLatched := true }) rfl rfl rfl ?_ q)
  have hreset := calculateState_latched
    (t := (s.clearReassembly i).updatePort p (fun port =>
      { port.clearQueues with started := false, resetLatched := true }))
    (p := p) (by simpa [Port.clearQueues, Server.clearReassembly] using hb) (by simp)
  rw [hreset]
  show _ ∨ _ ≠ (s.ports p).state
  cases hl : (s.ports p).resetLatched with
  | true =>
    left
    obtain ⟨-, hs, hpackets, htimeCodes⟩ := hw.ports p hl
    refine portSnapshotToWire_congr ?_ rfl hpackets.symm htimeCodes.symm rfl
    simp [Port.wiring, Port.clearQueues, Server.clearReassembly, hl, hs]
  | false =>
    right
    rw [hk.coherent p]
    cases hs : (s.ports p).started with
    | true => exact (calculateState_started hb hc hl hs).1.symm
    | false =>
      rw [calculateState_stopped hb hc hl hs]
      decide

/-- A port that is attached to comes out ready. -/
theorem announced_attachClient (hbridged : (s.ports p).bridged = false) (q : PortId) :
    Announced q s (attachClient s i p) := by
  have hstated : BridgeStated ((s.updateClient i (fun client =>
      { client with portId := some p })).updatePort p (fun port => port.attach i)) := by
    refine (hk.coherent.updateClient i _).bridgeStated_updatePort p _ fun hb => ?_
    exact absurd (hbridged.symm.trans hb) Bool.false_ne_true
  have hquiet : Quiet ((s.updateClient i (fun client =>
      { client with portId := some p })).updatePort p (fun port => port.attach i)) := by
    intro r hc hb
    rw [Server.updatePort_ports] at hc hb ⊢
    split_ifs at hc hb ⊢ with hr
    · rfl
    · exact hk.exclusive.quiet r hc hb
  by_cases hq : q = p
  · subst hq
    refine announced_updateStates_of_ne hquiet hstated ?_ ?_
    · simp [Port.attach]
    · rw [calculateState_stopped]
      · simp [Port.attach]
      · simpa [Port.attach, Port.clearQueues] using hbridged
      · simp [Port.attach]
      · simp [Port.attach]
      · simp [Port.attach]
  · refine Announced.trans ?_ (hquiet.announced_updateStates q)
    refine Announced.trans (.unwatched i _ ?_) (.updatePort p _ fun heq => (hq heq).elim)
    simp [Client.watches]

omit hk in
/-- A mark stays while a port is released. -/
theorem pending_releasePort (i : ClientIndex) {j : ClientIndex} {q : PortId}
    (h : (s.clients j).pending q = true) : ((releasePort s i).clients j).pending q = true := by
  unfold releasePort
  split
  · exact h
  · split_ifs
    · unfold Client.pending at h ⊢
      rw [markPortChanged_pending, Server.updatePort_clients, h, Bool.true_or]
    · exact h

/-- Releasing a port is announced; a client that detaches has to be told of every
port it watches again. -/
theorem announced_detachClient
    (hmarked : ∀ p, (s.clients i).portId ≠ none → (s.clients i).subscribed p = true →
      (s.clients i).pending p = true)
    (q : PortId) : Announced q s (detachClient s i) := by
  have hreleased : Announced q s (releasePort s i) := by
    unfold releasePort
    split
    · exact .refl q s
    · rename_i p hport
      split_ifs
      · by_cases hq : q = p
        · subst hq
          exact .marked q s _
        · exact (Announced.updatePort p _ fun heq => (hq heq).elim).trans (.markPortChanged q p _)
      · exact .refl q s
  have hquiet : Quiet ((releasePort s i).updateClient i (fun client =>
      { client with portId := none, reassembly := client.reassembly.clear })) := by
    intro r hc hb
    rw [Server.updateClient_ports] at hc hb ⊢
    revert hc hb
    unfold releasePort
    split
    · exact hk.exclusive.quiet r
    · split_ifs
      · rw [markPortChanged_ports, Server.updatePort_ports]
        split_ifs
        · exact fun _ _ => rfl
        · exact hk.exclusive.quiet r
      · exact hk.exclusive.quiet r
  refine hreleased.trans (Announced.trans (.updateClient i _ fun hwatch hpend => ?_)
    (hquiet.announced_updateStates q))
  -- a client that owned nothing watched before; one that did has a mark
  have hsame : ((releasePort s i).clients i).unmarked = (s.clients i).unmarked := by
    unfold releasePort
    split
    · rfl
    · split_ifs
      · exact unmarked_markPortChanged _ _ i
      · rfl
  cases hport : (s.clients i).portId with
  | none =>
    have hnone : ((releasePort s i).clients i).portId = none :=
      (portId_of_unmarked hsame).trans hport
    refine ⟨?_, hpend⟩
    rw [watches_eq] at hwatch ⊢
    simpa [hnone, Client.subscribed] using hwatch
  | some p =>
    exfalso
    have hsub : (s.clients i).subscribed q = true := by
      rw [watches_eq, Bool.and_eq_true] at hwatch
      rw [← hwatch.2]
      unfold Client.subscribed
      rw [monitorMask_of_unmarked hsame]
    have hbefore := hmarked q (by simp [hport]) hsub
    exact absurd (hpend.symm.trans (pending_releasePort i hbefore)) Bool.false_ne_true

end Effects

namespace Announced

variable (q : PortId) (s : Server)

/-- A change of a port whose watchers are told. -/
theorem change (p : PortId) (f : Port → Port) :
    Announced q s (Vspwd.markPortChanged (s.updatePort p f) p) := by
  by_cases hq : q = p
  · subst hq
    exact .marked q s _
  · exact (Announced.updatePort p f fun heq => (hq heq).elim).trans (.markPortChanged q p _)

theorem transfer (p : PortId) (push count : Port → Port) :
    Announced q s (s.transfer p push count) := by
  obtain rfl | rfl := eq_or_eq_peerPort p q
  · exact (marked q s _).trans (.markPortChanged q _ _)
  · exact .marked _ s _

theorem popPacket (p : PortId) (slot : PacketSlot) : Announced q s (popPacket s p slot) := by
  unfold Vspwd.popPacket
  split_ifs
  · exact change q s p _
  · exact .refl q s

theorem popTimeCode (p : PortId) : Announced q s (popTimeCode s p) := by
  unfold Vspwd.popTimeCode
  split_ifs
  · exact change q s p _
  · exact .refl q s

variable {s}

/-- What the bridge brings is announced. -/
theorem bridgeRefreshState (hk : WellKept s) (answer : Option LinkState) :
    Announced q s (bridgeRefreshState s answer) := by
  obtain hsame | ⟨b, s₁, hb, -, -, hs₁, heq⟩ :=
    bridgeRefreshState_cases hk.exclusive hk.coherent.bridgeStated answer
  · rw [hsame]
    exact .refl q s
  · rw [heq]
    have hstated : Announced q s
        { s with bridge := some { b with state := answer.getD .errorWait } } :=
      fun _ hw hp => ⟨hw, hp, rfl⟩
    have hquiet : Quiet s₁ := by
      have hbridged := (hk.exclusive.bridge b.portId).mpr (by rw [hb]; rfl)
      intro r hc hr
      rw [hs₁, markPortChanged_ports, Server.updatePort_ports] at hc hr ⊢
      split_ifs at hc hr ⊢ with hrb
      · exfalso
        simp only [Port.countLinkError] at hr
        split_ifs at hr <;> exact absurd (hr.symm.trans hbridged) Bool.false_ne_true
      · exact hk.exclusive.quiet r hc hr
    refine Announced.trans ?_ (hquiet.announced_updateStates q)
    rw [hs₁]
    exact hstated.trans (change q _ _ _)

theorem bridgeMove (hk : WellKept s) {s' : Server} {call : Option BridgeCall}
    (h : BridgeMove s call s') : Announced q s s' := by
  cases h with
  | refresh answer => exact bridgeRefreshState q hk answer
  | popPacket b slot => exact popPacket q s _ slot
  | popTimeCode b => exact popTimeCode q s _
  | pushPacket b packet hroom | pushTimeCode b code hroom => exact transfer q s _ _ _

end Announced

/-- A client has a mark for every port it is subscribed to. -/
def Marked (s : Server) (i : ClientIndex) : Prop :=
  ∀ p, (s.clients i).subscribed p = true → (s.clients i).pending p = true

/-- **What a request changes is announced**, unless a client detaches that is
subscribed to a port without a mark. -/
theorem Effect.announced {s₁ : Server} {request : Header} {payload : Bytes} {status : Status}
    (h : Effect s i request payload status s₁) (hk : WellKept s) (hw : Watchable s)
    (hmarked : ∀ p, request.type = MessageType.detach.toByte →
      validateAttachedRequest (s.clients i) request = .ok p → Marked s i)
    (q : PortId) : Announced q s s₁ := by
  cases h with
  | nothing => exact .refl q s
  | hello htype hport =>
    -- a client that has said hello now was subscribed to nothing
    refine .updateClient i _ fun hwatch hpend => ?_
    have hhello : (s.clients i).helloDone = true := by
      by_contra hno
      have hnot := hw.clients i (by simpa using hno) q
      rw [watches_eq, Bool.and_eq_true] at hwatch
      exact absurd (hnot.symm.trans hwatch.2) Bool.false_ne_true
    refine ⟨?_, hpend⟩
    rw [watches_eq] at hwatch ⊢
    simpa [hhello, Client.subscribed] using hwatch
  | attach p htype hhello hport hp hbridged => exact announced_attachClient hk hbridged q
  | detach p htype howns hgrants =>
    exact announced_detachClient hk (fun p' _ hsub => hmarked p htype hgrants p' hsub) q
  | start p htype howns => exact announced_startPort hk howns q
  | stop p htype howns => exact announced_stopPort hk howns q
  | reset p htype howns => exact announced_resetPort hk hw howns q
  | clearStatistics p | clearPortStatistics p => exact .change q s p _
  | subscribe p htype hhello hport =>
    refine .updateClient i _ fun hwatch hpend => ?_
    rw [Client.pending, or_portBit_ne, Bool.or_eq_false_iff] at hpend
    refine ⟨?_, hpend.1⟩
    rw [watches_eq, Bool.and_eq_true] at hwatch ⊢
    refine ⟨hwatch.1, ?_⟩
    have hsub := hwatch.2
    rw [Client.subscribed, or_portBit_ne, hpend.2, Bool.or_false] at hsub
    exact hsub
  | unsubscribe p =>
    refine .updateClient i _ fun hwatch hpend => ?_
    rw [watches_eq, Bool.and_eq_true] at hwatch
    have hsub := hwatch.2
    rw [Client.subscribed, andNot_portBit_ne, Bool.and_eq_true] at hsub
    rw [Client.pending, andNot_portBit_ne, hsub.2, Bool.and_true] at hpend
    refine ⟨?_, hpend⟩
    rw [watches_eq, Bool.and_eq_true]
    exact ⟨hwatch.1, hsub.1⟩
  | dataRefused => exact .updateClient i _ fun hwatch hpend => ⟨hwatch, hpend⟩
  | data p r status s₂ htype hend howns hadmits hcomplete hdeliver =>
    refine Announced.trans ?_ (.updateClient i _ fun hwatch hpend => ⟨hwatch, hpend⟩)
    obtain ⟨-, -, -, hroom, rfl⟩ | ⟨-, rfl⟩ | ⟨-, rfl⟩ := deliverPacket_cases hdeliver
    · exact Announced.trans (.updateClient i _ fun hwatch hpend => ⟨hwatch, hpend⟩)
        (.transfer q _ p _ _)
    · exact Announced.trans (.updateClient i _ fun hwatch hpend => ⟨hwatch, hpend⟩)
        (.change q _ p _)
    · exact .updateClient i _ fun hwatch hpend => ⟨hwatch, hpend⟩
  | timeCode p status s₂ htype howns hdeliver =>
    obtain ⟨-, -, -, hroom, rfl⟩ | ⟨-, rfl⟩ | ⟨-, rfl⟩ := deliverTimeCode_cases hdeliver
    · exact .transfer q s p _ _
    · exact .change q s p _
    · exact .refl q _

/-! ## What the watchers were sent -/

/-- **A watcher without a mark was sent the port as it is.** -/
def Fresh (d : Daemon) : Prop :=
  ∀ i p, (d.server.clients i).watches p = true → (d.server.clients i).pending p = false →
    lastSnapshot (d.told i) p = some (portSnapshotToWire (d.server.ports p))

/-- A change that is announced keeps what the watchers know. -/
theorem Fresh.of_announced (h : Fresh d) (hann : ∀ p, Announced p d.server d'.server)
    (htold : ∀ i p, (d'.server.clients i).watches p = true →
      lastSnapshot (d'.told i) p = lastSnapshot (d.told i) p) :
    Fresh d' := by
  intro i p hw hp
  obtain ⟨hw', hp', heq⟩ := hann p i hw hp
  rw [htold i p hw, h i p hw' hp', heq]

theorem snapshotOf_eq_none {frame : Bytes} {header : Header}
    (hvalid : validateFrame frame = .ok header)
    (htype : header.type ≠ MessageType.portSnapshotEvent.toByte) : snapshotOf p frame = none := by
  simp [snapshotOf, hvalid, htype]

theorem lastSnapshot_append {frame : Bytes} (h : snapshotOf p frame = none) :
    lastSnapshot (frames ++ [frame]) p = lastSnapshot frames p := by
  simp [lastSnapshot, List.filterMap_append, h]

theorem lastSnapshot_append_some {frame : Bytes} {snapshot : PortSnapshotPayload}
    (h : snapshotOf p frame = some snapshot) :
    lastSnapshot (frames ++ [frame]) p = some snapshot := by
  simp [lastSnapshot, List.filterMap_append, h]

/-- The response in a slot is not a snapshot. -/
theorem Disciplined.snapshotOf_response (h : Disciplined d)
    (hfd : (d.server.clients i).fd.isSome = true)
    (hpending : (d.server.clients i).responsePending = true) (p : PortId) :
    snapshotOf p (d.server.clients i).response = none := by
  obtain ⟨header, hvalid, hevent⟩ := h.response_header hfd hpending
  refine snapshotOf_eq_none hvalid fun hsnapshot => ?_
  rw [hsnapshot] at hevent
  exact absurd hevent (by decide)

/-- The record of a snapshot holds the port. -/
theorem snapshotOf_snapshotEvent {port : Port} {frame : Bytes}
    (h : eventFrame .portSnapshotEvent p (encodePortSnapshot (portSnapshotToWire port)) = .ok frame)
    (q : PortId) : snapshotOf q frame = if q = p then some (portSnapshotToWire port) else none := by
  obtain ⟨hok, hvalid⟩ := snapshotEvent_eq_ok p port
  rw [hok] at h
  cases h
  simp only [snapshotOf, hvalid]
  have htype : (eventHeader .portSnapshotEvent p
      (encodePortSnapshot (portSnapshotToWire port))).type
      = MessageType.portSnapshotEvent.toByte := rfl
  have hport : (eventHeader .portSnapshotEvent p
      (encodePortSnapshot (portSnapshotToWire port))).portId = UInt32.ofNat q.val ↔ q = p := by
    show UInt32.ofNat p.val = UInt32.ofNat q.val ↔ q = p
    rw [portId_wire_inj, eq_comm]
  simp only [htype, hport, true_and]
  rw [payloadOf_append, decodePortSnapshot_encodePortSnapshot]

/-- Closing a client is announced to the others, who see nothing of its masks. -/
theorem announced_closeClient (hk : WellKept s) (i : ClientIndex) (q : PortId) :
    Announced q s (closeClient s i) := by
  have hoff : closeClient (s.updateClient i (fun client =>
      { client with monitorMask := 0 })) i = closeClient s i :=
    AgreeOff.closeClient (.update trivial) (by simp)
  have hk' : WellKept (s.updateClient i (fun client => { client with monitorMask := 0 })) :=
    ⟨hk.exclusive.updateRest i _ rfl rfl id rfl, hk.coherent.updateClient i _,
      hk.sound.updateClient i _ (hk.sound.clients i)⟩
  have hnothing : ∀ p, ((s.updateClient i (fun client =>
      { client with monitorMask := 0 })).clients i).subscribed p = false := fun p => by
    have h0 := subscribed_zeroed none p
    simp only [Server.updateClient_clients, if_true]
    exact h0
  rw [← hoff]
  refine Announced.trans (.unwatched i _ ?_) (Announced.trans (announced_detachClient hk'
    (fun p _ hsub => absurd ((hnothing p).symm.trans hsub) Bool.false_ne_true) q)
    (.unwatched i _ rfl))
  have hq := hnothing q
  rw [watches_eq]
  simp only [Server.updateClient_clients, if_true] at hq
  rw [hq, Bool.and_false]

/-- **Every event keeps what the watchers know.** -/
theorem Fresh.event (he : Event d d') (hk : WellKept d.server) (hd : Disciplined d) (h : Fresh d) :
    Fresh d' := by
  cases he with
  | accepted i fd hfree =>
    have hann : ∀ p, Announced p d.server
        (d.server.updateClient i (fun _ => Client.zeroed (some fd))) := fun p => by
      refine .unwatched i _ ?_
      rw [watches_eq, subscribed_zeroed, Bool.and_false]
    refine h.of_announced hann fun j p hw => ?_
    by_cases hj : j = i
    · subst hj
      simp [Daemon.welcome, watches_eq, subscribed_zeroed] at hw
    · simp [Daemon.welcome, hj]
  | closed i => exact h.of_announced (announced_closeClient hk i) fun _ _ _ => rfl
  | bridge call s' hbridge =>
    exact h.of_announced (fun p => .bridgeMove p hk hbridge) fun _ _ _ => rfl
  | told i frame s' hfd hwrites =>
    -- what is written to an owner is not written to a watcher
    have howner : ∀ {p}, (s'.clients i).portId = some p → (∀ q, Announced q d.server s') →
        Fresh (d.tell i [frame] s') := by
      intro p hport hann
      refine h.of_announced hann fun j q hw => ?_
      by_cases hj : j = i
      · subst hj
        have hw' : (s'.clients j).watches q = true := hw
        simp [watches_eq, hport] at hw'
      · simp [Daemon.tell, hj]
    cases hwrites with
    | response hpending =>
      have hann : ∀ p, Announced p d.server (d.server.updateClient i (fun client =>
          { client with responsePending := false, response := [] })) :=
        fun p => .updateClient i _ fun hw hp => ⟨hw, hp⟩
      refine h.of_announced hann fun j q _ => ?_
      by_cases hj : j = i
      · subst hj
        simp only [Daemon.tell, Function.update_self]
        exact lastSnapshot_append (hd.snapshotOf_response hfd hpending q)
      · simp [Daemon.tell, hj]
    | state p frame hfree howns | fragment p slot frame hfree howns =>
      exact howner howns fun q => .updatePort p _ fun _ => rfl
    | packet p slot frame hfree howns hfront hframe hlast =>
      refine howner (p := p) ?_ fun q => .popPacket q _ p slot
      rw [← howns]
      exact ((Writes.packet p slot frame hfree howns hfront hframe hlast).portId i).1
    | timeCode p code frame hfree howns hfront hframe =>
      refine howner (p := p) ?_ fun q => .popTimeCode q _ p
      rw [← howns]
      exact ((Writes.timeCode p code frame hfree howns hfront hframe).portId i).1
    | snapshot p frame hfree hport hpending hframe =>
      intro j q hw hp
      by_cases hj : j = i
      · subst hj
        have hrecord := snapshotOf_snapshotEvent hframe q
        simp only [Daemon.tell, Function.update_self]
        by_cases hq : q = p
        · subst hq
          rw [if_pos rfl] at hrecord
          exact lastSnapshot_append_some hrecord
        · have hnone : snapshotOf q frame = none := by rw [hrecord, if_neg hq]
          have hpend : (d.server.clients j).pending q = false := by
            simp only [Daemon.tell, Server.updateClient_clients, if_true] at hp
            rw [Client.pending, andNot_portBit_ne, decide_eq_false hq, Bool.not_false,
              Bool.and_true] at hp
            exact hp
          have hwatch : (d.server.clients j).watches q = true := by
            simpa [Daemon.tell, watches_eq, Client.subscribed] using hw
          rw [lastSnapshot_append hnone]
          exact h j q hwatch hpend
      · have hclient : (d.tell i [frame] (d.server.updateClient i (fun client =>
            { client with
              monitorPendingMask := client.monitorPendingMask &&& ~~~portBit p }))).server.clients j
            = d.server.clients j := by
          simp [Daemon.tell, hj]
        rw [hclient] at hw hp
        have htold : (d.tell i [frame] (d.server.updateClient i (fun client =>
            { client with
              monitorPendingMask := client.monitorPendingMask &&& ~~~portBit p }))).told j
            = d.told j := by
          simp [Daemon.tell, hj]
        rw [htold]
        exact h j q hw hp

/-- **An action that keeps a watcher up to date**: it does not detach a client that
is subscribed to a port without a mark. A DETACH the daemon refuses detaches nobody. -/
def KeepsWatch (s : Server) (a : Action) : Prop :=
  ∀ i frame request p, a = .receive i (.record frame) → (s.clients i).responsePending = false →
    validateFrame frame = .ok request → request.has flagResponse = false →
    request.type = MessageType.detach.toByte →
    validateAttachedRequest (s.clients i) request = .ok p → Marked s i

/-- So does hearing a record that keeps the watchers up to date. -/
theorem Fresh.hear {frame : Bytes} {s' : Server} (hd : Heard d i frame s') (hk : WellKept d.server)
    (hw : Watchable d.server) (h : Fresh d)
    (hkeeps : KeepsWatch d.server (.receive i (.record frame))) : Fresh (d.hear i frame s') := by
  refine h.of_announced (fun q => ?_) fun j q _ => by rw [hear_told]
  rw [hear_server]
  cases hd.handled with
  | fragment => exact .updateClient i _ fun hwatch hpend => ⟨hwatch, hpend⟩
  | answered request status payload s₁ hfree hvalid hrequest hanswerable hfinal heffect =>
    have hmarked := fun p => hkeeps i frame request p rfl hfree hvalid hrequest
    exact (heffect.announced hk hw hmarked q).trans
      (.updateClient i _ fun hwatch hpend => ⟨hwatch, hpend⟩)

/-! ## Runs -/

/-- What the watchers know, with what it rests on. -/
structure Informed (d : Daemon) : Prop where
  disciplined : Disciplined d
  watchable : Watchable d.server
  fresh : Fresh d

theorem Informed.run (h : d.Run KeepsWatch) : Informed d := by
  refine (Daemon.Run.keeps (fun hs => ?_) (fun hok hd hk hi => ?_) (fun he hk hi => ?_) h).2
  · refine ⟨.initial hs, .started hs, fun i p hw => ?_⟩
    have hfd : ((Daemon.initial _).server.clients i).fd = none := hs.fd_eq_none i
    simp [watches_eq, hfd] at hw
  · refine ⟨hi.disciplined.hear hd, ?_, ?_⟩
    · rw [hear_server]
      exact ((hd.handled.moves hd.connected).keeps (P := fun s => WellKept s ∧ Watchable s)
        (fun hm hs => ⟨hs.1.move hm, hs.2.move hm hs.1.exclusive hs.1.coherent⟩)
        ⟨hk, hi.watchable⟩).2
    · exact hi.fresh.hear hd hk hi.watchable hok
  · exact ⟨hi.disciplined.event he hk,
      hi.watchable.move he.move hk.exclusive hk.coherent, hi.fresh.event he hk hi.disciplined⟩

/-- **A watcher knows the port, or is about to be told.** In every run that detaches
no client which is subscribed to a port without a mark, a client that is
connected, has said hello, owns no port and is subscribed to one has a mark for
it, or the last snapshot of the port that was written to it shows the port as it
is. -/
theorem snapshots_current {d : Daemon} (h : d.Run KeepsWatch) (i : ClientIndex) (p : PortId)
    (hfd : (d.server.clients i).fd.isSome = true) (hhello : (d.server.clients i).helloDone = true)
    (hport : (d.server.clients i).portId = none) (hsub : (d.server.clients i).subscribed p = true) :
    (d.server.clients i).pending p = true
      ∨ lastSnapshot (d.told i) p = some (portSnapshotToWire (d.server.ports p)) := by
  cases hpend : (d.server.clients i).pending p with
  | true => exact Or.inl rfl
  | false =>
    refine Or.inr ((Informed.run h).fresh i p ?_ hpend)
    rw [watches_eq, hfd, hhello, hport, hsub]
    rfl

/-- A record asks for a DETACH. -/
def Action.detaches : Action → Bool
  | .receive _ (.record frame) =>
    headerIs (fun header => header.type == MessageType.detach.toByte) frame
  | _ => false

/-- A run that never asks for a DETACH keeps every watcher up to date. -/
theorem Daemon.Run.run_keepsWatch (h : d.Run KeepsWatch) (actions : List Action)
    (hnone : ∀ a ∈ actions, a.detaches = false) : (d.run actions).Run KeepsWatch := by
  induction actions generalizing d with
  | nil => exact h
  | cons a rest ih =>
    refine ih (h.step a ?_) (fun b hb => hnone b (List.mem_cons_of_mem a hb))
    rintro i frame request p rfl hfree hvalid hrequest htype
    have hno := hnone _ List.mem_cons_self
    rw [Action.detaches, headerIs_of_ok hvalid, htype] at hno
    simp at hno

/-- A client subscribes to the first port and reads its snapshot. -/
def watcherSample : List Action :=
  connect 0 7 ++ exchange 0 (requestRecord .subscribePort 2 0 [])
    ++ [.flush 0 (fun _ => .sent)]

/-- Another client attaches to the port, and the watcher reads the next snapshot. -/
def watchedSample : List Action :=
  watcherSample ++ connect 1 8 ++ exchange 1 (requestRecord .attach 2 0 [])
    ++ [.flush 0 (fun _ => .sent)]

theorem snapshots_current_attached :
    lastSnapshot (((Daemon.initial initServer).run watchedSample).told 0) 0
      = some (portSnapshotToWire
        (((Daemon.initial initServer).run watchedSample).server.ports 0)) := by
  have hrun : ((Daemon.initial initServer).run watchedSample).Run KeepsWatch :=
    Daemon.Run.run_keepsWatch (.start .plain) watchedSample (by decide +kernel)
  obtain hpending | hlast := snapshots_current hrun 0 0 (by decide +kernel) (by decide +kernel)
    (by decide +kernel) (by decide +kernel)
  · exact absurd hpending (by decide +kernel)
  · exact hlast

/-- The watcher attaches to the port itself and detaches again. -/
def staleSample : Daemon :=
  (Daemon.initial initServer).run (watcherSample ++ exchange 0 (requestRecord .attach 3 0 [])
    ++ [.flush 0 (fun _ => .sent)] ++ exchange 0 (requestRecord .detach 4 0 []))

/-- **A client that has owned the port it watches has missed that it was attached
to**: it has no mark, and the snapshot it was sent is out of date. -/
theorem snapshot_stale_after_detach :
    staleSample.Reachable
      ∧ (staleSample.server.clients 0).fd.isSome = true
      ∧ (staleSample.server.clients 0).helloDone = true
      ∧ (staleSample.server.clients 0).portId = none
      ∧ (staleSample.server.clients 0).subscribed 0 = true
      ∧ (staleSample.server.clients 0).pending 0 = false
      ∧ lastSnapshot (staleSample.told 0) 0
        ≠ some (portSnapshotToWire (staleSample.server.ports 0)) := by
  refine ⟨Daemon.Reachable.run (.start .plain) _, ?_⟩
  decide +kernel

end Vspwd
