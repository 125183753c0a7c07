import SpwKit.Vspwd.Relay

/-!
# The bridge passes on what it takes

One port of the daemon may stand for a remote link. What the owner of the other
port sends is queued at the bridged port and goes from there to the remote link;
what the remote link gives is queued at the local port. An item is taken from one
side only when the other side has it: the head of the bridged port's queue stays
until the remote link has taken it, and the remote link is asked for an item only
where the local port has room for it.

`BridgeLog` keeps what was acknowledged to clients and what the calls on the
remote link have taken and given, each read off the action it happened in. Since
nobody can own the bridged port, nothing clears its queues, and what was
acknowledged is what was taken and what is still queued, over the whole run. The
local port's queues lose an item when its record is written to the owner of the port,
and all of them when the owner goes or resets the port (`OwnerTakes`); what they hold is
the end of what was received.
-/

open Vspd BigEndian

namespace Vspwd

/-! ## What an action acknowledges, gives and takes -/

/-- The request that an action grants, with its client and the record it came in. -/
def grantedBy (d : Daemon) : Action → Option (ClientIndex × Bytes × Header)
  | .receive i (.record frame) =>
    if d.server.handles i frame then
      (granted (d.server.step (.receive i (.record frame))) i frame).map (i, frame, ·)
    else none
  | _ => none

/-- The packet whose last fragment an action acknowledges. -/
def acknowledgedPacket (d : Daemon) (a : Action) : Option Packet :=
  match grantedBy d a with
  | some (i, frame, request) =>
    if request.type = MessageType.dataTx.toByte then
      some ⟨gather (d.heard i ++ [frame]), request.terminator⟩
    else none
  | none => none

/-- The time code that an action acknowledges. -/
def acknowledgedTimeCode (d : Daemon) (a : Action) : Option TimeCode :=
  match grantedBy d a with
  | some (_, frame, request) =>
    if request.type = MessageType.timeCodeTx.toByte then
      some ⟨byteAt (payloadOf frame) 0, byteAt (payloadOf frame) 1⟩
    else none
  | none => none

/-- The packet that is taken in a call, if there is one. -/
def sentPacket : Option BridgeCall → Option Packet
  | some (.send packet true) => some packet
  | _ => none

/-- The time code that is taken in a call. -/
def sentTimeCode : Option BridgeCall → Option TimeCode
  | some (.sendTimeCode code true) => some code
  | _ => none

/-- The packet that is given in a call. -/
def receivedPacket : Option BridgeCall → Option Packet
  | some (.receive answer) => answer.map Subtype.val
  | _ => none

/-- The time code that is given in a call. -/
def receivedTimeCode : Option BridgeCall → Option TimeCode
  | some (.receiveTimeCode answer) => answer.map Subtype.val
  | _ => none

/-- Nothing is taken or given in a call that fails. -/
theorem nothing_of_fails {call : Option BridgeCall} (h : ∀ c, call = some c → c.succeeds = false) :
    sentPacket call = none ∧ sentTimeCode call = none ∧ receivedPacket call = none
      ∧ receivedTimeCode call = none := by
  cases call with
  | none => exact ⟨rfl, rfl, rfl, rfl⟩
  | some call =>
    have hfails := h call rfl
    cases call with
    | send packet taken | sendTimeCode code taken => cases hfails; exact ⟨rfl, rfl, rfl, rfl⟩
    | receive answer | receiveTimeCode answer =>
      obtain rfl : answer = none := by simpa [BridgeCall.succeeds] using hfails
      exact ⟨rfl, rfl, rfl, rfl⟩

/-- **What was acknowledged to clients, and what the remote link has taken and given.** -/
structure BridgeLog where
  acknowledged : List Packet := []
  acknowledgedCodes : List TimeCode := []
  sent : List Packet := []
  sentCodes : List TimeCode := []
  received : List Packet := []
  receivedCodes : List TimeCode := []

/-- What an action adds. -/
def BridgeLog.note (log : BridgeLog) (d : Daemon) (a : Action) : BridgeLog where
  acknowledged := log.acknowledged ++ (acknowledgedPacket d a).toList
  acknowledgedCodes := log.acknowledgedCodes ++ (acknowledgedTimeCode d a).toList
  sent := log.sent ++ (sentPacket (d.server.calls a)).toList
  sentCodes := log.sentCodes ++ (sentTimeCode (d.server.calls a)).toList
  received := log.received ++ (receivedPacket (d.server.calls a)).toList
  receivedCodes := log.receivedCodes ++ (receivedTimeCode (d.server.calls a)).toList

/-- The daemon with the log of its bridge. -/
structure BridgedDaemon where
  daemon : Daemon
  log : BridgeLog

namespace BridgedDaemon

/-- The daemon that has opened a bridge at a port. -/
def initial (p : PortId) (answer : Option LinkState) : BridgedDaemon :=
  ⟨Daemon.initial (openBridge initServer p answer), {}⟩

/-- One action. -/
def step (m : BridgedDaemon) (a : Action) : BridgedDaemon :=
  ⟨m.daemon.step a, m.log.note m.daemon a⟩

/-- A list of actions. -/
def run (m : BridgedDaemon) (actions : List Action) : BridgedDaemon := actions.foldl step m

end BridgedDaemon

/-! ## Queues -/

/-- The packets queued at a port. -/
def Port.queued (port : Port) : List Packet := port.packets.toList.map PacketSlot.packet

/-- The two queues of a port. -/
def Port.held (port : Port) :
    RingQueue PacketSlot packetQueueDepth × RingQueue TimeCode timeCodeQueueDepth :=
  (port.packets, port.timeCodes)

/-- A queue has lost so many items at its front. -/
def Loses {α : Type} (n : Nat) (before after : List α) : Prop :=
  ∃ gone, before = gone ++ after ∧ gone.length = n

/-- The record is the last fragment of a packet for a client. -/
def isPacketEnd : Bytes → Bool :=
  headerIs fun header => header.type == MessageType.dataRx.toByte && header.has flagFragmentEnd

/-- The record is a time code for a client. -/
def isTimeCodeRx : Bytes → Bool :=
  headerIs fun header => header.type == MessageType.timeCodeRx.toByte

/-- **A port has lost what was written**: a packet for each last fragment, and a time code for
each record of one. -/
def Delivers (frames : List Bytes) (port port' : Port) : Prop :=
  Loses (frames.countP isPacketEnd) port.queued port'.queued
    ∧ Loses (frames.countP isTimeCodeRx) port.timeCodes.toList port'.timeCodes.toList

/-- A port has nothing queued. -/
def Port.Empty (port : Port) : Prop := port.queued = [] ∧ port.timeCodes.toList = []

/-- **An action empties a port**: the client that owns it before or afterwards is granted a
request that does this, or is closed. -/
def Empties (d : Daemon) (a : Action) (q : PortId) : Prop :=
  ∃ i, ((d.server.clients i).portId = some q ∨ ((d.step a).server.clients i).portId = some q)
    ∧ (((d.step a).server.clients i).fd = none ∨ ∃ frame request,
      grantedBy d a = some (i, frame, request)
        ∧ ∃ type ∈ [MessageType.attach, .detach, .reset], request.type = type.toByte)

/-- **What the sockets take off the queues of a port**: what is written to its owner, or
everything as the port is emptied. -/
def OwnerTakes (d : Daemon) (a : Action) (q : PortId) : Prop :=
  Delivers (d.server.writes a) (d.server.ports q) ((d.step a).server.ports q)
    ∨ ((d.step a).server.ports q).Empty ∧ Empties d a q

section Held

variable {s s' : Server} {p q : PortId}

variable {a b : Port}

theorem held_of_stateless (h : a.stateless = b.stateless) : a.held = b.held := by
  rw [Port.held, packets_of_stateless h, timeCodes_of_stateless h]
  rfl

theorem held_updatePort {f : Port → Port} (hf : (f (s.ports p)).held = (s.ports p).held)
    (q : PortId) : ((s.updatePort p f).ports q).held = (s.ports q).held := by
  rw [Server.updatePort_ports]
  split_ifs with hq
  · rw [hf, hq]
  · rfl

theorem held_updatePort_of_ne (f : Port → Port) (h : q ≠ p) :
    ((s.updatePort p f).ports q).held = (s.ports q).held := by
  rw [Server.updatePort_ports, if_neg h]

theorem held_updateStates (s : Server) (q : PortId) :
    ((updateStates s).ports q).held = (s.ports q).held :=
  held_of_stateless (stateless_updateStates s q)

theorem queued_of_held (h : a.held = b.held) : a.queued = b.queued := by
  rw [Port.queued, (Prod.mk.inj h).1]
  rfl

theorem timeCodes_of_held (h : a.held = b.held) : a.timeCodes.toList = b.timeCodes.toList := by
  rw [(Prod.mk.inj h).2]

theorem Loses.refl {α : Type} (l : List α) : Loses 0 l l := ⟨[], rfl, rfl⟩

theorem Loses.trans {α : Type} {n m : Nat} {k l r : List α} (h : Loses n k l) (h' : Loses m l r) :
    Loses (n + m) k r := by
  obtain ⟨gone, rfl, rfl⟩ := h
  obtain ⟨gone', rfl, rfl⟩ := h'
  exact ⟨gone ++ gone', by rw [List.append_assoc], List.length_append⟩

theorem Loses.suffix {α : Type} {n : Nat} {k l : List α} (h : Loses n k l) : l <:+ k := by
  obtain ⟨gone, rfl, -⟩ := h
  exact List.suffix_append _ _

theorem Delivers.of_held (h : b.held = a.held) : Delivers [] a b := by
  rw [Delivers, queued_of_held h, timeCodes_of_held h]
  exact ⟨.refl _, .refl _⟩

theorem Delivers.append {c : Port} {k l : List Bytes} (h : Delivers k a b) (h' : Delivers l b c) :
    Delivers (k ++ l) a c := by
  rw [Delivers, List.countP_append, List.countP_append]
  exact ⟨h.1.trans h'.1, h.2.trans h'.2⟩

end Held

/-! ## Records that are written -/

variable {d : Daemon} {depth : Nat} {i : ClientIndex} {m : BridgedDaemon} {p : PortId} {s : Server}
  {α : Type}

theorem toList_eq_cons {queue : RingQueue α depth} {x : α} (h : queue.front = some x)
    (hcount : queue.count ≠ 0) : queue.toList = x :: (queue.dropFront hcount).toList := by
  rw [RingQueue.front, if_neg hcount] at h
  rw [RingQueue.toList_of_count_ne _ hcount, Option.some.inj h]

theorem count_ne_of_front {queue : RingQueue α depth} {x : α} (h : queue.front = some x) :
    queue.count ≠ 0 := fun hzero => by
  simp [RingQueue.front, hzero] at h

theorem queued_advanceSlot {slot : PacketSlot} (chunk : UInt32)
    (hfront : (s.ports p).packets.front = some slot) :
    ((advanceSlot s p slot chunk).ports p).queued = (s.ports p).queued := by
  have hcount := count_ne_of_front hfront
  rw [Port.queued, Port.queued, toList_eq_cons hfront hcount]
  simp [advanceSlot, RingQueue.toList_setFront _ _ hcount, PacketSlot.packet]

theorem popPacket_ports {slot : PacketSlot} (hfront : (s.ports p).packets.front = some slot) :
    (s.ports p).queued = slot.packet :: ((popPacket s p slot).ports p).queued
      ∧ ((popPacket s p slot).ports p).timeCodes = (s.ports p).timeCodes
      ∧ ∀ q, q ≠ p → ((popPacket s p slot).ports q).held = (s.ports q).held := by
  have hcount := count_ne_of_front hfront
  simp only [popPacket, dif_pos hcount, markPortChanged_ports]
  refine ⟨?_, by simp [Port.countRxPacket], fun q hq => held_updatePort_of_ne _ hq⟩
  rw [Port.queued, toList_eq_cons hfront hcount]
  simp [Port.queued]

theorem popTimeCode_ports {code : TimeCode} (hfront : (s.ports p).timeCodes.front = some code) :
    (s.ports p).timeCodes.toList = code :: ((popTimeCode s p).ports p).timeCodes.toList
      ∧ ((popTimeCode s p).ports p).queued = (s.ports p).queued
      ∧ ∀ q, q ≠ p → ((popTimeCode s p).ports q).held = (s.ports q).held := by
  have hcount := count_ne_of_front hfront
  simp only [popTimeCode, dif_pos hcount, markPortChanged_ports]
  refine ⟨?_, by simp [Port.queued], fun q hq => held_updatePort_of_ne _ hq⟩
  rw [toList_eq_cons hfront hcount]
  simp

/-- The bridge is at a port, and everything that was shown of the daemon holds. -/
structure BridgedAt (p : PortId) (d : Daemon) : Prop where
  kept : WellKept d.server
  gathering : Gathering d
  disciplined : Disciplined d
  bridge : d.server.bridge.map Bridge.portId = some p

section Written

variable {d' : Daemon} {s' : Server}

theorem BridgedAt.bridged (h : BridgedAt p d) : (d.server.ports p).bridged = true :=
  (h.kept.exclusive.bridge p).mpr h.bridge

/-- A client that owns a port owns the local one. -/
theorem BridgedAt.eq_peerPort (h : BridgedAt p d) {q : PortId}
    (howns : (d.server.clients i).portId = some q) : p = peerPort q := by
  obtain rfl | hq := eq_or_eq_peerPort q p
  · exact absurd ((h.kept.exclusive.bridged_of_portId howns).symm.trans h.bridged)
      Bool.false_ne_true
  · exact hq

theorem BridgedAt.event (he : Event d d') (h : BridgedAt p d) : BridgedAt p d' :=
  ⟨h.kept.move he.move, h.gathering.event he, h.disciplined.event he h.kept,
    he.move.bridge_portId.trans h.bridge⟩

theorem BridgedAt.hear {frame : Bytes} (hd : Heard d i frame s')
    (h : BridgedAt p d) : BridgedAt p (d.hear i frame s') := by
  have hmoves := hd.handled.moves hd.connected
  refine ⟨?_, h.gathering.hear hd, h.disciplined.hear hd, ?_⟩
  · rw [hear_server]
    exact hmoves.keeps WellKept.move h.kept
  · rw [hear_server]
    exact hmoves.bridge_portId.trans h.bridge

theorem BridgedAt.step (h : BridgedAt p d) (a : Action) : BridgedAt p (d.step a) := by
  obtain ⟨i, frame, s', rfl, hd, heq⟩ | hrow := step_cases d a
  · rw [heq]
    exact h.hear hd
  · generalize d.step a = d' at hrow
    induction hrow with
    | refl => exact h
    | tail _ hlast ih => exact ih.event hlast

/-- What a record carries, and what its writing takes off the queues. -/
theorem delivers_singleton {frame : Bytes} {header : Header}
    (hvalid : validateFrame frame = .ok header) {port port' : Port} :
    Delivers [frame] port port' ↔
      Loses
        (if header.type == MessageType.dataRx.toByte && header.has flagFragmentEnd then 1 else 0)
          port.queued port'.queued
        ∧ Loses (if header.type == MessageType.timeCodeRx.toByte then 1 else 0)
          port.timeCodes.toList port'.timeCodes.toList := by
  rw [Delivers, List.countP_singleton, List.countP_singleton, isPacketEnd, isTimeCodeRx,
    headerIs_of_ok hvalid, headerIs_of_ok hvalid]

/-- **Writing a record** takes off the local port's queues what it carries, and leaves the
bridged port's alone. -/
theorem BridgedAt.writes {frame : Bytes} (h : BridgedAt p d)
    (hfd : (d.server.clients i).fd.isSome = true) (hwrites : Writes d.server i frame s') :
    (s'.ports p).held = (d.server.ports p).held
      ∧ Delivers [frame] (d.server.ports (peerPort p)) (s'.ports (peerPort p)) := by
  have hnone : ∀ {header : Header} {t : Server}, validateFrame frame = .ok header →
      header.type ≠ MessageType.dataRx.toByte → header.type ≠ MessageType.timeCodeRx.toByte →
      (∀ q, (t.ports q).held = (d.server.ports q).held) →
      (t.ports p).held = (d.server.ports p).held
        ∧ Delivers [frame] (d.server.ports (peerPort p)) (t.ports (peerPort p)) :=
    fun hvalid hdata hcode hheld => by
      refine ⟨hheld p, (delivers_singleton hvalid).mpr ?_⟩
      rw [queued_of_held (hheld _), timeCodes_of_held (hheld _)]
      simp only [beq_eq_false_iff_ne.mpr hdata, beq_eq_false_iff_ne.mpr hcode, Bool.false_and]
      exact ⟨.refl _, .refl _⟩
  cases hwrites with
  | response hpending =>
    obtain ⟨header, hvalid, hevent⟩ := h.disciplined.response_header hfd hpending
    refine hnone hvalid ?_ ?_ fun q => rfl <;>
      · intro htype
        rw [htype] at hevent
        exact absurd hevent (by decide)
  | state q frame hfree howns hpending hframe =>
    obtain ⟨hok, hvalid⟩ := linkStateEvent_eq_ok q (d.server.ports q).state
    obtain rfl := Except.ok.inj (hok.symm.trans hframe)
    exact hnone hvalid (show MessageType.linkStateEvent.toByte ≠ _ by decide)
      (show MessageType.linkStateEvent.toByte ≠ _ by decide) (held_updatePort rfl)
  | snapshot q frame hfree hport hpending hframe =>
    obtain ⟨hok, hvalid⟩ := snapshotEvent_eq_ok q (d.server.ports q)
    obtain rfl := Except.ok.inj (hok.symm.trans hframe)
    exact hnone hvalid (show MessageType.portSnapshotEvent.toByte ≠ _ by decide)
      (show MessageType.portSnapshotEvent.toByte ≠ _ by decide) fun q => rfl
  | fragment q slot frame hfree howns hfront hframe hmore =>
    obtain rfl := h.eq_peerPort howns
    obtain ⟨hok, hvalid⟩ := ((h.kept.sound.ports q).front hfront).frame_eq_ok q
    obtain rfl := Except.ok.inj (hok.symm.trans hframe)
    refine ⟨held_updatePort_of_ne _ (peerPort_ne q), (delivers_singleton hvalid).mpr ?_⟩
    rw [peerPort_peerPort, queued_advanceSlot _ hfront, Fragmentation.has_end, hmore]
    simpa [advanceSlot] using ⟨Loses.refl _, Loses.refl _⟩
  | packet q slot frame hfree howns hfront hframe hlast =>
    obtain rfl := h.eq_peerPort howns
    obtain ⟨hok, hvalid⟩ := ((h.kept.sound.ports q).front hfront).frame_eq_ok q
    obtain rfl := Except.ok.inj (hok.symm.trans hframe)
    obtain ⟨hqueued, hcodes, hothers⟩ := popPacket_ports hfront
    refine ⟨hothers _ (peerPort_ne q), (delivers_singleton hvalid).mpr ?_⟩
    rw [peerPort_peerPort, Fragmentation.has_end, hlast, hcodes, hqueued]
    exact ⟨⟨[slot.packet], rfl, rfl⟩, .refl _⟩
  | timeCode q code frame hfree howns hfront hframe =>
    obtain rfl := h.eq_peerPort howns
    have hhead := hfront
    rw [RingQueue.front_eq_head?] at hhead
    obtain ⟨hok, hvalid⟩ :=
      timeCodeEvent_eq_ok q ((h.kept.sound.ports q).2 code (List.mem_of_mem_head? hhead))
    obtain rfl := Except.ok.inj (hok.symm.trans hframe)
    obtain ⟨hcodes, hpackets, hothers⟩ := popTimeCode_ports hfront
    refine ⟨hothers _ (peerPort_ne q), (delivers_singleton hvalid).mpr ?_⟩
    rw [peerPort_peerPort, hpackets, hcodes]
    exact ⟨.refl _, ⟨[code], rfl, rfl⟩⟩

/-- A row of records is written. -/
theorem BridgedAt.writesAll {s : Server} {frames : List Bytes} (hwrites : WritesAll i s frames s') :
    ∀ d : Daemon, d.server = s → BridgedAt p d → (s.clients i).fd.isSome = true →
      BridgedAt p (d.tell i frames s') ∧ (s'.clients i).portId = (s.clients i).portId
        ∧ (s'.ports p).held = (s.ports p).held
        ∧ Delivers frames (s.ports (peerPort p)) (s'.ports (peerPort p)) := by
  induction hwrites with
  | nil s =>
    rintro d rfl h -
    rw [d.tell_nil i]
    exact ⟨h, rfl, rfl, .of_held rfl⟩
  | @cons s s' s'' frame frames hfirst _ ih =>
    rintro d rfl h hfd
    obtain ⟨hheld, hdelivers⟩ := h.writes hfd hfirst
    obtain ⟨hlast, hport, hheld', hdelivers'⟩ := ih (d.tell i [frame] s') rfl
      (h.event (.told i frame s' hfd hfirst)) (by rw [(hfirst.portId i).2]; exact hfd)
    rw [d.tell_tell i [frame] frames s' s'' (hfirst.portId i).1] at hlast
    exact ⟨hlast, hport.trans (hfirst.portId i).1, hheld'.trans hheld,
      hdelivers.append hdelivers'⟩

end Written

/-- A client that goes leaves the queues of its port empty, and the other port's alone. -/
theorem held_detachClient (hs : Exclusive s) (i : ClientIndex) (q : PortId) :
    ((detachClient s i).ports q).held = (s.ports q).held
      ∨ (s.clients i).portId = some q ∧ ((detachClient s i).ports q).Empty := by
  by_cases howns : (s.clients i).portId = some q
  · refine .inr ⟨howns, ?_⟩
    simp [Port.Empty, Port.queued, detachClient, releasePort, howns,
      hs.clientIndex_of_portId howns, Port.release, Port.clearQueues]
  · exact .inl (held_of_stateless (stateless_detachClient howns))

/-! ## Requests -/

/-- A packet that goes from a port to the other one is appended there. -/
theorem transferPacket_ports (s : Server) (p : PortId) (packet : Packet)
    (hroom : (s.ports (peerPort p)).packets.count < packetQueueDepth) :
    ((s.transferPacket p packet hroom).ports (peerPort p)).queued
        = (s.ports (peerPort p)).queued ++ [packet]
      ∧ ((s.transferPacket p packet hroom).ports (peerPort p)).timeCodes
        = (s.ports (peerPort p)).timeCodes
      ∧ ((s.transferPacket p packet hroom).ports p).held = (s.ports p).held := by
  rw [Server.transferPacket, transfer_destination, transfer_source]
  refine ⟨?_, rfl, rfl⟩
  simp [Port.queued, Port.pushPacket, PacketSlot.packet]

theorem transferTimeCode_ports (s : Server) (p : PortId) (code : TimeCode)
    (hroom : (s.ports (peerPort p)).timeCodes.count < timeCodeQueueDepth) :
    ((s.transferTimeCode p code hroom).ports (peerPort p)).timeCodes.toList
        = (s.ports (peerPort p)).timeCodes.toList ++ [code]
      ∧ ((s.transferTimeCode p code hroom).ports (peerPort p)).queued
        = (s.ports (peerPort p)).queued
      ∧ ((s.transferTimeCode p code hroom).ports p).held = (s.ports p).held := by
  rw [Server.transferTimeCode, transfer_destination, transfer_source]
  refine ⟨?_, rfl, rfl⟩
  simp [Port.pushTimeCode]

/-- What a request does to the queues of the ports. -/
inductive QueueEffect (s : Server) (i : ClientIndex) (request : Header) (payload : Bytes)
    (packet : Packet) (status : Status) (s₁ : Server) : Prop
  /-- A packet or a time code is acknowledged and queued at the other port. -/
  | taken (p : PortId) (hok : status = .ok) (howns : (s.clients i).portId = some p)
      (hheld : (s₁.ports p).held = (s.ports p).held)
      (hqueued : (s₁.ports (peerPort p)).queued = (s.ports (peerPort p)).queued
        ++ if request.type = MessageType.dataTx.toByte then [packet] else [])
      (hcodes : (s₁.ports (peerPort p)).timeCodes.toList
        = (s.ports (peerPort p)).timeCodes.toList
          ++ if request.type = MessageType.timeCodeTx.toByte then
            [⟨byteAt payload 0, byteAt payload 1⟩] else [])
  /-- Neither, and the queues of a port are as they were or it is emptied. -/
  | neither (type : MessageType) (htype : request.type = type.toByte)
      (hquiet : status = .ok → type ∉ [MessageType.dataTx, .timeCodeTx])
      (hheld : ∀ q, (s₁.ports q).held = (s.ports q).held
        ∨ status = .ok ∧ type ∈ [MessageType.attach, .detach, .reset] ∧ (s₁.ports q).Empty
          ∧ (s.ports q).bridged = false
          ∧ ((s.clients i).portId = some q ∨ (s₁.clients i).portId = some q))

theorem held_dropPacket (s : Server) (p q : PortId) :
    ((dropPacket s p).ports q).held = (s.ports q).held := by
  rw [dropPacket, markPortChanged_ports]
  exact held_updatePort rfl q

/-- **What a request does to the queues.** -/
theorem Effect.queues {frame : Bytes} {request : Header} {status : Status} {s₁ : Server}
    (hvalid : validateFrame frame = .ok request) (hrequest : request.has flagResponse = false)
    (hs : Exclusive d.server) (hg : Gathering d)
    (heffect : Effect d.server i request (payloadOf frame) status s₁) :
    QueueEffect d.server i request (payloadOf frame)
      ⟨gather (d.heard i ++ [frame]), request.terminator⟩ status s₁ := by
  have hsame : ∀ {type : MessageType} {status : Status} {s₁ : Server},
      request.type = type.toByte → (status = .ok → type ∉ [MessageType.dataTx, .timeCodeTx]) →
      (∀ q, (s₁.ports q).held = (d.server.ports q).held) →
      QueueEffect d.server i request (payloadOf frame)
        ⟨gather (d.heard i ++ [frame]), request.terminator⟩ status s₁ :=
    fun htype hquiet hheld => .neither _ htype hquiet fun q => .inl (hheld q)
  cases heffect with
  | nothing status type htype hdata hread =>
    refine hsame htype (fun hok => ?_) fun q => rfl
    have hreads : ∀ type ∈ readTypes, type ∉ [MessageType.dataTx, .timeCodeTx] := by decide
    exact hreads type (hread hok)
  | hello htype | subscribe p htype | unsubscribe p htype =>
    exact hsame htype (by decide) fun q => rfl
  | attach p htype hhello hport hp hbridged howner =>
    refine .neither _ htype (by decide) fun q => ?_
    by_cases hq : q = p
    · subst hq
      refine .inr ⟨rfl, by decide, ?_, hbridged, .inr ?_⟩ <;>
        simp [Port.Empty, Port.queued, attachClient, Port.attach, Port.clearQueues]
    · left
      rw [attachClient, held_updateStates, held_updatePort_of_ne _ hq]
      rfl
  | detach p htype howns =>
    refine .neither _ htype (by decide) fun q => ?_
    obtain hheld | ⟨howns, hempty⟩ := held_detachClient hs i q
    · exact .inl hheld
    · exact .inr ⟨rfl, by decide, hempty, hs.bridged_of_portId howns, .inl howns⟩
  | start p htype =>
    refine hsame htype (by decide) fun q => ?_
    rw [startPort, held_updateStates]
    exact held_updatePort rfl q
  | stop p htype =>
    refine hsame htype (by decide) fun q => ?_
    rw [stopPort, held_updateStates]
    exact held_updatePort rfl q
  | reset p htype howns hp =>
    refine .neither _ htype (by decide) fun q => ?_
    by_cases hq : q = p
    · subst hq
      refine .inr ⟨rfl, by decide, ?_, hs.bridged_of_portId howns, .inl howns⟩
      simp [Port.Empty, Port.queued, resetPort, Port.clearQueues]
    · left
      rw [resetPort, held_updateStates, Server.updateClient_ports, held_updatePort_of_ne _ hq]
  | clearStatistics p htype | clearPortStatistics p htype =>
    refine hsame htype (by decide) fun q => ?_
    rw [Vspwd.clearPortStatistics, markPortChanged_ports]
    exact held_updatePort rfl q
  | dataRefused status hstatus htype =>
    exact hsame htype (fun hok => absurd hok hstatus) fun q => rfl
  | data p r status s₂ htype hend howns hadmits hcomplete hdeliver hp =>
    obtain ⟨hok, -, -, hroom, rfl⟩ | ⟨hfull, rfl⟩ | ⟨hdown, rfl⟩ := deliverPacket_cases hdeliver
    · rw [← hg.packet hvalid hrequest htype hadmits hcomplete]
      obtain ⟨hqueued, hcodes, hsource⟩ := transferPacket_ports _ p _ hroom
      refine .taken p hok howns hsource ?_ ?_
      · rw [if_pos htype]
        exact hqueued
      · rw [if_neg (by rw [htype]; decide), List.append_nil]
        exact congrArg (·.toList) hcodes
    · refine hsame htype (fun hok => absurd (hfull.symm.trans hok) (by decide)) fun q => ?_
      exact held_dropPacket _ p q
    · exact hsame htype (fun hok => absurd (hdown.symm.trans hok) (by decide)) fun q => rfl
  | timeCode p status s₂ htype howns hdeliver =>
    obtain ⟨hok, -, -, hroom, rfl⟩ | ⟨hfull, rfl⟩ | ⟨hdown, rfl⟩ := deliverTimeCode_cases hdeliver
    · obtain ⟨hcodes, hqueued, hsource⟩ := transferTimeCode_ports _ p _ hroom
      exact .taken p hok howns hsource (by simpa [htype, MessageType.toByte_inj] using hqueued)
        (by simpa [htype] using hcodes)
    · exact hsame htype (fun hok => absurd (hfull.symm.trans hok) (by decide))
        fun q => held_dropPacket _ p q
    · exact hsame htype (fun hok => absurd (hdown.symm.trans hok) (by decide)) fun q => rfl

/-! ## One action -/

/-- **What an action does to the queues of the two ports**, of which the first is
bridged: each queue changes by exactly what the action acknowledges, gives or takes. -/
structure StepQueues (p : PortId) (d : Daemon) (a : Action) : Prop where
  packets : (sentPacket (d.server.calls a)).toList ++ ((d.step a).server.ports p).queued
    = (d.server.ports p).queued ++ (acknowledgedPacket d a).toList
  codes : (sentTimeCode (d.server.calls a)).toList ++ ((d.step a).server.ports p).timeCodes.toList
    = (d.server.ports p).timeCodes.toList ++ (acknowledgedTimeCode d a).toList
  given : a.ofBridge = true →
    ((d.step a).server.ports (peerPort p)).queued
        = (d.server.ports (peerPort p)).queued ++ (receivedPacket (d.server.calls a)).toList
      ∧ ((d.step a).server.ports (peerPort p)).timeCodes.toList
        = (d.server.ports (peerPort p)).timeCodes.toList
          ++ (receivedTimeCode (d.server.calls a)).toList
  taken : a.ofBridge = false → OwnerTakes d a (peerPort p)

section Step

variable {p : PortId} {d : Daemon} {a : Action}

variable {i : ClientIndex}

theorem calls_of_socket (ha : a.ofBridge = false) : d.server.calls a = none := by
  cases a <;> first | rfl | cases ha

/-- An action of the sockets that acknowledges nothing. -/
theorem StepQueues.of_socket (ha : a.ofBridge = false) (hack : grantedBy d a = none)
    (hheld : ((d.step a).server.ports p).held = (d.server.ports p).held)
    (htaken : OwnerTakes d a (peerPort p)) : StepQueues p d a where
  packets := by
    rw [calls_of_socket ha, acknowledgedPacket, hack, queued_of_held hheld]
    exact (List.append_nil _).symm
  codes := by
    rw [calls_of_socket ha, acknowledgedTimeCode, hack, timeCodes_of_held hheld]
    exact (List.append_nil _).symm
  given := fun h => absurd (h.symm.trans ha) (by decide)
  taken := fun _ => htaken

/-- An action that leaves the queues as they are. -/
theorem StepQueues.of_same (ha : a.ofBridge = false) (hack : grantedBy d a = none)
    (hwrites : d.server.writes a = [])
    (hheld : ∀ q, ((d.step a).server.ports q).held = (d.server.ports q).held) : StepQueues p d a :=
  .of_socket ha hack (hheld p) (.inl (hwrites ▸ .of_held (hheld _)))

/-- An action that closes a client, after it was written some records. -/
theorem StepQueues.of_closed {d' : Daemon} (h : BridgedAt p d') (ha : a.ofBridge = false)
    (hack : grantedBy d a = none) (hstep : (d.step a).server = closeClient d'.server i)
    (hport : (d'.server.clients i).portId = (d.server.clients i).portId)
    (hheld : (d'.server.ports p).held = (d.server.ports p).held)
    (hdelivers : Delivers (d.server.writes a) (d.server.ports (peerPort p))
      (d'.server.ports (peerPort p))) : StepQueues p d a := by
  have hclosed := held_detachClient h.kept.exclusive i
  refine .of_socket ha hack ?_ ?_
  · rw [hstep]
    refine ((hclosed p).resolve_right fun howns => ?_).trans hheld
    exact absurd ((h.kept.exclusive.bridged_of_portId howns.1).symm.trans h.bridged)
      Bool.false_ne_true
  · rw [OwnerTakes, hstep]
    obtain hsame | ⟨howns, hempty⟩ := hclosed (peerPort p)
    · have hboth := hdelivers.append (.of_held hsame)
      rw [List.append_nil] at hboth
      exact .inl hboth
    · refine .inr ⟨hempty, i, .inl (hport ▸ howns), .inl ?_⟩
      rw [hstep]
      simp [closeClient, Client.zeroed]

/-- Writing to a client. -/
theorem StepQueues.flush (h : BridgedAt p d) (i : ClientIndex) (send : Bytes → SendResult) :
    StepQueues p d (.flush i send) := by
  obtain ⟨hstep, hnone⟩ | ⟨hfd, s', hwrites, hstep⟩ := step_flush_cases d i send
  · exact .of_same rfl rfl hnone fun q => by rw [hstep]
  · obtain ⟨hat, hport, hheld, hdelivers⟩ := BridgedAt.writesAll hwrites d rfl h hfd
    obtain hstep | hstep := hstep
    · refine .of_socket rfl rfl ?_ (.inl ?_) <;> rw [hstep]
      · exact hheld
      · exact hdelivers
    · exact .of_closed hat rfl rfl (by rw [hstep]; rfl) hport hheld hdelivers

/-- What handling a record acknowledges. -/
theorem grantedBy_answered {frame : Bytes} {request : Header} {status : Status}
    {payload : Bytes} {s₁ : Server} (hhandles : d.server.handles i frame = true)
    (hvalid : validateFrame frame = .ok request) (hanswerable : Answerable request)
    (hpayload : status = .ok → ResponsePayload request payload)
    (hstep : d.step (.receive i (.record frame))
      = d.hear i frame (s₁.respond i (responseBytes request status payload))) :
    grantedBy d (.receive i (.record frame))
      = if status = .ok then some (i, frame, request) else none := by
  have hserver : d.server.step (.receive i (.record frame))
      = s₁.respond i (responseBytes request status payload) := by
    rw [← Daemon.step_server, hstep, hear_server]
  rw [grantedBy, if_pos hhandles, hserver, granted_respond i s₁ hvalid hanswerable hpayload]
  split_ifs <;> rfl

/-- **A record that is heard** queues at the bridged port what it acknowledges. -/
theorem StepQueues.heard {frame : Bytes} (h : BridgedAt p d)
    (hhandles : d.server.handles i frame = true) : StepQueues p d (.receive i (.record frame)) := by
  obtain ⟨s', hd, hstep⟩ := step_of_handles hhandles
  have hserver : (d.step (.receive i (.record frame))).server = s' := by
    rw [hstep, hear_server]
  cases hd.handled with
  | fragment request q r hfree hvalid hrequest htype hend howns hadmits =>
    have hack : grantedBy d (.receive i (.record frame)) = none := by
      rw [grantedBy, if_pos hhandles, ← Daemon.step_server, hserver]
      simp only [granted, hvalid, Server.setReassembly, Server.updateClient_clients, if_true,
        hfree, Bool.false_and, Bool.false_eq_true, if_false]
      split <;> rfl
    refine .of_same rfl hack rfl fun q => ?_
    rw [hserver]
    rfl
  | answered request status payload s₁ hfree hvalid hrequest hanswerable hfinal heffect hpayload =>
    have hgranted := grantedBy_answered hhandles hvalid hanswerable hpayload hstep
    have hports : (d.step (.receive i (.record frame))).server.ports = s₁.ports := by
      rw [hserver]
      rfl
    cases heffect.queues hvalid hrequest h.kept.exclusive h.gathering with
    | taken q hok howns hheld hqueued hcodes =>
      obtain rfl := h.eq_peerPort howns
      rw [if_pos hok] at hgranted
      refine ⟨?_, ?_, Bool.noConfusion, fun _ => .inl ?_⟩
      · rw [hports, hqueued, acknowledgedPacket, hgranted]
        dsimp only
        split_ifs <;> rfl
      · rw [hports, hcodes, acknowledgedTimeCode, hgranted]
        dsimp only
        split_ifs <;> rfl
      · rw [hports, peerPort_peerPort]
        exact .of_held hheld
    | neither type htype hquiet hheld =>
      have hnone : acknowledgedPacket d (.receive i (.record frame)) = none
          ∧ acknowledgedTimeCode d (.receive i (.record frame)) = none := by
        rw [acknowledgedPacket, acknowledgedTimeCode, hgranted]
        split_ifs with hok
        · have hnot := hquiet hok
          simp only [List.mem_cons, List.not_mem_nil, or_false, not_or] at hnot
          simp [htype, MessageType.toByte_inj, hnot]
        · exact ⟨rfl, rfl⟩
      have hbridged := (hheld p).resolve_right fun hempty =>
        absurd (hempty.2.2.2.1.symm.trans h.bridged) Bool.false_ne_true
      refine ⟨?_, ?_, Bool.noConfusion, fun _ => ?_⟩
      · rw [hports, queued_of_held hbridged, hnone.1]
        exact (List.append_nil _).symm
      · rw [hports, timeCodes_of_held hbridged, hnone.2]
        exact (List.append_nil _).symm
      · rw [OwnerTakes, hports]
        obtain hsame | ⟨hok, hempties, hempty, -, howns⟩ := hheld (peerPort p)
        · exact .inl (.of_held hsame)
        · refine .inr ⟨hempty, i, ?_, .inr ⟨frame, request, ?_, type, hempties, htype⟩⟩
          · rw [hserver]
            simpa [Client.respond] using howns
          · rw [hgranted, if_pos hok]

/-! ## The actions of the bridge -/

theorem held_bridgeRefreshState (s : Server) (answer : Option LinkState) (q : PortId) :
    ((bridgeRefreshState s answer).ports q).held = (s.ports q).held :=
  held_of_stateless (stateless_bridgeRefreshState s answer q)

/-- **What a call does to the queues**: the head of a queue of the bridged port goes when
the remote link has taken it, and what the remote link gives is appended at the local port. -/
def BridgeQueues (p : PortId) (s : Server) (call : Option BridgeCall) (s' : Server) : Prop :=
  ((sentPacket call).toList ++ (s'.ports p).queued = (s.ports p).queued
      ∧ (sentTimeCode call).toList ++ (s'.ports p).timeCodes.toList
        = (s.ports p).timeCodes.toList)
    ∧ (s'.ports (peerPort p)).queued
        = (s.ports (peerPort p)).queued ++ (receivedPacket call).toList
      ∧ (s'.ports (peerPort p)).timeCodes.toList
        = (s.ports (peerPort p)).timeCodes.toList ++ (receivedTimeCode call).toList

theorem BridgeMove.queues {s s' : Server} {call : Option BridgeCall} (h : BridgeMove s call s')
    (hp : s.bridge.map Bridge.portId = some p) : BridgeQueues p s call s' := by
  have hat : ∀ {b : Bridge}, s.bridge = some b → b.portId = p := fun hb => by
    rw [hb] at hp
    exact Option.some.inj hp
  have hkept : ∀ {a b : Port}, b.held = a.held → b.queued = a.queued ++ []
      ∧ b.timeCodes.toList = a.timeCodes.toList ++ [] := fun h => by
    rw [List.append_nil, List.append_nil]
    exact ⟨queued_of_held h, timeCodes_of_held h⟩
  cases h with
  | refresh answer =>
    have hheld := held_bridgeRefreshState s answer
    exact ⟨⟨queued_of_held (hheld p), timeCodes_of_held (hheld p)⟩, hkept (hheld _)⟩
  | popPacket b slot hb hfront =>
    obtain rfl := hat hb
    obtain ⟨hqueued, hcodes, hothers⟩ := popPacket_ports hfront
    exact ⟨⟨hqueued.symm, congrArg (·.toList) hcodes⟩, hkept (hothers _ (peerPort_ne _))⟩
  | popTimeCode b code hb hfront =>
    obtain rfl := hat hb
    obtain ⟨hcodes, hpackets, hothers⟩ := popTimeCode_ports hfront
    exact ⟨⟨hpackets, hcodes.symm⟩, hkept (hothers _ (peerPort_ne _))⟩
  | pushPacket b packet hroom hb =>
    obtain rfl := hat hb
    obtain ⟨hqueued, hcodes, hsource⟩ := transferPacket_ports s b.portId packet.1 hroom
    refine ⟨⟨queued_of_held hsource, timeCodes_of_held hsource⟩, hqueued, ?_⟩
    rw [hcodes]
    exact (List.append_nil _).symm
  | pushTimeCode b code hroom hb =>
    obtain rfl := hat hb
    obtain ⟨hcodes, hpackets, hsource⟩ := transferTimeCode_ports s b.portId code.1 hroom
    exact ⟨⟨queued_of_held hsource, timeCodes_of_held hsource⟩,
      hpackets.trans (List.append_nil _).symm, hcodes⟩

theorem StepQueues.bridge (h : BridgedAt p d) (ha : a.ofBridge = true) : StepQueues p d a := by
  have hack : acknowledgedPacket d a = none ∧ acknowledgedTimeCode d a = none := by
    cases a <;> first | exact ⟨rfl, rfl⟩ | cases ha
  have hqueues : BridgeQueues p d.server (d.server.calls a) (d.server.step a) := by
    obtain ⟨hsame, hfails⟩ | hmove := bridge_cases d.server ha
    · -- a call that fails, or is not made, leaves both sides as they are
      obtain ⟨hsent, hsentCode, hreceived, hreceivedCode⟩ := nothing_of_fails hfails
      rw [BridgeQueues, show d.server.step a = d.server from hsame, hsent, hsentCode, hreceived,
        hreceivedCode]
      exact ⟨⟨rfl, rfl⟩, (List.append_nil _).symm, (List.append_nil _).symm⟩
    · exact hmove.queues h.bridge
  rw [← d.step_server] at hqueues
  obtain ⟨⟨hpackets, hcodes⟩, hgiven⟩ := hqueues
  refine ⟨?_, ?_, fun _ => hgiven, fun hnot => absurd (ha.symm.trans hnot) (by decide)⟩
  · rw [hack.1]
    exact hpackets.trans (List.append_nil _).symm
  · rw [hack.2]
    exact hcodes.trans (List.append_nil _).symm

/-- **What every action does to the queues.** -/
theorem BridgedAt.stepQueues (h : BridgedAt p d) (a : Action) : StepQueues p d a := by
  have hclosed : ∀ (i : ClientIndex), a.ofBridge = false → grantedBy d a = none →
      d.server.writes a = [] → (d.step a).server = closeClient d.server i → StepQueues p d a :=
    fun i ha hack hwrites hstep =>
      .of_closed h ha hack hstep rfl rfl (hwrites ▸ .of_held rfl)
  cases a with
  | accept fd =>
    refine .of_same rfl rfl rfl fun q => ?_
    rw [d.step_server]
    simp only [Server.step, acceptClient]
    split <;> rfl
  | hangup i =>
    by_cases hfd : (d.server.clients i).fd.isNone
    · exact .of_same rfl rfl rfl fun q => by simp [d.step_server, Server.step, hfd]
    · exact hclosed i rfl rfl rfl (by simp [d.step_server, Server.step, hfd])
  | flush i send => exact .flush h i send
  | receive i receipt =>
    cases receipt with
    | record frame =>
      cases hhandles : d.server.handles i frame with
      | true => exact .heard h hhandles
      | false =>
        have hack : grantedBy d (.receive i (.record frame)) = none := by
          simp [grantedBy, hhandles]
        obtain hstep | hstep := step_eq_of_not_handles hhandles
        · exact .of_same rfl hack rfl fun q => by rw [hstep]
        · exact hclosed i rfl hack rfl (by rw [hstep])
    | nothing =>
      refine .of_same rfl rfl rfl fun q => ?_
      rw [d.step_server]
      simp [Server.step, receiveOne, keepOrClose]
    | ended =>
      by_cases hfd : (d.server.clients i).fd.isNone
      · exact .of_same rfl rfl rfl fun q => by simp [d.step_server, Server.step, hfd]
      · exact hclosed i rfl rfl rfl
          (by simp [d.step_server, Server.step, hfd, receiveOne, keepOrClose])
  | bridgeRefresh | bridgePopPacket | bridgePopTimeCode | bridgePushPacket
  | bridgePushTimeCode => exact .bridge h rfl

end Step

/-! ## Every run -/

/-- **The log and the queues account for each other.** -/
structure Accounts (p : PortId) (m : BridgedDaemon) : Prop where
  bridged : BridgedAt p m.daemon
  packets : m.log.sent ++ (m.daemon.server.ports p).queued = m.log.acknowledged
  codes : m.log.sentCodes ++ (m.daemon.server.ports p).timeCodes.toList = m.log.acknowledgedCodes
  localPackets : (m.daemon.server.ports (peerPort p)).queued <:+ m.log.received
  localCodes : (m.daemon.server.ports (peerPort p)).timeCodes.toList <:+ m.log.receivedCodes

/-- What is queued at the local port stays the end of what was received. -/
theorem StepQueues.suffix {a : Action} (h : StepQueues p d a) {packets : List Packet}
    {codes : List TimeCode} (hpackets : (d.server.ports (peerPort p)).queued <:+ packets)
    (hcodes : (d.server.ports (peerPort p)).timeCodes.toList <:+ codes) :
    ((d.step a).server.ports (peerPort p)).queued
        <:+ packets ++ (receivedPacket (d.server.calls a)).toList
      ∧ ((d.step a).server.ports (peerPort p)).timeCodes.toList
        <:+ codes ++ (receivedTimeCode (d.server.calls a)).toList := by
  cases ha : a.ofBridge with
  | true =>
    obtain ⟨hgiven, hgivenCodes⟩ := h.given ha
    rw [hgiven, hgivenCodes]
    exact ⟨List.suffix_append_self_iff.mpr hpackets, List.suffix_append_self_iff.mpr hcodes⟩
  | false =>
    rw [calls_of_socket ha]
    show _ <:+ packets ++ [] ∧ _ <:+ codes ++ []
    rw [List.append_nil, List.append_nil]
    obtain ⟨hlost, hlostCodes⟩ | ⟨⟨hnone, hnoCodes⟩, -⟩ := h.taken ha
    · exact ⟨hlost.suffix.trans hpackets, hlostCodes.suffix.trans hcodes⟩
    · rw [hnone, hnoCodes]
      exact ⟨List.nil_suffix, List.nil_suffix⟩

theorem Accounts.step (h : Accounts p m) (a : Action) : Accounts p (m.step a) := by
  have hqueues := h.bridged.stepQueues a
  obtain ⟨hpackets, hcodes⟩ := hqueues.suffix h.localPackets h.localCodes
  refine ⟨h.bridged.step a, ?_, ?_, hpackets, hcodes⟩
  · show (m.log.sent ++ _) ++ ((m.daemon.step a).server.ports p).queued
      = m.log.acknowledged ++ _
    rw [List.append_assoc, hqueues.packets, ← List.append_assoc, h.packets]
  · show (m.log.sentCodes ++ _) ++ ((m.daemon.step a).server.ports p).timeCodes.toList
      = m.log.acknowledgedCodes ++ _
    rw [List.append_assoc, hqueues.codes, ← List.append_assoc, h.codes]

theorem Accounts.initial (p : PortId) (answer : Option LinkState) :
    Accounts p (BridgedDaemon.initial p answer) := by
  have hs : Started (openBridge initServer p answer) := .bridged p answer
  have hheld : ∀ q, ((openBridge initServer p answer).ports q).held = Port.initial.held :=
    fun q => by
      rw [openBridge, held_bridgeRefreshState, held_updatePort rfl]
      rfl
  refine ⟨⟨⟨.started hs, .started hs, .started hs⟩, .initial hs, .initial hs, ?_⟩, ?_, ?_, ?_, ?_⟩
  · exact (Move.bridgeRefresh (s := bridgeOpened p) answer).bridge_portId
  · exact queued_of_held (hheld p)
  · exact timeCodes_of_held (hheld p)
  · exact (queued_of_held (hheld (peerPort p))) ▸ List.nil_suffix
  · exact (timeCodes_of_held (hheld (peerPort p))) ▸ List.nil_suffix

theorem Accounts.run (h : Accounts p m) (actions : List Action) : Accounts p (m.run actions) := by
  induction actions generalizing m with
  | nil => exact h
  | cons a rest ih => exact ih (h.step a)

/-- **The bridge passes on exactly what it takes.** Whatever the calls on the remote
link answer and the clients do: the packets the remote link has taken, followed by
those queued at the bridged port, are the packets acknowledged to clients, and so for
the time codes. What is queued at the local port is the end of what the remote link has
given, within the depth of the queue. In every action of the bridge the item that is given
is appended there, once and as it came, and nothing else happens to what is queued; in every
other one nothing is appended, and an item goes only with the record that is written for it
or as the port is emptied. -/
theorem bridge_relays_exactly (p : PortId) (answer : Option LinkState) (actions : List Action) :
    let m := (BridgedDaemon.initial p answer).run actions
    let s := m.daemon.server
    (m.log.sent ++ (s.ports p).queued = m.log.acknowledged
        ∧ m.log.sentCodes ++ (s.ports p).timeCodes.toList = m.log.acknowledgedCodes)
      ∧ ((s.ports (peerPort p)).queued <:+ m.log.received
        ∧ (s.ports (peerPort p)).timeCodes.toList <:+ m.log.receivedCodes)
      ∧ ((s.ports (peerPort p)).queued.length ≤ packetQueueDepth
        ∧ (s.ports (peerPort p)).timeCodes.toList.length ≤ timeCodeQueueDepth)
      ∧ ∀ a : Action,
        (a.ofBridge = true →
          ((s.step a).ports (peerPort p)).queued
              = (s.ports (peerPort p)).queued ++ (receivedPacket (s.calls a)).toList
            ∧ ((s.step a).ports (peerPort p)).timeCodes.toList
              = (s.ports (peerPort p)).timeCodes.toList
                ++ (receivedTimeCode (s.calls a)).toList)
        ∧ (a.ofBridge = false → OwnerTakes m.daemon a (peerPort p)) := by
  intro m s
  have h : Accounts p m := (Accounts.initial p answer).run actions
  refine ⟨⟨h.packets, h.codes⟩, ⟨h.localPackets, h.localCodes⟩, ⟨?_, ?_⟩, fun a => ?_⟩
  · rw [Port.queued, List.length_map, RingBuffer.toList_length]
    exact (s.ports (peerPort p)).packets.count_le
  · rw [RingBuffer.toList_length]
    exact (s.ports (peerPort p)).timeCodes.count_le
  · have hqueues := h.bridged.stepQueues a
    have hserver : (m.daemon.step a).server = s.step a := m.daemon.step_server a
    exact ⟨hserver ▸ hqueues.given, hqueues.taken⟩

end Vspwd
