import SpwKit.Virtual.RegistryInvariant
import SpwKit.Loopback.LoopbackBackend

/-!
# A pair of simulator ports is a loopback port

Two ports of the simulator that run, one of which sends and the other receives,
show an application what one loopback port shows it, as long as no call waits. The
two backends were written apart, check in another order and count elsewhere, so
the proof is a simulation: `Alike` relates a loopback port to the link of a pair,
by what is queued and what was counted, and every call keeps it and returns the
same.
-/

open Interactive Core

namespace Simulator

/-! ## Calls that do not wait -/

section NoWait

variable {fuel : Nat} {c : Context}

/-- A condition that holds is not waited for. -/
theorem waitCondition_ready (condition : Condition) (timeoutUs : Timeout)
    {predicate : Context → Bool} (h : predicate c = true) :
    waitCondition condition timeoutUs predicate (fuel + 1) c = .done c true := by
  rw [waitCondition, Process.bind_apply, Process.get_apply, Step.bind_done, if_pos h]
  rfl

/-- Without time there is no wait. -/
theorem waitCondition_immediate (condition : Condition) (predicate : Context → Bool) :
    waitCondition condition timeoutImmediate predicate (fuel + 1) c = .done c (predicate c) := by
  cases h : predicate c with
  | true => exact waitCondition_ready condition timeoutImmediate h
  | false =>
    rw [waitCondition, Process.bind_apply, Process.get_apply, Step.bind_done,
      if_neg (by simp [h]), if_pos rfl]
    rfl

/-- **A port that can transfer**: it is attached and started, and so is the other end. -/
structure Context.Runs (c : Context) : Prop where
  link : c.backend.link.isSome = true
  attached : c.own.attached = true
  started : c.own.started = true
  peer : c.peer.available = true

variable (h : c.Runs)

include h

theorem Context.Runs.not_isNone : ¬ c.backend.link.isNone = true := by
  simp [Option.isNone_iff_eq_none, Option.isSome_iff_ne_none.mp h.link]

theorem Context.Runs.not_stopped : ¬ (c.own.attached = false ∨ c.own.started = false) := by
  simp [h.attached, h.started]

theorem Context.Runs.not_lost : ¬ c.peer.available = false := by
  simp [h.peer]

/-- A packet that the port has passed on. -/
structure Passed (packet : PortPacket) : Prop where
  terminator : validTerminator packet.terminator = true
  data : ¬ (packet.length ≠ 0 ∧ packet.data.isNone = true)
  capacity : ¬ (packet.capacity ≠ 0 ∧ packet.capacity < packet.length)

theorem simulatorSend_immediate {packet : PortPacket} (hpacket : Passed packet) :
    simulatorSend (fuel + 1) packet timeoutImmediate c
      = if packet.length > maxPacketSize then .done c .invalidPacket
        else if c.peer.packets.count < packetQueueDepth then
          .done (c.onLink fun link e => link.sendPacket e packet.packet) .ok
        else .done c .resourceExhausted := by
  rw [simulatorSend, Process.bind_apply, Process.get_apply, Step.bind_done, if_neg h.not_isNone]
  by_cases hlength : packet.length > maxPacketSize
  · rw [if_pos (.inr hlength), if_pos hlength]
    rfl
  rw [if_neg (by simp [hpacket.terminator, hlength]), if_neg hlength,
    if_neg (by simpa [Nat.pos_iff_ne_zero] using hpacket.data), if_neg hpacket.capacity,
    if_neg h.not_stopped, if_neg h.not_lost, Process.bind_apply, waitCondition_immediate,
    Step.bind_done]
  by_cases hroom : c.peer.packets.count < packetQueueDepth
  · have hready : packetSpaceReady c = true := by simp [packetSpaceReady, hroom]
    rw [hready, if_neg (by simp), if_pos hroom, Process.bind_apply, Process.get_apply,
      Step.bind_done, if_neg (by simp [h.started]), if_neg h.not_lost,
      if_neg (Nat.ne_of_lt hroom)]
    rfl
  · have hready : packetSpaceReady c = false := by
      simpa [packetSpaceReady, h.started, h.peer] using hroom
    rw [hready, if_pos rfl, if_neg hroom]
    rfl

theorem simulatorReceive_nothing (buffer : ReceiveBuffer) (hcount : c.own.packets.count = 0) :
    simulatorReceive (fuel + 1) buffer timeoutImmediate c = .done c (.timeout, none) := by
  have hready : packetReceiveReady c = false := by
    simp [packetReceiveReady, h.started, h.peer, hcount]
  rw [simulatorReceive, Process.bind_apply, Process.get_apply, Step.bind_done, if_neg h.not_isNone,
    if_neg h.not_stopped, Process.bind_apply, waitCondition_immediate, Step.bind_done, hready,
    if_pos rfl]
  rfl

theorem simulatorSendTimeCode_immediate {code : TimeCode} (hcode : validTimeCode code = true) :
    simulatorSendTimeCode (fuel + 1) code timeoutImmediate c
      = if c.peer.timeCodes.count < timeCodeQueueDepth then
          .done (c.onLink fun link e => link.sendTimeCode e code) .ok
        else .done c .resourceExhausted := by
  rw [simulatorSendTimeCode, Process.bind_apply, Process.get_apply, Step.bind_done,
    if_neg h.not_isNone, if_neg (by simp [hcode]), if_neg h.not_stopped, if_neg h.not_lost,
    Process.bind_apply, waitCondition_immediate, Step.bind_done]
  by_cases hroom : c.peer.timeCodes.count < timeCodeQueueDepth
  · have hready : timeCodeSpaceReady c = true := by simp [timeCodeSpaceReady, hroom]
    rw [hready, if_neg (by simp), if_pos hroom, Process.bind_apply, Process.get_apply,
      Step.bind_done, if_neg (by simp [h.started]), if_neg h.not_lost]
    rfl
  · have hready : timeCodeSpaceReady c = false := by
      simpa [timeCodeSpaceReady, h.started, h.peer] using hroom
    rw [hready, if_pos rfl, if_neg hroom]
    rfl

theorem simulatorReceiveTimeCode_immediate :
    simulatorReceiveTimeCode (fuel + 1) timeoutImmediate c
      = if c.own.timeCodes.count = 0 then .done c (.timeout, none)
        else .done (c.onLink VirtualLink.takeTimeCode) (.ok, some c.own.timeCodes.front) := by
  rw [simulatorReceiveTimeCode, Process.bind_apply, Process.get_apply, Step.bind_done,
    if_neg h.not_isNone, if_neg h.not_stopped, Process.bind_apply, waitCondition_immediate,
    Step.bind_done]
  by_cases hcount : c.own.timeCodes.count = 0
  · have hready : timeCodeReceiveReady c = false := by
      simp [timeCodeReceiveReady, h.started, h.peer, hcount]
    rw [hready, if_pos rfl, if_pos hcount]
    rfl
  · have hready : timeCodeReceiveReady c = true := by
      simp [timeCodeReceiveReady, Nat.pos_of_ne_zero hcount]
    rw [hready, if_neg (by simp), if_neg hcount, Process.bind_apply, Process.get_apply,
      Step.bind_done, if_neg (by simp [h.started]), if_neg hcount]
    rfl

end NoWait

variable {b : LoopbackBackend} {fuel receiver sender : Nat} {i : LinkIndex}
  {l : Opened LoopbackBackend} {o : Opened Context} {w : World}

/-- **What a receive does that finds a packet**, whatever its timeout. -/
theorem simulatorReceive_found {c : Context} (hlink : c.backend.link.isSome = true)
    (hattached : c.own.attached = true) (hstarted : c.own.started = true)
    (hcount : c.own.packets.count ≠ 0) (buffer : ReceiveBuffer) (timeoutUs : Timeout) :
    simulatorReceive (fuel + 1) buffer timeoutUs c
      = if c.own.packets.front.bytes.length > buffer.capacity then
          .done c (.bufferTooSmall, some ⟨c.own.packets.front.bytes.length,
            c.own.packets.front.terminator, none⟩)
        else if c.own.packets.front.bytes.length > 0 ∧ buffer.hasData = false then
          .done c (.invalidArgument, some ⟨c.own.packets.front.bytes.length,
            c.own.packets.front.terminator, none⟩)
        else .done (c.onLink VirtualLink.takePacket) (.ok, some ⟨c.own.packets.front.bytes.length,
          c.own.packets.front.terminator, some c.own.packets.front.bytes⟩) := by
  have hready : packetReceiveReady c = true := by
    simp [packetReceiveReady, Nat.pos_of_ne_zero hcount]
  rw [simulatorReceive, Process.bind_apply, Process.get_apply, Step.bind_done,
    if_neg (by simp [Option.isNone_iff_eq_none, Option.isSome_iff_ne_none.mp hlink]),
    if_neg (by simp [hattached, hstarted]), Process.bind_apply,
    waitCondition_ready .link timeoutUs hready, Step.bind_done, if_neg (by simp),
    Process.bind_apply, Process.get_apply, Step.bind_done, if_neg (by simp [hstarted]),
    if_neg hcount]
  split_ifs <;> rfl

/-! ## A loopback port and the link of a pair -/

open Loopback (LoopbackBackend loopbackSend loopbackReceive loopbackSendTimeCode
  loopbackReceiveTimeCode loopbackOps)

/-- What a loopback port has counted is what one end has sent and the other received. -/
structure CountsTransfers (loopback sender receiver : Statistics) : Prop where
  txPackets : loopback.txPackets = sender.txPackets
  txBytes : loopback.txBytes = sender.txBytes
  txTimeCodes : loopback.txTimeCodes = sender.txTimeCodes
  rxPackets : loopback.rxPackets = receiver.rxPackets
  rxBytes : loopback.rxBytes = receiver.rxBytes
  rxTimeCodes : loopback.rxTimeCodes = receiver.rxTimeCodes

/-- **A loopback port and a link hold the same**: what is queued at the receiving end, and
what the two ends have counted. -/
structure Alike (b : LoopbackBackend) (link : VirtualLink) : Prop where
  state : b.state = .run
  attached (e : EndpointIndex) : (link.endpoints e).attached = true
  started (e : EndpointIndex) : (link.endpoints e).started = true
  packets : b.packets.Alike (link.endpoints 1).packets packetQueueDepth
  timeCodes : b.timeCodes.Alike (link.endpoints 1).timeCodes timeCodeQueueDepth
  counts : CountsTransfers b.statistics (link.endpoints 0).statistics (link.endpoints 1).statistics

/-- The two ends, one by one. -/
theorem alike_of_ends {link : VirtualLink} {sender receiver : EndpointState}
    (hsender : link.endpoints 0 = sender) (hreceiver : link.endpoints 1 = receiver)
    (hstate : b.state = .run) (hattached : sender.attached = true ∧ receiver.attached = true)
    (hstarted : sender.started = true ∧ receiver.started = true)
    (hpackets : b.packets.Alike receiver.packets packetQueueDepth)
    (htimeCodes : b.timeCodes.Alike receiver.timeCodes timeCodeQueueDepth)
    (hcounts : CountsTransfers b.statistics sender.statistics receiver.statistics) :
    Alike b link := by
  subst hsender hreceiver
  refine ⟨hstate, fun e => ?_, fun e => ?_, hpackets, htimeCodes, hcounts⟩
  · match e with
    | 0 => exact hattached.1
    | 1 => exact hattached.2
  · match e with
    | 0 => exact hstarted.1
    | 1 => exact hstarted.2

/-- The sending end is updated after the other one. -/
theorem update_sender (link : VirtualLink) (f g : EndpointState → EndpointState) :
    ((link.update (peerIndex 0) f).update 0 g).endpoints 0 = g (link.endpoints 0) := by
  rw [VirtualLink.update_own, VirtualLink.update_peer_own]

section Ends

variable {b : LoopbackBackend} {link : VirtualLink} (h : Alike b link)

include h

theorem Alike.sendPacket (hroom : b.packets.count < packetQueueDepth) (packet : Packet) :
    Alike (b.push packet) (link.sendPacket 0 packet) :=
  alike_of_ends (update_sender link _ _)
    ((VirtualLink.update_peer _ 0 _).trans (VirtualLink.update_own _ 1 _)) h.state
    ⟨h.attached 0, h.attached 1⟩ ⟨h.started 0, h.started 1⟩ (h.packets.push hroom packet)
    h.timeCodes { h.counts with
      txPackets := congrArg (· + 1) h.counts.txPackets
      txBytes := congrArg (· + UInt64.ofNat packet.bytes.length) h.counts.txBytes }

theorem Alike.sendTimeCode (hroom : b.timeCodes.count < timeCodeQueueDepth) (code : TimeCode) :
    Alike (b.pushTimeCode code) (link.sendTimeCode 0 code) :=
  alike_of_ends (update_sender link _ _)
    ((VirtualLink.update_peer _ 0 _).trans (VirtualLink.update_own _ 1 _)) h.state
    ⟨h.attached 0, h.attached 1⟩ ⟨h.started 0, h.started 1⟩ h.packets
    (h.timeCodes.push hroom code)
    { h.counts with txTimeCodes := congrArg (· + 1) h.counts.txTimeCodes }

theorem Alike.takePacket (hcount : b.packets.count ≠ 0) : Alike b.take (link.takePacket 1) := by
  refine alike_of_ends (VirtualLink.update_peer_own _ 0 _) (VirtualLink.update_own ..) h.state
    ⟨h.attached 0, h.attached 1⟩ ⟨h.started 0, h.started 1⟩ (h.packets.drop hcount) h.timeCodes
    { h.counts with rxPackets := congrArg (· + 1) h.counts.rxPackets, rxBytes := ?_ }
  show b.statistics.rxBytes + UInt64.ofNat b.packets.front.bytes.length = _
  rw [h.counts.rxBytes, h.packets.front_eq hcount]

theorem Alike.takeTimeCode (hcount : b.timeCodes.count ≠ 0) :
    Alike b.takeTimeCode (link.takeTimeCode 1) :=
  alike_of_ends (VirtualLink.update_peer_own _ 0 _) (VirtualLink.update_own ..) h.state
    ⟨h.attached 0, h.attached 1⟩ ⟨h.started 0, h.started 1⟩ h.packets (h.timeCodes.drop hcount)
    { h.counts with rxTimeCodes := congrArg (· + 1) h.counts.rxTimeCodes }

end Ends

section Steps

/-- **An operation does the same on both**: the simulator's returns at once, and what the
loopback's returns. -/
def Agree {α : Type} (f : LoopbackBackend → α × LoopbackBackend)
    (p : Process Wait (fun _ => Wake × VirtualLink) Context α) (b : LoopbackBackend)
    (c : Context) : Prop :=
  ∃ out b' link', f b = (out, b') ∧ p c = .done (c.at link') out ∧ Alike b' link'

variable (fuel : Nat) {b : LoopbackBackend} {c : Context} (h : Alike b c.link)
  (hlink : c.backend.link.isSome = true)

include h

theorem Alike.runs (hlink : c.backend.link.isSome = true) : c.Runs :=
  ⟨hlink, h.attached _, h.started _, by
    rw [Context.peer, EndpointState.available, h.attached, h.started]
    rfl⟩

include hlink

theorem Alike.send (hend : c.backend.endpointIndex = 0) {packet : PortPacket}
    (hpacket : Passed packet) :
    Agree (loopbackSend packet) (simulatorSend (fuel + 1) packet timeoutImmediate) b c := by
  have hpeer : c.peer = c.link.endpoints 1 := by rw [Context.peer, hend]; rfl
  rw [Agree, simulatorSend_immediate (h.runs hlink) hpacket, hpeer, ← h.packets.count_eq,
    loopbackSend, if_neg (by simp [h.state])]
  by_cases hlength : packet.length > maxPacketSize
  · rw [if_pos hlength, if_pos (show packet.length > Loopback.maxPacketSize from hlength)]
    exact ⟨_, _, c.link, rfl, rfl, h⟩
  rw [if_neg hlength, if_neg (show ¬ packet.length > Loopback.maxPacketSize from hlength)]
  by_cases hroom : b.packets.count < packetQueueDepth
  · rw [if_pos hroom, if_neg (show ¬ b.packets.count = Loopback.packetQueueDepth from
      Nat.ne_of_lt hroom)]
    refine ⟨_, _, _, rfl, rfl, ?_⟩
    rw [hend]
    exact h.sendPacket hroom packet.packet
  · have hfull : b.packets.count = Loopback.packetQueueDepth :=
      Nat.le_antisymm h.packets.left.count_le (Nat.le_of_not_lt hroom)
    rw [if_neg hroom, if_pos hfull]
    exact ⟨_, _, c.link, rfl, rfl, h⟩

theorem Alike.receive (hend : c.backend.endpointIndex = 1) (buffer : ReceiveBuffer) :
    Agree (loopbackReceive buffer) (simulatorReceive (fuel + 1) buffer timeoutImmediate) b c := by
  have hown : c.own = c.link.endpoints 1 := by rw [Context.own, hend]
  rw [Agree, loopbackReceive, if_neg (by simp [h.state])]
  by_cases hcount : b.packets.count = 0
  · rw [if_pos hcount, simulatorReceive_nothing (h.runs hlink) buffer
      (by rw [hown, ← h.packets.count_eq, hcount])]
    exact ⟨_, _, c.link, rfl, rfl, h⟩
  have hruns := h.runs hlink
  rw [if_neg hcount, simulatorReceive_found hlink hruns.attached hruns.started
    (by rwa [hown, ← h.packets.count_eq]), hown, ← h.packets.front_eq hcount]
  dsimp only
  split_ifs
  · exact ⟨_, _, c.link, rfl, rfl, h⟩
  · exact ⟨_, _, c.link, rfl, rfl, h⟩
  · refine ⟨_, _, _, rfl, rfl, ?_⟩
    rw [hend]
    exact h.takePacket hcount

theorem Alike.sendCode (hend : c.backend.endpointIndex = 0) {code : TimeCode}
    (hcode : validTimeCode code = true) :
    Agree (loopbackSendTimeCode code) (simulatorSendTimeCode (fuel + 1) code timeoutImmediate)
      b c := by
  have hpeer : c.peer = c.link.endpoints 1 := by rw [Context.peer, hend]; rfl
  rw [Agree, simulatorSendTimeCode_immediate (h.runs hlink) hcode, hpeer, ← h.timeCodes.count_eq,
    loopbackSendTimeCode, if_neg (by simp [h.state]), if_neg (by simp [hcode])]
  by_cases hroom : b.timeCodes.count < timeCodeQueueDepth
  · rw [if_pos hroom, if_neg (show ¬ b.timeCodes.count = Loopback.timeCodeQueueDepth from
      Nat.ne_of_lt hroom)]
    refine ⟨_, _, _, rfl, rfl, ?_⟩
    rw [hend]
    exact h.sendTimeCode hroom code
  · have hfull : b.timeCodes.count = Loopback.timeCodeQueueDepth :=
      Nat.le_antisymm h.timeCodes.left.count_le (Nat.le_of_not_lt hroom)
    rw [if_neg hroom, if_pos hfull]
    exact ⟨_, _, c.link, rfl, rfl, h⟩

theorem Alike.receiveCode (hend : c.backend.endpointIndex = 1) :
    Agree loopbackReceiveTimeCode (simulatorReceiveTimeCode (fuel + 1) timeoutImmediate) b c := by
  have hown : c.own = c.link.endpoints 1 := by rw [Context.own, hend]
  rw [Agree, simulatorReceiveTimeCode_immediate (h.runs hlink), hown, ← h.timeCodes.count_eq,
    loopbackReceiveTimeCode, if_neg (by simp [h.state])]
  by_cases hcount : b.timeCodes.count = 0
  · rw [if_pos hcount, if_pos hcount]
    exact ⟨_, _, c.link, rfl, rfl, h⟩
  · rw [if_neg hcount, if_neg hcount, ← h.timeCodes.front_eq hcount]
    refine ⟨_, _, _, rfl, rfl, ?_⟩
    rw [hend]
    exact h.takeTimeCode hcount

end Steps

/-! ## Ports -/

/-- A transfer that does not wait, with its arguments. -/
inductive Transfer
  | send (packet : Option PortPacket)
  | receive (buffer : Option ReceiveBuffer)
  | sendTimeCode (code : Option TimeCode)
  | receiveTimeCode (hasCode : Bool)

/-- The call that a transfer is. -/
def Transfer.call {β : Type} : Transfer → Core.Call β
  | .send packet => .send packet timeoutImmediate
  | .receive buffer => .receive buffer timeoutImmediate
  | .sendTimeCode code => .sendTimeCode code timeoutImmediate
  | .receiveTimeCode hasCode => .receiveTimeCode hasCode timeoutImmediate

/-- Which of two ports makes it. -/
def Transfer.port (sender receiver : Nat) : Transfer → Nat
  | .send _ | .sendTimeCode _ => sender
  | .receive _ | .receiveTimeCode _ => receiver

/-- What an application sees of a call that has returned: the result, the packet with its
length and terminator, and the time code. -/
structure Observed where
  result : Result
  packet : Option PacketOut
  timeCode : Option TimeCode
deriving DecidableEq, Repr

/-- What is seen of a reply. -/
def observe {δ β : Type} (reply : Core.Reply δ β) : Observed :=
  ⟨reply.result, reply.packet, reply.timeCode⟩

/-- The end of a link that makes a transfer. -/
def Transfer.end : Transfer → EndpointIndex
  | .send _ | .sendTimeCode _ => 0
  | .receive _ | .receiveTimeCode _ => 1

/-- **A call is seen the same on both**, and they stay alike. -/
def SeenAlike (x : Step Empty Empty.elim (Opened LoopbackBackend) (Core.Reply Unit Empty))
    (y : Running) (l : Opened LoopbackBackend) (o : Opened Context) : Prop :=
  ∃ b' link' reply reply', x = .done ⟨l.port, b'⟩ reply
    ∧ y = .done ⟨o.port, o.context.at link'⟩ reply' ∧ observe reply = observe reply'
    ∧ Alike b' link'

/-- The port adds nothing that can be seen to what the backend returns. -/
theorem Agree.seenAlike {α : Type} {f : LoopbackBackend → α × LoopbackBackend}
    {p : Process Wait (fun _ => Wake × VirtualLink) Context α}
    {reply : α → Core.Reply Unit Empty} {reply' : α → Reply}
    (h : Agree f p l.context o.context)
    (hreply : ∀ out, observe (reply out) = observe (reply' out)) :
    SeenAlike ((onContext (modifyGet f) l).bind fun out o => .done o (reply out))
      ((onContext p o).bind fun out o => .done o (reply' out)) l o := by
  obtain ⟨out, b', link', hloop, hsim, halike⟩ := h
  have hdone : (modifyGet f : Process Empty Empty.elim LoopbackBackend α) l.context
      = .done b' out := by
    show Step.done (f _).2 (f _).1 = _
    rw [hloop]
  rw [onContext_done hdone, onContext_done hsim]
  exact ⟨b', link', reply out, reply' out, rfl, rfl, hreply out, halike⟩

/-- **A transfer does the same on both**, from the port. -/
theorem Alike.transfer (fuel : Nat) (h : Alike l.context o.context.link)
    (hlink : o.context.backend.link.isSome = true) (hl : l.port.locallyStarted = true)
    (ho : o.port.locallyStarted = true) (t : Transfer)
    (hend : o.context.backend.endpointIndex = t.end) :
    SeenAlike (Loopback.Call.code t.call l) (code (fuel + 1) t.call o) l o := by
  cases t with
  | send packet =>
    cases packet with
    | none => exact ⟨_, _, _, _, rfl, rfl, rfl, h⟩
    | some packet =>
      show SeenAlike ((spwPortSend _ _ _ l).bind _) ((spwPortSend _ _ _ o).bind _) l o
      rw [spwPortSend_started _ hl, spwPortSend_started _ ho]
      by_cases hdata : packet.length ≠ 0 ∧ packet.data.isNone
      · rw [if_pos hdata, if_pos hdata]
        exact ⟨_, _, _, _, rfl, rfl, rfl, h⟩
      rw [if_neg hdata, if_neg hdata]
      by_cases hpacket : validTerminator packet.terminator = false
          ∨ (packet.capacity ≠ 0 ∧ packet.capacity < packet.length)
      · rw [if_pos hpacket, if_pos hpacket]
        exact ⟨_, _, _, _, rfl, rfl, rfl, h⟩
      rw [if_neg hpacket, if_neg hpacket]
      rw [not_or, Bool.not_eq_false] at hpacket
      exact (h.send fuel hlink hend ⟨hpacket.1, hdata, hpacket.2⟩).seenAlike fun _ => rfl
  | receive buffer =>
    cases buffer with
    | none => exact ⟨_, _, _, _, rfl, rfl, rfl, h⟩
    | some buffer =>
      show SeenAlike ((spwPortReceive _ _ _ l).bind _) ((spwPortReceive _ _ _ o).bind _) l o
      rw [spwPortReceive_started _ hl, spwPortReceive_started _ ho]
      by_cases hdata : buffer.capacity ≠ 0 ∧ buffer.hasData = false
      · rw [if_pos hdata, if_pos hdata]
        exact ⟨_, _, _, _, rfl, rfl, rfl, h⟩
      rw [if_neg hdata, if_neg hdata]
      exact (h.receive fuel hlink hend buffer).seenAlike fun _ => rfl
  | sendTimeCode code =>
    cases code with
    | none => exact ⟨_, _, _, _, rfl, rfl, rfl, h⟩
    | some code =>
      show SeenAlike ((spwPortSendTimeCode _ _ _ l).bind _) ((spwPortSendTimeCode _ _ _ o).bind _)
        l o
      rw [spwPortSendTimeCode_started _ hl, spwPortSendTimeCode_started _ ho]
      by_cases hcode : validTimeCode code = false
      · rw [if_pos hcode, if_pos hcode]
        exact ⟨_, _, _, _, rfl, rfl, rfl, h⟩
      rw [if_neg hcode, if_neg hcode]
      exact (h.sendCode fuel hlink hend (by simpa using hcode)).seenAlike fun _ => rfl
  | receiveTimeCode hasCode =>
    cases hasCode with
    | false => exact ⟨_, _, _, _, rfl, rfl, rfl, h⟩
    | true =>
      show SeenAlike ((spwPortReceiveTimeCode _ _ _ l).bind _)
        ((spwPortReceiveTimeCode _ _ _ o).bind _) l o
      rw [spwPortReceiveTimeCode_started _ hl, spwPortReceiveTimeCode_started _ ho]
      exact (h.receiveCode fuel hlink hend).seenAlike fun _ => rfl

/-! ## Runs -/

/-- **A run on a loopback port**: what is seen of each call, and nothing of one that has not
returned. -/
def loopbackRun (l : Opened LoopbackBackend) :
    List Transfer → List (Option Observed) × Opened LoopbackBackend
  | [] => ([], l)
  | t :: ts =>
    match Loopback.Call.code t.call l with
    | .done l' reply =>
      (some (observe reply) :: (loopbackRun l' ts).1, (loopbackRun l' ts).2)
    | .ask l' _ _ => (none :: (loopbackRun l' ts).1, (loopbackRun l' ts).2)
    | .hang l' => (none :: (loopbackRun l' ts).1, (loopbackRun l' ts).2)

/-- What is seen of an action. -/
def Outcome.observed : Outcome → Option Observed
  | .returned _ _ reply => some (observe reply)
  | _ => none

/-- **A run on two ports of the simulator**, one of which sends and the other receives. -/
def pairRun (fuel sender receiver : Nat) (w : World) :
    List Transfer → List (Option Observed) × World
  | [] => ([], w)
  | t :: ts =>
    let next := w.step fuel (.call (t.port sender receiver) t.call)
    (next.2.observed :: (pairRun fuel sender receiver next.1 ts).1,
      (pairRun fuel sender receiver next.1 ts).2)

/-- A port that rests and was started, at an end of a link. -/
def World.Ready (w : World) (port : Nat) (i : LinkIndex) (e : EndpointIndex) : Prop :=
  ∃ o, w.ports port = some (.idle o) ∧ o.port.locallyStarted = true
    ∧ o.context.backend.link = some i ∧ o.context.backend.endpointIndex = e

/-- **A loopback port that was started and a pair that runs**, with the same queued and the
same counted. -/
structure PairAlike (l : Opened LoopbackBackend) (w : World) (sender receiver : Nat)
    (i : LinkIndex) : Prop where
  started : l.port.locallyStarted = true
  distinct : sender ≠ receiver
  sending : w.Ready sender i 0
  receiving : w.Ready receiver i 1
  alike : Alike l.context (w.registry i)

/-- A call that returned has changed its own port and its link. -/
theorem step_of_done {port : Nat} {call : Call} {reply : Reply} {link' : VirtualLink}
    (hport : w.ports port = some (.idle o)) (hlink : o.context.backend.link = some i)
    (hcode : code fuel call (seeing o (w.registry i)) = .done ⟨o.port, o.context.at link'⟩ reply) :
    w.step fuel (.call port call) = (⟨Function.update w.registry i link',
      Function.update w.ports port (some (.idle ⟨o.port, o.context.at link'⟩))⟩,
      .returned port call reply) := by
  have hseen : w.registry.lock o = seeing o (w.registry i) := by
    simp [Registry.lock, Registry.seenBy, hlink, seeing, Context.at]
  rw [World.step, hport]
  dsimp only
  rw [hseen, hcode]
  simp [World.settle, Registry.unlock, hlink]

/-- **A transfer keeps the pair and the loopback port alike**, and is seen the same. -/
theorem PairAlike.step (fuel : Nat) (h : PairAlike l w sender receiver i) (t : Transfer) :
    ∃ l' reply, Loopback.Call.code t.call l = .done l' reply
      ∧ (w.step (fuel + 1) (.call (t.port sender receiver) t.call)).2.observed
        = some (observe reply)
      ∧ PairAlike l' (w.step (fuel + 1) (.call (t.port sender receiver) t.call)).1
          sender receiver i := by
  have hready : w.Ready (t.port sender receiver) i t.end := by
    cases t with
    | send | sendTimeCode => exact h.sending
    | receive | receiveTimeCode => exact h.receiving
  obtain ⟨o, hport, hstarted, hlink, hend⟩ := hready
  obtain ⟨b', link', reply, reply', hloop, hsim, hobserved, halike⟩ :=
    Alike.transfer fuel (o := seeing o (w.registry i)) h.alike
      (by rw [show (seeing o (w.registry i)).context.backend.link = some i from hlink]; rfl)
      h.started hstarted t hend
  have hstep := step_of_done hport hlink hsim
  refine ⟨_, reply, hloop, by rw [hstep, hobserved]; rfl, ?_⟩
  rw [hstep]
  have hkept : ∀ port e, w.Ready port i e → World.Ready ⟨Function.update w.registry i link',
      Function.update w.ports (t.port sender receiver)
        (some (.idle ⟨o.port, o.context.at link'⟩))⟩ port i e := by
    rintro port e ⟨o₁, hport₁, hstarted₁, hlink₁, hend₁⟩
    by_cases hp : port = t.port sender receiver
    · subst hp
      obtain rfl : o = o₁ := by simpa using hport.symm.trans hport₁
      exact ⟨_, Function.update_self .., hstarted₁, hlink₁, hend₁⟩
    · exact ⟨o₁, (Function.update_of_ne hp ..).trans hport₁, hstarted₁, hlink₁, hend₁⟩
  refine ⟨h.started, h.distinct, hkept _ _ h.sending, hkept _ _ h.receiving, ?_⟩
  show Alike b' (Function.update w.registry i link' i)
  rw [Function.update_self]
  exact halike

/-- A run keeps the pair and the loopback port alike, and is seen the same. -/
theorem PairAlike.run (fuel : Nat) (h : PairAlike l w sender receiver i) (ts : List Transfer) :
    (pairRun (fuel + 1) sender receiver w ts).1 = (loopbackRun l ts).1
    ∧ (∀ seen ∈ (loopbackRun l ts).1, seen.isSome = true)
    ∧ PairAlike (loopbackRun l ts).2 (pairRun (fuel + 1) sender receiver w ts).2
        sender receiver i := by
  induction ts generalizing l w with
  | nil => exact ⟨rfl, by simp [loopbackRun], h⟩
  | cons t ts ih =>
    obtain ⟨l', reply, hloop, hobserved, hnext⟩ := h.step fuel t
    obtain ⟨hsame, hall, hfinal⟩ := ih hnext
    rw [pairRun, loopbackRun, hloop]
    dsimp only
    refine ⟨by rw [hobserved, hsame], ?_, hfinal⟩
    intro seen hseen
    rcases List.mem_cons.mp hseen with rfl | hseen
    · rfl
    · exact hall seen hseen

/-- **A loopback port and a pair of simulator ports cannot be told apart** by transfers that do
not wait, whatever their arguments: every call returns, and returns the same on both; and the
loopback port counts what the sender has sent and the receiver received. -/
theorem loopback_pair_indistinguishable (fuel : Nat) {l : Opened LoopbackBackend} {w : World}
    {sender receiver : Nat} {i : LinkIndex} (h : PairAlike l w sender receiver i)
    (ts : List Transfer) :
    (pairRun (fuel + 1) sender receiver w ts).1 = (loopbackRun l ts).1
    ∧ (∀ seen ∈ (loopbackRun l ts).1, seen.isSome = true)
    ∧ CountsTransfers (loopbackRun l ts).2.context.statistics
        (((pairRun (fuel + 1) sender receiver w ts).2.registry i).endpoints 0).statistics
        (((pairRun (fuel + 1) sender receiver w ts).2.registry i).endpoints 1).statistics := by
  obtain ⟨hsame, hall, hfinal⟩ := h.run fuel ts
  exact ⟨hsame, hall, hfinal.alike.counts⟩

/-- A loopback port that was opened and started. -/
def startedLoopback : Opened LoopbackBackend :=
  ⟨{ Port.opened with locallyStarted := true },
    (Loopback.loopbackStart Loopback.loopbackConstruct).2⟩

/-- A loopback port and two ports of a link that were opened and started are alike. -/
theorem pairAlike_fresh :
    PairAlike startedLoopback (World.after 1 startPair) 0 1 ⟨0, by decide⟩ := by
  refine ⟨rfl, by decide, ⟨_, rfl, rfl, rfl, rfl⟩, ⟨_, rfl, rfl, rfl, rfl⟩, ?_⟩
  refine alike_of_ends rfl rfl rfl ⟨rfl, rfl⟩ ⟨rfl, rfl⟩ ?_ ?_ ⟨rfl, rfl, rfl, rfl, rfl, rfl⟩
  · exact ⟨.zeroed _ (by decide), .zeroed _ (by decide), rfl⟩
  · exact ⟨.zeroed _ (by decide), .zeroed _ (by decide), rfl⟩

/-- Two packets that are sent, and received in a buffer that is too small at first. -/
def sampleTransfers : List Transfer :=
  [.send (some ⟨⟨some fun _ => 7, 3, Terminator.eop.toByte⟩, 0⟩),
    .send (some ⟨⟨none, 0, Terminator.eep.toByte⟩, 0⟩), .receive (some ⟨true, 2⟩),
    .receive (some ⟨true, 3⟩), .receive (some ⟨false, 0⟩), .receive (some ⟨true, 8⟩)]

theorem loopback_pair_indistinguishable_fresh :
    PairAlike startedLoopback (World.after 1 startPair) 0 1 ⟨0, by decide⟩
    ∧ (pairRun 1 0 1 (World.after 1 startPair) sampleTransfers).1
      = (loopbackRun startedLoopback sampleTransfers).1 :=
  ⟨pairAlike_fresh, (loopback_pair_indistinguishable 0 pairAlike_fresh sampleTransfers).1⟩

end Simulator
