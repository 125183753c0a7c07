import SpwKit.Ethernet.RetryExhaustion
import SpwKit.Ethernet.UdpPort
import SpwKit.Vspwd.BridgeRelay

/-!
# The head of the bridge

The bridge offers the head of its queues to the UDP port on every pass, and an item
that is refused stays where it is. What a client may queue was checked by the device
protocol, what the port takes is checked by the port, and an item that passes the
first check and not the second is offered for ever.

The two agree on packets. Of a time code the device protocol lets any two bits of
control flags through, the port only flags that are zero. `bridge_head_accepted`
therefore is about runs in which the clients send no flags: whatever is queued then is
accepted once the UDP port has a free slot and a current peer. A single time code with a
flag blocks those behind it (`flagged_head_refused`).
-/

open Vspd BigEndian Core Interactive

namespace Vspwd

/-! ## What is offered -/

/-- The packet `vspwd_bridge_pop_packet` hands in. -/
def PacketSlot.offered (slot : PacketSlot) : PortPacket where
  data := some (byteAt slot.data)
  length := slot.data.length
  capacity := slot.data.length
  terminator := slot.terminator.toByte

/-- The call of `vspwd_bridge_pop_packet`. -/
def offerPacket (fuel : Nat) (slot : PacketSlot) :
    Process UdpRequest UdpRequest.Answer (Opened UdpBackend) Result :=
  spwPortSend (udpOps fuel) (some slot.offered) timeoutImmediate

/-- The call of `vspwd_bridge_pop_time_code`. -/
def offerTimeCode (fuel : Nat) (code : TimeCode) :
    Process UdpRequest UdpRequest.Answer (Opened UdpBackend) Result :=
  spwPortSendTimeCode (udpOps fuel) (some code) timeoutImmediate

/-- **A UDP port that is ready for an event**: it was started, its slot is free, its peer
is there and stays there, and the socket takes what is sent. -/
structure RemoteReady (oracle : UdpOracle) (o : Opened UdpBackend) :
    Prop where
  started : o.port.locallyStarted = true
  recovered : o.context.Recovered
  current : UdpBackend.PeerStays oracle o.context
  sends : ∀ n bytes, oracle n (.sendto bytes) = SendAnswer.sent

/-- A call on a port that returns success, whatever was answered before it, and starts no
session on the way. -/
def Accepted (oracle : UdpOracle) (o : Opened UdpBackend)
    (call : Process UdpRequest UdpRequest.Answer (Opened UdpBackend) Result) : Prop :=
  ∀ n, Step.Ends oracle Usual (fun _ result _ => result = .ok) n (call o)

section Ready

variable {oracle : UdpOracle} {o : Opened UdpBackend}

theorem RemoteReady.accepts_packet (h : RemoteReady oracle o) (fuel : Nat) {slot : PacketSlot}
    (hlength : slot.data.length ≤ udpMaxPacketSize) :
    Accepted oracle o (offerPacket (fuel + 1) slot) := by
  have hterminator : Terminator.ofByte slot.offered.terminator = some slot.terminator :=
    Terminator.ofByte_toByte slot.terminator
  intro n
  rw [offerPacket, spwPortSend_started _ h.started, if_neg (by simp [PacketSlot.offered]),
    if_neg (by simp [validTerminator, PacketSlot.offered])]
  refine Step.Ends.within (((UdpBackend.comes_udpSend h.sends h.recovered h.current fuel
    timeoutImmediate ?_ ?_ ?_).ends n).mono (fun _ _ _ ⟨_, hr⟩ => hr))
  · exact Option.isSome_of_eq_some hterminator
  · exact fun _ => rfl
  · exact hlength

theorem RemoteReady.accepts_timeCode (h : RemoteReady oracle o) (fuel : Nat) {code : TimeCode}
    (hcode : validTimeCode code = true) : Accepted oracle o (offerTimeCode (fuel + 1) code) := by
  intro n
  rw [offerTimeCode, spwPortSendTimeCode_started _ h.started, if_neg (by simp [hcode])]
  exact Step.Ends.within (((UdpBackend.comes_udpSendTimeCode h.sends h.recovered h.current fuel
    timeoutImmediate (valid_of_validTimeCode hcode)).ends n).mono (fun _ _ _ ⟨_, hr⟩ => hr))

end Ready

/-! ## Runs without flags -/

/-- A record that is a time code has no control flags. -/
def flagFree (frame : Bytes) : Bool :=
  match validateFrame frame with
  | .ok request =>
    decide (request.type ≠ MessageType.timeCodeTx.toByte) || byteAt (payloadOf frame) 1 == 0
  | .error _ => true

/-- A record that a client sends in an action is flag free. -/
def Action.flagFree : Action → Bool
  | .receive _ (.record frame) => Vspwd.flagFree frame
  | _ => true

variable {a : Action} {d : Daemon} {p : PortId}

theorem granted_eq_some {s : Server} {i : ClientIndex} {frame : Bytes} {request : Header}
    (h : granted s i frame = some request) : validateFrame frame = .ok request := by
  unfold granted at h
  split at h
  · next request' response hrequest hresponse =>
    split_ifs at h
    obtain rfl := Option.some.inj h
    exact hrequest
  · cases h

/-- A time code that is acknowledged in a flag-free action has no flags. -/
theorem acknowledgedTimeCode_flags (ha : a.flagFree = true) {code : TimeCode}
    (h : acknowledgedTimeCode d a = some code) : code.controlFlags = 0 := by
  cases a with
  | receive i answer =>
    cases answer with
    | record frame =>
      simp only [acknowledgedTimeCode, grantedBy] at h
      split_ifs at h with hhandles
      cases hgranted : granted (d.server.step (.receive i (.record frame))) i frame with
      | none => simp [hgranted] at h
      | some request =>
        simp only [hgranted, Option.map_some] at h
        split_ifs at h with htype
        obtain rfl := Option.some.inj h
        simpa [Action.flagFree, flagFree, granted_eq_some hgranted, htype] using ha
    | _ => simp [acknowledgedTimeCode, grantedBy] at h
  | _ => simp [acknowledgedTimeCode, grantedBy] at h

/-- The bridge is at a port, at which no time code with a flag is queued. -/
structure FlagFreeAt (p : PortId) (d : Daemon) : Prop where
  bridged : BridgedAt p d
  codes : ∀ code ∈ (d.server.ports p).timeCodes.toList, code.controlFlags = 0

theorem FlagFreeAt.step (h : FlagFreeAt p d) (ha : a.flagFree = true) :
    FlagFreeAt p (d.step a) := by
  refine ⟨h.bridged.step a, fun code hcode => ?_⟩
  -- what is queued afterwards was queued before or has just been acknowledged
  have hmem := List.mem_append_right (sentTimeCode (d.server.calls a)).toList hcode
  rw [(h.bridged.stepQueues a).codes, List.mem_append, Option.mem_toList] at hmem
  obtain hbefore | hack := hmem
  · exact h.codes code hbefore
  · exact acknowledgedTimeCode_flags ha hack

theorem FlagFreeAt.run {m : BridgedDaemon} (h : FlagFreeAt p m.daemon) {actions : List Action}
    (hfree : ∀ a ∈ actions, a.flagFree = true) : FlagFreeAt p (m.run actions).daemon := by
  induction actions generalizing m with
  | nil => exact h
  | cons a rest ih =>
    rw [List.forall_mem_cons] at hfree
    exact ih (h.step hfree.1) hfree.2

theorem FlagFreeAt.initial (p : PortId) (answer : Option LinkState) :
    FlagFreeAt p (BridgedDaemon.initial p answer).daemon := by
  have haccounts := Accounts.initial p answer
  refine ⟨haccounts.bridged, fun code hcode => ?_⟩
  have hnone : ((BridgedDaemon.initial p answer).daemon.server.ports p).timeCodes.toList = [] :=
    haccounts.codes
  simp [hnone] at hcode

theorem FlagFreeAt.validTimeCode (h : FlagFreeAt p d) {code : TimeCode}
    (hcode : code ∈ (d.server.ports p).timeCodes.toList) : validTimeCode code = true := by
  have hvalid := (h.bridged.kept.sound.ports p).2 code hcode
  rw [TimeCode.valid, Bool.and_eq_true] at hvalid
  rw [Core.validTimeCode, hvalid.1, h.codes code hcode]
  rfl

/-- **Nothing blocks the head of the bridge.** In a run in which no client sends a time code
with control flags, whatever else the clients do and the remote link answers: each packet
queued at the bridged port is of at most the largest length, each time code is one the port
takes, and a UDP port that has a free slot and a current peer accepts the one and the
other. -/
theorem bridge_head_accepted (p : PortId) (answer : Option LinkState) (actions : List Action)
    (hfree : ∀ a ∈ actions, a.flagFree = true) :
    let port := ((BridgedDaemon.initial p answer).run actions).daemon.server.ports p
    (∀ slot ∈ port.packets.toList,
        slot.data.length ≤ udpMaxPacketSize ∧ validTerminator slot.offered.terminator = true
          ∧ ∀ oracle o, RemoteReady oracle o → ∀ fuel,
            Accepted oracle o (offerPacket (fuel + 1) slot))
      ∧ ∀ code ∈ port.timeCodes.toList,
        validTimeCode code = true ∧ ∀ oracle o, RemoteReady oracle o → ∀ fuel,
          Accepted oracle o (offerTimeCode (fuel + 1) code) := by
  intro port
  have h := (FlagFreeAt.initial p answer).run hfree
  refine ⟨fun slot hslot => ?_, fun code hcode => ?_⟩
  · have hlength := ((h.bridged.kept.sound.ports p).1 slot hslot).length_le
    refine ⟨hlength, ?_, fun oracle o hready fuel => hready.accepts_packet fuel hlength⟩
    show (Terminator.ofByte slot.terminator.toByte).isSome = true
    rw [Terminator.ofByte_toByte]
    rfl
  · have hvalid := h.validTimeCode hcode
    exact ⟨hvalid, fun oracle o hready fuel => hready.accepts_timeCode fuel hvalid⟩

/-- A client attaches to port 0 of a daemon whose port 1 is bridged, and starts it. -/
def bridgedLink : List Action :=
  connect 0 7 ++ exchange 0 (requestRecord .attach 2 0 [])
    ++ exchange 0 (requestRecord .start 3 0 [])

/-- The UDP port of the recovered backend. -/
def remoteSample : Opened UdpBackend := ⟨⟨true, 1⟩, UdpBackend.recoveredSample⟩

theorem remoteSample_ready :
    RemoteReady (fun _ => replyAt 60000 (sampleKeepalive 2 7)) remoteSample where
  started := rfl
  recovered :=
    ⟨by decide, rfl, rfl, by decide, fun _ _ => rfl, rfl, fun event size => rfl, rfl, rfl⟩
  current n now hnow := by
    obtain rfl : now = 60000 := hnow
    decide
  sends _ _ := rfl

/-- A packet and a time code wait for the remote link and are accepted. -/
theorem bridge_head_accepted_waiting :
    let actions := bridgedLink ++ exchange 0 (dataRecord 4 0 [1, 2, 3])
      ++ exchange 0 (requestRecord .timeCodeTx 5 0 [9, 0])
    let port := ((BridgedDaemon.initial 1 (some .run)).run actions).daemon.server.ports 1
    port.queued = [⟨[1, 2, 3], .eop⟩] ∧ port.timeCodes.toList = [⟨9, 0⟩]
      ∧ Accepted (fun _ => replyAt 60000 (sampleKeepalive 2 7)) remoteSample
        (offerTimeCode 3 ⟨9, 0⟩) := by
  intro actions port
  have hcodes : port.timeCodes.toList = [⟨9, 0⟩] := by decide +kernel
  refine ⟨by decide +kernel, hcodes, ?_⟩
  have hfree : ∀ a ∈ actions, a.flagFree = true := by decide +kernel
  have hhead := (bridge_head_accepted 1 (some .run) actions hfree).2 ⟨9, 0⟩
    (by rw [hcodes]; exact List.mem_singleton_self _)
  exact hhead.2 _ _ remoteSample_ready 2

/-- **A time code with a flag is never accepted.** The client's request is granted and the
time code is at the head of the bridged port's queue; the port refuses it in whatever state it
is, and a pass that offers it leaves it where it is. -/
theorem flagged_head_refused :
    let actions := bridgedLink ++ exchange 0 (requestRecord .timeCodeTx 4 0 [9, 1])
    let m := (BridgedDaemon.initial 1 (some .run)).run actions
    m.log.acknowledgedCodes = [⟨9, 1⟩]
      ∧ (m.daemon.server.ports 1).timeCodes.front = some ⟨9, 1⟩
      ∧ m.daemon.server.bridge.map Bridge.state = some .run
      ∧ (∀ fuel o, offerTimeCode fuel ⟨9, 1⟩ o = .done o .invalidArgument)
      ∧ bridgePopTimeCode m.daemon.server false
        = (some (.sendTimeCode ⟨9, 1⟩ false), m.daemon.server) := by
  intro actions m
  have hcall : (bridgePopTimeCode m.daemon.server false).1
      = some (.sendTimeCode ⟨9, 1⟩ false) := by decide +kernel
  refine ⟨by decide +kernel, by decide +kernel, by decide +kernel, fun _ _ => rfl, ?_⟩
  obtain ⟨hsame, -⟩ | hmove := bridge_cases m.daemon.server (a := .bridgePopTimeCode false) rfl
  · exact Prod.ext hcall hsame
  · generalize m.daemon.server.step (.bridgePopTimeCode false) = s' at hmove
    rw [show m.daemon.server.calls (.bridgePopTimeCode false) = _ from hcall] at hmove
    cases hmove

end Vspwd
