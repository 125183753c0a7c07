import SpwKit.Lib.Endpoint
import SpwKit.Device.DeviceCalls
import SpwKit.Device.FrameGrammar

/-!
# What a device port writes

The daemon closes the connection of a client at the first record it does not accept, so
whatever a port writes has to be a legal record. The numbers of requests and messages are
counters of 32 bits that the backend increments without looking, and no record with the
number 0 is legal: the daemon skips 0 when its own counters wrap, the backend does not.

`written_frames_legal` is about runs in which neither counter is found at 0: then every
record is legal, over any number of calls and connections. `wrapped_request_illegal` is the
record that a port writes after its request counter has wrapped.
-/

open Vspd BigEndian Interactive

namespace Device

/-! ## Records of requests -/

variable {c : Context} {fuel n : Nat} {requestId : UInt32}

/-- **The record of a request is legal**, if its number is not 0. -/
theorem validateFrame_requestRecord {portId : UInt32} {type : MessageType} {payload : Bytes}
    (hid : requestId ≠ 0) (hevent : type.isEvent = false) (hdata : type.isData = false)
    (hsize : payload.length = type.messageSize) (hfits : type.MessageFits payload) :
    validateFrame (headerBytes (requestHeader portId type payload requestId) ++ payload)
      = .ok (requestHeader portId type payload requestId) := by
  have hlen : payload.length ≤ maxFramePayload := by
    rw [hsize]
    cases type <;> decide
  have hnat : (UInt32.ofNat payload.length).toNat = payload.length := by
    have hlt : maxFramePayload < 2 ^ 32 := by decide
    rw [UInt32.toNat_ofNat']
    exact Nat.mod_eq_of_lt (hlen.trans_lt hlt)
  have hflags : (requestHeader portId type payload requestId).flags = 0 := rfl
  have hnone : ∀ flag, (requestHeader portId type payload requestId).has flag = false := by
    intro flag
    rw [Header.has, hflags]
    simp
  rw [validateFrame_eq_ok_iff]
  refine ⟨(readHeader_headerBytes _ _).symm, ?_, rfl, rfl, rfl, rfl, rfl, ?_, ?_, ?_⟩
  · rw [List.length_append, headerBytes_length]
    exact congrArg (headerSize + ·) hnat.symm
  · rw [hflags]
    decide
  · exact hnat.trans_le hlen
  · rw [payloadOf_append]
    exact .message type rfl (hnone _) (by simp [hevent, hid, requestHeader]) rfl hdata
      ⟨hnone _, hnone _, hnone _, hnone _, rfl, rfl, rfl⟩ hsize hfits

/-- The calls that the port lets through: packets of at most the advertised length, and
valid time codes. -/
def Call.Admitted : Call → Prop
  | .send packet _ => packet.bytes.length ≤ maxLogicalPacket
  | .sendTimeCode code _ => code.valid = true
  | _ => True

/-- The requests of a call on a connected port. -/
theorem Sends.legal {call : Call} {type : MessageType} {payload : Bytes}
    (h : Sends call type payload) (hcall : call.Admitted) (portId : UInt32) (hid : requestId ≠ 0) :
    validateFrame (headerBytes (requestHeader portId type payload requestId) ++ payload)
      = .ok (requestHeader portId type payload requestId) := by
  cases h with
  | sendTimeCode code timeoutUs =>
    have hvalid : code.valid = true := hcall
    rw [TimeCode.valid, Bool.and_eq_true, decide_eq_true_eq, decide_eq_true_eq] at hvalid
    exact validateFrame_requestRecord hid rfl rfl rfl hvalid
  | _ => exact validateFrame_requestRecord hid rfl rfl rfl trivial

/-- The requests that make a connection. -/
theorem Connects.legal {type : MessageType} {payload : Bytes} (h : Connects type payload)
    (portId : UInt32) (hid : requestId ≠ 0) :
    validateFrame (headerBytes (requestHeader portId type payload requestId) ++ payload)
      = .ok (requestHeader portId type payload requestId) := by
  cases h with
  | hello => exact validateFrame_requestRecord hid rfl rfl rfl rfl
  | _ => exact validateFrame_requestRecord hid rfl rfl rfl trivial

/-! ## Runs of a port -/

/-- What an application and the environment of a port do. -/
inductive PortAction
  /-- A call is made. -/
  | call (call : Call)
  /-- The open request is answered. -/
  | answer (reply : (q : Request) → q.Answer)

/-- A call that is made is one the port lets through. -/
def PortAction.Admitted : PortAction → Prop
  | .call c => c.Admitted
  | .answer _ => True

/-- A device port, with the calls that have returned. The call that opens it has no name. -/
abbrev DevicePort := Endpoint Request Request.Answer Context Unit (Option Call) Result

/-- Neither counter is at 0. -/
def Context.Counted (c : Context) : Prop := c.nextRequestId ≠ 0 ∧ c.nextMessageId ≠ 0

instance (c : Context) : Decidable c.Counted := inferInstanceAs (Decidable (_ ∧ _))

namespace DevicePort

variable (fuel : Nat)

/-- The code of a call. -/
def code : Option Call → Program Result
  | none => deviceConstruct fuel
  | some call => call.code fuel

/-- A port that is being opened. -/
def opening (portId : UInt32) : DevicePort :=
  Endpoint.advance ⟨.idle (Context.initial portId), (), []⟩ () none
    (deviceConstruct fuel (Context.initial portId))

/-- **One action.** What cannot happen changes nothing. -/
def step (p : DevicePort) : PortAction → DevicePort
  | .call call => (p.begin (code fuel) (some call)).getD p
  | .answer reply => (p.answer (fun _ _ _ _ => some ()) reply).getD p

/-- **The runs in which neither counter is found at 0**, with any calls and any answers. -/
inductive Runs (portId : UInt32) : DevicePort → Prop
  | opening : Runs portId (opening fuel portId)
  | step {p : DevicePort} (h : Runs portId p) (hcounted : p.state.Counted) (a : PortAction)
      (ha : a.Admitted) : Runs portId (p.step fuel a)

end DevicePort

/-! ## The invariant -/

/-- The records written so far are legal, and the counters are looked at before each
answer. -/
def writing : Setting Request Request.Answer Context Unit Unit where
  inv c _ _ := ∀ frame ∈ c.history.sent, ∃ header, validateFrame frame = .ok header
  answers c _ _ _ _ _ := c.Counted

/-- What is known of the next record at each stage. -/
def WritesLegal : Stage → Context → Unit → Prop
  | .quiet, c, _ | .answered _ _ _, c, _ => c.Counted
  | .request _ _ record, _, _ => ∃ header, validateFrame record = .ok header
  | .fragment cut offset, _, _ => cut.Valid ∧ cut.Starts offset
  | .awaits _ _, _, _ => True

theorem counted_afterEvent (header : Header) (frame : Bytes) (h : c.Counted) :
    (c.afterEvent header frame).Counted := by
  have hsession := processEvent_session c header (payloadOf frame)
  simp only [Context.session, Prod.mk.injEq] at hsession
  exact ⟨hsession.2.2.1 ▸ h.1, hsession.2.2.2.1 ▸ h.2⟩

theorem afterEvent_sent (c : Context) (header : Header) (frame : Bytes) :
    (c.afterEvent header frame).history.sent = c.history.sent := by
  have hsession := processEvent_session c header (payloadOf frame)
  simp only [Context.session, Prod.mk.injEq] at hsession
  show (processEvent c header (payloadOf frame)).2.history.sent = _
  rw [hsession.2.2.2.2.2]

/-- A record is added to those written. -/
theorem writing_noteSent {o o' e : Unit} {frame : Bytes} (hi : writing.inv c o e)
    (hframe : ∃ header, validateFrame frame = .ok header) :
    writing.inv (c.noteSent frame) o' e := by
  intro f hf
  obtain hf | hf := List.mem_append.mp hf
  · exact hi f hf
  · rw [List.mem_singleton.mp hf]
    exact hframe

/-- **What a port writes is legal** as long as its counters are not at 0. -/
def writer (call : Call) (hcall : call.Admitted) : Client writing call where
  holds := WritesLegal
  lost _ _ := True
  idle hg hi _ _ := ⟨hi, hg⟩
  broken _ hi _ _ := ⟨hi, trivial⟩
  request {c} _ _ _ _ hc hi hsends := ⟨hi, _, hsends.legal hcall c.portId hc.1⟩
  packet {c} _ _ packet _ hc hi hsend := by
    subst hsend
    exact ⟨hi, ⟨hcall, hc.2, .inl ⟨rfl, hc.1⟩⟩, Fragmentation.starts_zero _⟩
  sentRequest hg hi _ := ⟨writing_noteSent hi hg, trivial⟩
  sentFragment {c o e cut offset frame o'} hg hi hframe _ := by
    obtain ⟨hok, hvalid⟩ := Fragmentation.frame_eq_ok hg.1 hg.2
    rw [hok] at hframe
    cases hframe
    refine ⟨writing_noteSent hi ⟨_, hvalid⟩, ?_⟩
    split_ifs with hfinal
    · trivial
    · rw [Bool.not_eq_true] at hfinal
      exact ⟨hg.1, Fragmentation.Starts.next hg.1.length_le hg.2 hfinal⟩
  event {g c o e bytes header o'} hreads _ hi hr _ _ _ := by
    refine ⟨fun frame hframe => hi frame ?_, ?_⟩
    · rwa [afterEvent_sent] at hframe
    · cases g with
      | quiet => exact counted_afterEvent header _ hr
      | awaits => trivial
      | _ => cases hreads
  response _ hi hr _ _ _ _ _ := ⟨hi, hr⟩
  stray _ _ hi _ _ _ := ⟨hi, hi, trivial⟩
  rest _ h := h
  close _ hi _ := hi
  closed _ hi _ := hi
  change hchange hc hi := by cases hchange <;> exact ⟨hi, hc⟩

theorem writer_reconnects (call : Call) (hcall : call.Admitted) :
    (writer call hcall).Reconnects where
  lost _ := trivial
  refused hi _ := hi
  connect hc _ _ := ⟨fun _ hframe => absurd hframe List.not_mem_nil, hc⟩
  request {c} _ _ _ _ hc hi hconnects := ⟨hi, _, hconnects.legal c.portId hc.1⟩
  attach hc hi := ⟨hi, hc⟩
  capabilities _ hc hi := ⟨hi, hc⟩
  destroy _ hi _ := hi
  destroyed _ hi := hi

/-! ## Every run -/

/-- The invariant of a port. -/
abbrev WritesOnlyLegal (p : DevicePort) : Prop := p.Holds writing (fun _ _ _ => True) ()

theorem WritesOnlyLegal.opening (fuel : Nat) (portId : UInt32) :
    WritesOnlyLegal (DevicePort.opening fuel portId) := by
  refine Endpoint.holds_advance ?_
  have hquiet : (Context.initial portId).Counted :=
    ⟨show (1 : UInt32) ≠ 0 by decide, show (1 : UInt32) ≠ 0 by decide⟩
  exact (Client.triple_deviceConstruct (writer_reconnects .start trivial) fuel _ () () hquiet
    (fun _ hframe => absurd hframe List.not_mem_nil)).mono (fun _ _ _ _ h => ⟨h.1, trivial⟩)

variable {p : DevicePort}

theorem WritesOnlyLegal.step (h : WritesOnlyLegal p) (hcounted : p.state.Counted) {a : PortAction}
    (ha : a.Admitted) : WritesOnlyLegal (p.step fuel a) := by
  cases a with
  | call call =>
    show WritesOnlyLegal ((p.begin _ _).getD p)
    cases hbegin : p.begin (DevicePort.code fuel) (some call) with
    | none => exact h
    | some p' =>
      refine Endpoint.Holds.begin h hbegin (fun _ => ?_)
      have hcode := Client.triple_code (.inl (writer_reconnects call ha))
        (fun _ hc hi => ⟨hi, hc⟩) fuel
      exact hcode.consequence (fun c _ hc => by rw [hc.1]; exact hcounted) (fun _ _ _ _ => trivial)
  | answer reply =>
    show WritesOnlyLegal ((p.answer _ _).getD p)
    cases hanswer : p.answer (fun _ _ _ _ => some ()) reply with
    | none => exact h
    | some p' => exact Endpoint.Holds.answer h hanswer (fun _ _ _ _ => hcounted)

/-- **Everything a device port writes is a legal record.** In every run of a port, with any
calls that the port lets through, any answers and any number of connections, in which neither
counter is found at 0 before a step: each record it has written is accepted by
`vspd_validate_frame`. -/
theorem written_frames_legal {fuel : Nat} {portId : UInt32} {p : DevicePort}
    (h : DevicePort.Runs fuel portId p) :
    ∀ frame ∈ p.state.history.sent, ∃ header, validateFrame frame = .ok header := by
  have hlegal : WritesOnlyLegal p := by
    induction h with
    | opening => exact .opening fuel portId
    | step h hcounted a ha ih => exact ih.step hcounted ha
  exact hlegal.inv

/-! ## Runs on fixed answers -/

/-- The port after some actions. -/
def DevicePort.run (fuel : Nat) (p : DevicePort) (actions : List PortAction) : DevicePort :=
  actions.foldl (DevicePort.step fuel) p

/-- Neither counter is found at 0 before one of the actions. -/
def DevicePort.counts (fuel : Nat) (p : DevicePort) : List PortAction → Bool
  | [] => true
  | a :: rest => decide p.state.Counted && counts fuel (p.step fuel a) rest

theorem DevicePort.Runs.run {portId : UInt32} (h : DevicePort.Runs fuel portId p)
    {actions : List PortAction} (hcounts : p.counts fuel actions = true)
    (hadmitted : ∀ a ∈ actions, a.Admitted) : DevicePort.Runs fuel portId (p.run fuel actions) := by
  induction actions generalizing p with
  | nil => exact h
  | cons a rest ih =>
    rw [DevicePort.counts, Bool.and_eq_true, decide_eq_true_eq] at hcounts
    rw [List.forall_mem_cons] at hadmitted
    exact ih (h.step hcounts.1 a hadmitted.1) hcounts.2 hadmitted.2

/-- A daemon that takes every record and answers with a response that grants. -/
def granting (type : MessageType) (requestId : UInt32) (payload : Bytes) : (q : Request) → q.Answer
  | .clock => (0 : UInt64)
  | .poll _ _ => PollAnswer.ready
  | .send _ => SendAnswer.sent
  | .recv => ReceiveAnswer.record (headerBytes { Header.ofType type.toByte with
      flags := flagResponse
      payloadSize := UInt32.ofNat payload.length
      requestId := requestId } ++ payload)
  | .connect => ConnectAnswer.connected
  | .close => ()

/-- The answers with which a port connects: the clock and the connection, and a write and a
response for each of three requests. -/
def connecting : List PortAction :=
  List.replicate 4 (.answer (granting .hello 1 helloPayload))
    ++ List.replicate 2 (.answer (granting .attach 2 []))
    ++ List.replicate 2
      (.answer (granting .getCapabilities 3 (encodeCapabilities ⟨0, 0, 0, 0, 0⟩)))

theorem admitted_connecting : ∀ a ∈ connecting, a.Admitted := by
  intro a ha
  simp only [connecting, List.mem_append, List.mem_replicate] at ha
  obtain (⟨-, rfl⟩ | ⟨-, rfl⟩) | ⟨-, rfl⟩ := ha <;> trivial

/-- The port that has connected. -/
def connectedPort : DevicePort := DevicePort.run 3 (.opening 3 0) connecting

/-- The three records of the handshake are legal. -/
theorem written_frames_legal_connected :
    connectedPort.state.history.sent.length = 3
      ∧ ∀ frame ∈ connectedPort.state.history.sent, ∃ header, validateFrame frame = .ok header :=
  ⟨by decide +kernel, written_frames_legal
    (DevicePort.Runs.opening.run (by decide +kernel) admitted_connecting)⟩

/-! ## The counter that wraps -/

/-- The socket takes nothing until the call is out of time. -/
def stalling : (q : Request) → q.Answer
  | .clock => (0 : UInt64)
  | .poll _ _ => PollAnswer.timedOut
  | .send _ => SendAnswer.wouldBlock
  | .recv => ReceiveAnswer.wouldBlock
  | .connect => ConnectAnswer.noSocket
  | .close => ()

/-- A call that times out before anything was written. It has used up a number. -/
def stalledCall : List PortAction :=
  .call .clearStatistics :: List.replicate 4 (.answer stalling)

theorem run_stalledCall (c : Context) (log : List (Option Call × Result)) :
    DevicePort.run 3 ⟨.idle { c with connected := true }, (), log⟩ stalledCall
      = ⟨.idle { c with connected := true, nextRequestId := c.nextRequestId + 1 }, (),
        log ++ [(some .clearStatistics, .timeout)]⟩ := by
  with_unfolding_all rfl

theorem DevicePort.run_append (fuel : Nat) (p : DevicePort) (a b : List PortAction) :
    p.run fuel (a ++ b) = (p.run fuel a).run fuel b := List.foldl_append

/-- Any number of calls that time out. -/
theorem run_stalledCalls (n : Nat) (c : Context) (log : List (Option Call × Result)) :
    ∃ log', DevicePort.run 3 ⟨.idle { c with connected := true }, (), log⟩
        (List.replicate n stalledCall).flatten
      = ⟨.idle { c with connected := true, nextRequestId := c.nextRequestId + UInt32.ofNat n }, (),
        log'⟩ := by
  induction n generalizing c log with
  | zero => exact ⟨log, by simp [DevicePort.run]⟩
  | succ n ih =>
    obtain ⟨log', hrun⟩ := ih { c with nextRequestId := c.nextRequestId + 1 }
      (log ++ [(some .clearStatistics, .timeout)])
    refine ⟨log', ?_⟩
    rw [List.replicate_succ, List.flatten_cons, DevicePort.run_append, run_stalledCall, hrun]
    have hnext : c.nextRequestId + 1 + UInt32.ofNat n = c.nextRequestId + UInt32.ofNat (n + 1) := by
      rw [UInt32.add_assoc, Nat.add_comm n 1, UInt32.ofNat_add]
      rfl
    rw [hnext]

/-- A call whose request is written. -/
def writtenCall : List PortAction :=
  .call .clearStatistics :: List.replicate 2 (.answer (granting .clearStatistics 0 []))

theorem run_writtenCall (c : Context) (log : List (Option Call × Result)) :
    (DevicePort.run 3 ⟨.idle { c with connected := true }, (), log⟩ writtenCall).state.history.sent
      = c.history.sent ++ [c.nextRecord .clearStatistics []] := by
  with_unfolding_all rfl

/-- A connected port whose request counter wraps after so many requests writes the number 0
next. -/
theorem run_wrapped (hidle : p.isIdle = true) (hconnected : p.state.connected = true)
    (hport : p.state.portId = 0) (hwraps : p.state.nextRequestId + UInt32.ofNat n = 0) :
    ∃ frame ∈
      ((p.run 3 (List.replicate n stalledCall).flatten).run 3 writtenCall).state.history.sent,
      ∀ header, validateFrame frame ≠ .ok header := by
  obtain ⟨activity, out, log⟩ := p
  cases activity with
  | busy call x => cases hidle
  | idle c =>
    change c.connected = true at hconnected
    obtain ⟨log', hrun⟩ := run_stalledCalls n c log
    rw [show { c with connected := true } = c by cases c; cases hconnected; rfl] at hrun
    have hsent := run_writtenCall { c with nextRequestId := c.nextRequestId + UInt32.ofNat n } log'
    have hlast := hsent ▸ List.mem_append_right c.history.sent (List.mem_singleton_self _)
    rw [hrun]
    refine ⟨_, hlast, fun header hvalid => ?_⟩
    have hrecord : { c with nextRequestId := c.nextRequestId + UInt32.ofNat n }.nextRecord
        .clearStatistics [] = headerBytes (requestHeader c.portId .clearStatistics []
          (c.nextRequestId + UInt32.ofNat n)) ++ [] := rfl
    rw [hrecord, show c.portId = 0 from hport,
      show c.nextRequestId + UInt32.ofNat n = 0 from hwraps] at hvalid
    cases hvalid

theorem admitted_of_answers {call : Call} {reply : (q : Request) → q.Answer}
    (hcall : call.Admitted) :
    ∀ a ∈ PortAction.call call :: List.replicate n (.answer reply), a.Admitted := by
  intro a ha
  obtain rfl | ha := List.mem_cons.mp ha
  · exact hcall
  · rw [(List.mem_replicate.mp ha).2]
    trivial

/-- **The number 0 is used**: after 2³² - 4 more requests the counter has wrapped, and the
next record that the port writes is one that `vspd_validate_frame` refuses. -/
theorem wrapped_request_illegal :
    ∃ actions : List PortAction, (∀ a ∈ actions, a.Admitted)
      ∧ ∃ frame ∈ (DevicePort.run 3 (.opening 3 0) actions).state.history.sent,
        ∀ header, validateFrame frame ≠ .ok header := by
  obtain ⟨n, hn⟩ : ∃ n : Nat, (4 : UInt32) + UInt32.ofNat n = 0 := ⟨2 ^ 32 - 4, by decide⟩
  have hidle : connectedPort.isIdle = true := by decide +kernel
  have hconnected : connectedPort.state.connected = true := by decide +kernel
  have hport : connectedPort.state.portId = 0 := by decide +kernel
  have hid : connectedPort.state.nextRequestId = 4 := by decide +kernel
  refine ⟨connecting ++ ((List.replicate n stalledCall).flatten ++ writtenCall), ?_, ?_⟩
  · intro a ha
    simp only [List.mem_append, List.mem_flatten, List.mem_replicate] at ha
    obtain ha | ⟨call, ⟨-, rfl⟩, ha⟩ | ha := ha
    · exact admitted_connecting a ha
    · exact admitted_of_answers (show Call.clearStatistics.Admitted from trivial) a ha
    · exact admitted_of_answers (show Call.clearStatistics.Admitted from trivial) a ha
  · have hwraps : connectedPort.state.nextRequestId + UInt32.ofNat n = 0 := by rw [hid, hn]
    rw [DevicePort.run_append, DevicePort.run_append]
    exact run_wrapped hidle hconnected hport hwraps

end Device
