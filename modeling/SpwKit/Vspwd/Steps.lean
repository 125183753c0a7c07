import SpwKit.Vspwd.History

/-!
# Every action is a row of moves

A flush writes one record after another (`Writes`), each with the change that
goes with it; a request has its effect and is answered; a client that is refused
is closed. What an action can be is said once (`Turn`), with what is noted of it. So every
action is a row of moves, and what every move keeps holds of every state the daemon
reaches (`Reachable.keeps`).
-/

open Vspd BigEndian

namespace Vspwd

/-! ## Requests -/

variable {frames : List Bytes} {i : ClientIndex} {s s' : Server}

theorem admits_totalSize {r r' : Reassembly} {header : Header} (h : r.admits header = some r') :
    r'.totalSize = header.totalSize := by
  unfold Reassembly.admits at h
  simp only at h
  split_ifs at h with hactive hstart hfits
  · rw [← Option.some.inj h]
  · simp only [Bool.or_eq_true, bne_iff_ne, ne_eq, not_or, not_not] at hfits
    rw [← Option.some.inj h]
    exact hfits.1.2

variable {frame : Bytes}

/-- What a request does before it is answered is a row of moves. -/
theorem Effect.moves {s₁ : Server} {request : Header} {status : Status}
    (h : Effect s i request (payloadOf frame) status s₁) (hfd : (s.clients i).fd.isSome = true)
    (hvalid : validateFrame frame = .ok request) (hrequest : request.has flagResponse = false) :
    Moves s s₁ := by
  cases h with
  | nothing => exact .refl s
  | hello htype hport => exact .one (.hello i hfd hport)
  | attach p htype hhello hport hp hbridged howner =>
    exact .one (.attach i p hfd hhello hport hbridged howner)
  | detach p htype howns => exact .one (.detach i)
  | start p htype howns => exact .one (.start i p howns)
  | stop p htype howns => exact .one (.stop i p howns)
  | reset p htype howns => exact .one (.reset i p howns)
  | clearStatistics p htype howns | clearPortStatistics p htype hport hp =>
    exact .one (.clearStatistics p)
  | subscribe p htype hhello hport => exact .one (.subscribe i p hhello hport)
  | unsubscribe p htype hport => exact .one (.unsubscribe i p)
  | dataRefused status hstatus htype hend => exact .one (.forget i)
  | data p r status s' htype hend howns hadmits hcomplete hdeliver =>
    have hshape := dataShape_of_validateFrame hvalid hrequest htype
    have hstored := Moves.one (.reassemble i p request (payloadOf frame) r request.terminator
      howns hadmits hshape (payloadOf_length hvalid))
    refine (hstored.trans ?_).move (.forget i)
    obtain ⟨-, -, hrun, hroom, rfl⟩ | ⟨-, rfl⟩ | ⟨-, rfl⟩ := deliverPacket_cases hdeliver
    · refine .one (.transferPacket p _ hroom hrun ?_)
      refine (List.length_take_le _ _).trans ?_
      show r.totalSize.toNat ≤ maxLogicalPacket
      rw [admits_totalSize hadmits]
      exact hshape.total_le
    · exact .one (.drop p)
    · exact .refl _
  | timeCode p status s₂ htype howns hdeliver =>
    obtain ⟨-, -, hrun, hroom, rfl⟩ | ⟨-, rfl⟩ | ⟨-, rfl⟩ := deliverTimeCode_cases hdeliver
    · exact .one (.transferTimeCode p _ hroom hrun
        (timeCode_of_validateFrame hvalid hrequest htype))
    · exact .one (.drop p)
    · exact .refl _

/-- A record that is not refused is handled in a row of moves. -/
theorem Handled.moves (h : Handled s i frame true s')
    (hfd : (s.clients i).fd.isSome = true) : Moves s s' := by
  cases h with
  | fragment request p r hfree hvalid hrequest htype hend howns hadmits =>
    exact .one (.reassemble i p request (payloadOf frame) r _ howns hadmits
      (dataShape_of_validateFrame hvalid hrequest htype) (payloadOf_length hvalid))
  | answered request status payload s₁ hfree hvalid hrequest hanswerable hfinal heffect hpayload =>
    refine (heffect.moves hfd hvalid hrequest).move (.respond i _ ?_ ?_)
    · exact (heffect.responsePending i).trans hfree
    · exact ⟨_, validateFrame_responseBytes hanswerable hpayload⟩

/-- A client whose record is refused is closed as if it had sent nothing. -/
theorem Handled.closeClient (h : Handled s i frame false s') :
    closeClient s' i = closeClient s i := by
  cases h with
  | refused r =>
    refine AgreeOff.closeClient (.update trivial) ?_
    simp [Server.setReassembly]

/-! ## Flushes -/

/-- **A record is written to a client**, with the change that goes with it. -/
inductive Writes (s : Server) (i : ClientIndex) : Bytes → Server → Prop
  | response (hpending : (s.clients i).responsePending = true) :
      Writes s i (s.clients i).response (s.updateClient i (fun client =>
        { client with responsePending := false, response := [] }))
  | state (p : PortId) (frame : Bytes) (hfree : (s.clients i).responsePending = false)
      (howns : (s.clients i).portId = some p)
      (hpending : (s.ports p).stateEventPending = true)
      (hframe : eventFrame .linkStateEvent p (encodeU32Payload (s.ports p).state.toWire)
        = .ok frame) :
      Writes s i frame (s.updatePort p (fun port => { port with stateEventPending := false }))
  | fragment (p : PortId) (slot : PacketSlot) (frame : Bytes)
      (hfree : (s.clients i).responsePending = false) (howns : (s.clients i).portId = some p)
      (hfront : (s.ports p).packets.front = some slot)
      (hframe : (slot.fragmentation p).frame slot.offset = .ok frame)
      (hmore : isFinal (slot.fragmentation p).length slot.offset = false) :
      Writes s i frame
        (advanceSlot s p slot (chunkAt (slot.fragmentation p).length slot.offset))
  | packet (p : PortId) (slot : PacketSlot) (frame : Bytes)
      (hfree : (s.clients i).responsePending = false) (howns : (s.clients i).portId = some p)
      (hfront : (s.ports p).packets.front = some slot)
      (hframe : (slot.fragmentation p).frame slot.offset = .ok frame)
      (hlast : isFinal (slot.fragmentation p).length slot.offset = true) :
      Writes s i frame (popPacket s p slot)
  | timeCode (p : PortId) (code : TimeCode) (frame : Bytes)
      (hfree : (s.clients i).responsePending = false) (howns : (s.clients i).portId = some p)
      (hfront : (s.ports p).timeCodes.front = some code)
      (hframe : eventFrame .timeCodeRx p [code.timeCount, code.controlFlags] = .ok frame) :
      Writes s i frame (popTimeCode s p)
  | snapshot (p : PortId) (frame : Bytes) (hfree : (s.clients i).responsePending = false)
      (hport : (s.clients i).portId = none)
      (hpending : ((s.clients i).monitorPendingMask &&& portBit p) != 0)
      (hframe : eventFrame .portSnapshotEvent p
        (encodePortSnapshot (portSnapshotToWire (s.ports p))) = .ok frame) :
      Writes s i frame (s.updateClient i (fun client =>
        { client with monitorPendingMask := client.monitorPendingMask &&& ~~~portBit p }))

/-- Records are written one after another. -/
inductive WritesAll (i : ClientIndex) : Server → List Bytes → Server → Prop
  | nil (s : Server) : WritesAll i s [] s
  | cons {s s' s'' : Server} {frame : Bytes} {frames : List Bytes}
      (h : Writes s i frame s') (hrest : WritesAll i s' frames s'') :
      WritesAll i s (frame :: frames) s''

theorem WritesAll.one (h : Writes s i frame s') :
    WritesAll i s [frame] s' := .cons h (.nil s')

theorem WritesAll.append {s'' : Server} {a b : List Bytes} (h : WritesAll i s a s')
    (h' : WritesAll i s' b s'') : WritesAll i s (a ++ b) s'' := by
  induction h with
  | nil => exact h'
  | cons hfirst _ ih => exact .cons hfirst (ih h')

/-- A flush that writes what it says. -/
def Flush.Written (i : ClientIndex) (s : Server) (f : Flush) : Prop :=
  WritesAll i s f.written f.server

theorem Flush.written_nothing (i : ClientIndex) (s : Server) :
    (Flush.nothing s).Written i s := .nil s

theorem flushRecord_written {change : Server} {send : Bytes → SendResult}
    {frame : Except CodecError Bytes} (h : ∀ bytes, frame = .ok bytes → Writes s i bytes change) :
    (flushRecord s send frame change).Written i s := by
  unfold flushRecord Flush.Written
  cases frame with
  | error e => exact .nil s
  | ok bytes =>
    simp only
    split
    · exact .one (h bytes rfl)
    · exact .nil s
    · exact .nil s

theorem Flush.Written.andThen_written {f : Flush} (h : f.Written i s) (next : Server → Flush)
    (hnext : (next f.server).Written i f.server) : (f.andThen next).Written i s := by
  unfold Flush.andThen
  split_ifs
  · exact WritesAll.append h hnext
  · exact h

section FlushCases

variable {s : Server} {i : ClientIndex} (send : Bytes → SendResult)

theorem flushResponse_written : (flushResponse s i send).Written i s := by
  unfold flushResponse
  split_ifs with hpending
  · exact Flush.written_nothing i s
  · refine flushRecord_written fun bytes hbytes => ?_
    cases hbytes
    exact .response (by simpa using hpending)

theorem pending_of_pendingPort {client : Client} {p : PortId} (h : client.pendingPort = some p) :
    (client.monitorPendingMask &&& portBit p) != 0 := by
  unfold Client.pendingPort at h
  split_ifs at h with h0 h1
  · cases h
    exact h0
  · cases h
    exact h1

theorem flushMonitorEvent_written (hfree : (s.clients i).responsePending = false) :
    (flushMonitorEvent s i send).Written i s := by
  unfold flushMonitorEvent
  split_ifs with hport
  · exact Flush.written_nothing i s
  · split
    · exact Flush.written_nothing i s
    · rename_i p hpending
      exact flushRecord_written fun frame hframe =>
        .snapshot p frame hfree (by simpa using hport) (pending_of_pendingPort hpending) hframe

theorem flushStateEvent_written (hfree : (s.clients i).responsePending = false) :
    (flushStateEvent s i send).Written i s := by
  unfold flushStateEvent
  split
  · exact Flush.written_nothing i s
  · rename_i p howns
    split_ifs with hpending
    · exact Flush.written_nothing i s
    · exact flushRecord_written fun frame hframe =>
        .state p frame hfree howns (by simpa using hpending) hframe

theorem flushPacketEvent_written (hfree : (s.clients i).responsePending = false) :
    (flushPacketEvent s i send).Written i s := by
  unfold flushPacketEvent
  split
  · exact Flush.written_nothing i s
  · rename_i p howns
    split
    · exact Flush.written_nothing i s
    · rename_i slot hfront
      refine flushRecord_written fun frame hframe => ?_
      split_ifs with hlast
      · exact .packet p slot frame hfree howns hfront hframe hlast
      · exact .fragment p slot frame hfree howns hfront hframe (by simpa using hlast)

theorem flushTimeCodeEvent_written (hfree : (s.clients i).responsePending = false) :
    (flushTimeCodeEvent s i send).Written i s := by
  unfold flushTimeCodeEvent
  split
  · exact Flush.written_nothing i s
  · rename_i p howns
    split
    · exact Flush.written_nothing i s
    · rename_i code hfront
      exact flushRecord_written fun frame hframe => .timeCode p code frame hfree howns hfront hframe

end FlushCases

/-- Writing an event leaves the response slot alone. -/
theorem Writes.responsePending (h : Writes s i frame s')
    (hfree : (s.clients i).responsePending = false) : (s'.clients i).responsePending = false := by
  cases h with
  | response hpending => simp [hpending] at hfree
  | state | fragment => exact hfree
  | packet p slot =>
    unfold popPacket
    split_ifs <;> simpa using hfree
  | timeCode p =>
    unfold popTimeCode
    split_ifs <;> simpa using hfree
  | snapshot => simpa using hfree

theorem WritesAll.responsePending (h : WritesAll i s frames s')
    (hfree : (s.clients i).responsePending = false) : (s'.clients i).responsePending = false := by
  induction h with
  | nil => exact hfree
  | cons hfirst _ ih => exact ih (hfirst.responsePending hfree)

/-- **A flush writes one record after another.** -/
theorem flushClient_written (s : Server) (i : ClientIndex) (send : Bytes → SendResult) :
    (flushClient s i send).Written i s := by
  unfold flushClient
  split_ifs with hpending hport
  · exact flushResponse_written send
  · exact flushMonitorEvent_written send (by simpa using hpending)
  · have hfree : (s.clients i).responsePending = false := by simpa using hpending
    have hstate := flushStateEvent_written send hfree
    have hfree₁ := hstate.responsePending hfree
    have hpacket := flushPacketEvent_written send hfree₁
    have hrest := hpacket.andThen_written (fun s => flushTimeCodeEvent s i send)
      (flushTimeCodeEvent_written send (hpacket.responsePending hfree₁))
    refine hstate.andThen_written _ ?_
    split
    · split_ifs
      · exact Flush.written_nothing i _
      · exact hrest
    · exact hrest

/-- Writing a record is a move. -/
theorem Writes.move (h : Writes s i frame s') : Move s s' := by
  cases h with
  | response => exact .responseSent i
  | state p => exact .stateSent p
  | fragment p slot _ _ _ hfront _ hmore => exact .advance p slot hfront hmore
  | packet p slot _ _ _ hfront => exact .popPacket p slot hfront
  | timeCode p => exact .popTimeCode p
  | snapshot p => exact .snapshotSent i p

theorem WritesAll.moves (h : WritesAll i s frames s') : Moves s s' := by
  induction h with
  | nil s => exact .refl s
  | cons hfirst _ ih => exact (Moves.one hfirst.move).trans ih

/-! ## Actions -/

theorem freeSlot_eq_some (h : freeSlot s = some i) : (s.clients i).fd = none := by
  simpa using List.find?_some h

variable {d : Daemon}

/-- A record is handled, and the client may stay. -/
structure Heard (d : Daemon) (i : ClientIndex) (frame : Bytes) (s' : Server) : Prop where
  connected : (d.server.clients i).fd.isSome = true
  handled : Handled d.server i frame true s'

/-- **A record that is handled is heard.** -/
theorem step_of_handles (h : d.server.handles i frame = true) :
    ∃ s', Heard d i frame s'
      ∧ d.step (.receive i (.record frame)) = d.hear i frame s' := by
  have hhandled := handleRequest_handled d.server i frame
  simp only [Server.handles, Bool.and_eq_true, decide_eq_true_eq] at h
  obtain ⟨⟨hfd, hle⟩, hok⟩ := h
  have hnone : (d.server.clients i).fd.isNone = false := by
    rw [← Option.not_isSome, hfd]
    rfl
  have hlong : ¬ frame.length > frameMax := by omega
  simp only [Daemon.step, Server.handles, Server.step, receiveOne, hfd, hnone, hlong, hle, hok,
    keepOrClose, if_true, if_false, decide_true, Bool.and_self, Bool.false_eq_true]
  rw [hok] at hhandled
  exact ⟨_, ⟨hfd, hhandled⟩, rfl⟩

/-- One that is not closes its client, if it is connected. -/
theorem step_eq_of_not_handles (h : d.server.handles i frame = false) :
    d.step (.receive i (.record frame)) = d
      ∨ d.step (.receive i (.record frame)) = { d with server := closeClient d.server i } := by
  have hhandled := handleRequest_handled d.server i frame
  simp only [Daemon.step, h, Bool.false_eq_true, if_false, Server.step]
  split_ifs with hfd
  · exact Or.inl rfl
  · have hsome : (d.server.clients i).fd.isSome = true := by
      simpa [Option.isSome_iff_ne_none] using hfd
    simp only [Server.handles, hsome, Bool.true_and] at h
    simp only [receiveOne]
    split_ifs with hlong
    · exact Or.inr rfl
    · have hle : frame.length ≤ frameMax := by omega
      simp only [hle, decide_true, Bool.true_and] at h
      rw [h] at hhandled
      simp only [keepOrClose, h, Bool.false_eq_true, if_false, hhandled.closeClient, or_true]

/-- **A flush writes a row of records to its client**, and may close it then. -/
theorem step_flush_cases (d : Daemon) (i : ClientIndex) (send : Bytes → SendResult) :
    d.step (.flush i send) = d ∧ d.server.writes (.flush i send) = []
      ∨ (d.server.clients i).fd.isSome = true
        ∧ ∃ s', WritesAll i d.server (d.server.writes (.flush i send)) s'
          ∧ (d.step (.flush i send) = d.tell i (d.server.writes (.flush i send)) s'
            ∨ d.step (.flush i send)
              = { d.tell i (d.server.writes (.flush i send)) s' with
                server := closeClient s' i }) := by
  simp only [Daemon.step, Server.step, Server.writes]
  split_ifs with hfd
  · exact .inl ⟨d.tell_nil i, rfl⟩
  · refine .inr ⟨by simpa [Option.isSome_iff_ne_none] using hfd, _,
      flushClient_written d.server i send, ?_⟩
    simp only [keepOrClose]
    split_ifs
    · exact .inl rfl
    · exact .inr rfl

/-- **What an action is**, with what is noted of it: nothing happens, a client is let in or
closed, a record is handled, records are written and their client may be closed then, or
the bridge moves. -/
inductive Turn (d : Daemon) : Action → Daemon → Prop
  | nothing (a : Action) : Turn d a d
  | accepted (i : ClientIndex) (fd : Nat) (hfree : (d.server.clients i).fd = none) :
      Turn d (.accept fd)
        (d.welcome i (d.server.updateClient i (fun _ => Client.zeroed (some fd))))
  | closed (a : Action) (i : ClientIndex) : Turn d a { d with server := closeClient d.server i }
  | heard (i : ClientIndex) (frame : Bytes) (s' : Server) (h : Heard d i frame s') :
      Turn d (.receive i (.record frame)) (d.hear i frame s')
  | told (i : ClientIndex) (send : Bytes → SendResult) (frames : List Bytes) (s' : Server)
      (hfd : (d.server.clients i).fd.isSome = true) (h : WritesAll i d.server frames s') :
      Turn d (.flush i send) (d.tell i frames s')
  | failed (i : ClientIndex) (send : Bytes → SendResult) (frames : List Bytes) (s' : Server)
      (hfd : (d.server.clients i).fd.isSome = true) (h : WritesAll i d.server frames s') :
      Turn d (.flush i send) { d.tell i frames s' with server := closeClient s' i }
  | bridge (a : Action) (call : Option BridgeCall) (s' : Server)
      (h : BridgeMove d.server call s') : Turn d a { d with server := s' }

theorem step_turn (d : Daemon) (a : Action) : Turn d a (d.step a) := by
  have hbridge : a.ofBridge = true → d.step a = { d with server := d.server.step a } →
      Turn d a (d.step a) := fun ha hstep => by
    rw [hstep]
    obtain ⟨hsame, -⟩ | hmove := bridge_cases d.server ha
    · rw [show d.server.step a = d.server from hsame]
      exact .nothing a
    · exact .bridge a _ _ hmove
  cases a with
  | accept fd =>
    simp only [Daemon.step, Server.step, acceptClient]
    cases hslot : freeSlot d.server with
    | none => exact .nothing _
    | some i => exact .accepted i fd (freeSlot_eq_some hslot)
  | hangup i =>
    simp only [Daemon.step, Server.step]
    split_ifs
    · exact .nothing _
    · exact .closed _ i
  | receive i receipt =>
    cases receipt with
    | record frame =>
      cases hhandles : d.server.handles i frame with
      | true =>
        obtain ⟨s', hheard, hstep⟩ := step_of_handles hhandles
        rw [hstep]
        exact .heard i frame s' hheard
      | false =>
        obtain hstep | hstep := step_eq_of_not_handles hhandles <;> rw [hstep]
        · exact .nothing _
        · exact .closed _ i
    | nothing =>
      simp only [Daemon.step, Server.step, receiveOne, keepOrClose, if_true]
      split_ifs <;> exact .nothing _
    | ended =>
      simp only [Daemon.step, Server.step, receiveOne, keepOrClose, Bool.false_eq_true, if_false]
      split_ifs
      · exact .nothing _
      · exact .closed _ i
  | flush i send =>
    obtain ⟨hstep, -⟩ | ⟨hfd, s', hwrites, hstep | hstep⟩ := step_flush_cases d i send <;>
      rw [hstep]
    · exact .nothing _
    · exact .told i send _ s' hfd hwrites
    · exact .failed i send _ s' hfd hwrites
  | bridgeRefresh | bridgePopPacket | bridgePopTimeCode | bridgePushPacket
  | bridgePushTimeCode => exact hbridge rfl rfl

theorem BridgeMove.move {call : Option BridgeCall} (h : BridgeMove s call s') : Move s s' := by
  cases h with
  | refresh answer => exact .bridgeRefresh answer
  | popPacket b slot hb hfront => exact .popPacket _ slot hfront
  | popTimeCode b code hb hfront => exact .popTimeCode _
  | pushPacket b packet hroom hb hrun => exact .transferPacket _ _ hroom hrun packet.2
  | pushTimeCode b code hroom hb hrun => exact .transferTimeCode _ _ hroom hrun code.2

/-- **Every action is a row of moves.** -/
theorem step_moves (s : Server) (a : Action) : Moves s (s.step a) := by
  have hturn := step_turn (Daemon.initial s) a
  rw [show s.step a = ((Daemon.initial s).step a).server from
    ((Daemon.initial s).step_server a).symm]
  generalize (Daemon.initial s).step a = d' at hturn
  cases hturn with
  | nothing => exact .refl s
  | accepted i fd hfree => exact .one (.accept i fd hfree)
  | closed _ i => exact .one (.close i)
  | heard i frame s' h =>
    rw [hear_server]
    exact h.handled.moves h.connected
  | told i send frames s' hfd h => exact h.moves
  | failed i send frames s' hfd h => exact h.moves.move (.close i)
  | bridge _ call s' h => exact .one h.move

/-- **What holds at the start and is kept by every move holds always.** -/
theorem Reachable.keeps {P : Server → Prop} (hstart : ∀ {s}, Started s → P s)
    (hmove : ∀ {s s' : Server}, Move s s' → P s → P s') (h : Reachable s) : P s := by
  induction h with
  | start h => exact hstart h
  | step _ a ih => exact (step_moves _ a).keeps hmove ih

/-! ## Runs -/

/-- The state after a list of actions. -/
def Server.run (s : Server) (actions : List Action) : Server := actions.foldl Server.step s

theorem Reachable.run (h : Reachable s) (actions : List Action) : Reachable (s.run actions) := by
  induction actions generalizing s with
  | nil => exact h
  | cons a rest ih => exact ih (h.step a)

/-- The record of a request that is not a fragment. -/
def requestRecord (type : MessageType) (requestId : UInt32) (portId : UInt32)
    (payload : Bytes) : Bytes :=
  headerBytes { Header.ofType type.toByte with
    payloadSize := UInt32.ofNat payload.length
    requestId := requestId
    portId := portId } ++ payload

/-- A client sends a request and its socket takes whatever follows. -/
def exchange (i : ClientIndex) (record : Bytes) : List Action :=
  [.receive i (.record record), .flush i (fun _ => .sent)]

/-- A connection is accepted and says hello. -/
def connect (i : ClientIndex) (fd : Nat) : List Action :=
  .accept fd :: exchange i (requestRecord .hello 1 0 helloPayload)

end Vspwd
