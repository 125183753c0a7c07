import SpwKit.Device.PacketRoundTrip
import SpwKit.Vspwd.BridgeRelay

/-!
# What a client that owns a port may count on

Seen from one client, an action of the daemon handles the next record of that client, or
it is about something else. In the second case the client keeps its port and what has
arrived of its packet, and it is only written to (`Aside`). In the first case a client
that has attached, whose last request was answered, is answered whatever it asks
(`handles_of_request`), and each fragment of a packet goes to those before it until the
last one is answered (`handles_of_fragment`).

`acceptedFrom` reads the packets that a client has got through off the queue of the other
port.
-/

open Vspd BigEndian

namespace Vspwd

/-! ## Actions about something else -/

/-- What a client is to the daemon, apart from what is to be written to it. -/
def Client.standing (client : Client) : Option Nat × Bool × Option PortId × Reassembly :=
  (client.fd, client.helloDone, client.portId, client.reassembly)

variable {d d' : Daemon} {i : ClientIndex} {s s₁ : Server} {status : Status}

theorem standing_of_unmarked {c c' : Client} (h : c'.unmarked = c.unmarked) :
    c'.standing = c.standing := by
  simp only [Client.standing, fd_of_unmarked h, helloDone_of_unmarked h, portId_of_unmarked h,
    reassembly_of_unmarked h]

/-- **Nothing was heard of a client**, and at most something was written to it. -/
structure Aside (i : ClientIndex) (d d' : Daemon) : Prop where
  heard : d'.heard i = d.heard i
  standing : (d'.server.clients i).standing = (d.server.clients i).standing
  told : d.told i <+: d'.told i
  responses : d'.responses i = d.responses i

theorem Aside.refl (i : ClientIndex) (d : Daemon) : Aside i d d :=
  ⟨rfl, rfl, List.prefix_rfl, rfl⟩

theorem Aside.trans {d'' : Daemon} (h : Aside i d d') (h' : Aside i d' d'') : Aside i d d'' where
  heard := h'.heard.trans h.heard
  standing := h'.standing.trans h.standing
  told := h.told.trans h'.told
  responses := h'.responses.trans h.responses

/-- A client whose records are as they were, and which has at most been marked. -/
theorem Aside.of_unmarked (hheard : d'.heard i = d.heard i) (htold : d'.told i = d.told i)
    (h : (d'.server.clients i).unmarked = (d.server.clients i).unmarked) : Aside i d d' where
  heard := hheard
  standing := standing_of_unmarked h
  told := by simp only [htold, List.prefix_rfl]
  responses := by
    rw [Daemon.responses, Daemon.responses, htold, held_of_slot (slot_of_unmarked h)]

theorem Writes.standing {s' : Server} {frame : Bytes} (h : Writes s i frame s') (j : ClientIndex) :
    (s'.clients j).standing = (s.clients j).standing := by
  have hupdate : ∀ f : Client → Client, (f (s.clients i)).standing = (s.clients i).standing →
      ((s.updateClient i f).clients j).standing = (s.clients j).standing := fun f hf => by
    rw [Server.updateClient_clients]
    split_ifs with hj
    · rw [hf, hj]
    · rfl
  cases h with
  | response | snapshot => exact hupdate _ rfl
  | state | fragment => rfl
  | packet p slot =>
    unfold popPacket
    split_ifs
    · exact standing_of_unmarked (unmarked_markPortChanged _ _ j)
    · rfl
  | timeCode p =>
    unfold popTimeCode
    split_ifs
    · exact standing_of_unmarked (unmarked_markPortChanged _ _ j)
    · rfl

section Steps

variable {d : Daemon} {i : ClientIndex}

variable {a : Action} {j : ClientIndex} {s' : Server}

/-- A record is written to a client that is connected. -/
theorem Aside.told_event (hs : Sound d.server) (hd : Disciplined d) {frame : Bytes}
    (hfd : (d.server.clients j).fd.isSome = true) (h : Writes d.server j frame s') :
    Aside i d (d.tell j [frame] s') := by
  by_cases hj : i = j
  · subst hj
    refine ⟨rfl, h.standing i, ?_, h.responses hs (hd i hfd)⟩
    simp [Daemon.tell]
  · refine .of_unmarked rfl ?_ (h.unmarked_of_ne hj)
    simp [Daemon.tell, hj]

/-- A row of records is written to a client. -/
theorem Aside.of_writesAll {s : Server} {frames : List Bytes} (h : WritesAll j s frames s') :
    ∀ d : Daemon, d.server = s → WellKept s → Disciplined d →
      (s.clients j).fd.isSome = true → Aside i d (d.tell j frames s') := by
  induction h with
  | nil s =>
    rintro d rfl _ _ _
    rw [d.tell_nil j]
    exact .refl i d
  | @cons s s' s'' frame frames hfirst _ ih =>
    rintro d rfl hk hd hfd
    have hrest := ih (d.tell j [frame] s') rfl (hk.move hfirst.move)
      (hd.event (.told j frame s' hfd hfirst) hk) (by rw [(hfirst.portId j).2]; exact hfd)
    rw [d.tell_tell j [frame] frames s' s'' (hfirst.portId j).1] at hrest
    exact (Aside.told_event hk.sound hd hfd hfirst).trans hrest

theorem Aside.closed (hj : i ≠ j) : Aside i d { d with server := closeClient d.server j } :=
  .of_unmarked rfl rfl (unmarked_closeClient hj)

/-- The action is about a record of the client. -/
def Action.ofRecord (i : ClientIndex) : Action → Bool
  | .receive j (.record _) => j == i
  | _ => false

theorem Action.eq_of_ofRecord (h : a.ofRecord i = true) :
    ∃ frame, a = .receive i (.record frame) := by
  unfold Action.ofRecord at h
  split at h
  · exact ⟨_, by rw [beq_iff_eq.mp h]⟩
  · cases h

/-- **An action that is not about a record of a client, and does not cost it its
connection.** -/
theorem step_aside (hk : WellKept d.server) (hd : Disciplined d)
    (hopen : (d.server.clients i).fd.isSome = true) (ha : a.ofRecord i = false)
    (hstays : ((d.step a).server.clients i).fd.isSome = true) : Aside i d (d.step a) := by
  -- a client that is closed has no descriptor any more
  have hclosed : ∀ {s : Server} {j : ClientIndex},
      ((closeClient s j).clients i).fd.isSome = true → i ≠ j := by
    rintro s j hfd rfl
    simp [closeClient, Client.zeroed] at hfd
  have hturn := step_turn d a
  generalize d.step a = d' at hturn hstays ⊢
  cases hturn with
  | nothing => exact .refl i d
  | bridge _ call s' hmove => exact .of_unmarked rfl rfl (hmove.unmarked i)
  | accepted j fd hfree =>
    have hj : i ≠ j := by
      rintro rfl
      rw [hfree] at hopen
      cases hopen
    refine .of_unmarked ?_ ?_ ?_
    · simp [Daemon.welcome, hj]
    · simp [Daemon.welcome, hj]
    · simp [Daemon.welcome, hj]
  | closed _ j => exact .closed (hclosed hstays)
  | heard j frame s' hheard =>
    have hj : i ≠ j := fun h => by simp [Action.ofRecord, h] at ha
    refine .of_unmarked ?_ ?_ ?_
    · simp [hear_heard, hj]
    · rw [hear_told]
    · rw [hear_server]
      exact hheard.handled.unmarked hj
  | told j send frames s' hfd hwrites => exact .of_writesAll hwrites d rfl hk hd hfd
  | failed j send frames s' hfd hwrites =>
    have hwritten := Aside.of_writesAll (i := i) hwrites d rfl hk hd hfd
    exact hwritten.trans (.closed (hclosed hstays))

end Steps

/-! ## Reachable states -/

/-- **What a reachable daemon has written is legal**, and what it puts together is what
the fragments carry. -/
theorem Daemon.Reachable.kept (h : d.Reachable) :
    WellKept d.server ∧ Gathering d ∧ ∀ i, ∀ frame ∈ d.told i, Legal frame := by
  refine Daemon.Run.keeps (P := fun d => Gathering d ∧ ∀ i, ∀ frame ∈ d.told i, Legal frame)
    (fun hs => ⟨.initial hs, fun i frame hframe => absurd hframe List.not_mem_nil⟩)
    (fun _ hheard _ hd => ⟨hd.1.hear hheard, by rw [hear_told]; exact hd.2⟩)
    (fun {d d'} he hk hd => ⟨hd.1.event he, fun j frame hframe => ?_⟩) h
  cases he with
  | accepted i fd hfree =>
    by_cases hj : j = i
    · simp [Daemon.welcome, hj] at hframe
    · exact hd.2 j frame (by simpa [Daemon.welcome, hj] using hframe)
  | closed i | bridge call s' hmove => exact hd.2 j frame hframe
  | told i record s' hfd hwrites =>
    by_cases hj : j = i
    · subst hj
      simp only [Daemon.tell, Function.update_self, List.mem_append, List.mem_singleton] at hframe
      obtain hframe | rfl := hframe
      · exact hd.2 j frame hframe
      · exact hwrites.legal hk.sound
    · exact hd.2 j frame (by simpa [Daemon.tell, hj] using hframe)

theorem Daemon.Reachable.disciplined (h : d.Reachable) : Disciplined d :=
  fun i hfd => (requests_answered h i).1 hfd

/-! ## The next record of a client -/

theorem length_le_frameMax {frame : Bytes} {header : Header}
    (h : validateFrame frame = .ok header) : frame.length ≤ frameMax := by
  obtain ⟨-, hcommon, hlen, -⟩ := validateFrame_eq_ok h
  have hmax := ((validateCommon_eq_ok_iff header).mp hcommon).2.2.2.2.2.2.2
  rw [hlen, frameMax]
  exact Nat.add_le_add_left hmax _

/-- A request that is answered is answered with success or not, but answered. -/
theorem reply_fst {request : Header} (status : Status) {payload : Bytes}
    (hfree : (s.clients i).responsePending = false) (htype : typeValid request.type = true)
    (hlen : payload.length ≤ statisticsPayloadSize) :
    (reply s i request status payload).1 = true := by
  rw [reply, queueResponse_eq status hfree htype hlen]

/-- The requests of an owner that are neither fragments nor give the port up. -/
def ownerTypes : List MessageType :=
  [.start, .stop, .reset, .getLinkState, .timeCodeTx, .getStatistics, .clearStatistics]

section Next

variable {s : Server} {i : ClientIndex} {frame : Bytes} {header : Header}
  (hopen : (s.clients i).fd.isSome = true) (hhello : (s.clients i).helloDone = true)
  (hfree : (s.clients i).responsePending = false) (hvalid : validateFrame frame = .ok header)
  (hrequest : header.has flagResponse = false)

include hopen hhello hfree hvalid hrequest

/-- A legal request is refused by its own case only. -/
theorem handles_of_dispatch (hevent : typeIsEvent header.type = false)
    (h : (dispatch s i header (payloadOf frame)).1 = true) : s.handles i frame = true := by
  have hhandle : handleRequest s i frame = dispatch s i header (payloadOf frame) := by
    simp [handleRequest, hfree, hvalid, hrequest, hevent, hhello]
  have hle := length_le_frameMax hvalid
  simp [Server.handles, hopen, hle, hhandle, h]

/-- **Every request of an owner is answered.** -/
theorem handles_of_request {type : MessageType} (htype : header.type = type.toByte)
    (hmem : type ∈ ownerTypes) : s.handles i frame = true := by
  have hevent : typeIsEvent header.type = false := by
    rw [htype]
    exact (by decide : ∀ type ∈ ownerTypes, typeIsEvent type.toByte = false) type hmem
  have hvalidType := typeValid_of_validateFrame hvalid
  refine handles_of_dispatch hopen hhello hfree hvalid hrequest hevent ?_
  have hattached : ∀ change : PortId → Server,
      (∀ p, ((change p).clients i).responsePending = false) →
        (replyAttached s i header change).1 = true := fun change hchange => by
    rw [replyAttached]
    cases validateAttachedRequest (s.clients i) header with
    | error status => exact reply_fst status hfree hvalidType (Nat.zero_le _)
    | ok p => exact reply_fst .ok (hchange p) hvalidType (Nat.zero_le _)
  have hread : ∀ payload : Port → Bytes, (∀ port, ResponsePayload header (payload port)) →
      (replyAttachedRead s i header payload).1 = true := fun payload hpayload => by
    rw [replyAttachedRead]
    cases validateAttachedRequest (s.clients i) header with
    | error status => exact reply_fst status hfree hvalidType (Nat.zero_le _)
    | ok p =>
      exact reply_fst .ok hfree hvalidType
        ((hpayload _).length_eq.le.trans (successResponsePayloadSize_le _))
  rw [dispatch, htype, MessageType.ofByte_toByte]
  simp only [ownerTypes, List.mem_cons, List.not_mem_nil, or_false] at hmem
  obtain rfl | rfl | rfl | rfl | rfl | rfl | rfl := hmem
  · exact hattached _ (fun p => by simpa [startPort] using hfree)
  · exact hattached _ (fun p => by simpa [stopPort] using hfree)
  · exact hattached _ (fun p => by simpa [resetPort] using hfree)
  · exact hread _ (fun port => responsePayload_linkState port.state htype)
  · show (handleTimeCodeTx s i header (payloadOf frame)).1 = true
    rw [handleTimeCodeTx]
    cases validateAttachedRequest (s.clients i) header with
    | error status => exact reply_fst status hfree hvalidType (Nat.zero_le _)
    | ok p =>
      have hslot := responsePending_of_unmarked (unmarked_deliverTimeCode
        (show deliverTimeCode s p ⟨byteAt (payloadOf frame) 0, byteAt (payloadOf frame) 1⟩ = (_, _)
          from Prod.mk.eta.symm) i)
      exact reply_fst _ (hslot.trans hfree) hvalidType (Nat.zero_le _)
  · exact hread _ (fun port => responsePayload_unchecked htype rfl (by decide))
  · exact hattached _ (fun p => by simpa [Vspwd.clearPortStatistics] using hfree)

/-- **The fragments of a packet are taken**, one after the other. -/
theorem handles_of_fragment {cut : Fragmentation} {offset : UInt32} {p : PortId}
    (htype : cut.type = .dataTx) (hcut : cut.Valid) (hstarts : cut.Starts offset)
    (hframe : frame = cut.record offset) (howns : (s.clients i).portId = some p)
    (hport : cut.portId = UInt32.ofNat p.val)
    (hr : (s.clients i).reassembly.Halfway cut offset) : s.handles i frame = true := by
  have hheader : header = cut.header offset := by
    rw [hframe] at hvalid
    exact Except.ok.inj (hvalid.symm.trans (Fragmentation.frame_eq_ok hcut hstarts).2)
  subst hheader hframe
  have hbyte : (cut.header offset).type = MessageType.dataTx.toByte := by rw [← htype]; rfl
  have hvalidType := typeValid_of_validateFrame hvalid
  refine handles_of_dispatch hopen hhello hfree hvalid hrequest (by rw [hbyte]; rfl) ?_
  have hattached : validateAttachedRequest (s.clients i) (cut.header offset) = .ok p := by
    have hheaderPort : (cut.header offset).portId = UInt32.ofNat p.val := hport
    simp [validateAttachedRequest, howns, hhello, hheaderPort]
  obtain ⟨r', hadmits, hstore⟩ := hr.store
  rw [dispatch, hbyte, MessageType.ofByte_toByte]
  show (handleDataTx s i (cut.header offset) (payloadOf (cut.record offset))).1 = true
  rw [show payloadOf (cut.record offset) = cut.payload offset from payloadOf_append _ _]
  simp only [handleDataTx, acceptDataTx, hattached, acceptDataFragment, hadmits, hstore,
    cut.has_end offset]
  cases hfinal : isFinal cut.length offset with
  | false => simp
  | true =>
    have hcomplete : ((Reassembly.afterFragment cut offset (s.clients i).reassembly).nextOffset
        != (Reassembly.afterFragment cut offset (s.clients i).reassembly).totalSize) = false := by
      simpa [Reassembly.afterFragment] using Device.end_eq_length hcut hstarts hfinal
    simp only [hcomplete, Bool.not_true, Bool.false_eq_true, if_false]
    generalize hset : s.setReassembly i { Reassembly.afterFragment cut offset
      (s.clients i).reassembly with terminator := (cut.header offset).terminator } = s₀
    have hfree₀ : (s₀.clients i).responsePending = false := by
      rw [← hset]
      simpa [Server.setReassembly] using hfree
    have hslot : ∀ packet, (((deliverPacket s₀ p packet).2.clearReassembly i).clients
        i).responsePending = false := fun packet => by
      have hsame := responsePending_of_unmarked 
        (unmarked_deliverPacket (show deliverPacket s₀ p packet = (_, _) from Prod.mk.eta.symm) i)
      simpa [Server.clearReassembly] using hsame.trans hfree₀
    have hne : ∀ packet, (deliverPacket s₀ p packet).1 ≠ .invalidPacket := fun packet => by
      obtain ⟨h, -⟩ | ⟨h, -⟩ | ⟨h, -⟩ := deliverPacket_cases
        (show deliverPacket s₀ p packet = (_, _) from Prod.mk.eta.symm) <;> rw [h] <;> decide
    simp only [hne, if_false]
    exact reply_fst _ (hslot _) hvalidType (Nat.zero_le _)

end Next

/-! ## What comes of it -/

/-- The packets that a client has got through to the other port in an action: what the
queue there has grown by, if the action was about a record of the client. -/
def acceptedFrom (i : ClientIndex) (p : PortId) (d : Daemon) (a : Action) : List Packet :=
  if a.ofRecord i then
    ((d.step a).server.ports (peerPort p)).queued.drop (d.server.ports (peerPort p)).queued.length
  else []

/-- **A request was answered.** -/
structure Answered (i : ClientIndex) (d d' : Daemon) (request : Header) (status : Status) :
    Prop where
  fd : (d'.server.clients i).fd = (d.server.clients i).fd
  helloDone : (d'.server.clients i).helloDone = (d.server.clients i).helloDone
  portId : (d'.server.clients i).portId = (d.server.clients i).portId
  told : d'.told i = d.told i
  responses : ∃ response header, d'.responses i = d.responses i ++ [response]
    ∧ validateFrame response = .ok header ∧ header.has flagResponse = true
    ∧ header.type = request.type ∧ header.requestId = request.requestId
    ∧ header.status = status.toWire

/-- A request that is not about attaching leaves its client attached. -/
theorem Effect.attached {request : Header} {payload : Bytes}
    (h : Effect s i request payload status s₁) (hhello : request.type ≠ MessageType.hello.toByte)
    (hattach : request.type ≠ MessageType.attach.toByte)
    (hdetach : request.type ≠ MessageType.detach.toByte) :
    (s₁.clients i).helloDone = (s.clients i).helloDone
      ∧ (s₁.clients i).portId = (s.clients i).portId := by
  have hsame : ∀ {c : Client}, c.unmarked = (s.clients i).unmarked →
      c.helloDone = (s.clients i).helloDone ∧ c.portId = (s.clients i).portId :=
    fun h => ⟨helloDone_of_unmarked h, portId_of_unmarked h⟩
  cases h with
  | nothing => exact ⟨rfl, rfl⟩
  | hello htype => exact absurd htype hhello
  | attach p htype => exact absurd htype hattach
  | detach p htype => exact absurd htype hdetach
  | start p | stop p => exact hsame (unmarked_updateStates _ i)
  | reset p => simp [resetPort]
  | clearStatistics p | clearPortStatistics p => exact hsame (unmarked_markPortChanged _ p i)
  | subscribe p => simp [subscribePort]
  | unsubscribe p => simp [unsubscribePort]
  | dataRefused => simp [Server.clearReassembly]
  | data p r status s₂ htype hend howns hadmits hcomplete hdeliver =>
    have hdelivered := unmarked_deliverPacket hdeliver i
    simp only [Server.clearReassembly, Server.updateClient_clients, if_true]
    rw [helloDone_of_unmarked hdelivered, portId_of_unmarked hdelivered]
    simp [Server.setReassembly]
  | timeCode p status s₂ htype howns hdeliver =>
    exact hsame (unmarked_deliverTimeCode hdeliver i)

/-- What a request does to the queue of the other port is at most that a packet is
appended. -/
theorem QueueEffect.grown {request : Header} {payload : Bytes} {packet : Packet} {p : PortId}
    (h : QueueEffect s i request payload packet status s₁) (howns : (s.clients i).portId = some p) :
    (s₁.ports (peerPort p)).queued.drop (s.ports (peerPort p)).queued.length
      = if status = .ok ∧ request.type = MessageType.dataTx.toByte then [packet] else [] := by
  cases h with
  | taken p' hok howns' hheld hqueued =>
    obtain rfl : p' = p := Option.some.inj (howns'.symm.trans howns)
    rw [hqueued, List.drop_left]
    simp only [hok, true_and]
  | neither type htype hquiet hheld =>
    have hle : (s₁.ports (peerPort p)).queued.length ≤ (s.ports (peerPort p)).queued.length := by
      obtain hsame | ⟨-, -, hempty, -⟩ := hheld (peerPort p)
      · rw [queued_of_held hsame]
      · simp [hempty.1]
    rw [List.drop_eq_nil_of_le hle, if_neg]
    rintro ⟨hok, hdata⟩
    rw [htype, MessageType.toByte_inj] at hdata
    exact hquiet hok (by simp [hdata])

section Answering

variable {d : Daemon} {i : ClientIndex} {frame : Bytes} {header : Header} {p : PortId}

/-- **A request of an owner, or the last fragment of a packet, is answered**: it was
granted or not, and a packet has got through if it was. -/
theorem step_answered (hreachable : d.Reachable) (hvalid : validateFrame frame = .ok header)
    (hhandles : d.server.handles i frame = true) (howns : (d.server.clients i).portId = some p)
    (hhello : header.type ≠ MessageType.hello.toByte)
    (hattach : header.type ≠ MessageType.attach.toByte)
    (hdetach : header.type ≠ MessageType.detach.toByte)
    (hwhole : header.type = MessageType.dataTx.toByte → header.has flagFragmentEnd = true) :
    ∃ status, Answered i d (d.step (.receive i (.record frame))) header status
      ∧ (((d.step (.receive i (.record frame))).server.clients i).reassembly.active = false
        ∨ (((d.step (.receive i (.record frame))).server.clients i).reassembly
            = (d.server.clients i).reassembly
          ∧ header.type ≠ MessageType.dataTx.toByte))
      ∧ acceptedFrom i p d (.receive i (.record frame))
        = if status = .ok ∧ header.type = MessageType.dataTx.toByte then
            [⟨gather (d.heard i ++ [frame]), header.terminator⟩] else [] := by
  obtain ⟨s', hheard, hstep⟩ := step_of_handles hhandles
  obtain ⟨hkept, hgathering, -⟩ := hreachable.kept
  have hgrown : acceptedFrom i p d (.receive i (.record frame))
      = (s'.ports (peerPort p)).queued.drop (d.server.ports (peerPort p)).queued.length := by
    rw [acceptedFrom, hstep, hear_server]
    simp [Action.ofRecord]
  rw [hstep, hgrown, hear_server]
  cases hheard.handled with
  | fragment request q r hfree hvalid' hrequest htype hend =>
    obtain rfl := Except.ok.inj (hvalid.symm.trans hvalid')
    exact absurd ((hwhole htype).symm.trans hend) (by decide)
  | answered request status payload s₁ hfree hvalid' hrequest hanswerable hfinal heffect hpayload =>
    obtain rfl := Except.ok.inj (hvalid.symm.trans hvalid')
    obtain ⟨hhelloDone, hportId⟩ := heffect.attached hhello hattach hdetach
    refine ⟨status, ⟨?_, ?_, ?_, ?_, ?_⟩, ?_, ?_⟩
    · rw [hear_server]
      simpa [Client.respond] using fd_of_slot (heffect.slot i)
    · rw [hear_server]
      simpa [Client.respond] using hhelloDone
    · rw [hear_server]
      simpa [Client.respond] using hportId
    · rw [hear_told]
    · refine ⟨responseBytes header status payload, _, ?_,
        validateFrame_responseBytes hanswerable hpayload, responseHeader_has_response _ _ _, rfl,
        rfl, rfl⟩
      rw [Daemon.responses, Daemon.responses, hear_told, hear_server]
      simp [Client.held, Client.respond, hfree]
    · have hsame : ((s₁.respond i (responseBytes header status payload)).clients i).reassembly
          = (s₁.clients i).reassembly := by simp [Client.respond]
      rw [hsame]
      exact heffect.reassembly
    · exact (heffect.queues hvalid hrequest hkept.exclusive hgathering).grown howns

theorem step_heard (hhandles : d.server.handles i frame = true) :
    (d.step (.receive i (.record frame))).heard i = d.heard i ++ [frame] := by
  obtain ⟨s', -, hstep⟩ := step_of_handles hhandles
  rw [hstep, hear_heard, Function.update_self]

/-- **A fragment that is not the last** goes to those before it, and that is all. -/
theorem step_fragment {cut : Fragmentation} {offset : UInt32} (htype : cut.type = .dataTx)
    (hcut : cut.Valid) (hstarts : cut.Starts offset) (hmore : isFinal cut.length offset = false)
    (hhandles : d.server.handles i (cut.record offset) = true)
    (hr : (d.server.clients i).reassembly.Halfway cut offset) :
    (d.step (.receive i (.record (cut.record offset)))).told i = d.told i
      ∧ (d.step (.receive i (.record (cut.record offset)))).responses i = d.responses i
      ∧ ((d.step (.receive i (.record (cut.record offset)))).server.clients i).standing
        = ((d.server.clients i).fd, (d.server.clients i).helloDone, (d.server.clients i).portId,
          (d.server.clients i).reassembly.afterFragment cut offset)
      ∧ acceptedFrom i p d (.receive i (.record (cut.record offset))) = [] := by
  obtain ⟨s', hheard, hstep⟩ := step_of_handles hhandles
  obtain ⟨-, hvalid⟩ := Fragmentation.frame_eq_ok hcut hstarts
  obtain ⟨r', hadmits, hstore⟩ := hr.store
  rw [Daemon.responses, acceptedFrom, hstep, hear_told, hear_server]
  cases hheard.handled with
  | answered request status payload s₁ hfree hvalid' hrequest hanswerable hfinal heffect =>
    obtain rfl := Except.ok.inj (hvalid.symm.trans hvalid')
    have hbyte : (cut.header offset).type = MessageType.dataTx.toByte := by rw [← htype]; rfl
    have hend := hfinal hbyte
    rw [cut.has_end offset, hmore] at hend
    cases hend
  | fragment request q r hfree hvalid' hrequest _ hend howns hadmits' =>
    obtain rfl := Except.ok.inj (hvalid.symm.trans hvalid')
    obtain rfl := Option.some.inj (hadmits.symm.trans hadmits')
    have hpayload : payloadOf (cut.record offset) = cut.payload offset := payloadOf_append _ _
    refine ⟨rfl, ?_, ?_, ?_⟩
    · have hslot : ((d.server.setReassembly i (r'.store (cut.header offset)
          (payloadOf (cut.record offset)))).clients i).slot = (d.server.clients i).slot :=
        slot_updateClient rfl i
      rw [Daemon.responses, held_of_slot hslot]
    · rw [hpayload, hstore]
      simp [Server.setReassembly, Client.standing]
    · simp [Action.ofRecord, Server.setReassembly]

end Answering

/-- **The records of a packet carry its bytes**, whatever came before. -/
theorem gather_row {cut : Fragmentation} (hcut : cut.Valid) (htype : cut.type = .dataTx)
    (before : List Bytes) : gather (before ++ cut.row) = cut.data := by
  have hstep : ∀ offset data, cut.Starts offset →
      (offset ≠ 0 → data = cut.data.take offset.toNat) → gatherStep data (cut.record offset)
        = cut.data.take (offset.toNat + (chunkAt cut.length offset).toNat) := by
    intro offset data hstarts hdata
    have hvalid : validateFrame (cut.record offset) = .ok (cut.header offset) :=
      (Fragmentation.frame_eq_ok hcut hstarts).2
    have htx : isDataTx (cut.record offset) = true := by
      rw [isDataTx, headerIs_of_ok hvalid, beq_iff_eq, ← htype]
      rfl
    have hread : readHeader (cut.record offset) = cut.header offset := readHeader_headerBytes _ _
    have hpayload : payloadOf (cut.record offset) = cut.payload offset := payloadOf_append _ _
    rw [gatherStep, if_pos htx, hread, hpayload, cut.has_start offset,
      ← Device.take_append_fragment cut offset]
    by_cases hzero : offset = 0
    · simp [hzero]
    · simp [hzero, hdata hzero]
  rw [gather, List.foldl_append]
  refine Fragmentation.row_rule hcut.length_le
    (P := fun offset data => offset ≠ 0 → data = cut.data.take offset.toNat)
    (Q := fun data => data = cut.data) (fun offset data hstarts hmore hdata _ => ?_)
    (fun offset data hstarts hfinal hdata => ?_) (fun h => absurd rfl h)
  · rw [hstep offset data hstarts hdata, Fragmentation.end_toNat hcut.length_le hstarts,
      ← Fragmentation.chunkAt_toNat hcut.length_le hstarts]
  · rw [hstep offset data hstarts hdata,
      (Fragmentation.isFinal_iff hcut.length_le hstarts).mp hfinal, List.take_length]

end Vspwd
