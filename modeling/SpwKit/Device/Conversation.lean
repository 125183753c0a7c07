import SpwKit.Device.Session

/-!
# Requests and responses in step

A port writes the records of a request and waits for the one response; the daemon has one
slot for a response and one buffer for the packet a client is sending. Both ends are in
step if nothing is under way when a request begins: then every record is handled, and the
response that is read is the one that is waited for.

`Progress` says how far the present request has come: the records of it that were written,
those that were handled, the response that has not been read, what has arrived of a packet,
and the packets that have got through. `Linked` is this between a port and its daemon. Each
record that is written, handled, answered or read takes it one step further.
-/

open Vspd BigEndian Interactive
open Vspwd (Daemon ClientIndex PortId peerPort isResponse acceptedFrom ownerTypes)

namespace Device

/-! ## The records of a request -/

/-- The record is a request of an owner, with this type and this number. -/
def Asks (frame : Bytes) (type : UInt8) (requestId : UInt32) : Prop :=
  ∃ header, validateFrame frame = .ok header ∧ header.has flagResponse = false
    ∧ header.type = type ∧ header.requestId = requestId ∧ ∃ t ∈ ownerTypes, type = t.toByte

/-- The record is a response with this type, this number and this status. -/
def Replies (response : Bytes) (type : UInt8) (requestId : UInt32) (status : Int32) : Prop :=
  ∃ header, validateFrame response = .ok header ∧ header.has flagResponse = true
    ∧ header.type = type ∧ header.requestId = requestId ∧ header.status = status

/-- A packet as a port cuts it. -/
structure IsCut (portId : UInt32) (packet : Packet) (cut : Fragmentation) : Prop where
  valid : cut.Valid
  type : cut.type = .dataTx
  portId : cut.portId = portId
  packet : cut.packet = packet

/-- The records of a packet up to an offset. -/
def Upto (cut : Fragmentation) (offset : UInt32) (row : List Bytes) : Prop :=
  cut.Starts offset ∧ ∃ n, cut.Within n offset ∧ row ++ cut.rowFrom n offset = cut.row

variable {i : ClientIndex} {p : PortId}

theorem prefix_snoc {α : Type} {l m : List α} {x : α} (h : l <+: m) (hx : m[l.length]? = some x) :
    l ++ [x] <+: m := by
  obtain ⟨rest, rfl⟩ := h
  cases rest with
  | nil => simp at hx
  | cons y rest =>
    obtain rfl : y = x := by simpa using hx
    exact ⟨rest, by simp⟩

section Rows

variable {cut : Fragmentation} {offset : UInt32} {row : List Bytes}

theorem upto_zero (cut : Fragmentation) : Upto cut 0 [] :=
  ⟨cut.starts_zero, cut.rowBound, cut.within_rowBound, rfl⟩

theorem Upto.split (h : Upto cut offset row) :
    ∃ n, cut.Within (n + 1) offset ∧ row ++ cut.record offset
      :: (if isFinal cut.length offset then []
        else cut.rowFrom n (offset + chunkAt cut.length offset)) = cut.row := by
  obtain ⟨-, n, hn, hrow⟩ := h
  cases n with
  | zero => exact absurd hn.1 (Nat.lt_irrefl 0)
  | succ n => exact ⟨n, hn, hrow⟩

/-- A record more. -/
theorem Upto.next (hv : cut.Valid) (h : Upto cut offset row)
    (hmore : isFinal cut.length offset = false) :
    Upto cut (offset + chunkAt cut.length offset) (row ++ [cut.record offset]) := by
  obtain ⟨n, hn, hrow⟩ := h.split
  rw [hmore, if_neg Bool.false_ne_true] at hrow
  refine ⟨.next hv.length_le h.1 hmore, n, .next hv.length_le h.1 hmore hn, ?_⟩
  rw [List.append_assoc]
  exact hrow

/-- The last record. -/
theorem Upto.last (h : Upto cut offset row) (hfinal : isFinal cut.length offset = true) :
    row ++ [cut.record offset] = cut.row := by
  obtain ⟨n, -, hrow⟩ := h.split
  rwa [hfinal, if_pos rfl] at hrow

theorem Upto.begins (h : Upto cut offset row) : row ++ [cut.record offset] <+: cut.row := by
  obtain ⟨n, -, hrow⟩ := h.split
  exact ⟨_, (List.append_assoc _ _ _).trans hrow⟩

/-- There is always a record that follows. -/
theorem Upto.ne_row (h : Upto cut offset row) : row ≠ cut.row := by
  rintro rfl
  have hlen := h.begins.length_le
  rw [List.length_append] at hlen
  exact absurd hlen (Nat.not_succ_le_self _)

variable {frame : Bytes}

/-- Which one follows. -/
theorem Upto.follows (h : Upto cut offset row) {frame : Bytes}
    (hframe : row ++ [frame] <+: cut.row) : frame = cut.record offset := by
  have hsame := List.prefix_of_prefix_length_le hframe h.begins (by simp)
  have heq := hsame.eq_of_length (by simp)
  simpa using heq

theorem head_row {written : List Bytes} (hne : written ≠ []) (h : written <+: cut.row) :
    written.head? = some (cut.record 0) := by
  obtain ⟨n, -, hrow⟩ := (upto_zero cut).split
  cases written with
  | nil => exact absurd rfl hne
  | cons frame rest =>
    rw [← hrow, List.nil_append, List.cons_prefix_cons] at h
    rw [h.1]
    rfl

theorem row_ne_nil (cut : Fragmentation) : cut.row ≠ [] := fun hnil => by
  obtain ⟨n, -, hrow⟩ := (upto_zero cut).split
  rw [hnil] at hrow
  simp at hrow

/-- The records of a packet are fragments. -/
theorem IsCut.validateFrame {portId : UInt32} {packet : Packet} (h : IsCut portId packet cut)
    (hstarts : cut.Starts offset) :
    Vspd.validateFrame (cut.record offset) = .ok (cut.header offset)
      ∧ (cut.header offset).type = MessageType.dataTx.toByte
      ∧ (cut.header offset).has flagResponse = false :=
  ⟨(Fragmentation.frame_eq_ok h.valid hstarts).2, by rw [← h.type]; rfl, cut.has_response offset⟩

/-- A request of an owner is no fragment. -/
theorem IsCut.not_asks {portId : UInt32} {packet : Packet} (h : IsCut portId packet cut)
    (hstarts : cut.Starts offset) {type : UInt8} {requestId : UInt32} :
    ¬ Asks (cut.record offset) type requestId := by
  rintro ⟨header, hvalid, -, htype, -, t, ht, htoByte⟩
  obtain ⟨hvalid', hdata, -⟩ := h.validateFrame hstarts
  obtain rfl := Except.ok.inj (hvalid.symm.trans hvalid')
  rw [hdata, htoByte, MessageType.toByte_inj] at htype
  rw [← htype] at ht
  exact absurd ht (by decide)

/-- **The first record tells which packet it is.** -/
theorem IsCut.unique {portId : UInt32} {packet : Packet} {cut' : Fragmentation}
    (h : IsCut portId packet cut) (h' : IsCut portId packet cut')
    (hrecord : cut.record 0 = cut'.record 0) : cut = cut' := by
  have hheader : cut.header 0 = cut'.header 0 := by
    have hread := congrArg readHeader hrecord
    rwa [Fragmentation.record, Fragmentation.record, readHeader_headerBytes,
      readHeader_headerBytes] at hread
  have hrequest : cut.requestId = cut'.requestId := congrArg Header.requestId hheader
  have hmessage : cut.messageId = cut'.messageId := congrArg Header.messageId hheader
  have hpacket := h.packet.trans h'.packet.symm
  have hdata : cut.data = cut'.data := congrArg Packet.bytes hpacket
  have hterminator : cut.terminator = cut'.terminator := congrArg Packet.terminator hpacket
  have htype := h.type.trans h'.type.symm
  have hport := h.portId.trans h'.portId.symm
  obtain ⟨_, _, _, _, _, _⟩ := cut
  obtain ⟨_, _, _, _, _, _⟩ := cut'
  simp only at hrequest hmessage hdata hterminator htype hport
  rw [hrequest, hmessage, hdata, hterminator, htype, hport]

end Rows

/-! ## How far a request has come -/

/-- **How far the present request has come**: the records written and handled, the
responses not read, what has arrived of a packet, and the packets that have got through. -/
inductive Progress (portId : UInt32) (packet : Packet) (confirmed : List Packet) :
    List Bytes → List Bytes → List Bytes → Vspwd.Reassembly →
      List Packet → Prop
  /-- There is none. -/
  | quiet {r : Vspwd.Reassembly} (hr : r.active = false) :
      Progress portId packet confirmed [] [] [] r confirmed
  /-- It was written. -/
  | asked {frame : Bytes} {type : UInt8} {requestId : UInt32} {r : Vspwd.Reassembly}
      (hframe : Asks frame type requestId) (hr : r.active = false) :
      Progress portId packet confirmed [frame] [] [] r confirmed
  /-- It was handled. -/
  | answered {frame response : Bytes} {type : UInt8} {requestId : UInt32} {status : Int32}
      {r : Vspwd.Reassembly} (hframe : Asks frame type requestId)
      (hresponse : Replies response type requestId status) (hr : r.active = false) :
      Progress portId packet confirmed [frame] [frame] [response] r confirmed
  /-- Some of the records of a packet were written, and some of them were handled. -/
  | sending {cut : Fragmentation} {written row : List Bytes} {offset : UInt32}
      {r : Vspwd.Reassembly} (hcut : IsCut portId packet cut) (hne : written ≠ [])
      (hwritten : written <+: cut.row) (hrow : row <+: written) (hoffset : Upto cut offset row)
      (hr : r.Halfway cut offset) : Progress portId packet confirmed written row [] r confirmed
  /-- All of them were handled. -/
  | sent {cut : Fragmentation} {response : Bytes} {status : Int32} {r : Vspwd.Reassembly}
      {accepted : List Packet} (hcut : IsCut portId packet cut)
      (hresponse : Replies response MessageType.dataTx.toByte cut.requestId status)
      (hr : r.active = false)
      (haccepted : accepted = if status = Status.ok.toWire then confirmed ++ [packet]
        else confirmed) :
      Progress portId packet confirmed cut.row cut.row [response] r accepted

section Progress

variable {portId : UInt32} {packet : Packet} {confirmed accepted : List Packet}
  {written row pending : List Bytes} {r : Vspwd.Reassembly}

/-- Besides the packets that have got through before, the present one may have. -/
theorem Progress.accepted_cases
    (h : Progress portId packet confirmed written row pending r accepted) :
    accepted = confirmed ∨ written ≠ [] ∧ accepted = confirmed ++ [packet] := by
  cases h with
  | sent hcut hresponse hr haccepted =>
    rw [haccepted]
    split_ifs
    · exact .inr ⟨row_ne_nil _, rfl⟩
    · exact .inl rfl
  | _ => exact .inl rfl

/-- Where nothing was written, nothing is under way. -/
theorem Progress.of_nil (h : Progress portId packet confirmed [] row pending r accepted) :
    row = [] ∧ pending = [] ∧ r.active = false ∧ accepted = confirmed := by
  generalize hwritten : ([] : List Bytes) = written at h
  cases h with
  | quiet hr => exact ⟨rfl, rfl, hr, rfl⟩
  | asked | answered => cases hwritten
  | sending hcut hne => exact absurd hwritten.symm hne
  | sent hcut => exact absurd hwritten.symm (row_ne_nil _)

/-- **The record of a request is written.** -/
theorem Progress.ask (h : Progress portId packet confirmed [] row pending r accepted)
    {frame : Bytes} {type : UInt8} {requestId : UInt32} (hframe : Asks frame type requestId) :
    Progress portId packet confirmed [frame] row pending r accepted := by
  obtain ⟨rfl, rfl, hr, rfl⟩ := h.of_nil
  exact .asked hframe hr

/-- **A record of a packet is written.** -/
theorem Progress.send {cut : Fragmentation} {offset : UInt32}
    (h : Progress portId packet confirmed written row pending r accepted)
    (hcut : IsCut portId packet cut) (hoffset : Upto cut offset written) :
    Progress portId packet confirmed (written ++ [cut.record offset]) row pending r accepted := by
  have hbegins : written <+: cut.row := (List.prefix_append _ _).trans hoffset.begins
  cases h with
  | quiet hr =>
    refine .sending hcut (by simp) hoffset.begins List.nil_prefix (upto_zero cut) ?_
    exact ⟨by simp [hr], by simp, by simp, by simp, by simp, by simp⟩
  | asked hframe hr | answered hframe hresponse hr =>
    have hhead := head_row (by simp) hbegins
    obtain rfl := Option.some.inj hhead
    exact absurd hframe (hcut.not_asks cut.starts_zero)
  | sending hcut' hne hwritten hrow hoffset' hr =>
    have hhead := (head_row hne hbegins).symm.trans (head_row hne hwritten)
    obtain rfl := hcut.unique hcut' (Option.some.inj hhead)
    exact .sending hcut (by simp) hoffset.begins (hrow.trans (List.prefix_append _ _)) hoffset' hr
  | @sent cut' response status r accepted hcut' hresponse hr haccepted =>
    have hhead := (head_row (row_ne_nil cut') hbegins).symm.trans
      (head_row (row_ne_nil cut') List.prefix_rfl)
    obtain rfl := hcut.unique hcut' (Option.some.inj hhead)
    exact absurd rfl hoffset.ne_row

/-- **The response is read**: it is the one, and nothing is under way any more. -/
theorem Progress.respond {response : Bytes} {rest : List Bytes}
    (h : Progress portId packet confirmed written row (response :: rest) r accepted) :
    rest = [] ∧ row = written ∧ r.active = false
      ∧ ((∃ frame type requestId status, written = [frame] ∧ Asks frame type requestId
          ∧ Replies response type requestId status ∧ accepted = confirmed)
        ∨ ∃ cut status, IsCut portId packet cut ∧ written = cut.row
          ∧ Replies response MessageType.dataTx.toByte cut.requestId status
          ∧ accepted = if status = Status.ok.toWire then confirmed ++ [packet] else confirmed) := by
  cases h with
  | answered hframe hresponse hr =>
    exact ⟨rfl, rfl, hr, .inl ⟨_, _, _, _, rfl, hframe, hresponse, rfl⟩⟩
  | sent hcut hresponse hr haccepted =>
    exact ⟨rfl, rfl, hr, .inr ⟨_, _, hcut, rfl, hresponse, haccepted⟩⟩

end Progress

/-! ## The two ends -/

/-- The responses that a port has not read. -/
def unread (i : ClientIndex) (c : Context) (d : Daemon) : List Bytes :=
  (d.responses i).drop (c.history.read.filter isResponse).length

section Unread

variable {i : ClientIndex} {c : Context} {d : Daemon} {bytes : Bytes}

/-- The response slot is empty if nothing is left to read. -/
theorem held_of_unread (h : c.history.read <+: d.told i) (hunread : unread i c d = []) :
    (d.server.clients i).held = [] := by
  have hlen := List.drop_eq_nil_iff.mp hunread
  have hread := (h.filter isResponse).length_le
  rw [Daemon.responses, List.length_append] at hlen
  exact List.eq_nil_of_length_eq_zero (by omega)

/-- A record that is read is a response that was not, or no response. -/
theorem unread_of_told (h : c.history.read ++ [bytes] <+: d.told i) :
    unread i c d = (if isResponse bytes then [bytes] else [])
      ++ unread i (c.noteRead bytes) d := by
  obtain ⟨rest, hrest⟩ := h
  have hresponses : d.responses i = c.history.read.filter isResponse
      ++ ((if isResponse bytes then [bytes] else [])
        ++ (rest.filter isResponse ++ (d.server.clients i).held)) := by
    rw [Daemon.responses, ← hrest]
    cases hresponse : isResponse bytes <;> simp [hresponse]
  have hread : (c.noteRead bytes).history.read = c.history.read ++ [bytes] := rfl
  rw [unread, unread, hresponses, List.drop_left, hread, List.filter_append,
    List.length_append, ← List.drop_drop, List.drop_left]
  cases hresponse : isResponse bytes <;> simp [hresponse]

/-- A response more. -/
theorem unread_respond (h : c.history.read <+: d.told i) {d' : Daemon} {response : Bytes}
    (hresponses : d'.responses i = d.responses i ++ [response]) :
    unread i c d' = unread i c d ++ [response] := by
  have hread := (h.filter isResponse).length_le
  rw [unread, unread, hresponses, List.drop_append_of_le_length]
  rw [Daemon.responses, List.length_append]
  omega

end Unread

/-- **The port and its daemon are in step.** -/
structure Linked (i : ClientIndex) (p : PortId) (c : Context) (o : Dialogue) (e : Peer) :
    Prop where
  connected : c.connected = true
  port : c.portId = UInt32.ofNat p.val
  reachable : e.daemon.Reachable
  opened : (e.daemon.server.clients i).fd.isSome = true
  hello : (e.daemon.server.clients i).helloDone = true
  owns : (e.daemon.server.clients i).portId = some p
  read : c.history.read <+: e.daemon.told i
  progress : ∃ before row, c.history.sent = before ++ o.written
    ∧ e.daemon.heard i = before ++ row
    ∧ Progress c.portId o.packet o.confirmed o.written row (unread i c e.daemon)
      (e.daemon.server.clients i).reassembly e.accepted

/-- What of the context counts for it. -/
theorem Linked.of_same {c c' : Context} {o : Dialogue} {e : Peer} (h : Linked i p c o e)
    (hconnected : c'.connected = c.connected) (hport : c'.portId = c.portId)
    (hsent : c'.history.sent = c.history.sent) (hread : c'.history.read = c.history.read) :
    Linked i p c' o e where
  connected := hconnected.trans h.connected
  port := hport.trans h.port
  reachable := h.reachable
  opened := h.opened
  hello := h.hello
  owns := h.owns
  read := hread ▸ h.read
  progress := by
    rw [hport, hsent, unread, hread]
    exact h.progress

section Linked

variable {i : ClientIndex} {p : PortId} {c : Context} {o : Dialogue} {e : Peer}

variable {cut : Fragmentation} {offset requestId : UInt32}

/-- Where every response was read, none waits. -/
theorem Linked.responded (h : Linked i p c o e) (hunread : unread i c e.daemon = []) :
    (e.daemon.server.clients i).responsePending = false := by
  have hheld := held_of_unread h.read hunread
  simpa [Vspwd.Client.held] using hheld

/-- Between two requests it does not matter which packet was sent last. -/
theorem Linked.begin (h : Linked i p c o e) (hquiet : o.written = []) (packet : Packet) :
    Linked i p c { o with packet := packet } e := by
  obtain ⟨before, row, hsent, hheard, hprogress⟩ := h.progress
  refine ⟨h.connected, h.port, h.reachable, h.opened, h.hello, h.owns, h.read, before, row, hsent,
    hheard, ?_⟩
  show Progress c.portId packet o.confirmed o.written row _ _ _
  rw [hquiet] at hprogress ⊢
  obtain ⟨rfl, hunread, hr, haccepted⟩ := hprogress.of_nil
  rw [hunread, haccepted]
  exact .quiet hr

/-- **A record of the daemon is read that is no response.** -/
theorem Linked.readEvent (h : Linked i p c o e) {bytes : Bytes}
    (hnext : (e.daemon.told i)[c.history.read.length]? = some bytes)
    (hevent : isResponse bytes = false) : Linked i p (c.noteRead bytes) o e := by
  have hread := prefix_snoc h.read hnext
  obtain ⟨before, row, hsent, hheard, hprogress⟩ := h.progress
  rw [unread_of_told hread, hevent, if_neg Bool.false_ne_true, List.nil_append] at hprogress
  exact ⟨h.connected, h.port, h.reachable, h.opened, h.hello, h.owns, hread, before, row, hsent,
    hheard, hprogress⟩

/-- **A response is read.** It is the one to the present request, which is over. -/
theorem Linked.readResponse (h : Linked i p c o e) {bytes : Bytes}
    (hnext : (e.daemon.told i)[c.history.read.length]? = some bytes)
    (hresponse : isResponse bytes = true) :
    Linked i p (c.noteRead bytes) { o with written := [], confirmed := e.accepted } e
      ∧ ((∃ frame type requestId status, o.written = [frame] ∧ Asks frame type requestId
          ∧ Replies bytes type requestId status ∧ e.accepted = o.confirmed)
        ∨ ∃ cut status, IsCut c.portId o.packet cut ∧ o.written = cut.row
          ∧ Replies bytes MessageType.dataTx.toByte cut.requestId status
          ∧ e.accepted = if status = Status.ok.toWire then o.confirmed ++ [o.packet]
            else o.confirmed) := by
  have hread := prefix_snoc h.read hnext
  obtain ⟨before, row, hsent, hheard, hprogress⟩ := h.progress
  rw [unread_of_told hread, hresponse, if_pos rfl, List.singleton_append] at hprogress
  obtain ⟨hunread, rfl, hr, hkind⟩ := hprogress.respond
  refine ⟨⟨h.connected, h.port, h.reachable, h.opened, h.hello, h.owns, hread,
    before ++ o.written, [], ?_, ?_, ?_⟩, hkind⟩
  · rw [List.append_nil]
    exact hsent
  · rw [List.append_nil]
    exact hheard
  · rw [hunread]
    exact .quiet hr

/-- **The record of a request is written.** -/
theorem Linked.ask (h : Linked i p c o e) (hquiet : o.written = []) {frame : Bytes}
    {type : UInt8} (hframe : Asks frame type requestId) :
    Linked i p (c.noteSent frame) { o with written := o.written ++ [frame] } e := by
  obtain ⟨before, row, hsent, hheard, hprogress⟩ := h.progress
  rw [hquiet] at hprogress hsent
  refine ⟨h.connected, h.port, h.reachable, h.opened, h.hello, h.owns, h.read, before, row, ?_,
    hheard, ?_⟩
  · show c.history.sent ++ [frame] = before ++ (o.written ++ [frame])
    rw [hsent, hquiet, List.append_nil, List.nil_append]
  · show Progress c.portId o.packet o.confirmed (o.written ++ [frame]) row _ _ _
    rw [hquiet]
    exact hprogress.ask hframe

/-- **A record of a packet is written.** -/
theorem Linked.send (h : Linked i p c o e) (hcut : IsCut c.portId o.packet cut)
    (hoffset : Upto cut offset o.written) :
    Linked i p (c.noteSent (cut.record offset))
      { o with written := o.written ++ [cut.record offset] } e := by
  obtain ⟨before, row, hsent, hheard, hprogress⟩ := h.progress
  refine ⟨h.connected, h.port, h.reachable, h.opened, h.hello, h.owns, h.read, before, row, ?_,
    hheard, hprogress.send hcut hoffset⟩
  show c.history.sent ++ [cut.record offset] = _
  rw [hsent, List.append_assoc]

/-- **The daemon does something else.** -/
theorem Linked.aside (h : Linked i p c o e) {a : Vspwd.Action} (hrecord : a.ofRecord i = false)
    (hstays : ((e.daemon.step a).server.clients i).fd.isSome = true) :
    Linked i p c o ⟨e.daemon.step a, e.accepted ++ acceptedFrom i p e.daemon a⟩ := by
  have haside := Vspwd.step_aside h.reachable.kept.1 h.reachable.disciplined h.opened hrecord hstays
  have hstanding := haside.standing
  simp only [Vspwd.Client.standing, Prod.mk.injEq] at hstanding
  obtain ⟨before, row, hsent, hheard, hprogress⟩ := h.progress
  refine ⟨h.connected, h.port, h.reachable.step a trivial, hstays, hstanding.2.1.trans h.hello,
    hstanding.2.2.1.trans h.owns, h.read.trans haside.told, before, row, hsent,
    haside.heard.trans hheard, ?_⟩
  have hnone : acceptedFrom i p e.daemon a = [] := by simp [acceptedFrom, hrecord]
  show Progress _ _ _ _ _ ((Daemon.responses _ i).drop _) (Vspwd.Server.clients _ i).reassembly
    (e.accepted ++ _)
  rw [haside.responses, hstanding.2.2.2, hnone, List.append_nil]
  exact hprogress

/-- The next record to be handled comes behind those that were. -/
theorem next_written {before written row sent heard : List Bytes}
    (hsent : sent = before ++ written) (hheard : heard = before ++ row)
    (hnext : sent[heard.length]? = some frame) : written[row.length]? = some frame := by
  rw [hsent, hheard, List.length_append, List.getElem?_append_right (Nat.le_add_right _ _),
    Nat.add_sub_cancel_left] at hnext
  exact hnext

/-- The daemon has answered the present request. -/
theorem Linked.respond (h : Linked i p c o e) {frame : Bytes} {header : Header}
    {status : Status} (before row : List Bytes)
    (hanswered : Vspwd.Answered i e.daemon (e.daemon.step (.receive i (.record frame))) header
      status)
    (hunread : unread i c e.daemon = []) (hsent : c.history.sent = before ++ o.written)
    (hheard : (e.daemon.step (.receive i (.record frame))).heard i = before ++ row)
    (hprogress : ∀ response, Replies response header.type header.requestId status.toWire →
      Progress c.portId o.packet o.confirmed o.written row [response]
        ((e.daemon.step (.receive i (.record frame))).server.clients i).reassembly
        (e.accepted ++ acceptedFrom i p e.daemon (.receive i (.record frame)))) :
    Linked i p c o ⟨e.daemon.step (.receive i (.record frame)),
      e.accepted ++ acceptedFrom i p e.daemon (.receive i (.record frame))⟩ := by
  obtain ⟨response, header', hresponses, hvalid, hresponse, htype, hid, hstatus⟩ :=
    hanswered.responses
  refine ⟨h.connected, h.port, h.reachable.step (.receive i (.record frame)) trivial, ?_,
    hanswered.helloDone.trans h.hello, hanswered.portId.trans h.owns, ?_, before, row, hsent,
    hheard,
    ?_⟩
  · rw [hanswered.fd]
    exact h.opened
  · rw [hanswered.told]
    exact h.read
  · rw [unread_respond h.read hresponses, hunread]
    exact hprogress response ⟨header', hvalid, hresponse, htype, hid, hstatus⟩

/-- The request of an owner is handled. -/
theorem Linked.hearRequest (h : Linked i p c o e) {frame : Bytes} {type : UInt8}
    {before : List Bytes} (hasks : Asks frame type requestId)
    (hunread : unread i c e.daemon = []) (hwritten : o.written = [frame])
    (hsent : c.history.sent = before ++ o.written) (hheard : e.daemon.heard i = before)
    (hr : (e.daemon.server.clients i).reassembly.active = false)
    (haccepted : e.accepted = o.confirmed) :
    Linked i p c o ⟨e.daemon.step (.receive i (.record frame)),
      e.accepted ++ acceptedFrom i p e.daemon (.receive i (.record frame))⟩ := by
  obtain ⟨header, hvalid, hrequest, rfl, rfl, t, ht, htype⟩ := hasks
  have hne : ∀ t' ∉ ownerTypes, header.type ≠ t'.toByte := by
    intro t' ht' hbyte
    rw [htype, MessageType.toByte_inj] at hbyte
    exact ht' (hbyte ▸ ht)
  have hhandles := Vspwd.handles_of_request h.opened h.hello (h.responded hunread) hvalid hrequest
    htype ht
  obtain ⟨status, hanswered, hreassembly, hgrown⟩ := Vspwd.step_answered h.reachable hvalid hhandles
    h.owns (hne _ (by decide)) (hne _ (by decide)) (hne _ (by decide))
    (fun hdata => absurd hdata (hne _ (by decide)))
  rw [if_neg (fun hdata => hne _ (by decide) hdata.2)] at hgrown
  refine h.respond before [frame] hanswered hunread hsent ?_
    (fun response hresponse => ?_)
  · rw [Vspwd.step_heard hhandles, hheard]
  · rw [hwritten, hgrown, List.append_nil, haccepted]
    refine .answered ⟨header, hvalid, hrequest, rfl, rfl, t, ht, htype⟩ hresponse ?_
    obtain hclear | ⟨hsame, -⟩ := hreassembly
    · exact hclear
    · rw [hsame]
      exact hr

/-- A record of a packet is handled. -/
theorem Linked.hearFragment (h : Linked i p c o e) {before row : List Bytes}
    (hcut : IsCut c.portId o.packet cut) (hunread : unread i c e.daemon = [])
    (hwritten : o.written <+: cut.row) (hrow : row ++ [cut.record offset] <+: o.written)
    (hsent : c.history.sent = before ++ o.written) (hheard : e.daemon.heard i = before ++ row)
    (hoffset : Upto cut offset row) (hr : (e.daemon.server.clients i).reassembly.Halfway cut offset)
    (haccepted : e.accepted = o.confirmed) :
    Linked i p c o ⟨e.daemon.step (.receive i (.record (cut.record offset))),
      e.accepted ++ acceptedFrom i p e.daemon (.receive i (.record (cut.record offset)))⟩ := by
  obtain ⟨hvalid, htype, hrequest⟩ := hcut.validateFrame hoffset.1
  have hhandles := Vspwd.handles_of_fragment h.opened h.hello (h.responded hunread) hvalid hrequest
    hcut.type hcut.valid hoffset.1 rfl h.owns (hcut.portId.trans h.port) hr
  have hheard' : (e.daemon.step (.receive i (.record (cut.record offset)))).heard i
      = before ++ (row ++ [cut.record offset]) := by
    rw [Vspwd.step_heard hhandles, hheard, List.append_assoc]
  cases hfinal : isFinal cut.length offset with
  | false =>
    obtain ⟨htold, hresponses, hstanding, hgrown⟩ := Vspwd.step_fragment (p := p) hcut.type
      hcut.valid hoffset.1 hfinal hhandles hr
    simp only [Vspwd.Client.standing, Prod.mk.injEq] at hstanding
    obtain ⟨hfd, hhello, hport, hreassembly⟩ := hstanding
    refine ⟨h.connected, h.port,
      h.reachable.step (.receive i (.record (cut.record offset))) trivial, ?_,
      hhello.trans h.hello, hport.trans h.owns, ?_, before, row ++ [cut.record offset], hsent,
      hheard', ?_⟩
    · rw [hfd]
      exact h.opened
    · rw [htold]
      exact h.read
    · have hsame : unread i c (e.daemon.step (.receive i (.record (cut.record offset)))) = [] := by
        rw [unread, hresponses]
        exact hunread
      rw [hsame, hreassembly, hgrown, List.append_nil, haccepted]
      have hne : o.written ≠ [] := by
        rintro hnil
        rw [hnil, List.prefix_nil] at hrow
        simp at hrow
      exact .sending hcut hne hwritten hrow (hoffset.next hcut.valid hfinal)
        (.next hcut.valid.length_le hoffset.1 hfinal)
  | true =>
    have hne : ∀ t : MessageType, t ≠ .dataTx → (cut.header offset).type ≠ t.toByte := by
      intro t ht hbyte
      rw [htype, MessageType.toByte_inj] at hbyte
      exact ht hbyte.symm
    obtain ⟨status, hanswered, hreassembly, hgrown⟩ := Vspwd.step_answered h.reachable hvalid
      hhandles h.owns (hne _ (by decide)) (hne _ (by decide)) (hne _ (by decide))
      (fun _ => by rw [cut.has_end offset, hfinal])
    have hlast := hoffset.last hfinal
    have hall : o.written = cut.row :=
      hwritten.eq_of_length_le (by rw [← hlast]; exact hrow.length_le)
    have hpacket : (⟨Vspwd.gather (e.daemon.heard i ++ [cut.record offset]),
        (cut.header offset).terminator⟩ : Packet) = o.packet := by
      rw [hheard, List.append_assoc, hlast, Vspwd.gather_row hcut.valid hcut.type,
        Fragmentation.terminator_header hfinal]
      exact hcut.packet
    rw [hpacket] at hgrown
    refine h.respond before (row ++ [cut.record offset]) hanswered hunread hsent
      hheard' (fun response hresponse => ?_)
    rw [hlast, hall]
    refine .sent hcut (htype ▸ hresponse) ?_ ?_
    · exact hreassembly.resolve_right (fun hdata => hdata.2 htype)
    · rw [hgrown, haccepted]
      have hwire : status.toWire = Status.ok.toWire ↔ status = .ok := by
        cases status <;> decide
      simp only [hwire, htype, and_true]
      split_ifs <;> simp

/-- **The daemon handles the next record.** -/
theorem Linked.hear (h : Linked i p c o e) {frame : Bytes}
    (hnext : c.history.sent[(e.daemon.heard i).length]? = some frame) :
    Linked i p c o ⟨e.daemon.step (.receive i (.record frame)),
      e.accepted ++ acceptedFrom i p e.daemon (.receive i (.record frame))⟩ := by
  obtain ⟨before, row, hsent, hheard, hprogress⟩ := h.progress
  have hframe := next_written hsent hheard hnext
  generalize hwritten : o.written = written at hprogress hframe
  generalize hunread : unread i c e.daemon = pending at hprogress
  generalize hreassembly : (e.daemon.server.clients i).reassembly = r at hprogress
  generalize haccepted : e.accepted = accepted at hprogress
  cases hprogress with
  | quiet | answered | sent => simp at hframe
  | @asked asked type requestId _ hasks hr =>
    obtain rfl : asked = frame := by simpa using hframe
    rw [← haccepted]
    exact h.hearRequest hasks hunread hwritten hsent (hheard.trans (List.append_nil _))
      (hreassembly ▸ hr) haccepted
  | @sending cut written row offset _ hcut hne hbegins hrow hoffset hr =>
    subst hwritten
    have hrecord := prefix_snoc hrow hframe
    obtain rfl := hoffset.follows (hrecord.trans hbegins)
    rw [← haccepted]
    exact h.hearFragment hcut hunread hbegins hrecord hsent hheard hoffset (hreassembly ▸ hr)
      haccepted

end Linked

/-! ## A port that keeps in step -/

/-- What a port relies on: the other end is in step, and the socket stays connected. The
counters are looked at before each answer. -/
def talking (i : ClientIndex) (p : PortId) :
    Setting Request Request.Answer Context Dialogue Peer where
  inv := Linked i p
  answers c o e q r o' := c.Counted ∧ e.accepts i c o q r = some o'

/-- The call sends a packet. -/
def Call.Sending (call : Call) : Prop := ∃ packet timeoutUs, call = .send packet timeoutUs

/-- What is known of the dialogue during a call: its packet, and that this one at most has
got through besides those that had before. -/
def During (call : Call) (base : List Packet) (o : Dialogue) : Prop :=
  (o.confirmed = base ∨ call.Sending ∧ o.confirmed = base ++ [call.packet])
    ∧ o.packet = call.packet

/-- **Where a call stands**, seen from the socket. -/
def Stands (call : Call) (base : List Packet) : Stage → Context → Dialogue → Prop
  | .quiet, c, o => o.written = [] ∧ c.Counted ∧ o.confirmed = base
  | .request type requestId record, _, o =>
    o.written = [] ∧ Asks record type.toByte requestId ∧ o.confirmed = base
  | .fragment cut offset, c, o =>
    (IsCut c.portId o.packet cut ∧ Upto cut offset o.written) ∧ call.Sending ∧ o.confirmed = base
  | .awaits type requestId, c, o =>
    ((∃ record, o.written = [record] ∧ Asks record type requestId)
      ∨ ((type = MessageType.dataTx.toByte ∧ call.Sending) ∧ ∃ cut, IsCut c.portId o.packet cut
        ∧ cut.requestId = requestId ∧ o.written = cut.row)) ∧ o.confirmed = base
  | .answered type _ status, c, o => o.written = [] ∧ c.Counted
    ∧ (type ≠ MessageType.dataTx.toByte → o.confirmed = base)
    ∧ (type = MessageType.dataTx.toByte → statusToResult status = .ok →
      o.confirmed = base ++ [o.packet])

section Answers

variable {i : ClientIndex} {p : PortId} {c : Context} {o o' : Dialogue} {e : Peer}

variable {q : Request} {requestId : UInt32} {status : Int32}

theorem accepts_idle {r : q.Answer} (hidle : idleAnswer q r) (h : e.accepts i c o q r = some o') :
    o' = o := by
  cases q with
  | clock => exact (Option.some.inj h).symm
  | poll =>
    cases (r : PollAnswer) with
    | hungUp | error => cases h
    | _ => exact (Option.some.inj h).symm
  | send frame | recv =>
    obtain rfl | rfl := hidle
    · exact (Option.some.inj h).symm
    · exact (Option.some.inj h).symm
  | connect => cases h
  | close => exact hidle.elim

/-- A record that is read is the next one, and is noted if it is a response. -/
theorem accepts_record {bytes : Bytes}
    (h : e.accepts i c o .recv (ReceiveAnswer.record bytes) = some o') :
    (e.daemon.told i)[c.history.read.length]? = some bytes
      ∧ o' = if isResponse bytes then { o with written := [], confirmed := e.accepted } else o := by
  simp only [Peer.accepts] at h
  split_ifs at h with hnext hresponse
  · exact ⟨hnext, by rw [if_pos hresponse]; exact (Option.some.inj h).symm⟩
  · exact ⟨hnext, by rw [if_neg hresponse]; exact (Option.some.inj h).symm⟩

/-- What a daemon has written is legal, and fits the buffer. -/
theorem legal_of_told {d : Daemon} (h : d.Reachable) {n : Nat} {bytes : Bytes}
    (hnext : (d.told i)[n]? = some bytes) :
    ∃ header, validateFrame bytes = .ok header ∧ bytes.take frameCapacity = bytes := by
  obtain ⟨header, hvalid⟩ := h.kept.2.2 i bytes (List.mem_of_getElem? hnext)
  exact ⟨header, hvalid, List.take_of_length_le (Vspwd.length_le_frameMax hvalid)⟩

theorem not_accepts_fatal (hreachable : e.daemon.Reachable) {r : q.Answer}
    (hfatal : fatalAnswer q r) (h : e.accepts i c o q r = some o') : False := by
  cases q with
  | clock | connect | close => exact hfatal
  | poll | send frame => obtain rfl | rfl := hfatal <;> cases h
  | recv =>
    obtain rfl | rfl | rfl := hfatal
    · obtain ⟨header, hvalid, -⟩ := legal_of_told hreachable (accepts_record h).1
      cases hvalid
    · cases h
    · cases h

/-- The response to a request is the one that is waited for. -/
theorem Replies.eq {bytes : Bytes} {type : UInt8} {header : Header}
    (h : Replies bytes type requestId status) (hvalid : validateFrame bytes = .ok header) :
    header.type = type ∧ header.requestId = requestId ∧ header.status = status := by
  obtain ⟨header', hvalid', -, htype, hid, hstatus⟩ := h
  obtain rfl := Except.ok.inj (hvalid.symm.trans hvalid')
  exact ⟨htype, hid, hstatus⟩

theorem Asks.eq {type type' : UInt8} {requestId' : UInt32} (h : Asks frame type requestId)
    (h' : Asks frame type' requestId') : type = type' ∧ requestId = requestId' := by
  obtain ⟨header, hvalid, -, rfl, rfl, -⟩ := h
  obtain ⟨header', hvalid', -, rfl, rfl, -⟩ := h'
  obtain rfl := Except.ok.inj (hvalid.symm.trans hvalid')
  exact ⟨rfl, rfl⟩

theorem Asks.ne_dataTx {type : UInt8} (h : Asks frame type requestId) :
    type ≠ MessageType.dataTx.toByte := by
  obtain ⟨-, -, -, -, -, t, ht, rfl⟩ := h
  rw [ne_eq, MessageType.toByte_inj]
  rintro rfl
  exact absurd ht (by decide)

theorem statusToResult_eq_ok (h : statusToResult status = .ok) : status = Status.ok.toWire := by
  by_contra hne
  simp only [statusToResult, if_neg hne, ite_eq_iff, reduceCtorEq, and_false, or_self] at h

end Answers

theorem requestHeader_has_response (portId : UInt32) (type : MessageType) (payload : Bytes)
    (requestId : UInt32) :
    (requestHeader portId type payload requestId).has flagResponse = false := by
  have hflags : (requestHeader portId type payload requestId).flags = 0 := rfl
  rw [Header.has, hflags]
  decide

/-- The requests of a call that does not close the port are those of an owner. -/
theorem Sends.owner {call : Call} {type : MessageType} {payload : Bytes}
    (h : Sends call type payload) (hkeeps : call ≠ .destroy) : type ∈ ownerTypes := by
  cases h with
  | destroy => exact absurd rfl hkeeps
  | _ => decide

section Conversing

variable {i : ClientIndex} {p : PortId} {call : Call} {base : List Packet} {c : Context}
  {o o' : Dialogue} {e : Peer} {bytes : Bytes} {header : Header}

variable {g : Stage}

/-- A record that arrives, as the code sees it. -/
theorem Linked.arrived (hi : Linked i p c o e)
    (hr : (talking i p).answers c o e .recv (ReceiveAnswer.record bytes) o')
    (hvalid : validateFrame (bytes.take frameCapacity) = .ok header) :
    (e.daemon.told i)[c.history.read.length]? = some bytes ∧ bytes.take frameCapacity = bytes
      ∧ validateFrame bytes = .ok header ∧ isResponse bytes = header.has flagResponse
      ∧ o' = if isResponse bytes then { o with written := [], confirmed := e.accepted } else o := by
  obtain ⟨hnext, ho⟩ := accepts_record hr.2
  obtain ⟨-, -, htake⟩ := legal_of_told hi.reachable hnext
  rw [htake] at hvalid
  exact ⟨hnext, htake, hvalid, Vspwd.headerIs_of_ok hvalid, ho⟩

/-- An event leaves the port in step. -/
theorem Linked.afterEvent (hi : Linked i p c o e) (header : Header) (frame : Bytes) :
    Linked i p (c.afterEvent header frame) o e := by
  have hsession := processEvent_session c header (payloadOf frame)
  simp only [Context.session, Prod.mk.injEq] at hsession
  refine hi.of_same hsession.2.1 hsession.1 ?_ ?_
  · show (processEvent c header (payloadOf frame)).2.history.sent = _
    rw [hsession.2.2.2.2.2]
  · show (processEvent c header (payloadOf frame)).2.history.read = _
    rw [hsession.2.2.2.2.2]

theorem Stands.afterEvent (h : Stands call base g c o) (hreads : g.reads = true) (header : Header)
    (frame : Bytes) : Stands call base g ((c.noteRead bytes).afterEvent header frame) o := by
  have hsession := processEvent_session (c.noteRead bytes) header (payloadOf frame)
  simp only [Context.session, Prod.mk.injEq] at hsession
  cases g with
  | quiet => exact ⟨h.1, counted_afterEvent header frame h.2.1, h.2.2⟩
  | awaits type requestId =>
    obtain ⟨hasks | ⟨htype, cut, hcut, hid, hwritten⟩, hbase⟩ := h
    · exact ⟨.inl hasks, hbase⟩
    · exact ⟨.inr ⟨htype, cut, hsession.1.symm ▸ hcut, hid, hwritten⟩, hbase⟩
  | _ => cases hreads

/-- **The response that is read is the one that is waited for**, and at no other time is
there one to be read. -/
theorem Linked.expected (hi : Linked i p c o e) (hreads : g.reads = true)
    (hg : Stands call base g c o) (hnext : (e.daemon.told i)[c.history.read.length]? = some bytes)
    (hresponse : isResponse bytes = true) (hvalid : validateFrame bytes = .ok header) :
    g.expects header := by
  obtain ⟨-, hkind⟩ := hi.readResponse hnext hresponse
  cases g with
  | quiet =>
    obtain ⟨frame, -, -, -, hwritten, -⟩ | ⟨cut, -, -, hwritten, -⟩ := hkind
    · rw [hg.1] at hwritten
      cases hwritten
    · rw [hg.1] at hwritten
      exact absurd hwritten.symm (row_ne_nil cut)
  | awaits type requestId =>
    obtain ⟨frame, type', requestId', status, hwritten, hasks, hreplies, -⟩
      | ⟨cut, status, hcut, hwritten, hreplies, -⟩ := hkind
    · obtain ⟨htype, hid, -⟩ := hreplies.eq hvalid
      obtain ⟨record, hrecord, hasks'⟩ | ⟨-, cut, hcut, -, hrow⟩ := hg.1
      · obtain rfl : record = frame := by simpa [hrecord] using hwritten
        obtain ⟨rfl, rfl⟩ := hasks'.eq hasks
        exact ⟨htype, hid⟩
      · have hhead := head_row (row_ne_nil cut) List.prefix_rfl
        rw [← hrow, hwritten] at hhead
        obtain rfl := Option.some.inj hhead
        exact absurd hasks (hcut.not_asks cut.starts_zero)
    · obtain ⟨htype, hid, -⟩ := hreplies.eq hvalid
      have hhead := head_row (row_ne_nil cut) List.prefix_rfl
      rw [← hwritten] at hhead
      obtain ⟨record, hrecord, hasks'⟩ | ⟨⟨rfl, -⟩, cut', hcut', rfl, hrow⟩ := hg.1
      · rw [hrecord] at hhead
        obtain rfl := Option.some.inj hhead
        exact absurd hasks' (hcut.not_asks cut.starts_zero)
      · have hhead' := head_row (row_ne_nil cut') List.prefix_rfl
        rw [← hrow] at hhead'
        obtain rfl := hcut.unique hcut' (Option.some.inj (hhead.symm.trans hhead'))
        exact ⟨htype, hid⟩
  | _ => cases hreads

/-- **A response is read by the call that waits for it.** -/
theorem Linked.answer {type : UInt8} {requestId : UInt32} (hi : Linked i p c o e)
    (hduring : During call base o) (hg : Stands call base (.awaits type requestId) c o)
    (hr : (talking i p).answers c o e .recv (ReceiveAnswer.record bytes) o')
    (hvalid : validateFrame (bytes.take frameCapacity) = .ok header)
    (hresponse : header.has flagResponse = true) (htype : header.type = type) :
    Linked i p (c.noteRead bytes).noteHandled o' e ∧ During call base o'
      ∧ Stands call base (.answered type requestId header.status)
        (c.noteRead bytes).noteHandled o' := by
  obtain ⟨hnext, -, hvalid, hheader, rfl⟩ := hi.arrived hr hvalid
  rw [hresponse] at hheader
  rw [if_pos hheader]
  obtain ⟨hlinked, hkind⟩ := hi.readResponse hnext hheader
  obtain ⟨hwaits, hbase⟩ := hg
  have hcases : (type ≠ MessageType.dataTx.toByte ∧ e.accepted = base)
      ∨ (type = MessageType.dataTx.toByte ∧ call.Sending
        ∧ e.accepted = if header.status = Status.ok.toWire then base ++ [o.packet] else base) := by
    obtain ⟨frame, type', id', status, -, hasks, hreplies, haccepted⟩
      | ⟨cut, status, -, -, hreplies, haccepted⟩ := hkind
    · obtain ⟨htype', -⟩ := hreplies.eq hvalid
      exact .inl ⟨htype.symm.trans htype' ▸ hasks.ne_dataTx, haccepted.trans hbase⟩
    · obtain ⟨hdata, -, rfl⟩ := hreplies.eq hvalid
      rw [htype] at hdata
      obtain ⟨record, -, hasks⟩ | ⟨⟨-, hsending⟩, -⟩ := hwaits
      · exact absurd hdata hasks.ne_dataTx
      · exact .inr ⟨hdata, hsending, hbase ▸ haccepted⟩
  have hlinked' : Linked i p (c.noteRead bytes).noteHandled _ e := hlinked.of_same rfl rfl rfl rfl
  obtain ⟨hother, haccepted⟩ | ⟨hdata, hsending, haccepted⟩ := hcases
  · exact ⟨hlinked', ⟨.inl haccepted, hduring.2⟩, rfl, hr.1, fun _ => haccepted,
      fun hdata => absurd hdata hother⟩
  · refine ⟨hlinked', ⟨?_, hduring.2⟩, rfl, hr.1, fun hother => absurd hdata hother,
      fun _ hok => ?_⟩
    · split_ifs at haccepted
      · exact .inr ⟨hsending, hduring.2 ▸ haccepted⟩
      · exact .inl haccepted
    · rw [statusToResult_eq_ok hok, if_pos rfl] at haccepted
      exact haccepted

/-- **Every call keeps in step with the daemon.** -/
def conversing (i : ClientIndex) (p : PortId) (base : List Packet) (hcall : call.Admitted)
    (hkeeps : call ≠ .destroy) : Client ((talking i p).also (During call base)) call where
  holds := Stands call base
  lost _ _ := False
  idle {g c o e q r o'} hg hi hr hidle := by
    obtain rfl := accepts_idle hidle hr.2
    exact ⟨hi, hg⟩
  broken _ hi hr hfatal := (not_accepts_fatal hi.1.reachable hfatal hr.2).elim
  request {c o e type payload} hg hi hsends := by
    have hlegal := hsends.legal hcall c.portId hg.2.1.1
    exact ⟨⟨hi.1.of_same rfl rfl rfl rfl, hi.2⟩, hg.1, ⟨_, hlegal,
      requestHeader_has_response _ _ _ _, rfl, rfl, type, hsends.owner hkeeps, rfl⟩, hg.2.2⟩
  packet {c o e packet timeoutUs} hg hi hsend := by
    subst hsend
    refine ⟨⟨hi.1.of_same rfl rfl rfl rfl, hi.2⟩,
      ⟨⟨cutOf_valid hcall c.portId hg.2.1.1 hg.2.1.2, rfl, rfl, ?_⟩, ?_⟩, ⟨_, _, rfl⟩, hg.2.2⟩
    · exact hi.2.2.symm
    · rw [hg.1]
      exact upto_zero _
  sentRequest {c o e type requestId record o'} hg hi hr := by
    obtain rfl := Option.some.inj hr.2
    refine ⟨⟨hi.1.ask hg.1 hg.2.1, hi.2⟩, .inl ⟨record, ?_, hg.2.1⟩, hg.2.2⟩
    rw [hg.1]
    rfl
  sentFragment {c o e cut offset frame o'} hg hi hframe hr := by
    obtain ⟨⟨hcut, hoffset⟩, hsending, hbase⟩ := hg
    obtain ⟨hok, -⟩ := Fragmentation.frame_eq_ok hcut.valid hoffset.1
    rw [hok] at hframe
    cases hframe
    obtain rfl := Option.some.inj hr.2
    refine ⟨⟨hi.1.send hcut hoffset, hi.2⟩, ?_⟩
    split_ifs with hfinal
    · exact ⟨.inr ⟨⟨rfl, hsending⟩, cut, hcut, rfl, hoffset.last hfinal⟩, hbase⟩
    · rw [Bool.not_eq_true] at hfinal
      exact ⟨⟨hcut, hoffset.next hcut.valid hfinal⟩, hsending, hbase⟩
  event {g c o e bytes header o'} hreads hg hi hr hne hvalid hevent := by
    obtain ⟨hnext, -, -, hheader, rfl⟩ := hi.1.arrived hr hvalid
    rw [hevent] at hheader
    rw [hheader, if_neg Bool.false_ne_true]
    exact ⟨⟨(hi.1.readEvent hnext hheader).afterEvent _ _, hi.2⟩, hg.afterEvent hreads _ _⟩
  response {type requestId c o e bytes header o'} hg hi hr hne hvalid hresponse htype hid := by
    obtain ⟨hlinked, hduring, hanswered⟩ := hi.1.answer hi.2 hg hr hvalid hresponse htype
    exact ⟨⟨hlinked, hduring⟩, hanswered⟩
  stray {g c o e bytes o'} hreads hg hi hr hne hstray := by
    obtain ⟨hnext, ho⟩ := accepts_record hr.2
    obtain ⟨header, hvalid, htake⟩ := legal_of_told hi.1.reachable hnext
    rw [htake] at hstray
    obtain ⟨hresponse, hexpects⟩ := hstray header hvalid
    have hheader : isResponse bytes = true := (Vspwd.headerIs_of_ok hvalid).trans hresponse
    exact absurd (hi.1.expected hreads hg hnext hheader hvalid) hexpects
  rest hother h := ⟨h.1, h.2.1, h.2.2.1 hother⟩
  close h := h.elim
  closed h := h.elim
  change hchange hg hi := by
    cases hchange <;> exact ⟨⟨hi.1.of_same rfl rfl rfl rfl, hi.2⟩, hg⟩

theorem conversing_connected (base : List Packet) (hcall : call.Admitted)
    (hkeeps : call ≠ .destroy) : (conversing i p base hcall hkeeps).Connected where
  connected _ hi := hi.1.connected
  keeps := hkeeps

end Conversing

/-! ## Every run -/

/-- **What the calls have brought through**: one packet for each `device_send` that has
returned OK, and one or none for each that has failed. -/
inductive Brought (start : List Packet) : List (Call × Result) → List Packet → Prop
  | none : Brought start [] start
  | sent {log : List (Call × Result)} {packets : List Packet} (h : Brought start log packets)
      (packet : Packet) (timeoutUs : Timeout) (r : Result) :
      Brought start (log ++ [(.send packet timeoutUs, r)]) (packets ++ [packet])
  | other {log : List (Call × Result)} {packets : List Packet} (h : Brought start log packets)
      {call : Call} {r : Result} (hother : call.Sending → r ≠ .ok) :
      Brought start (log ++ [(call, r)]) packets

/-- **A call**, and what of it has got through. -/
theorem triple_call (i : ClientIndex) (p : PortId) (fuel : Nat) {call : Call}
    (hcall : call.Admitted) (hkeeps : call ≠ .destroy) {log : List (Call × Result)}
    {start base : List Packet} (hbase : Brought start log base) :
    Triple (talking i p)
      (fun c o => Stands call base .quiet c o ∧ During call base o) (call.code fuel)
      (fun _ r o => Brought start (log ++ [(call, r)]) o.confirmed) := by
  have hmode : (conversing i p base hcall hkeeps).Reconnects
      ∨ (conversing i p base hcall hkeeps).Connected :=
    .inr (conversing_connected base hcall hkeeps)
  by_cases hsend : call.Sending
  · obtain ⟨packet, timeoutUs, rfl⟩ := hsend
    refine (Client.triple_deviceSend hmode fuel rfl).also.post (fun c r o h => ?_)
    obtain hnone | ⟨-, hone⟩ := h.2.1
    · rw [hnone]
      refine hbase.other (fun _ hok => ?_)
      -- a call that says OK has been granted, so its packet has got through
      obtain ⟨requestId, status, hstatus, hanswered⟩ := h.1 hok
      have hone := hanswered.2.2.2 rfl hstatus
      simp [hnone] at hone
    · rw [hone]
      exact hbase.sent packet timeoutUs r
  · refine (Client.triple_code hmode (fun _ hg hi =>
      ⟨⟨hi.1.of_same rfl rfl rfl rfl, hi.2⟩, hg⟩) fuel).also.post (fun c r o h => ?_)
    obtain hnone | ⟨hsending, -⟩ := h.2.1
    · rw [hnone]
      exact hbase.other (fun hsending => absurd hsending hsend)
    · exact absurd hsending hsend

namespace Session

variable {fuel : Nat} {i : ClientIndex} {p : PortId} {s₀ s s' : Session} {start : List Packet}

/-- **What is known of a session**: both ends are in step, and the calls have brought
through what is confirmed. -/
abbrev InStep (i : ClientIndex) (p : PortId) (start : List Packet) (s : Session) : Prop :=
  s.port.Holds (talking i p) (fun log _ o => Brought start log o.confirmed) s.peer

theorem Established.inStep (h : s.Established i p) : s.InStep i p s.peer.accepted := by
  have hlinked : Linked i p s.port.state s.port.out s.peer := by
    refine ⟨h.connected, h.port, h.reachable, h.opened, h.hello, h.owns, h.told,
      s.context.history.sent, [], ?_, ?_, ?_⟩
    · rw [h.fresh.1, List.append_nil]
      rfl
    · rw [h.heard, List.append_nil]
    · have hunread : unread i s.port.state s.peer.daemon = [] := by
        obtain ⟨rest, hrest⟩ := h.told
        have hfilter : rest.filter isResponse = [] := by
          rw [List.filter_eq_nil_iff]
          intro frame hframe
          have hmem := h.answered frame
          rw [← hrest, List.drop_left] at hmem
          simp [hmem hframe]
        have hheld : (s.peer.daemon.server.clients i).held = [] := by
          simp [Vspwd.Client.held, h.responded]
        rw [unread, Daemon.responses, ← hrest, List.filter_append, hfilter, hheld]
        simp [context]
      rw [hunread, h.fresh.1, h.fresh.2.1]
      exact .quiet h.reassembly
  obtain ⟨⟨activity, out, log⟩, peer⟩ := s
  cases activity with
  | busy call x => exact absurd h.idle Bool.false_ne_true
  | idle c =>
    refine ⟨hlinked, ?_⟩
    have hconfirmed : out.confirmed = peer.accepted := h.fresh.2.1
    show Brought peer.accepted log out.confirmed
    rw [show log = [] from h.fresh.2.2, hconfirmed]
    exact .none

theorem InStep.step (h : s.InStep i p start) {act : Act} (hcareful : s.Careful act)
    (hstep : s.step fuel i p act = some s') : s'.InStep i p start := by
  cases act with
  | call call =>
    obtain ⟨port, hbegin, rfl⟩ := Option.map_eq_some_iff.mp hstep
    obtain ⟨hquiet, hcall, hkeeps, hcounted⟩ := hcareful
    obtain ⟨⟨activity, out, log⟩, peer⟩ := s
    cases activity with
    | busy other x => cases hbegin
    | idle c =>
      have hnew : (⟨.idle c, { out with packet := call.packet }, log⟩ :
          Endpoint Request Request.Answer Context Dialogue Call Result).Holds (talking i p)
          (fun log _ o => Brought start log o.confirmed) peer :=
        ⟨Linked.begin h.1 hquiet call.packet, h.2⟩
      refine hnew.begin hbegin (fun _ => ?_)
      refine (triple_call i p fuel hcall hkeeps h.2).pre (fun c' o ho => ?_)
      obtain ⟨rfl, rfl⟩ := ho
      exact ⟨⟨hquiet, hcounted, rfl⟩, .inl rfl, rfl⟩
  | answer reply =>
    obtain ⟨port, hanswer, rfl⟩ := Option.map_eq_some_iff.mp hstep
    exact Endpoint.Holds.answer h hanswer (fun q out _ hout => ⟨hcareful, hout⟩)
  | daemon a =>
    simp only [Session.step] at hstep
    split_ifs at hstep with hoffers
    obtain rfl := Option.some.inj hstep
    refine h.interfere ?_
    have hlinked := h.inv
    by_cases hrecord : a.ofRecord i = true
    · obtain ⟨frame, rfl⟩ := Vspwd.Action.eq_of_ofRecord hrecord
      simp only [offers, if_true, decide_eq_true_eq] at hoffers
      exact hlinked.hear hoffers
    · rw [Bool.not_eq_true] at hrecord
      refine hlinked.aside hrecord ?_
      have hkeeps : offers.keeps s i a = true := by
        unfold offers at hoffers
        split at hoffers
        · next j frame =>
          have hj : ¬ j = i := by simpa [Vspwd.Action.ofRecord] using hrecord
          rwa [if_neg hj] at hoffers
        · exact hoffers
      simp only [offers.keeps, decide_eq_true_eq] at hkeeps
      rw [hkeeps]
      exact hlinked.opened

theorem Runs.inStep (h : Runs fuel i p s₀ s) : s.InStep i p s₀.peer.accepted := by
  induction h with
  | established h => exact h.inStep
  | step _ act hcareful hstep ih => exact ih.step hcareful hstep

/-- Between two calls. -/
theorem InStep.brought (h : s.InStep i p start) (hidle : s.port.isIdle = true) :
    ∃ packets, Brought start s.port.log packets ∧ (s.peer.accepted = packets
      ∨ s.port.out.written ≠ [] ∧ s.peer.accepted = packets ++ [s.port.out.packet]) := by
  obtain ⟨before, row, -, -, hprogress⟩ := h.inv.progress
  exact ⟨_, h.rest hidle, hprogress.accepted_cases⟩

/-- What was sent has got through, also while a call is under way. -/
theorem Runs.brought (h : Runs fuel i p s₀ s) :
    ∃ packets, Brought s₀.peer.accepted s.port.log packets ∧ packets <+: s.peer.accepted := by
  -- the log grows only when a call returns, and then the packets are confirmed
  have hidle : ∀ {s : Session}, s.InStep i p s₀.peer.accepted → s.port.isIdle = true →
      ∃ packets, Brought s₀.peer.accepted s.port.log packets ∧ packets <+: s.peer.accepted := by
    intro s h hidle
    obtain ⟨packets, hbrought, heq | ⟨-, heq⟩⟩ := h.brought hidle
    · exact ⟨packets, hbrought, heq ▸ List.prefix_rfl⟩
    · exact ⟨packets, hbrought, heq ▸ List.prefix_append _ _⟩
  induction h with
  | established h => exact hidle h.inStep h.idle
  | @step s s' h act hcareful hstep ih =>
    have hinv := h.inStep.step hcareful hstep
    obtain ⟨packets, hbrought, hprefix⟩ := ih
    cases act with
    | call call =>
      obtain ⟨port, hbegin, rfl⟩ := Option.map_eq_some_iff.mp hstep
      obtain hlog | hreturned := Endpoint.begin_log hbegin
      · exact ⟨packets, hlog ▸ hbrought, hprefix⟩
      · exact hidle hinv hreturned
    | answer reply =>
      obtain ⟨port, hanswer, rfl⟩ := Option.map_eq_some_iff.mp hstep
      obtain hlog | hreturned := Endpoint.answer_log hanswer
      · exact ⟨packets, hlog ▸ hbrought, hprefix⟩
      · exact hidle hinv hreturned
    | daemon a =>
      simp only [Session.step] at hstep
      split_ifs at hstep
      obtain rfl := Option.some.inj hstep
      exact ⟨packets, hbrought, hprefix.trans (List.prefix_append _ _)⟩

end Session

/-- A response has the type and the number of a request. -/
def Matches (frame response : Bytes) : Prop :=
  ∃ request header, validateFrame frame = .ok request ∧ validateFrame response = .ok header
    ∧ header.has flagResponse = true ∧ header.type = request.type
    ∧ header.requestId = request.requestId

/-- Every response that is under way belongs to the present request. -/
theorem Progress.matches {portId : UInt32} {packet : Packet} {confirmed accepted : List Packet}
    {written row pending : List Bytes} {r : Vspwd.Reassembly}
    (h : Progress portId packet confirmed written row pending r accepted) :
    ∀ frame ∈ written, ∀ response ∈ pending, Matches frame response := by
  intro frame hframe response hresponse
  cases h with
  | quiet => cases hframe
  | asked | sending => cases hresponse
  | answered hasks hreplies =>
    obtain rfl := List.mem_singleton.mp hframe
    obtain rfl := List.mem_singleton.mp hresponse
    obtain ⟨request, hvalid, -, rfl, rfl, -⟩ := hasks
    obtain ⟨header, hvalid', hflag, htype, hid, -⟩ := hreplies
    exact ⟨request, header, hvalid, hvalid', hflag, htype, hid⟩
  | sent hcut hreplies =>
    obtain rfl := List.mem_singleton.mp hresponse
    obtain ⟨offset, hstarts, rfl⟩ := Fragmentation.mem_rowFrom hcut.valid.length_le _ 0
      (Fragmentation.starts_zero _) hframe
    obtain ⟨hvalid, htype, -⟩ := hcut.validateFrame hstarts
    obtain ⟨header, hvalid', hflag, htype', hid, -⟩ := hreplies
    exact ⟨_, header, hvalid, hvalid', hflag, htype'.trans htype.symm, hid⟩

/-- **A session stays usable.** In every run of an established session in which each call
begins when no request is outstanding, whatever the calls return: the port stays connected
and the daemon keeps it, the responses that are under way belong to the request that is
under way, and where there is none the daemon has nothing left of an earlier one, neither a
response nor a part of a packet. -/
theorem session_stays_usable {fuel : Nat} {i : ClientIndex} {p : PortId} {s₀ s : Session}
    (h : Session.Runs fuel i p s₀ s) :
    s.context.connected = true
      ∧ (s.peer.daemon.server.clients i).fd.isSome = true
      ∧ (∀ frame ∈ s.port.out.written, ∀ response ∈ unread i s.context s.peer.daemon,
        Matches frame response)
      ∧ (s.port.out.written = [] → unread i s.context s.peer.daemon = []
        ∧ (s.peer.daemon.server.clients i).responsePending = false
        ∧ (s.peer.daemon.server.clients i).reassembly.active = false) := by
  have hlinked := h.inStep.inv
  obtain ⟨before, row, -, -, hprogress⟩ := hlinked.progress
  refine ⟨hlinked.connected, hlinked.opened, hprogress.matches, fun hquiet => ?_⟩
  rw [hquiet] at hprogress
  obtain ⟨-, hunread, hr, -⟩ := hprogress.of_nil
  exact ⟨hunread, hlinked.responded hunread, hr⟩

/-! ## Lengths above the limit

`device_send` does not look at the length. It puts the length modulo 2³² into the records and
cuts as many bytes. -/

/-- The packet as the records tell it. -/
def wrapped (packet : Packet) : Packet :=
  ⟨packet.bytes.take (packet.bytes.length % 2 ^ 32), packet.terminator⟩

section Wrapped

variable {portId requestId messageId offset : UInt32} {packet : Packet}

theorem cutOf_length_toNat :
    (cutOf portId requestId messageId packet).length.toNat = packet.bytes.length % 2 ^ 32 :=
  UInt32.toNat_ofNat'

theorem cutOf_wrapped_length : (cutOf portId requestId messageId (wrapped packet)).length
    = (cutOf portId requestId messageId packet).length := by
  rw [← UInt32.toNat_inj, cutOf_length_toNat, cutOf_length_toNat, wrapped,
    List.length_take, Nat.min_eq_left (Nat.mod_le _ _), Nat.mod_mod]

theorem chunkAt_within {length : UInt32} (h : offset ≤ length) :
    offset.toNat + (chunkAt length offset).toNat ≤ length.toNat := by
  have hsub := UInt32.toNat_sub_of_le _ _ h
  rw [UInt32.le_iff_toNat_le] at h
  unfold chunkAt
  split_ifs with hgt
  · rw [gt_iff_lt, UInt32.lt_iff_toNat_lt, hsub] at hgt
    omega
  · omega

theorem frame_wrapped (h : offset ≤ (cutOf portId requestId messageId packet).length) :
    (cutOf portId requestId messageId packet).frame offset
      = (cutOf portId requestId messageId (wrapped packet)).frame offset := by
  have hlength := @cutOf_wrapped_length portId requestId messageId packet
  have hheader : (cutOf portId requestId messageId (wrapped packet)).header offset
      = (cutOf portId requestId messageId packet).header offset := by
    simp only [Fragmentation.header, hlength]
    rfl
  have hpayload : (cutOf portId requestId messageId (wrapped packet)).payload offset
      = (cutOf portId requestId messageId packet).payload offset := by
    have hchunk := chunkAt_within h
    rw [cutOf_length_toNat] at hchunk
    rw [Fragmentation.payload, Fragmentation.payload, hlength]
    show ((packet.bytes.take _).drop _).take _ = (packet.bytes.drop _).take _
    rw [List.drop_take, List.take_take, Nat.min_eq_left (by omega)]
  rw [Fragmentation.frame, Fragmentation.frame, hheader, hpayload]

/-- **Sending a packet is sending what the records tell of it.** -/
theorem deviceSend_wrapped (fuel : Nat) (packet : Packet) (timeoutUs : Timeout) :
    deviceSend fuel packet timeoutUs = deviceSend fuel (wrapped packet) timeoutUs := by
  have hfragments : ∀ portId requestId messageId deadline n offset,
      offset ≤ (cutOf portId requestId messageId packet).length →
      sendFragments fuel (cutOf portId requestId messageId packet) deadline n offset
        = sendFragments fuel (cutOf portId requestId messageId (wrapped packet)) deadline n
          offset := by
    intro portId requestId messageId deadline n
    induction n with
    | zero => exact fun _ _ => rfl
    | succ n ih =>
      intro offset hoffset
      have hnext : offset + chunkAt (cutOf portId requestId messageId packet).length offset
          ≤ (cutOf portId requestId messageId packet).length := by
        rw [UInt32.le_iff_toNat_le, UInt32.toNat_add]
        exact (Nat.mod_le _ _).trans (chunkAt_within hoffset)
      simp only [sendFragments, frame_wrapped hoffset, ih _ hnext, cutOf_wrapped_length]
      rfl
  simp only [deviceSend, sendPacket, hfragments _ _ _ _ _ 0 (UInt32.zero_le)]

/-- **A packet is sent though it is too long**: as the shorter one that its records tell of, or
with a first record for which the daemon closes the connection. -/
def SentAnyhow (packet : Packet) : Prop :=
  (2 ^ 32 ≤ packet.bytes.length ∧ (wrapped packet).bytes.length < packet.bytes.length
      ∧ ∀ fuel timeoutUs,
        deviceSend fuel packet timeoutUs = deviceSend fuel (wrapped packet) timeoutUs)
    ∨ ∀ portId requestId messageId, ∃ frame,
      (cutOf portId requestId messageId packet).frame 0 = .ok frame
        ∧ ∀ s i, (Vspwd.handleRequest s i frame).1 = false

/-- No length above the limit is refused. -/
theorem oversize_not_refused (h : maxLogicalPacket < packet.bytes.length) : SentAnyhow packet := by
  by_cases hlong : 2 ^ 32 ≤ packet.bytes.length
  · refine .inl ⟨hlong, ?_, fun fuel => deviceSend_wrapped fuel packet⟩
    have hmod := Nat.mod_lt packet.bytes.length (show 0 < 2 ^ 32 by decide)
    rw [wrapped, List.length_take]
    omega
  · refine .inr fun portId requestId messageId =>
      ⟨_, Fragmentation.frame_written _ 0, fun s i => ?_⟩
    rw [Vspwd.handleRequest]
    cases hvalid : validateFrame _ with
    | error _ => split_ifs <;> rfl
    | ok header =>
      -- a record of a longer packet is not legal
      obtain rfl := (validateFrame_eq_ok hvalid).1
      rw [readHeader_headerBytes] at hvalid
      have hshape := dataShape_of_validateFrame hvalid (Fragmentation.has_response _ 0) rfl
      have htotal : packet.bytes.length % 2 ^ 32 ≤ maxLogicalPacket :=
        cutOf_length_toNat ▸ hshape.total_le
      omega

end Wrapped

/-- **What was sent has got through, and nothing else.** In every such run, with packets of
at most the advertised length: the packets that the daemon has queued for the other port are,
in the order of the calls, one for each `device_send` that has returned OK, byte for byte and
with its terminator, and at most one for each that has failed. Between two calls they are all
that it has queued, but for the packet of a call whose response was not read. A packet that
is longer is never refused. -/
theorem device_send_exact {fuel : Nat} {i : ClientIndex} {p : PortId} {s₀ s : Session}
    (h : Session.Runs fuel i p s₀ s) :
    (∃ packets, Brought s₀.peer.accepted s.port.log packets ∧ packets <+: s.peer.accepted)
      ∧ (s.port.isIdle = true → ∃ packets, Brought s₀.peer.accepted s.port.log packets
        ∧ (s.peer.accepted = packets
          ∨ s.port.out.written ≠ [] ∧ s.peer.accepted = packets ++ [s.port.out.packet]))
      ∧ ∀ packet : Packet, maxLogicalPacket < packet.bytes.length → SentAnyhow packet :=
  ⟨h.brought, h.inStep.brought, fun _ => oversize_not_refused⟩

/-! ## A session -/

/-- A daemon with a client at the second port, where a device port has connected to the
first one. -/
def servedDaemon : Daemon :=
  (Daemon.initial Vspwd.initServer).run (Vspwd.connect 0 7 ++ Vspwd.connect 1 8
    ++ Vspwd.exchange 1 (Vspwd.requestRecord .attach 2 1 [])
    ++ Vspwd.exchange 1 (Vspwd.requestRecord .start 3 1 [])
    ++ Vspwd.exchange 0 (Vspwd.requestRecord .attach 2 0 [])
    ++ Vspwd.exchange 0 (Vspwd.requestRecord .getCapabilities 3 0 []))

/-- The answers with which the port has connected: what the daemon has written, record by
record. -/
def servedReply (n : Nat) : (q : Request) → q.Answer
  | .clock => (0 : UInt64)
  | .poll _ _ => PollAnswer.ready
  | .send _ => SendAnswer.sent
  | .recv => ReceiveAnswer.record ((servedDaemon.told 0).getD ((n - 3) / 2) [])
  | .connect => ConnectAnswer.connected
  | .close => ()

/-- The port that has connected. -/
def servedContext : Context :=
  match ((deviceConstruct 4 (Context.initial 0)).replay servedReply 0).2 with
  | some (c, _) => c
  | none => Context.initial 0

/-- **The session of the two.** -/
def served : Session := ⟨⟨.idle servedContext, ⟨⟨[], .eop⟩, [], []⟩, []⟩, ⟨servedDaemon, []⟩⟩

/-- What is evaluated of it. -/
theorem served_state :
    servedContext.connected = true ∧ servedContext.portId = 0
      ∧ (servedDaemon.server.clients 0).fd.isSome = true
      ∧ (servedDaemon.server.clients 0).helloDone = true
      ∧ (servedDaemon.server.clients 0).portId = some 0
      ∧ servedDaemon.heard 0 = servedContext.history.sent
      ∧ servedContext.history.read = servedDaemon.told 0
      ∧ (servedDaemon.server.clients 0).responsePending = false
      ∧ (servedDaemon.server.clients 0).reassembly.active = false := by decide +kernel

theorem established_served : served.Established 0 0 := by
  obtain ⟨hconnected, hport, hopened, hhello, howns, hheard, hread, hresponded, hr⟩ := served_state
  have hreachable : servedDaemon.Reachable := .run (.start .plain) _
  rw [served]
  generalize servedContext = c at hconnected hport hheard hread ⊢
  generalize servedDaemon = d at hopened hhello howns hheard hread hresponded hr hreachable ⊢
  refine ⟨rfl, hconnected, hport, hreachable, hopened, hhello, howns, hheard, ?_, ?_, hresponded,
    hr, rfl, rfl, rfl⟩
  · exact hread ▸ List.prefix_rfl
  · show ∀ frame ∈ (d.told 0).drop c.history.read.length, _
    rw [hread, List.drop_length]
    exact fun frame h => absurd h List.not_mem_nil

/-- The socket takes whatever is written and has what the daemon has written; a call that
waits for more is out of time. -/
def eager (s : Session) : Act :=
  .answer fun
    | .clock => (0 : UInt64)
    | .poll _ _ => PollAnswer.timedOut
    | .send _ => SendAnswer.sent
    | .recv =>
      match (s.peer.daemon.told 0)[s.context.history.read.length]? with
      | some bytes => ReceiveAnswer.record bytes
      | none => ReceiveAnswer.wouldBlock
    | .connect => ConnectAnswer.noSocket
    | .close => ()

/-- The daemon handles the next record, and writes what there is. -/
def serving : List (Session → Act) :=
  [fun s => .daemon (.receive 0 (.record
      (s.context.history.sent.getD (s.peer.daemon.heard 0).length []))),
    fun _ => .daemon (.flush 0 (fun _ => .sent))]

/-- A call that is answered at once. -/
def asking (call : Call) : List (Session → Act) :=
  (fun _ => .call call) :: eager :: serving ++ [eager]

/-- A call that waits for a packet in vain. -/
def waiting : List (Session → Act) :=
  (fun _ => .call (.receive 8 1000)) :: List.replicate 4 eager

/-- After a call that has timed out the next one is answered. -/
theorem session_stays_usable_served :
    ∃ s, served.play 4 0 0 (waiting ++ asking .start) = some s
      ∧ s.port.log.map Prod.snd = [.timeout, .ok] ∧ s.context.connected = true := by
  have hplay : (served.play 4 0 0 (waiting ++ asking .start)).map
      (fun s => s.port.log.map Prod.snd) = some [.timeout, .ok] := by decide +kernel
  obtain ⟨s, hplay, hlog⟩ := Option.map_eq_some_iff.mp hplay
  have hruns := (Session.Runs.established established_served).play (by decide +kernel) hplay
  exact ⟨s, hplay, hlog, (session_stays_usable hruns).1⟩

/-- A call whose response comes too late, and another one. -/
def overlapping : List (Session → Act) :=
  (fun _ => .call .getStatistics) :: List.replicate 5 eager ++ serving
    ++ (fun _ => .call .getStatistics) :: List.replicate 4 eager

/-- **A response that comes too late costs the connection.** The first call has timed out
after its request was written; the second one reads the response to it, and gives up. -/
theorem late_response_disconnects :
    served.Established 0 0 ∧ ∃ s, served.play 4 0 0 overlapping = some s
      ∧ s.port.log = [(.getStatistics, .timeout), (.getStatistics, .backend)]
      ∧ s.context.connected = false := by
  have hplay : (served.play 4 0 0 overlapping).map (fun s => (s.port.log, s.context.connected))
      = some ([(.getStatistics, .timeout), (.getStatistics, .backend)], false) := by
    decide +kernel
  obtain ⟨s, hplay, hend⟩ := Option.map_eq_some_iff.mp hplay
  exact ⟨established_served, s, hplay, congrArg Prod.fst hend, congrArg Prod.snd hend⟩

/-- The calls that a packet of three bytes gets through with. -/
def sendingThree : List (Session → Act) :=
  asking .start ++ asking (.send ⟨[1, 2, 3], .eep⟩ timeoutInfinite)

/-- It gets through once. -/
theorem device_send_exact_served :
    ∃ s, served.play 4 0 0 sendingThree = some s
      ∧ s.port.log.map Prod.snd = [.ok, .ok] ∧ s.peer.accepted = [⟨[1, 2, 3], .eep⟩]
      ∧ ∃ packets, Brought [] s.port.log packets ∧ packets <+: s.peer.accepted := by
  have hplay : (served.play 4 0 0 sendingThree).map
      (fun s => (s.port.log.map Prod.snd, s.peer.accepted))
        = some ([.ok, .ok], [⟨[1, 2, 3], .eep⟩]) := by decide +kernel
  obtain ⟨s, hplay, hend⟩ := Option.map_eq_some_iff.mp hplay
  have hruns := (Session.Runs.established established_served).play (by decide +kernel) hplay
  exact ⟨s, hplay, congrArg Prod.fst hend, congrArg Prod.snd hend, (device_send_exact hruns).1⟩

/-- Four gigabytes. -/
def huge : Packet := ⟨List.replicate (2 ^ 32) 0, .eop⟩

theorem huge_length : huge.bytes.length = 2 ^ 32 := List.length_replicate

/-- The call that sends them. -/
def sendHuge : Call := .send huge timeoutInfinite

/-- The session once the port has been started. -/
def running : Session := (served.play 4 0 0 (asking .start)).getD served

/-- The session in which the call has begun. Its code is that of the call that sends an
empty packet. -/
def sendingHuge : Session :=
  ⟨Endpoint.advance running.port { running.port.out with packet := huge } sendHuge
    (deviceSend 4 ⟨[], .eop⟩ timeoutInfinite running.context), running.peer⟩

theorem step_sendHuge : running.step 4 0 0 (.call sendHuge) = some sendingHuge := by
  have hwrapped : wrapped huge = ⟨[], .eop⟩ := by
    rw [wrapped, huge_length]
    rfl
  have hcode : Call.code 4 sendHuge = deviceSend 4 ⟨[], .eop⟩ timeoutInfinite :=
    hwrapped ▸ deviceSend_wrapped 4 huge timeoutInfinite
  have hidle : running.port.isIdle = true := by decide +kernel
  rw [sendingHuge, ← hcode]
  generalize running = s at hidle ⊢
  obtain ⟨⟨activity, out, log⟩, peer⟩ := s
  cases activity with
  | busy call x => cases hidle
  | idle c => rfl

/-- A call that is under way, or has returned. -/
def Pursued (call : Call) (log : List (Call × Result)) (s : Session) : Prop :=
  (∃ x, s.port.activity = .busy call x ∧ s.port.log = log)
    ∨ s.port.isIdle = true ∧ ∃ r, s.port.log = log ++ [(call, r)]

theorem pursued_advance (p : Endpoint Request Request.Answer Context Dialogue Call Result)
    (out : Dialogue) (call : Call) (x : Step Request Request.Answer Context Result) (peer : Peer) :
    Pursued call p.log ⟨p.advance out call x, peer⟩ := by
  cases x with
  | done c r => exact .inr ⟨rfl, r, rfl⟩
  | ask c q k | hang c => exact .inl ⟨_, rfl, rfl⟩

/-- Answers and the daemon finish the call that is under way. -/
theorem Pursued.play {fuel : Nat} {call : Call} {log : List (Call × Result)}
    {script : List (Session → Act)} (hscript : ∀ act ∈ script, ∀ s other, act s ≠ .call other) :
    ∀ {s s' : Session}, Pursued call log s → s.play fuel i p script = some s' →
      Pursued call log s' := by
  induction script with
  | nil =>
    intro s s' h hplay
    rwa [← Option.some.inj hplay]
  | cons act rest ih =>
    intro s s' h hplay
    rw [List.forall_mem_cons] at hscript
    obtain ⟨middle, hstep, hrest⟩ := Option.bind_eq_some_iff.mp hplay
    refine ih hscript.2 ?_ hrest
    cases hact : act s with
    | call other => exact absurd hact (hscript.1 s other)
    | answer reply =>
      rw [hact] at hstep
      obtain ⟨port, hanswer, rfl⟩ := Option.map_eq_some_iff.mp hstep
      obtain ⟨⟨activity, out, log'⟩, peer⟩ := s
      obtain ⟨x, rfl, rfl⟩ | ⟨hidle, -⟩ := h
      · cases x with
        | done c r | hang c => cases hanswer
        | ask c q k =>
          obtain ⟨out', -, rfl⟩ := Option.map_eq_some_iff.mp hanswer
          exact pursued_advance ⟨_, out, log'⟩ out' call _ peer
      · cases activity with
        | idle c => cases hanswer
        | busy other x => cases hidle
    | daemon a =>
      rw [hact] at hstep
      simp only [Session.step] at hstep
      split_ifs at hstep
      obtain rfl := Option.some.inj hstep
      exact h

theorem Session.play_append (fuel : Nat) (i : ClientIndex) (p : PortId)
    (a b : List (Session → Act)) (s : Session) :
    s.play fuel i p (a ++ b) = (s.play fuel i p a).bind (Session.play fuel i p b) := by
  induction a generalizing s with
  | nil => rfl
  | cons act rest ih =>
    simp only [List.cons_append, Session.play, Option.bind_assoc]
    exact congrArg _ (funext ih)

/-- **Four gigabytes are sent, and nothing arrives.** `device_send` says OK of a packet of
2³² bytes, and the daemon has queued an empty one. -/
theorem huge_packet_vanishes :
    served.Established 0 0 ∧ huge.bytes.length = 2 ^ 32
      ∧ ∃ s, served.play 4 0 0 (asking .start ++ asking sendHuge) = some s
        ∧ s.port.log = [(.start, .ok), (.send huge timeoutInfinite, .ok)]
        ∧ s.peer.accepted = [⟨[], .eop⟩] := by
  have hrunning : served.play 4 0 0 (asking .start) = some running :=
    (Option.some_get (by decide +kernel)).symm.trans (congrArg some (Option.get_eq_getD _))
  have hfinish : (sendingHuge.play 4 0 0 (eager :: serving ++ [eager])).map
      (fun s => (s.port.log.map Prod.snd, s.peer.accepted)) = some ([.ok, .ok], [⟨[], .eop⟩]) := by
    decide +kernel
  obtain ⟨s, hplay, hend⟩ := Option.map_eq_some_iff.mp hfinish
  refine ⟨established_served, huge_length, s, ?_, ?_, congrArg Prod.snd hend⟩
  · rw [Session.play_append, hrunning, Option.bind_some, asking, List.cons_append, Session.play,
      step_sendHuge, Option.bind_some, hplay]
  · have hlog : running.port.log = [(.start, .ok)] := by decide +kernel
    have hpursued := (pursued_advance running.port { running.port.out with packet := huge } sendHuge
      (deviceSend 4 ⟨[], .eop⟩ timeoutInfinite running.context) running.peer).play
      (by simp [eager, serving]) hplay
    have hresults := congrArg Prod.fst hend
    obtain ⟨x, -, hold⟩ | ⟨-, r, hnew⟩ := hpursued
    · simp [hold, hlog] at hresults
    · rw [hlog] at hnew
      obtain rfl : r = .ok := by simpa [hnew] using hresults
      exact hnew

end Device
