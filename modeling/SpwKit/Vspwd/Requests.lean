import SpwKit.Vspwd.Moves

/-!
# What handling a record comes to

A record from a client is refused, is a fragment of a packet that is not the
last, or is a request that has an effect and is answered. `Effect` says what a
request can do before it is answered, with the checks the code has made;
`Handled` is the whole of `handleRequest`, and `handleRequest_handled` says that
there is nothing else. Properties of requests are read off these two.
-/

open Vspd BigEndian

namespace Vspwd

/-- The requests that only read. -/
def readTypes : List MessageType :=
  [.getLinkState, .getCapabilities, .getStatistics, .getServerInfo, .getPortInfo,
    .getPortStatistics]

/-- **What a request does before it is answered**, with the status of the answer. -/
inductive Effect (s : Server) (i : ClientIndex) (request : Header) (payload : Bytes) :
    Status → Server → Prop
  /-- Nothing: the request only reads, or is not granted. -/
  | nothing (status : Status) (type : MessageType) (htype : request.type = type.toByte)
      (hdata : type ≠ .dataTx) (hread : status = .ok → type ∈ readTypes) :
      Effect s i request payload status s
  | hello (htype : request.type = MessageType.hello.toByte)
      (hport : (s.clients i).portId = none) :
      Effect s i request payload .ok
        (s.updateClient i (fun client => { client with helloDone := true }))
  | attach (p : PortId) (htype : request.type = MessageType.attach.toByte)
      (hhello : (s.clients i).helloDone = true) (hport : (s.clients i).portId = none)
      (hp : request.portId.toNat = p.val) (hbridged : (s.ports p).bridged = false)
      (howner : (s.ports p).clientIndex = none) :
      Effect s i request payload .ok (attachClient s i p)
  | detach (p : PortId) (htype : request.type = MessageType.detach.toByte)
      (howns : (s.clients i).portId = some p)
      (hgrants : validateAttachedRequest (s.clients i) request = .ok p) :
      Effect s i request payload .ok (detachClient s i)
  | start (p : PortId) (htype : request.type = MessageType.start.toByte)
      (howns : (s.clients i).portId = some p) : Effect s i request payload .ok (startPort s p)
  | stop (p : PortId) (htype : request.type = MessageType.stop.toByte)
      (howns : (s.clients i).portId = some p) : Effect s i request payload .ok (stopPort s p)
  | reset (p : PortId) (htype : request.type = MessageType.reset.toByte)
      (howns : (s.clients i).portId = some p) (hp : request.portId = UInt32.ofNat p.val) :
      Effect s i request payload .ok (resetPort s i p)
  | clearStatistics (p : PortId) (htype : request.type = MessageType.clearStatistics.toByte)
      (howns : (s.clients i).portId = some p) :
      Effect s i request payload .ok (clearPortStatistics s p)
  | clearPortStatistics (p : PortId)
      (htype : request.type = MessageType.clearPortStatistics.toByte)
      (hport : (s.clients i).portId = none) (hp : request.portId.toNat = p.val) :
      Effect s i request payload .ok (Vspwd.clearPortStatistics s p)
  | subscribe (p : PortId) (htype : request.type = MessageType.subscribePort.toByte)
      (hhello : (s.clients i).helloDone = true) (hport : (s.clients i).portId = none) :
      Effect s i request payload .ok (subscribePort s i p)
  | unsubscribe (p : PortId) (htype : request.type = MessageType.unsubscribePort.toByte)
      (hport : (s.clients i).portId = none) :
      Effect s i request payload .ok (unsubscribePort s i p)
  /-- The last fragment of a client that owns no port, or another one. -/
  | dataRefused (status : Status) (hstatus : status ≠ .ok)
      (htype : request.type = MessageType.dataTx.toByte)
      (hend : request.has flagFragmentEnd = true) :
      Effect s i request payload status (s.clearReassembly i)
  /-- The last fragment of a packet. -/
  | data (p : PortId) (r : Reassembly) (status : Status) (s₁ : Server)
      (htype : request.type = MessageType.dataTx.toByte)
      (hend : request.has flagFragmentEnd = true) (howns : (s.clients i).portId = some p)
      (hadmits : (s.clients i).reassembly.admits request = some r)
      (hcomplete : (r.store request payload).nextOffset = (r.store request payload).totalSize)
      (hdeliver : deliverPacket
          (s.setReassembly i { r.store request payload with terminator := request.terminator }) p
          { r.store request payload with terminator := request.terminator }.packet
        = (status, s₁)) (hp : request.portId = UInt32.ofNat p.val) :
      Effect s i request payload status (s₁.clearReassembly i)
  | timeCode (p : PortId) (status : Status) (s₁ : Server)
      (htype : request.type = MessageType.timeCodeTx.toByte)
      (howns : (s.clients i).portId = some p)
      (hdeliver : deliverTimeCode s p ⟨byteAt payload 0, byteAt payload 1⟩ = (status, s₁)) :
      Effect s i request payload status s₁

/-- **What handling a record comes to.** -/
inductive Handled (s : Server) (i : ClientIndex) (frame : Bytes) : Bool → Server → Prop
  /-- The record is refused; at most the client's reassembly has changed. -/
  | refused (r : Reassembly) : Handled s i frame false (s.setReassembly i r)
  /-- The record is a fragment that is not the last. -/
  | fragment (request : Header) (p : PortId) (r : Reassembly)
      (hfree : (s.clients i).responsePending = false)
      (hvalid : validateFrame frame = .ok request) (hrequest : request.has flagResponse = false)
      (htype : request.type = MessageType.dataTx.toByte)
      (hend : request.has flagFragmentEnd = false) (howns : (s.clients i).portId = some p)
      (hadmits : (s.clients i).reassembly.admits request = some r) :
      Handled s i frame true (s.setReassembly i (r.store request (payloadOf frame)))
  /-- The record is a request, and is answered. -/
  | answered (request : Header) (status : Status) (payload : Bytes) (s₁ : Server)
      (hfree : (s.clients i).responsePending = false)
      (hvalid : validateFrame frame = .ok request) (hrequest : request.has flagResponse = false)
      (hanswerable : Answerable request)
      (hfinal : request.type = MessageType.dataTx.toByte → request.has flagFragmentEnd = true)
      (heffect : Effect s i request (payloadOf frame) status s₁)
      (hpayload : status = .ok → ResponsePayload request payload) :
      Handled s i frame true (s₁.respond i (responseBytes request status payload))

/-! ## Effects leave the response slot alone -/

variable {i : ClientIndex} {s s₁ : Server} {status : Status}

theorem Server.setReassembly_self (s : Server) (i : ClientIndex) :
    s.setReassembly i (s.clients i).reassembly = s := by
  simp only [Server.setReassembly, Server.updateClient, Function.update_eq_self]

theorem Handled.refused_self (s : Server) (i : ClientIndex) (frame : Bytes) :
    Handled s i frame false s := by
  have h : Handled s i frame false (s.setReassembly i (s.clients i).reassembly) := .refused _
  rwa [s.setReassembly_self i] at h

/-- The connection of a client and its response slot. -/
def Client.slot (client : Client) : Option Nat × Bool × Bytes :=
  (client.fd, client.responsePending, client.response)

theorem slot_of_unmarked {c d : Client} (h : c.unmarked = d.unmarked) : c.slot = d.slot := by
  rw [Client.slot, fd_of_unmarked h, responsePending_of_unmarked h, response_of_unmarked h]
  rfl

theorem slot_updateClient {f : Client → Client} (hf : (f (s.clients i)).slot = (s.clients i).slot)
    (j : ClientIndex) : ((s.updateClient i f).clients j).slot = (s.clients j).slot := by
  rw [Server.updateClient_clients]
  split_ifs with hj
  · rw [hf, hj]
  · rfl

theorem slot_releasePort (s : Server) (i j : ClientIndex) :
    ((releasePort s i).clients j).slot = (s.clients j).slot := by
  unfold releasePort
  split
  · rfl
  · split_ifs
    · exact slot_of_unmarked (unmarked_markPortChanged _ _ j)
    · rfl

theorem slot_detachClient (s : Server) (i j : ClientIndex) :
    ((detachClient s i).clients j).slot = (s.clients j).slot := by
  rw [detachClient, slot_of_unmarked (unmarked_updateStates _ j), slot_updateClient rfl,
    slot_releasePort]

/-- **Until it is answered, a request leaves every connection and every response
slot alone.** -/
theorem Effect.slot {request : Header} {payload : Bytes} (h : Effect s i request payload status s₁)
    (j : ClientIndex) : (s₁.clients j).slot = (s.clients j).slot := by
  cases h with
  | nothing => rfl
  | hello | subscribe p | unsubscribe p | dataRefused => exact slot_updateClient rfl j
  | attach p =>
    rw [attachClient, slot_of_unmarked (unmarked_updateStates _ j)]
    show ((s.updateClient i (fun client => { client with portId := some p })).clients j).slot = _
    exact slot_updateClient rfl j
  | detach => exact slot_detachClient s i j
  | start p =>
    rw [startPort, slot_of_unmarked (unmarked_updateStates _ j)]
    rfl
  | stop p =>
    rw [stopPort, slot_of_unmarked (unmarked_updateStates _ j)]
    rfl
  | reset p =>
    rw [resetPort, slot_of_unmarked (unmarked_updateStates _ j)]
    exact slot_updateClient rfl j
  | clearStatistics p | clearPortStatistics p =>
    exact slot_of_unmarked (unmarked_markPortChanged _ _ j)
  | data p r status s₂ htype hend howns hadmits hcomplete hdeliver =>
    have hset := slot_updateClient (s := s) (i := i) (f := fun client =>
      { client with
        reassembly := { r.store request payload with terminator := request.terminator } }) rfl j
    have hclear : ((s₂.clearReassembly i).clients j).slot = (s₂.clients j).slot :=
      slot_updateClient rfl j
    exact hclear.trans ((slot_of_unmarked (unmarked_deliverPacket hdeliver j)).trans hset)
  | timeCode p status s₂ htype howns hdeliver =>
    exact slot_of_unmarked (unmarked_deliverTimeCode hdeliver j)

theorem Effect.responsePending {request : Header} {payload : Bytes}
    (h : Effect s i request payload status s₁) (j : ClientIndex) :
    (s₁.clients j).responsePending = (s.clients j).responsePending :=
  congrArg (fun slot => slot.2.1) (h.slot j)

/-! ## The checks of a client -/

theorem validateAttachedRequest_cases (client : Client) (header : Header) :
    (∃ p, validateAttachedRequest client header = .ok p ∧ client.portId = some p
        ∧ client.helloDone = true ∧ header.portId = UInt32.ofNat p.val)
      ∨ ∃ status, validateAttachedRequest client header = .error status ∧ status ≠ .ok := by
  unfold validateAttachedRequest
  cases client.portId with
  | none => exact Or.inr ⟨_, rfl, by decide⟩
  | some p =>
    simp only
    split_ifs with hhello hport
    · exact Or.inr ⟨_, rfl, by decide⟩
    · exact Or.inr ⟨_, rfl, by decide⟩
    · exact Or.inl ⟨p, rfl, rfl, by simpa using hhello, by simpa using hport⟩

theorem validateManagementRequest_cases (client : Client) :
    (validateManagementRequest client = .ok () ∧ client.helloDone = true
        ∧ client.portId = none)
      ∨ ∃ status, validateManagementRequest client = .error status ∧ status ≠ .ok := by
  unfold validateManagementRequest
  split_ifs with h
  · exact Or.inr ⟨_, rfl, by decide⟩
  · simp only [Bool.or_eq_true, Bool.not_eq_true', not_or, Bool.not_eq_false,
      Option.isSome_iff_ne_none, ne_eq, not_not] at h
    exact Or.inl ⟨rfl, h.1, h.2⟩

theorem validateManagementPort_cases (client : Client) (header : Header) :
    (∃ p, validateManagementPort client header = .ok p ∧ client.helloDone = true
        ∧ client.portId = none ∧ header.portId.toNat = p.val)
      ∨ ∃ status, validateManagementPort client header = .error status ∧ status ≠ .ok := by
  unfold validateManagementPort
  obtain ⟨hok, hhello, hport⟩ | ⟨status, herror, hne⟩ := validateManagementRequest_cases client
  · rw [hok]
    by_cases hp : header.portId.toNat < portCount
    · exact Or.inl ⟨⟨_, hp⟩, by simp [bind, Except.bind, hp], hhello, hport, rfl⟩
    · exact Or.inr ⟨.invalidArgument, by simp [bind, Except.bind, hp], by decide⟩
  · exact Or.inr ⟨status, by simp [bind, Except.bind, herror], hne⟩

/-! ## Every request is handled so -/

section Handling

/-- A record that is looked at further: it is a request, and the client has been answered. -/
structure Considered (s : Server) (i : ClientIndex) (frame : Bytes) (request : Header) :
    Prop where
  free : (s.clients i).responsePending = false
  valid : validateFrame frame = .ok request
  asks : request.has flagResponse = false
  no_event : typeIsEvent request.type = false

/-- The record is handled so. -/
abbrev HandledBy (s : Server) (i : ClientIndex) (frame : Bytes) (r : Bool × Server) : Prop :=
  Handled s i frame r.1 r.2

variable {s : Server} {i : ClientIndex} {frame : Bytes} {request : Header}
  (hc : Considered s i frame request)

include hc

variable {status : Status} {s₁ : Server}

/-- A request that has had its effect is answered. -/
theorem reply_handled {payload : Bytes}
    (hfinal : request.type = MessageType.dataTx.toByte → request.has flagFragmentEnd = true)
    (heffect : Effect s i request (payloadOf frame) status s₁)
    (hlen : payload.length ≤ statisticsPayloadSize)
    (hpayload : status = .ok → ResponsePayload request payload) :
    HandledBy s i frame (reply s₁ i request status payload) := by
  have htype := typeValid_of_validateFrame hc.valid
  have hslot : (s₁.clients i).responsePending = false := (heffect.responsePending i).trans hc.free
  have hreply : reply s₁ i request status payload
      = (true, s₁.respond i (responseBytes request status payload)) := by
    rw [reply, queueResponse_eq status hslot htype hlen]
    rfl
  rw [hreply]
  exact .answered request status payload s₁ hc.free hc.valid hc.asks
    ⟨htype, hc.no_event, requestId_ne_zero hc.valid hc.asks hc.no_event⟩ hfinal heffect hpayload

variable {type : MessageType}

/-- A request that is not granted, or only reads. -/
theorem reply_nothing_handled (htype : request.type = type.toByte)
    (hdata : type ≠ .dataTx) {payload : Bytes} (hread : status = .ok → type ∈ readTypes)
    (hlen : payload.length ≤ statisticsPayloadSize)
    (hpayload : status = .ok → ResponsePayload request payload) :
    HandledBy s i frame (reply s i request status payload) := by
  have hne : request.type ≠ MessageType.dataTx.toByte := by
    rwa [htype, ne_eq, MessageType.toByte_inj]
  exact reply_handled hc (fun h => absurd h hne)
    (.nothing status type htype hdata hread) hlen hpayload

/-- A request that is refused with a status. -/
theorem reply_refused_handled (htype : request.type = type.toByte) (hdata : type ≠ .dataTx)
    (hne : status ≠ .ok) {payload : Bytes} (hlen : payload.length ≤ statisticsPayloadSize) :
    HandledBy s i frame (reply s i request status payload) :=
  reply_nothing_handled hc htype hdata (fun hst => absurd hst hne) hlen
    (fun hst => absurd hst hne)

/-- A request that is granted and answered without a payload. -/
theorem reply_granted_handled (htype : request.type = type.toByte)
    (hdata : type ≠ .dataTx) (hsize : successResponsePayloadSize type.toByte = 0)
    (heffect : Effect s i request (payloadOf frame) .ok s₁) :
    HandledBy s i frame (reply s₁ i request .ok []) := by
  have hne : request.type ≠ MessageType.dataTx.toByte := by
    rwa [htype, ne_eq, MessageType.toByte_inj]
  exact reply_handled hc (fun h => absurd h hne) heffect
    (Nat.zero_le _) (fun _ => responsePayload_nil htype hsize)

theorem replyAttached_handled (htype : request.type = type.toByte) (hdata : type ≠ .dataTx)
    (hsize : successResponsePayloadSize type.toByte = 0) {change : PortId → Server}
    (heffect : ∀ p : PortId, (s.clients i).portId = some p →
      request.portId = UInt32.ofNat p.val → Effect s i request (payloadOf frame) .ok (change p)) :
    HandledBy s i frame (replyAttached s i request change) := by
  rw [replyAttached]
  obtain ⟨p, hok, howns, -, hp⟩ | ⟨status, herror, hne⟩ :=
    validateAttachedRequest_cases (s.clients i) request
  · rw [hok]
    exact reply_granted_handled hc htype hdata hsize
      (heffect p howns hp)
  · rw [herror]
    exact reply_refused_handled hc htype hdata hne (Nat.zero_le _)

theorem replyAttachedRead_handled (htype : request.type = type.toByte) (hread : type ∈ readTypes)
    {payload : Port → Bytes} (hpayload : ∀ port, ResponsePayload request (payload port)) :
    HandledBy s i frame (replyAttachedRead s i request payload) := by
  have hdata : type ≠ .dataTx := fun h => absurd (h ▸ hread) (by decide)
  rw [replyAttachedRead]
  obtain ⟨p, hok, -, -⟩ | ⟨status, herror, hne⟩ :=
    validateAttachedRequest_cases (s.clients i) request
  · rw [hok]
    exact reply_nothing_handled hc htype hdata (fun _ => hread)
      ((hpayload _).length_eq.le.trans (successResponsePayloadSize_le _)) (fun _ => hpayload _)
  · rw [herror]
    exact reply_refused_handled hc htype hdata hne (Nat.zero_le _)

theorem replyManagement_handled (htype : request.type = type.toByte) (hdata : type ≠ .dataTx)
    (hsize : successResponsePayloadSize type.toByte = 0) {change : PortId → Server}
    (heffect : ∀ p : PortId, (s.clients i).helloDone = true → (s.clients i).portId = none →
      request.portId.toNat = p.val → Effect s i request (payloadOf frame) .ok (change p)) :
    HandledBy s i frame (replyManagement s i request change) := by
  rw [replyManagement]
  obtain ⟨p, hok, hhello, hport, hp⟩ | ⟨status, herror, hne⟩ :=
    validateManagementPort_cases (s.clients i) request
  · rw [hok]
    exact reply_granted_handled hc htype hdata hsize
      (heffect p hhello hport hp)
  · rw [herror]
    exact reply_refused_handled hc htype hdata hne (Nat.zero_le _)

theorem replyManagementRead_handled (htype : request.type = type.toByte) (hread : type ∈ readTypes)
    {payload : Port → Bytes} (hpayload : ∀ port, ResponsePayload request (payload port)) :
    HandledBy s i frame (replyManagementRead s i request payload) := by
  have hdata : type ≠ .dataTx := fun h => absurd (h ▸ hread) (by decide)
  rw [replyManagementRead]
  obtain ⟨p, hok, -, -, -⟩ | ⟨status, herror, hne⟩ :=
    validateManagementPort_cases (s.clients i) request
  · rw [hok]
    exact reply_nothing_handled hc htype hdata (fun _ => hread)
      ((hpayload _).length_eq.le.trans (successResponsePayloadSize_le _)) (fun _ => hpayload _)
  · rw [herror]
    exact reply_refused_handled hc htype hdata hne (Nat.zero_le _)

theorem handleHello_handled (htype : request.type = MessageType.hello.toByte) :
    HandledBy s i frame (handleHello s i request) := by
  have hlen : helloPayload.length ≤ statisticsPayloadSize := by decide
  unfold handleHello
  split_ifs with hport
  · exact reply_refused_handled hc htype (by decide) (by decide) hlen
  · have hnone : (s.clients i).portId = none := by simpa using hport
    exact reply_handled hc
      (fun hdata => absurd (htype.symm.trans hdata) (by decide)) (.hello htype hnone) hlen
      (fun _ => responsePayload_hello htype)

theorem handleAttach_handled (htype : request.type = MessageType.attach.toByte) :
    HandledBy s i frame (handleAttach s i request) := by
  have hrefuse : ∀ status : Status, status ≠ .ok →
      HandledBy s i frame (reply s i request status []) :=
    fun status hne =>
      reply_refused_handled hc htype (by decide) hne (Nat.zero_le _)
  unfold handleAttach
  simp only
  split_ifs with hclient hp hbridged howner
  · exact hrefuse _ (by decide)
  · exact hrefuse _ (by decide)
  · exact hrefuse _ (by decide)
  · simp only [Bool.or_eq_true, Bool.not_eq_true', not_or, Bool.not_eq_false,
      Option.isSome_iff_ne_none, ne_eq, not_not] at hclient
    exact reply_granted_handled hc htype (by decide) rfl
      (.attach ⟨_, hp⟩ htype hclient.1 hclient.2 rfl (by simpa using hbridged)
        (by simpa using howner))
  · exact hrefuse _ (by decide)

theorem handleDetach_handled (htype : request.type = MessageType.detach.toByte) :
    HandledBy s i frame (handleDetach s i request) := by
  unfold handleDetach
  obtain ⟨p, hok, howns, -⟩ | ⟨status, herror, hne⟩ :=
    validateAttachedRequest_cases (s.clients i) request
  · -- the client is answered first, which makes no difference
    have hvalidType := typeValid_of_validateFrame hc.valid
    have hreply : ∀ t : Server, (t.clients i).responsePending = false →
        reply t i request .ok [] = (true, t.respond i (responseBytes request .ok [])) :=
      fun t ht => by
        rw [reply, queueResponse_eq .ok ht hvalidType (Nat.zero_le _)]
        rfl
    have hgranted := reply_granted_handled hc htype (by decide) rfl
      (.detach p htype howns hok)
    have hslot : ((detachClient s i).clients i).responsePending = false :=
      (congrArg (fun slot => slot.2.1) (slot_detachClient s i i)).trans hc.free
    rw [hreply _ hslot] at hgranted
    rw [hok, hreply s hc.free]
    simp only [AgreeOff.detachClient_respond]
    exact hgranted
  · rw [herror]
    exact reply_refused_handled hc htype (by decide) hne (Nat.zero_le _)

theorem handleGetServerInfo_handled (htype : request.type = MessageType.getServerInfo.toByte) :
    HandledBy s i frame (handleGetServerInfo s i request) := by
  unfold handleGetServerInfo
  obtain ⟨hok, -, -⟩ | ⟨status, herror, hne⟩ := validateManagementRequest_cases (s.clients i)
  · rw [hok]
    have hpayload : ResponsePayload request (encodeServerInfo serverInfo) :=
      responsePayload_unchecked htype rfl (by decide)
    exact reply_nothing_handled hc htype (by decide)
      (fun _ => by decide) (by decide : 20 ≤ statisticsPayloadSize) (fun _ => hpayload)
  · rw [herror]
    exact reply_refused_handled hc htype (by decide) hne (Nat.zero_le _)

theorem handleTimeCodeTx_handled (htype : request.type = MessageType.timeCodeTx.toByte) :
    HandledBy s i frame (handleTimeCodeTx s i request (payloadOf frame)) := by
  unfold handleTimeCodeTx
  obtain ⟨p, hok, howns, -⟩ | ⟨status, herror, hne⟩ :=
    validateAttachedRequest_cases (s.clients i) request
  · rw [hok]
    obtain ⟨status, s₁, hdeliver⟩ : ∃ status s₁, deliverTimeCode s p
        ⟨byteAt (payloadOf frame) 0, byteAt (payloadOf frame) 1⟩ = (status, s₁) := ⟨_, _, rfl⟩
    simp only [hdeliver]
    exact reply_handled hc
      (fun hdata => absurd (htype.symm.trans hdata) (by decide))
      (.timeCode p status s₁ htype howns hdeliver) (Nat.zero_le _)
      (fun _ => responsePayload_nil htype rfl)
  · rw [herror]
    exact reply_refused_handled hc htype (by decide) hne (Nat.zero_le _)

omit hc in
/-- A fragment of an owner, if it is not refused, goes into the reassembly or ends
the packet. -/
theorem acceptDataFragment_cases {p : PortId} {payload : Bytes}
    (h : acceptDataFragment s i p request payload = (status, s₁)) :
    (status = .invalidPacket ∧ ∃ r, s₁ = s.setReassembly i r)
      ∨ (∃ r, (s.clients i).reassembly.admits request = some r ∧
          request.has flagFragmentEnd = false ∧ status = .ok
            ∧ s₁ = s.setReassembly i (r.store request payload))
      ∨ ∃ r, (s.clients i).reassembly.admits request = some r ∧
          request.has flagFragmentEnd = true
            ∧ (r.store request payload).nextOffset = (r.store request payload).totalSize
            ∧ status ≠ .invalidPacket
            ∧ deliverPacket (s.setReassembly i
                { r.store request payload with terminator := request.terminator }) p
              { r.store request payload with terminator := request.terminator }.packet
                = (status, s₁) := by
  unfold acceptDataFragment at h
  cases hadmits : (s.clients i).reassembly.admits request with
  | none =>
    rw [hadmits] at h
    obtain ⟨rfl, rfl⟩ := Prod.mk.inj h
    exact Or.inl ⟨rfl, (s.clients i).reassembly, (s.setReassembly_self i).symm⟩
  | some r =>
    simp only [hadmits] at h
    split_ifs at h with hend hshort
    · obtain ⟨rfl, rfl⟩ := Prod.mk.inj h
      exact Or.inr (Or.inl ⟨r, rfl, by simpa using hend, rfl, rfl⟩)
    · obtain ⟨rfl, rfl⟩ := Prod.mk.inj h
      exact Or.inl ⟨rfl, _, rfl⟩
    · refine Or.inr (Or.inr ⟨r, rfl, by simpa using hend, by simpa using hshort, ?_, h⟩)
      obtain ⟨rfl, -⟩ | ⟨rfl, -⟩ | ⟨rfl, -⟩ := deliverPacket_cases h <;> decide

theorem handleDataTx_handled (htype : request.type = MessageType.dataTx.toByte) :
    HandledBy s i frame (handleDataTx s i request (payloadOf frame)) := by
  have hclear : ∀ r : Reassembly, ∃ r', (s.setReassembly i r).clearReassembly i
      = s.setReassembly i r' := fun r => ⟨r.clear, by
    simp only [Server.clearReassembly, Server.setReassembly, Server.updateClient,
      Function.update_idem, Function.update_self]⟩
  have hanswer : ∀ {status : Status} {s₁ : Server}, request.has flagFragmentEnd = true →
      Effect s i request (payloadOf frame) status s₁ →
        HandledBy s i frame (reply s₁ i request status []) :=
    fun hend heffect => reply_handled hc (fun _ => hend) heffect
      (Nat.zero_le _) (fun _ => responsePayload_nil htype rfl)
  unfold handleDataTx acceptDataTx
  obtain ⟨p, hok, howns, -, hp⟩ | ⟨status, herror, hne⟩ :=
    validateAttachedRequest_cases (s.clients i) request
  · rw [hok]
    obtain ⟨status, s₁, haccept⟩ : ∃ status s₁, acceptDataFragment s i p request
        (payloadOf frame) = (status, s₁) := ⟨_, _, rfl⟩
    simp only [haccept]
    obtain ⟨rfl, r, rfl⟩ | ⟨r, hadmits, hend, rfl, rfl⟩ |
      ⟨r, hadmits, hend, hcomplete, hstatus, hdeliver⟩ :=
        acceptDataFragment_cases haccept
    · obtain ⟨r', hr'⟩ := hclear r
      simp only [if_true, hr']
      exact .refused r'
    · have hok : ¬ (Status.ok = Status.invalidPacket) := by decide
      simp only [hok, if_false, hend, Bool.not_false, if_true, decide_true]
      exact .fragment request p r hc.free hc.valid hc.asks htype hend howns hadmits
    · simp only [hstatus, if_false, hend, Bool.not_true, Bool.false_eq_true]
      exact hanswer hend (.data p r status s₁ htype hend howns hadmits hcomplete hdeliver hp)
  · rw [herror]
    simp only
    split_ifs with hinvalid hend
    · obtain ⟨r', hr'⟩ := hclear (s.clients i).reassembly
      rw [s.setReassembly_self i] at hr'
      rw [hr']
      exact .refused r'
    · simp only [decide_eq_false hne]
      exact .refused_self s i frame
    · have hend' : request.has flagFragmentEnd = true := by simpa using hend
      exact hanswer hend' (.dataRefused status hne htype hend')

/-- **Every request is handled so.** -/
theorem dispatch_handled :
    HandledBy s i frame (dispatch s i request (payloadOf frame)) := by
  have hrefused : Handled s i frame false s := Handled.refused_self s i frame
  unfold dispatch
  cases hbyte : MessageType.ofByte request.type with
  | none => exact hrefused
  | some type =>
    have htype := MessageType.toByte_of_ofByte hbyte
    cases type with
    | hello => exact handleHello_handled hc htype
    | attach => exact handleAttach_handled hc htype
    | detach => exact handleDetach_handled hc htype
    | start =>
      exact replyAttached_handled hc htype (by decide) rfl
        (fun p howns _ => .start p htype howns)
    | stop =>
      exact replyAttached_handled hc htype (by decide) rfl
        (fun p howns _ => .stop p htype howns)
    | reset =>
      exact replyAttached_handled hc htype (by decide) rfl
        (fun p howns hp => .reset p htype howns hp)
    | getLinkState =>
      exact replyAttachedRead_handled hc htype (by decide)
        (fun port => responsePayload_linkState port.state htype)
    | getCapabilities | getStatistics =>
      exact replyAttachedRead_handled hc htype (by decide)
        (fun port => responsePayload_unchecked htype rfl (by decide))
    | dataTx => exact handleDataTx_handled hc htype
    | timeCodeTx => exact handleTimeCodeTx_handled hc htype
    | clearStatistics =>
      exact replyAttached_handled hc htype (by decide) rfl
        (fun p howns _ => .clearStatistics p htype howns)
    | getServerInfo => exact handleGetServerInfo_handled hc htype
    | getPortInfo =>
      exact replyManagementRead_handled hc htype (by decide)
        (fun port => responsePayload_portInfo port htype)
    | getPortStatistics =>
      exact replyManagementRead_handled hc htype (by decide)
        (fun port => responsePayload_unchecked htype rfl (by decide))
    | clearPortStatistics =>
      exact replyManagement_handled hc htype (by decide) rfl
        (fun p _ hport hp => .clearPortStatistics p htype hport hp)
    | subscribePort =>
      exact replyManagement_handled hc htype (by decide) rfl
        (fun p hhello hport _ => .subscribe p htype hhello hport)
    | unsubscribePort =>
      exact replyManagement_handled hc htype (by decide) rfl
        (fun p _ hport _ => .unsubscribe p htype hport)
    | dataRx | timeCodeRx | linkStateEvent | portSnapshotEvent => exact hrefused

end Handling

/-- **What handling a record comes to.** -/
theorem handleRequest_handled (s : Server) (i : ClientIndex) (frame : Bytes) :
    Handled s i frame (handleRequest s i frame).1 (handleRequest s i frame).2 := by
  have hrefused : Handled s i frame false s := Handled.refused_self s i frame
  unfold handleRequest
  simp only
  split_ifs with hpending
  · exact hrefused
  · cases hvalid : validateFrame frame with
    | error e => exact hrefused
    | ok request =>
      simp only
      split_ifs with hresponse hhello
      · exact hrefused
      · exact hrefused
      · simp only [Bool.or_eq_true, not_or, Bool.not_eq_true] at hresponse hpending
        exact dispatch_handled ⟨hpending, hvalid, hresponse.1, hresponse.2⟩

end Vspwd
