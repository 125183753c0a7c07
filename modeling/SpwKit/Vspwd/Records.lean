import SpwKit.Vspwd.Changes

/-!
# The records of the daemon are legal

Every record the daemon writes is a response, an event with a payload of its own
or a fragment of a packet. A fragment is legal by the cut it comes from; this
module has the other two. A response is legal if its request was numbered and of
a type that is answered, and if the payload of a success is the one the type
prescribes, which `ResponsePayload` lists.
-/

open Vspd BigEndian

namespace Vspwd

/-- A record that every reader accepts. -/
def Legal (frame : Bytes) : Prop := ∃ header, validateFrame frame = .ok header

variable (request : Header) (status : Status)

/-- A request that may be answered. -/
structure Answerable : Prop where
  valid : typeValid request.type = true
  noEvent : typeIsEvent request.type = false
  numbered : request.requestId ≠ 0

/-! ## Responses -/

variable (size : UInt32)

@[simp] theorem responseHeader_type :
    (responseHeader request status size).type = request.type := rfl

@[simp] theorem responseHeader_requestId :
    (responseHeader request status size).requestId = request.requestId := rfl

@[simp] theorem responseHeader_portId :
    (responseHeader request status size).portId = request.portId := rfl

theorem responseHeader_flags :
    (responseHeader request status size).flags = flagResponse := rfl

theorem responseHeader_has_response :
    (responseHeader request status size).has flagResponse = true := by
  rw [Header.has, responseHeader_flags]
  decide

theorem responseHeader_knownFlags :
    (responseHeader request status size).flags &&& ~~~flagKnownMask = 0 := by
  rw [responseHeader_flags]
  decide

/-- A response carries nothing of a fragment. -/
theorem noFragment_responseHeader : noFragment (responseHeader request status size) = true := by
  have hflags : hasDataFlags flagResponse = false := by decide
  simp [noFragment, hflags, responseHeader, Header.ofType]

theorem validateCommon_responseHeader {request : Header} {size : UInt32}
    (htype : typeValid request.type = true) (hsize : size.toNat ≤ maxFramePayload) :
    validateCommon (responseHeader request status size) = .ok () := by
  refine (validateCommon_eq_ok_iff _).mpr
    ⟨rfl, rfl, rfl, rfl, rfl, htype, responseHeader_knownFlags _ _ _, ?_⟩
  show (if status = .ok then size else 0).toNat ≤ maxFramePayload
  split_ifs
  · exact hsize
  · exact Nat.zero_le _

/-- The bytes of a response. -/
def responseBytes (payload : Bytes) : Bytes :=
  headerBytes (responseHeader request status (UInt32.ofNat payload.length))
    ++ (if status = .ok then payload else [])

theorem ofNat_length_toNat {payload : Bytes} (h : payload.length ≤ statisticsPayloadSize) :
    (UInt32.ofNat payload.length).toNat = payload.length := by
  have hmax : statisticsPayloadSize < 2 ^ 32 := by decide
  rw [UInt32.toNat_ofNat']
  exact Nat.mod_eq_of_lt (h.trans_lt hmax)

/-- **A response is queued** where the slot is free. -/
theorem queueResponse_eq {client : Client} {request : Header}
    {payload : Bytes} (hfree : client.responsePending = false)
    (htype : typeValid request.type = true) (hlen : payload.length ≤ statisticsPayloadSize) :
    queueResponse client request status payload
      = some (client.respond (responseBytes request status payload)) := by
  have hmax : statisticsPayloadSize ≤ maxFramePayload := by decide
  have hcommon : validateCommon (responseHeader request status (UInt32.ofNat payload.length))
      = .ok () :=
    validateCommon_responseHeader status htype
      (by rw [ofNat_length_toNat hlen]; exact hlen.trans hmax)
  rw [queueResponse, hfree, encodeHeader_of_validateCommon hcommon]
  simp only [Bool.false_or, decide_eq_true_eq, gt_iff_lt, Nat.not_lt.mpr hlen, if_false]
  rfl

/-- **The payload of a response that reports success** is the one its type
prescribes. -/
structure ResponsePayload (payload : Bytes) : Prop where
  length_eq : payload.length = successResponsePayloadSize request.type
  content : payload ≠ [] →
    validatePayload (responseHeader request .ok (UInt32.ofNat payload.length)) payload = .ok ()

theorem successResponsePayloadSize_le (type : UInt8) :
    successResponsePayloadSize type ≤ statisticsPayloadSize := by
  unfold successResponsePayloadSize
  split <;> decide

/-- **A response is a legal record.** -/
theorem validateFrame_responseBytes {request : Header} {status : Status} {payload : Bytes}
    (h : Answerable request) (hpayload : status = .ok → ResponsePayload request payload) :
    validateFrame (responseBytes request status payload)
      = .ok (responseHeader request status (UInt32.ofNat payload.length)) := by
  have hstatus : ∀ t : Status, statusValid t.toWire = true := fun t => by
    cases t <;> decide
  by_cases hok : status = .ok
  · -- a success carries its payload
    subst hok
    obtain ⟨hlen, hcontent⟩ := hpayload rfl
    have hle : payload.length ≤ statisticsPayloadSize :=
      hlen.le.trans (successResponsePayloadSize_le _)
    have hsize := ofNat_length_toNat hle
    have hmax : statisticsPayloadSize ≤ maxFramePayload := by decide
    rw [responseBytes, if_pos rfl]
    refine validateFrame_headerBytes
      (validateCommon_responseHeader .ok h.valid (by rw [hsize]; exact hle.trans hmax)) hsize ?_
    have hresponse : validateResponse (responseHeader request .ok (UInt32.ofNat payload.length))
        = .ok () := by
      have hpay : (responseHeader request .ok (UInt32.ofNat payload.length)).payloadSize.toNat
          = successResponsePayloadSize request.type := hsize.trans hlen
      have hst : (responseHeader request .ok (UInt32.ofNat payload.length)).status
          = Status.ok.toWire := rfl
      rw [validateResponse, hpay, noFragment_responseHeader, hst]
      simp [typeAllowsResponse, h.noEvent, h.numbered, hstatus]
    rw [validatePayloadShape, responseHeader_has_response]
    simp only [if_true, hresponse, bind, Except.bind]
    by_cases hnil : payload = []
    · subst hnil
      rfl
    · have hempty : payload.isEmpty = false := by simpa using hnil
      simp only [hempty, Bool.false_eq_true, if_false]
      exact hcontent hnil
  · -- anything else carries none
    have hzero : (responseHeader request status (UInt32.ofNat payload.length)).payloadSize = 0 :=
      if_neg hok
    have hwire : status.toWire ≠ Status.ok.toWire := by
      cases status <;> first | exact absurd rfl hok | decide
    rw [responseBytes, if_neg hok]
    refine validateFrame_headerBytes
      ((validateCommon_eq_ok_iff _).mpr
        ⟨rfl, rfl, rfl, rfl, rfl, h.valid, responseHeader_knownFlags _ _ _, ?_⟩) ?_ ?_
    · rw [hzero]
      exact Nat.zero_le _
    · rw [hzero]
      rfl
    · have hresponse : validateResponse
          (responseHeader request status (UInt32.ofNat payload.length)) = .ok () := by
        have hst : (responseHeader request status (UInt32.ofNat payload.length)).status
            = status.toWire := rfl
        rw [validateResponse, hzero, noFragment_responseHeader, hst, if_neg hwire]
        simp [typeAllowsResponse, h.noEvent, h.numbered, hstatus]
      rw [validatePayloadShape, responseHeader_has_response]
      simp [hresponse, bind, Except.bind, hzero]

/-! ## The payloads there are -/

/-- The types of message whose payload is looked at. -/
def checkedTypes : List MessageType :=
  [.hello, .timeCodeTx, .timeCodeRx, .getLinkState, .linkStateEvent, .getPortInfo,
    .portSnapshotEvent]

theorem validatePayload_unchecked {header : Header} {type : MessageType}
    (htype : header.type = type.toByte) (h : type ∉ checkedTypes) (payload : Bytes) :
    validatePayload header payload = .ok () := by
  simp only [validatePayload, htype]
  cases type <;> first | exact absurd (by decide) h | simp [MessageType.toByte]

theorem LinkState.toWire_le_run (state : LinkState) : ¬ state.toWire > LinkState.run.toWire := by
  cases state <;> decide

theorem readU32_encodeU32Payload (value : UInt32) (rest : Bytes) :
    readU32 (encodeU32Payload value ++ rest) 0 = value := readU32_writeU32 value rest

theorem portInfoToWire_knownFlags (port : Port) :
    (portInfoToWire port).flags &&& ~~~(0x1f : UInt32) = 0 := by
  simp only [portInfoToWire]
  cases port.clientIndex.isSome <;> cases port.started <;> cases port.resetLatched <;>
    cases port.everAttached <;> cases port.bridged <;> decide

theorem readU32_encodePortInfo (info : PortInfoPayload) (rest : Bytes) :
    readU32 (encodePortInfo info ++ rest) 0 = info.flags
      ∧ readU32 (encodePortInfo info ++ rest) 4 = info.linkState := by
  constructor
  · simp only [encodePortInfo, List.append_assoc]
    exact readU32_writeU32 info.flags _
  · rw [readU32_eq_drop]
    exact readU32_writeU32 info.linkState _

section Payloads

variable {request : Header} {type : MessageType} (htype : request.type = type.toByte)

include htype

/-- A success without a payload. -/
theorem responsePayload_nil (h : successResponsePayloadSize type.toByte = 0) :
    ResponsePayload request [] :=
  ⟨by rw [htype, h]; rfl, fun hne => absurd rfl hne⟩

/-- A success with a payload that nobody looks at. -/
theorem responsePayload_unchecked {payload : Bytes}
    (hlen : payload.length = successResponsePayloadSize type.toByte)
    (h : type ∉ checkedTypes) : ResponsePayload request payload :=
  ⟨by rw [htype, hlen], fun _ => validatePayload_unchecked
    (show (responseHeader request .ok _).type = type.toByte from htype) h payload⟩

end Payloads

theorem responsePayload_hello {request : Header}
    (htype : request.type = MessageType.hello.toByte) : ResponsePayload request helloPayload := by
  refine ⟨by rw [htype]; rfl, fun _ => ?_⟩
  have hversion : (byteAt helloPayload 0 != versionMajor || byteAt helloPayload 1 != versionMinor
      || byteAt helloPayload 2 != 0 || byteAt helloPayload 3 != 0) = false := by decide
  simp only [validatePayload, responseHeader_type, htype, hversion, Bool.and_false]
  simp [MessageType.toByte]

theorem responsePayload_linkState {request : Header} (state : LinkState)
    (htype : request.type = MessageType.getLinkState.toByte) :
    ResponsePayload request (encodeU32Payload state.toWire) := by
  have hread : readU32 (encodeU32Payload state.toWire) 0 = state.toWire := by
    simpa using readU32_encodeU32Payload state.toWire []
  refine ⟨by rw [htype]; rfl, fun _ => ?_⟩
  simp only [validatePayload, responseHeader_type, htype, hread,
    decide_eq_false (LinkState.toWire_le_run state), Bool.and_false]
  simp [MessageType.toByte]

theorem responsePayload_portInfo {request : Header} (port : Port)
    (htype : request.type = MessageType.getPortInfo.toByte) :
    ResponsePayload request (encodePortInfo (portInfoToWire port)) := by
  obtain ⟨hflags, hstate⟩ := readU32_encodePortInfo (portInfoToWire port) []
  rw [List.append_nil] at hflags hstate
  have hlink : (portInfoToWire port).linkState = port.state.toWire := rfl
  refine ⟨by rw [htype]; rfl, fun _ => ?_⟩
  simp only [validatePayload, responseHeader_type, htype, hflags, hstate, hlink,
    portInfoToWire_knownFlags, bne_self_eq_false, Bool.false_or,
    decide_eq_false (LinkState.toWire_le_run port.state), Bool.and_false]
  simp [MessageType.toByte]

/-! ## Events -/

/-- The header of an event. -/
def eventHeader (type : MessageType) (p : PortId) (payload : Bytes) : Header :=
  { Header.ofType type.toByte with
    payloadSize := UInt32.ofNat payload.length
    portId := UInt32.ofNat p.val }

/-- **An event is written, and is a legal record**, if its payload is the one its
type prescribes. -/
theorem eventFrame_eq_ok {type : MessageType} (p : PortId) {payload : Bytes}
    (hevent : typeIsEvent type.toByte = true) (hdata : type ≠ .dataRx)
    (hsize : plainPayloadSize type.toByte = some payload.length)
    (hmax : payload.length ≤ maxFramePayload)
    (hcontent : payload ≠ [] ∧ validatePayload (eventHeader type p payload) payload = .ok ()) :
    eventFrame type p payload = .ok (headerBytes (eventHeader type p payload) ++ payload)
      ∧ validateFrame (headerBytes (eventHeader type p payload) ++ payload)
        = .ok (eventHeader type p payload) := by
  have hnat : (UInt32.ofNat payload.length).toNat = payload.length := by
    have hlt : maxFramePayload < 2 ^ 32 := by decide
    rw [UInt32.toNat_ofNat']
    exact Nat.mod_eq_of_lt (hmax.trans_lt hlt)
  have hflags : (eventHeader type p payload).flags = 0 := rfl
  have hcommon : validateCommon (eventHeader type p payload) = .ok () := by
    refine (validateCommon_eq_ok_iff _).mpr ⟨rfl, rfl, rfl, rfl, rfl, ?_, ?_, ?_⟩
    · show typeValid type.toByte = true
      cases type <;> rfl
    · rw [hflags]
      decide
    · show (UInt32.ofNat payload.length).toNat ≤ maxFramePayload
      rw [hnat]
      exact hmax
  have hresponse : (eventHeader type p payload).has flagResponse = false := by
    rw [Header.has, hflags]
    decide
  have hrequest : validateRequest (eventHeader type p payload) = .ok () := by
    have htype : (eventHeader type p payload).type = type.toByte := rfl
    have hid : (eventHeader type p payload).requestId = 0 := rfl
    have hstatus : (eventHeader type p payload).status = Status.ok.toWire := rfl
    have hfragment : noFragment (eventHeader type p payload) = true := by
      have hnone : hasDataFlags 0 = false := by decide
      simp [noFragment, hnone, eventHeader, Header.ofType]
    have hpay : (eventHeader type p payload).payloadSize.toNat = payload.length := hnat
    rw [validateRequest, htype, hid, hstatus, hfragment, hevent, hsize, hpay]
    cases type <;> first | exact absurd rfl hdata | exact absurd hevent (by decide) |
      simp [MessageType.toByte]
  refine ⟨?_, validateFrame_headerBytes hcommon hnat ?_⟩
  · show (encodeHeader (eventHeader type p payload)).map (· ++ payload) = _
    rw [encodeHeader_of_validateCommon hcommon]
    rfl
  · have hempty : payload.isEmpty = false := by simpa using hcontent.1
    rw [validatePayloadShape, hresponse]
    simp only [Bool.false_eq_true, if_false, hrequest, bind, Except.bind, hempty]
    exact hcontent.2

theorem linkStateEvent_eq_ok (p : PortId) (state : LinkState) :
    eventFrame .linkStateEvent p (encodeU32Payload state.toWire)
        = .ok (headerBytes (eventHeader .linkStateEvent p (encodeU32Payload state.toWire))
          ++ encodeU32Payload state.toWire)
      ∧ validateFrame (headerBytes (eventHeader .linkStateEvent p
          (encodeU32Payload state.toWire)) ++ encodeU32Payload state.toWire)
        = .ok (eventHeader .linkStateEvent p (encodeU32Payload state.toWire)) := by
  have hread : readU32 (encodeU32Payload state.toWire) 0 = state.toWire := by
    simpa using readU32_encodeU32Payload state.toWire []
  refine eventFrame_eq_ok p (by decide) (by decide) rfl (by decide : 4 ≤ maxFramePayload)
    ⟨by simp [encodeU32Payload, writeU32], ?_⟩
  have htype : (eventHeader .linkStateEvent p (encodeU32Payload state.toWire)).type
      = MessageType.linkStateEvent.toByte := rfl
  simp only [validatePayload, htype, hread,
    decide_eq_false (LinkState.toWire_le_run state), Bool.and_false]
  simp [MessageType.toByte]

theorem timeCodeEvent_eq_ok (p : PortId) {code : TimeCode} (h : code.valid = true) :
    eventFrame .timeCodeRx p [code.timeCount, code.controlFlags]
        = .ok (headerBytes (eventHeader .timeCodeRx p [code.timeCount, code.controlFlags])
          ++ [code.timeCount, code.controlFlags])
      ∧ validateFrame (headerBytes (eventHeader .timeCodeRx p
          [code.timeCount, code.controlFlags]) ++ [code.timeCount, code.controlFlags])
        = .ok (eventHeader .timeCodeRx p [code.timeCount, code.controlFlags]) := by
  simp only [TimeCode.valid, Bool.and_eq_true, decide_eq_true_eq] at h
  refine eventFrame_eq_ok p (by decide) (by decide) rfl (by decide : 2 ≤ maxFramePayload)
    ⟨by simp, ?_⟩
  have htype : (eventHeader .timeCodeRx p [code.timeCount, code.controlFlags]).type
      = MessageType.timeCodeRx.toByte := rfl
  have hcount : ¬ byteAt [code.timeCount, code.controlFlags] 0 > 63 := UInt8.not_lt.mpr h.1
  have hflags : ¬ byteAt [code.timeCount, code.controlFlags] 1 > 3 := UInt8.not_lt.mpr h.2
  simp only [validatePayload, htype, decide_eq_false hcount, decide_eq_false hflags,
    Bool.or_self, Bool.and_false]
  simp [MessageType.toByte]

theorem snapshotEvent_eq_ok (p : PortId) (port : Port) :
    eventFrame .portSnapshotEvent p (encodePortSnapshot (portSnapshotToWire port))
        = .ok (headerBytes (eventHeader .portSnapshotEvent p
            (encodePortSnapshot (portSnapshotToWire port)))
          ++ encodePortSnapshot (portSnapshotToWire port))
      ∧ validateFrame (headerBytes (eventHeader .portSnapshotEvent p
          (encodePortSnapshot (portSnapshotToWire port)))
          ++ encodePortSnapshot (portSnapshotToWire port))
        = .ok (eventHeader .portSnapshotEvent p
          (encodePortSnapshot (portSnapshotToWire port))) := by
  obtain ⟨hflags, hstate⟩ := readU32_encodePortInfo (portInfoToWire port)
    (encodeStatistics port.statistics)
  refine eventFrame_eq_ok p (by decide) (by decide) rfl (by decide : 88 ≤ maxFramePayload)
    ⟨by simp [encodePortSnapshot, encodePortInfo, writeU32], ?_⟩
  have htype : (eventHeader .portSnapshotEvent p
      (encodePortSnapshot (portSnapshotToWire port))).type
        = MessageType.portSnapshotEvent.toByte := rfl
  have hlink : (portInfoToWire port).linkState = port.state.toWire := rfl
  have hbytes : encodePortSnapshot (portSnapshotToWire port)
      = encodePortInfo (portInfoToWire port) ++ encodeStatistics port.statistics := rfl
  rw [hbytes] at htype ⊢
  simp only [validatePayload, htype, hflags, hstate, hlink, portInfoToWire_knownFlags,
    bne_self_eq_false, Bool.false_or,
    decide_eq_false (LinkState.toWire_le_run port.state), Bool.and_false]
  simp [MessageType.toByte]

end Vspwd
