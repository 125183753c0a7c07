import SpwKit.Device.VspwDeviceProtocol
import Mathlib.Tactic.IntervalCases

/-!
# The grammar of VSPD records

`validateFrame` is a row of checks over the bytes of a record. What they come
to is said here in the words of the protocol: a record is the **response** to a
request, a **fragment** of a packet, or a plain **message**, each with its own
rules for the fields it uses and zeros in those it does not (`Record`).
`validateFrame_eq_ok_iff` says that the checks let exactly these through, and
`codec_canonical` adds that a record has only one encoding: headers and
payloads are written as they are read, and read as they are written.
-/

namespace Vspd

open BigEndian

/-! ## What the types ask for -/

/-- The types that the daemon sends of its own accord. -/
def MessageType.isEvent : MessageType → Bool
  | .dataRx | .timeCodeRx | .linkStateEvent | .portSnapshotEvent => true
  | _ => false

/-- The types that carry a part of a packet. -/
def MessageType.isData : MessageType → Bool
  | .dataTx | .dataRx => true
  | _ => false

/-- The size of the answer to a request that succeeded. -/
def MessageType.answerSize : MessageType → Nat
  | .hello => 4
  | .getLinkState => 4
  | .getCapabilities => 24
  | .getStatistics | .getPortStatistics => 72
  | .getServerInfo => 20
  | .getPortInfo => 16
  | _ => 0

/-- The size of a request or an event that is no part of a packet. -/
def MessageType.messageSize : MessageType → Nat
  | .hello => 4
  | .timeCodeTx | .timeCodeRx => 2
  | .linkStateEvent => 4
  | .portSnapshotEvent => 88
  | _ => 0

/-- A word that names a link state. -/
def KnownLinkState (word : UInt32) : Prop := ∃ state : LinkState, word = state.toWire

/-- What is asked of the state of a port: no flag but the five, and a link state. -/
def KnownPortInfo (payload : Bytes) : Prop :=
  readU32 payload 0 &&& ~~~(0x1f : UInt32) = 0 ∧ KnownLinkState (readU32 payload 4)

/-- The version that both sides speak. -/
def SpeaksVersion (payload : Bytes) : Prop :=
  payload = [versionMajor, versionMinor, 0, 0]

/-- The values of an answer. -/
def MessageType.AnswerFits (payload : Bytes) : MessageType → Prop
  | .hello => SpeaksVersion payload
  | .getLinkState => KnownLinkState (readU32 payload 0)
  | .getPortInfo => KnownPortInfo payload
  | _ => True

/-- The values of a request or an event. -/
def MessageType.MessageFits (payload : Bytes) : MessageType → Prop
  | .hello => SpeaksVersion payload
  | .timeCodeTx | .timeCodeRx => byteAt payload 0 ≤ 63 ∧ byteAt payload 1 ≤ 3
  | .linkStateEvent => KnownLinkState (readU32 payload 0)
  | .portSnapshotEvent => KnownPortInfo payload
  | _ => True

/-! ## Records -/

/-- A header that says nothing of a packet. -/
structure NoPacket (header : Header) : Prop where
  noStart : header.has flagFragmentStart = false
  noEnd : header.has flagFragmentEnd = false
  noEop : header.has flagEop = false
  noEep : header.has flagEep = false
  messageId_eq : header.messageId = 0
  fragmentOffset_eq : header.fragmentOffset = 0
  totalSize_eq : header.totalSize = 0

/-- **The records of the protocol.** -/
inductive Record (header : Header) (payload : Bytes) : Prop
  /-- The answer to a request: it names it and carries a status, and what was
  asked for if the request succeeded. -/
  | response (t : MessageType) (status : Status) (type_eq : header.type = t.toByte)
      (flag : header.has flagResponse = true) (asked : t.isEvent = false)
      (numbered : header.requestId ≠ 0) (status_eq : header.status = status.toWire)
      (noPacket : NoPacket header)
      (size : payload.length = if status = .ok then t.answerSize else 0)
      (fits : status = .ok → t.AnswerFits payload)
  /-- A part of a packet on its way to the daemon or from it. -/
  | data (t : MessageType) (type_eq : header.type = t.toByte)
      (flag : header.has flagResponse = false) (numbered : header.requestId = 0 ↔ t.isEvent = true)
      (status_eq : header.status = Status.ok.toWire) (isData : t.isData = true)
      (fragment : DataShape header)
  /-- Any other request or event. -/
  | message (t : MessageType) (type_eq : header.type = t.toByte)
      (flag : header.has flagResponse = false) (numbered : header.requestId = 0 ↔ t.isEvent = true)
      (status_eq : header.status = Status.ok.toWire) (noData : t.isData = false)
      (noPacket : NoPacket header) (size : payload.length = t.messageSize)
      (fits : t.MessageFits payload)

/-- **A record as a string of bytes**: a header of the version spoken here, as
many bytes as it announces, and one of the records. -/
structure LegalFrame (frame : Bytes) (header : Header) : Prop where
  header_eq : header = readHeader frame
  length_eq : frame.length = headerSize + header.payloadSize.toNat
  magic_eq : header.magic = magic
  versionMajor_eq : header.versionMajor = versionMajor
  versionMinor_eq : header.versionMinor = versionMinor
  headerSize_eq : header.headerSize.toNat = headerSize
  reserved_eq : header.reserved = 0
  flags_known : header.flags &&& ~~~flagKnownMask = 0
  payloadSize_le : header.payloadSize.toNat ≤ maxFramePayload
  record : Record header (payloadOf frame)

/-! ## The tables of the checks -/

theorem toByte_beq (a b : MessageType) : (a.toByte == b.toByte) = decide (a = b) := by
  rw [Bool.eq_iff_iff, beq_iff_eq, decide_eq_true_eq, MessageType.toByte_inj]

@[simp] theorem typeIsEvent_toByte (t : MessageType) : typeIsEvent t.toByte = t.isEvent := by
  cases t <;> rfl

theorem successResponsePayloadSize_toByte (t : MessageType) :
    successResponsePayloadSize t.toByte = t.answerSize := by
  cases t <;> rfl

theorem isData_toByte (t : MessageType) :
    (t.toByte == MessageType.dataTx.toByte || t.toByte == MessageType.dataRx.toByte)
    = t.isData := by
  cases t <;> rfl

theorem plainPayloadSize_toByte {t : MessageType} (h : t.isData = false) :
    plainPayloadSize t.toByte = some t.messageSize := by
  cases t <;> first | rfl | simp [MessageType.isData] at h

/-- The known types are the listed ones. -/
theorem typeValid_iff (type : UInt8) :
    typeValid type = true ↔ ∃ t : MessageType, type = t.toByte := by
  constructor
  · intro h
    simp only [typeValid, Bool.and_eq_true, decide_eq_true_eq, UInt8.le_iff_toNat_le,
      MessageType.toByte] at h
    have hsome : (MessageType.ofByte type).isSome = true := by
      obtain ⟨hlow, hhigh⟩ : 1 ≤ type.toNat ∧ type.toNat ≤ 22 := h
      unfold MessageType.ofByte
      generalize type.toNat = n at hlow hhigh
      interval_cases n <;> rfl
    obtain ⟨t, ht⟩ := Option.isSome_iff_exists.mp hsome
    exact ⟨t, MessageType.toByte_of_ofByte ht⟩
  · rintro ⟨t, rfl⟩
    cases t <;> rfl

/-- The known statuses are the listed ones. -/
theorem statusValid_iff (status : Int32) :
    statusValid status = true ↔ ∃ s : Status, status = s.toWire := by
  constructor
  · intro h
    simp only [statusValid, Bool.and_eq_true, decide_eq_true_eq, Int32.le_iff_toInt_le] at h
    obtain ⟨hhigh, hlow⟩ : status.toInt ≤ 0 ∧ -9 ≤ status.toInt := h
    have hstatus : ∀ s : Status, status.toInt = s.toWire.toInt → ∃ s : Status, status = s.toWire :=
      fun s hs => ⟨s, Int32.toInt_inj.mp hs⟩
    generalize status.toInt = n at hlow hhigh hstatus
    interval_cases n
    · exact hstatus .backend rfl
    · exact hstatus .invalidPacket rfl
    · exact hstatus .bufferTooSmall rfl
    · exact hstatus .linkUnavailable rfl
    · exact hstatus .resourceExhausted rfl
    · exact hstatus .unsupported rfl
    · exact hstatus .timeout rfl
    · exact hstatus .invalidState rfl
    · exact hstatus .invalidArgument rfl
    · exact hstatus .ok rfl
  · rintro ⟨s, rfl⟩
    cases s <;> rfl

theorem toWire_eq_ok_iff (s : Status) : s.toWire = Status.ok.toWire ↔ s = .ok := by
  cases s <;> decide

/-- The words up to RUN are the link states. -/
theorem knownLinkState_iff (word : UInt32) : KnownLinkState word ↔ word ≤ LinkState.run.toWire := by
  constructor
  · rintro ⟨state, rfl⟩
    cases state <;> decide
  · intro h
    have hword : ∀ state : LinkState, word.toNat = state.toWire.toNat → KnownLinkState word :=
      fun state hs => ⟨state, UInt32.toNat_inj.mp hs⟩
    have hle : word.toNat ≤ 5 := UInt32.le_iff_toNat_le.mp h
    generalize word.toNat = n at hle hword
    interval_cases n
    · exact hword .errorReset rfl
    · exact hword .errorWait rfl
    · exact hword .ready rfl
    · exact hword .started rfl
    · exact hword .connecting rfl
    · exact hword .run rfl

/-! ## The checks one by one -/

theorem noFragment_iff (header : Header) : noFragment header = true ↔ NoPacket header := by
  have hdistrib : ∀ a b c : UInt8, a &&& (b ||| c) = (a &&& b) ||| (a &&& c) := fun a b c =>
    UInt8.toBitVec_inj.mp BitVec.and_or_distrib_left
  simp only [noFragment, hasDataFlags, hdistrib, Bool.and_eq_true, Bool.not_eq_true',
    bne_eq_false_iff_eq, UInt8.or_eq_zero_iff, beq_iff_eq]
  constructor
  · rintro ⟨⟨⟨⟨⟨⟨hs, he⟩, hp⟩, hq⟩, hm⟩, ho⟩, ht⟩
    exact ⟨by simp [Header.has, hs], by simp [Header.has, he], by simp [Header.has, hp],
      by simp [Header.has, hq], hm, ho, ht⟩
  · rintro ⟨hs, he, hp, hq, hm, ho, ht⟩
    simp only [Header.has, bne_eq_false_iff_eq] at hs he hp hq
    exact ⟨⟨⟨⟨⟨⟨hs, he⟩, hp⟩, hq⟩, hm⟩, ho⟩, ht⟩

theorem speaksVersion_iff {payload : Bytes} (hlen : payload.length = 4) :
    SpeaksVersion payload ↔
      byteAt payload 0 = versionMajor ∧ byteAt payload 1 = versionMinor
        ∧ byteAt payload 2 = 0 ∧ byteAt payload 3 = 0 := by
  match payload, hlen with
  | [a, b, c, d], _ => simp [SpeaksVersion, byteAt]

/-- First the shape of the header is checked, then the values of the payload. -/
theorem validatePayloadShape_eq_ok_iff {header : Header} {payload : Bytes}
    (hlen : header.payloadSize.toNat = payload.length) :
    validatePayloadShape header payload = .ok () ↔
      (if header.has flagResponse = true then validateResponse header else validateRequest header)
          = .ok ()
        ∧ (payload ≠ [] → validatePayload header payload = .ok ()) := by
  have hrest : (if payload.isEmpty = true then
        if (header.payloadSize != 0) = true then Except.error CodecError.invalidArgument else .ok ()
        else validatePayload header payload) = .ok () ↔
      (payload ≠ [] → validatePayload header payload = .ok ()) := by
    by_cases hnil : payload = []
    · have hzero : header.payloadSize = 0 := UInt32.toNat_inj.mp (by rw [hlen, hnil]; rfl)
      simp [hnil, hzero]
    · simp [hnil]
  rw [← hrest]
  unfold validatePayloadShape
  by_cases hresponse : header.has flagResponse = true
  · rw [if_pos hresponse, if_pos hresponse]
    cases validateResponse header <;> simp [bind, Except.bind]
  · rw [if_neg hresponse, if_neg hresponse]
    cases validateRequest header <;> simp [bind, Except.bind]

section Checks

variable {header : Header} {payload : Bytes} {t : MessageType}
  (htype : header.type = t.toByte) (hlen : header.payloadSize.toNat = payload.length)

include htype

theorem validateResponse_eq_ok_iff :
    validateResponse header = .ok () ↔
      t.isEvent = false ∧ header.requestId ≠ 0 ∧ NoPacket header
        ∧ ∃ s : Status, header.status = s.toWire
          ∧ header.payloadSize.toNat = if s = .ok then t.answerSize else 0 := by
  simp only [validateResponse, typeAllowsResponse, htype, typeIsEvent_toByte,
    successResponsePayloadSize_toByte, Except.ite_error_eq_ok, Bool.or_eq_true, not_or,
    Bool.not_eq_true', Bool.not_eq_false, beq_iff_eq, bne_iff_ne, ne_eq, not_not, and_true,
    noFragment_iff, statusValid_iff]
  constructor
  · rintro ⟨⟨⟨⟨hevent, hid⟩, hplain⟩, s, hs⟩, hsize⟩
    refine ⟨by simpa using hevent, hid, hplain, s, hs, ?_⟩
    simpa only [hs, toWire_eq_ok_iff] using hsize
  · rintro ⟨hevent, hid, hplain, s, hs, hsize⟩
    refine ⟨⟨⟨⟨by simpa using hevent, hid⟩, hplain⟩, s, hs⟩, ?_⟩
    simpa only [hs, toWire_eq_ok_iff] using hsize

theorem validateRequest_eq_ok_iff :
    validateRequest header = .ok () ↔
      header.status = Status.ok.toWire ∧ (header.requestId = 0 ↔ t.isEvent = true)
        ∧ if t.isData = true then DataShape header
          else NoPacket header ∧ header.payloadSize.toNat = t.messageSize := by
  simp only [validateRequest, htype, typeIsEvent_toByte, isData_toByte, Except.ite_error_eq_ok,
    bne_iff_ne, ne_eq, not_not]
  have hnumbered : t.isEvent = (header.requestId == 0) ↔
      (header.requestId = 0 ↔ t.isEvent = true) := by
    rw [Bool.eq_iff_iff, beq_iff_eq]
    exact Iff.comm
  rw [hnumbered]
  cases hdata : t.isData with
  | true => simp only [if_true, validateDataShape_eq_ok_iff]
  | false =>
    simp only [Bool.false_eq_true, if_false, Except.ite_error_eq_ok,
      plainPayloadSize_toByte hdata, Option.any_some, Bool.not_eq_true', Bool.not_eq_false,
      noFragment_iff, bne_iff_ne, ne_eq, not_not, and_true]

include hlen

/-- What the checks of the values come to, for a known type. -/
theorem validatePayload_eq_ok_iff :
    validatePayload header payload = .ok () ↔
      (t = .hello → payload.length = 4 → SpeaksVersion payload)
      ∧ (t = .timeCodeTx ∨ t = .timeCodeRx → payload.length = timeCodePayloadSize →
        byteAt payload 0 ≤ 63 ∧ byteAt payload 1 ≤ 3)
      ∧ ((t = .getLinkState ∧ header.has flagResponse = true
          ∧ header.status = Status.ok.toWire) ∨ t = .linkStateEvent →
        payload.length = linkStatePayloadSize → KnownLinkState (readU32 payload 0))
      ∧ ((t = .getPortInfo ∧ header.has flagResponse = true ∧ header.status = Status.ok.toWire)
          ∧ payload.length = portInfoPayloadSize
          ∨ t = .portSnapshotEvent ∧ payload.length = portSnapshotPayloadSize →
        KnownPortInfo payload) := by
  have hfour : header.payloadSize = 4 ↔ payload.length = 4 := by
    rw [← UInt32.toNat_inj, hlen]
    rfl
  have hversion : (payload.length = 4 → SpeaksVersion payload) ↔
      (payload.length = 4 → ((byteAt payload 0 = versionMajor ∧ byteAt payload 1 = versionMinor)
        ∧ byteAt payload 2 = 0) ∧ byteAt payload 3 = 0) :=
    imp_congr_right fun h => by rw [speaksVersion_iff h, and_assoc, and_assoc]
  simp only [validatePayload, htype, toByte_beq, Except.ite_error_eq_ok, Bool.and_eq_true,
    Bool.or_eq_true, decide_eq_true_eq, beq_iff_eq, bne_iff_ne, ne_eq, not_and, hfour, hlen,
    and_true, not_or, not_not, UInt32.not_lt, gt_iff_lt, UInt8.not_lt, hversion, KnownPortInfo,
    knownLinkState_iff, and_imp]

/-- The values of an answer. -/
theorem validatePayload_answer_iff (hresponse : header.has flagResponse = true)
    (hstatus : header.status = Status.ok.toWire) (hsize : payload.length = t.answerSize) :
    (payload ≠ [] → validatePayload header payload = .ok ()) ↔ t.AnswerFits payload := by
  rw [validatePayload_eq_ok_iff htype hlen]
  by_cases hnil : payload = []
  · subst hnil
    cases t <;> simp [MessageType.answerSize, MessageType.AnswerFits] at hsize ⊢
  · cases t <;>
      simp [hnil, hresponse, hstatus, hsize, MessageType.answerSize, MessageType.AnswerFits,
        timeCodePayloadSize, linkStatePayloadSize, portInfoPayloadSize, portSnapshotPayloadSize,
        statisticsPayloadSize]

/-- The values of a request or an event. -/
theorem validatePayload_message_iff (hresponse : header.has flagResponse = false)
    (hsize : payload.length = t.messageSize) :
    (payload ≠ [] → validatePayload header payload = .ok ()) ↔ t.MessageFits payload := by
  rw [validatePayload_eq_ok_iff htype hlen]
  by_cases hnil : payload = []
  · subst hnil
    cases t <;> simp [MessageType.messageSize, MessageType.MessageFits] at hsize ⊢
  · cases t <;>
      simp [hnil, hresponse, hsize, MessageType.messageSize, MessageType.MessageFits,
        timeCodePayloadSize, linkStatePayloadSize, portInfoPayloadSize, portSnapshotPayloadSize,
        statisticsPayloadSize]

/-- The values of a part of a packet are not looked at. -/
theorem validatePayload_data (hdata : t.isData = true) :
    validatePayload header payload = .ok () := by
  rw [validatePayload_eq_ok_iff htype hlen]
  cases t <;> simp [MessageType.isData] at hdata ⊢

/-- **The checks of a record let through the records of the protocol.** -/
theorem validatePayloadShape_iff_record :
    validatePayloadShape header payload = .ok () ↔ Record header payload := by
  rw [validatePayloadShape_eq_ok_iff hlen]
  -- a record names its type, and two types have different bytes
  have hsame : ∀ {t' : MessageType}, header.type = t'.toByte → t' = t := fun h =>
    MessageType.toByte_inj.mp (h.symm.trans htype)
  cases hresponse : header.has flagResponse with
  | true =>
    simp only [if_true, validateResponse_eq_ok_iff htype, hlen]
    constructor
    · rintro ⟨⟨hevent, hid, hplain, s, hs, hsize⟩, hvalues⟩
      refine .response t s htype hresponse hevent hid hs hplain hsize fun hok => ?_
      subst hok
      exact (validatePayload_answer_iff htype hlen hresponse hs hsize).mp hvalues
    · rintro (⟨t', s, htype', -, hevent, hid, hs, hplain, hsize, hfits⟩ | ⟨_, _, hflag⟩
        | ⟨_, _, hflag⟩)
      · obtain rfl := hsame htype'
        refine ⟨⟨hevent, hid, hplain, s, hs, hsize⟩, fun hne => ?_⟩
        by_cases hok : s = .ok
        · subst hok
          exact (validatePayload_answer_iff htype hlen hresponse hs hsize).mpr (hfits rfl) hne
        · rw [if_neg hok] at hsize
          exact absurd (List.length_eq_zero_iff.mp hsize) hne
      · exact absurd hresponse (by simp [hflag])
      · exact absurd hresponse (by simp [hflag])
  | false =>
    simp only [Bool.false_eq_true, if_false, validateRequest_eq_ok_iff htype, hlen]
    constructor
    · rintro ⟨⟨hstatus, hnumbered, hbody⟩, hvalues⟩
      cases hdata : t.isData with
      | true =>
        rw [hdata, if_pos rfl] at hbody
        exact .data t htype hresponse hnumbered hstatus hdata hbody
      | false =>
        rw [hdata, if_neg (by decide)] at hbody
        exact .message t htype hresponse hnumbered hstatus hdata hbody.1 hbody.2
          ((validatePayload_message_iff htype hlen hresponse hbody.2).mp hvalues)
    · rintro (⟨_, _, _, hflag⟩ | ⟨t', htype', -, hnumbered, hstatus, hdata, hfragment⟩
        | ⟨t', htype', -, hnumbered, hstatus, hdata, hplain, hsize, hfits⟩)
      · exact absurd hresponse (by simp [hflag])
      · obtain rfl := hsame htype'
        exact ⟨⟨hstatus, hnumbered, by rw [if_pos hdata]; exact hfragment⟩,
          fun _ => validatePayload_data htype hlen hdata⟩
      · obtain rfl := hsame htype'
        exact ⟨⟨hstatus, hnumbered, by rw [hdata, if_neg (by decide)]; exact ⟨hplain, hsize⟩⟩,
          (validatePayload_message_iff htype hlen hresponse hsize).mpr hfits⟩

end Checks

theorem Record.exists_type {header : Header} {payload : Bytes} (h : Record header payload) :
    ∃ t : MessageType, header.type = t.toByte := by
  cases h with
  | response t _ htype | data t htype | message t htype => exact ⟨t, htype⟩

/-- A string that holds a header and its payload is these two. -/
theorem eq_headerBytes_append {frame : Bytes} (hlen : headerSize ≤ frame.length) :
    frame = headerBytes (readHeader frame) ++ payloadOf frame := by
  rw [headerBytes_readHeader hlen, payloadOf, List.take_append_drop]

/-- **The grammar is exact**: a string of bytes is let through, and read as this
header, exactly if it is a record of the protocol with this header. -/
theorem validateFrame_eq_ok_iff (frame : Bytes) (header : Header) :
    validateFrame frame = .ok header ↔ LegalFrame frame header := by
  constructor
  · intro h
    have hpayload := payloadOf_length h
    obtain ⟨hread, hcommon, hlen, hshape⟩ := validateFrame_eq_ok h
    obtain ⟨hmagic, hmajor, hminor, hsize, hreserved, htype, hflags, hmax⟩ :=
      (validateCommon_eq_ok_iff header).mp hcommon
    obtain ⟨t, ht⟩ := (typeValid_iff _).mp htype
    exact ⟨hread, hlen, hmagic, hmajor, hminor, hsize, hreserved, hflags, hmax,
      (validatePayloadShape_iff_record ht hpayload.symm).mp hshape⟩
  · intro h
    obtain ⟨t, ht⟩ := h.record.exists_type
    have hlong : headerSize ≤ frame.length := by
      rw [h.length_eq]
      exact Nat.le_add_right _ _
    have hpayload : header.payloadSize.toNat = (payloadOf frame).length := by
      rw [payloadOf, List.length_drop, h.length_eq, Nat.add_sub_cancel_left]
    have hcommon : validateCommon header = .ok () :=
      (validateCommon_eq_ok_iff header).mpr ⟨h.magic_eq, h.versionMajor_eq, h.versionMinor_eq,
        h.headerSize_eq, h.reserved_eq, (typeValid_iff _).mpr ⟨t, ht⟩, h.flags_known,
        h.payloadSize_le⟩
    rw [eq_headerBytes_append hlong, ← h.header_eq]
    exact validateFrame_headerBytes hcommon hpayload
      ((validatePayloadShape_iff_record ht hpayload).mpr h.record)

/-! ## One encoding -/

theorem decodeHeader_eq_ok_iff (data : Bytes) (header : Header) :
    decodeHeader data = .ok header ↔
      headerSize ≤ data.length ∧ header = readHeader data ∧ validateCommon header = .ok () := by
  unfold decodeHeader
  rw [Except.ite_error_eq_ok, Nat.not_lt]
  refine and_congr_right fun _ => ?_
  cases hcommon : validateCommon (readHeader data) with
  | error e =>
    simp only [Except.map, reduceCtorEq, false_iff, not_and]
    rintro rfl
    simp [hcommon]
  | ok u =>
    simp only [Except.map, Except.ok.injEq]
    constructor
    · rintro rfl
      exact ⟨rfl, hcommon⟩
    · rintro ⟨rfl, -⟩
      rfl

/-- **A header has one encoding**: those that pass are read back as they were
written, and the forty bytes of any other that is read are written again. -/
theorem header_canonical :
    (∀ (header : Header), validateCommon header = .ok () →
      ∃ bytes, encodeHeader header = .ok bytes ∧ bytes.length = headerSize
        ∧ decodeHeader bytes = .ok header)
    ∧ (∀ (data : Bytes) (header : Header), data.length = headerSize →
      decodeHeader data = .ok header → encodeHeader header = .ok data) := by
  constructor
  · intro header hvalid
    refine ⟨headerBytes header, encodeHeader_of_validateCommon hvalid, headerBytes_length header,
      (decodeHeader_eq_ok_iff _ _).mpr ⟨le_of_eq (headerBytes_length header).symm, ?_, hvalid⟩⟩
    simpa using (readHeader_headerBytes header []).symm
  · intro data header hlen hdecode
    obtain ⟨hlong, rfl, hvalid⟩ := (decodeHeader_eq_ok_iff data header).mp hdecode
    rw [encodeHeader_of_validateCommon hvalid, headerBytes_readHeader hlong,
      List.take_of_length_le (le_of_eq hlen)]

/-- Two functions that undo each other, one on values and the other on the
strings of one length. -/
def Inverse {α : Type} (encode : α → Bytes) (decode : Bytes → α) (size : Nat) : Prop :=
  (∀ value, (encode value).length = size ∧ decode (encode value) = value)
    ∧ ∀ bytes, bytes.length = size → encode (decode bytes) = bytes

theorem inverse_of_codec {α : Type} (codec : FixedCodec α) :
    Inverse codec.write codec.read codec.size :=
  ⟨fun value => ⟨codec.length_write value, codec.read_write_self value⟩,
    fun _ h => codec.write_read_self h⟩

/-- **The codec is canonical and its grammar exact.** Headers have one encoding,
the payloads are read and written by functions that undo each other, and the
strings let through by `validateFrame` are the records of the protocol. -/
theorem codec_canonical :
    ((∀ (header : Header), validateCommon header = .ok () →
      ∃ bytes, encodeHeader header = .ok bytes ∧ bytes.length = headerSize
        ∧ decodeHeader bytes = .ok header)
    ∧ (∀ (data : Bytes) (header : Header), data.length = headerSize →
      decodeHeader data = .ok header → encodeHeader header = .ok data))
    ∧ (Inverse encodeU32Payload decodeU32Payload 4
      ∧ Inverse encodeServerInfo decodeServerInfo serverInfoPayloadSize
      ∧ Inverse encodePortInfo decodePortInfo portInfoPayloadSize
      ∧ Inverse encodeCapabilities decodeCapabilities capabilitiesPayloadSize
      ∧ Inverse encodeStatistics decodeStatistics statisticsPayloadSize
      ∧ Inverse encodePortSnapshot decodePortSnapshot portSnapshotPayloadSize)
    ∧ (∀ (frame : Bytes) (header : Header),
      validateFrame frame = .ok header ↔ LegalFrame frame header) := by
  refine ⟨header_canonical, ⟨inverse_of_codec FixedCodec.u32, ?_, ?_, ?_, ?_, ?_⟩,
    validateFrame_eq_ok_iff⟩
  · rw [← serverInfoCodec_write, ← serverInfoCodec_read]
    exact inverse_of_codec serverInfoCodec
  · rw [← portInfoCodec_write, ← portInfoCodec_read]
    exact inverse_of_codec portInfoCodec
  · rw [← capabilitiesCodec_write, ← capabilitiesCodec_read]
    exact inverse_of_codec capabilitiesCodec
  · rw [← statisticsCodec_write, ← statisticsCodec_read]
    exact inverse_of_codec statisticsCodec
  · rw [← portSnapshotCodec_write, ← portSnapshotCodec_read]
    exact inverse_of_codec portSnapshotCodec

end Vspd
