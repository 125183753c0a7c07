import SpwKit.Lib.FixedCodec

/-!
# The VSPW-TP header

Every datagram of the virtual SpaceWire transport starts with a header of forty
bytes in network order. `validate` is what an encoder insists on before it
writes one, `decodeHeader` reads one back and names the first thing it finds
wrong. The two meet in `decodeHeader_headerBytes`: a valid header is read back
as it was written, and in `decodeHeader_eq_ok_iff`: whatever is read is valid,
so that a receiver never sees a header no sender could have written.
`codec_roundTrip` puts the two directions together.
-/

namespace VspwTp

open BigEndian FixedCodec

/-- `SPW_VSPW_TP_MAGIC`. -/
def magic : UInt32 := 0x56535057
/-- `SPW_VSPW_TP_VERSION_MAJOR`. -/
def versionMajor : UInt8 := 1
/-- `SPW_VSPW_TP_VERSION_MINOR`. -/
def versionMinor : UInt8 := 0
/-- `SPW_VSPW_TP_HEADER_SIZE`. -/
def headerSize : Nat := 40
/-- `SPW_VSPW_TP_MAX_UDP_PAYLOAD`. -/
def maxUdpPayload : Nat := 65507
/-- `SPW_VSPW_TP_MAX_FRAGMENT_PAYLOAD`. -/
def maxFragmentPayload : Nat := maxUdpPayload - headerSize
/-- `SPW_VSPW_TP_MAX_PACKET_SIZE`. -/
def maxPacketSize : Nat := 16 * 1024 * 1024
/-- `SPW_VSPW_TP_TIME_CODE_PAYLOAD_SIZE`. -/
def timeCodePayloadSize : Nat := 2
/-- `SPW_VSPW_TP_ACK_PAYLOAD_SIZE`. -/
def ackPayloadSize : Nat := 8

/-! ## Message types and flags

Both are bytes on the wire, and a byte that is none of the listed ones must be
representable, since refusing it is the decoder's work. -/

def typeData : UInt8 := 1
def typeTimeCode : UInt8 := 2
def typeLinkControl : UInt8 := 3
def typeKeepalive : UInt8 := 4
def typeAck : UInt8 := 5

def flagEop : UInt8 := 1
def flagEep : UInt8 := 2
def flagFragmentStart : UInt8 := 4
def flagFragmentEnd : UInt8 := 8
def flagAckRequired : UInt8 := 16

/-- `spw_vspw_tp_header_t`. -/
structure Header where
  versionMajor : UInt8
  versionMinor : UInt8
  type : UInt8
  flags : UInt8
  headerSize : UInt16
  payloadSize : UInt16
  linkId : UInt32
  sessionId : UInt64
  sequence : UInt32
  messageId : UInt32
  fragmentOffset : UInt32
  totalSize : UInt32
deriving DecidableEq, Repr

/-- `SPW_VSPW_TP_HEADER_INITIALIZER`. -/
def Header.initializer : Header where
  versionMajor := VspwTp.versionMajor
  versionMinor := VspwTp.versionMinor
  type := typeData
  flags := 0
  headerSize := 40
  payloadSize := 0
  linkId := 0
  sessionId := 0
  sequence := 0
  messageId := 0
  fragmentOffset := 0
  totalSize := 0

/-- `has_flag`. -/
def hasFlag (flags flag : UInt8) : Bool := (flags &&& flag) != 0

/-- `spw_vspw_tp_is_known_type`. -/
def isKnownType (type : UInt8) : Bool :=
  type == typeData || type == typeTimeCode || type == typeLinkControl
    || type == typeKeepalive || type == typeAck

/-- The flags `validate_flags` knows. -/
def knownFlags : UInt8 :=
  flagEop ||| flagEep ||| flagFragmentStart ||| flagFragmentEnd ||| flagAckRequired

variable (header : Header)

/-- `validate_flags`. -/
def validateFlags : Bool :=
  if (header.flags &&& ~~~knownFlags) != 0 then false
  else if hasFlag header.flags flagEop && hasFlag header.flags flagEep then false
  else if header.type != typeData
      && (hasFlag header.flags flagEop || hasFlag header.flags flagEep) then false
  else if hasFlag header.flags flagAckRequired && header.type != typeData
      && header.type != typeTimeCode then false
  else true

/-- `validate_fragment`. -/
def validateFragment : Bool :=
  let start := hasFlag header.flags flagFragmentStart
  let fin := hasFlag header.flags flagFragmentEnd
  let offset := header.fragmentOffset.toNat
  let payload := header.payloadSize.toNat
  let total := header.totalSize.toNat
  if total > maxPacketSize || payload > maxFragmentPayload || offset > total
      || offset + payload > total then false
  else if header.type != typeData then
    offset == 0 && total == payload && !start && !fin
  else if total == payload then
    offset == 0 && !start && !fin
  else if !start && !fin && payload == 0 then false
  else if start && offset != 0 then false
  else if fin && offset + payload != total then false
  else true

/-- `validate_message_shape`. -/
def validateMessageShape : Bool :=
  if header.type == typeData then true
  else if header.type == typeTimeCode then
    header.payloadSize.toNat == timeCodePayloadSize
      && header.totalSize.toNat == timeCodePayloadSize
  else if header.type == typeKeepalive then
    header.payloadSize == 0 && header.totalSize == 0 && header.messageId == 0
  else if header.type == typeAck then
    header.payloadSize.toNat == ackPayloadSize && header.totalSize.toNat == ackPayloadSize
      && header.messageId != 0
  else header.type == typeLinkControl

/-- `spw_vspw_tp_validate`. -/
def validate : Bool :=
  header.versionMajor == versionMajor && decide (header.versionMinor ≤ versionMinor)
    && isKnownType header.type && header.headerSize.toNat == headerSize
    && header.sessionId != 0 && validateFlags header && validateFragment header
    && validateMessageShape header

/-- The forty bytes `spw_vspw_tp_encode_header` writes. -/
def headerBytes : Bytes :=
  writeU32 magic
    ++ [header.versionMajor, header.versionMinor, header.type, header.flags]
    ++ writeU16 header.headerSize ++ writeU16 header.payloadSize
    ++ writeU32 header.linkId ++ writeU64 header.sessionId
    ++ writeU32 header.sequence ++ writeU32 header.messageId
    ++ writeU32 header.fragmentOffset ++ writeU32 header.totalSize

/-- `spw_vspw_tp_encode_header`. -/
def encodeHeader (destinationSize : Nat) : Option Bytes :=
  if destinationSize < headerSize || !validate header then none
  else some (headerBytes header)

/-- The failures of `spw_vspw_tp_decode_result_t`. -/
inductive DecodeError
  | bufferTooSmall | badMagic | unsupportedVersion | unsupportedType | invalidHeaderSize
  | invalidPayloadSize | invalidSession | invalidFlags | invalidFragment
deriving DecidableEq, Repr

/-- The fields of the header at the start of a byte string, checked by nobody. -/
def readHeader (source : Bytes) : Header where
  versionMajor := byteAt source 4
  versionMinor := byteAt source 5
  type := byteAt source 6
  flags := byteAt source 7
  headerSize := readU16 source 8
  payloadSize := readU16 source 10
  linkId := readU32 source 12
  sessionId := readU64 source 16
  sequence := readU32 source 24
  messageId := readU32 source 28
  fragmentOffset := readU32 source 32
  totalSize := readU32 source 36

/-- `spw_vspw_tp_decode_header`. -/
def decodeHeader (source : Bytes) : Except DecodeError Header :=
  if source.length < headerSize then .error .bufferTooSmall
  else if readU32 source 0 != magic then .error .badMagic
  else
    let header := readHeader source
    if header.versionMajor != versionMajor || decide (header.versionMinor > versionMinor) then
      .error .unsupportedVersion
    else if !isKnownType header.type then .error .unsupportedType
    else if header.headerSize.toNat != headerSize then .error .invalidHeaderSize
    else if decide (header.payloadSize.toNat > maxFragmentPayload)
        || decide (source.length < headerSize + header.payloadSize.toNat) then
      .error .invalidPayloadSize
    else if header.sessionId == 0 then .error .invalidSession
    else if !validateFlags header then .error .invalidFlags
    else if !validateFragment header || !validateMessageShape header then
      .error .invalidFragment
    else .ok header

/-- `spw_vspw_tp_encode_ack_payload`. -/
def encodeAckPayload (acknowledgedSessionId : UInt64) (destinationSize : Nat) : Option Bytes :=
  if destinationSize < ackPayloadSize || acknowledgedSessionId == 0 then none
  else some (writeU64 acknowledgedSessionId)

/-- `spw_vspw_tp_decode_ack_payload`. -/
def decodeAckPayload (source : Bytes) : Option UInt64 :=
  if source.length != ackPayloadSize then none
  else
    let value := readU64 source 0
    if value == 0 then none else some value

/-! ## What a header says is what is read -/

variable {destinationSize : Nat} {source : Bytes}

@[simp] theorem headerBytes_length :
    (headerBytes header).length = headerSize := rfl

theorem readU32_headerBytes_magic (payload : Bytes) :
    readU32 (headerBytes header ++ payload) 0 = magic := by
  simp only [headerBytes, List.append_assoc]
  exact readU32_writeU32 magic _

/-- The fields after the magic, in the order of the wire. -/
def fieldsCodec : FixedCodec Header :=
  (byte.both <| byte.both <| byte.both <| byte.both <| u16.both <| u16.both <| u32.both
    <| u64.both <| u32.both <| u32.both <| u32.both u32).via
    { toFun := fun ⟨major, minor, type, flags, size, payload, link, session, sequence,
        message, offset, total⟩ =>
        ⟨major, minor, type, flags, size, payload, link, session, sequence, message,
          offset, total⟩
      invFun := fun h => ⟨h.versionMajor, h.versionMinor, h.type, h.flags, h.headerSize,
        h.payloadSize, h.linkId, h.sessionId, h.sequence, h.messageId, h.fragmentOffset,
        h.totalSize⟩
      left_inv := fun _ => rfl
      right_inv := fun _ => rfl }

theorem headerBytes_eq_write :
    headerBytes header = u32.write magic ++ fieldsCodec.write header := rfl

theorem readHeader_eq_read (source : Bytes) :
    readHeader source = fieldsCodec.read (source.drop u32.size) := by
  simp only [fieldsCodec, via, both, byte, u16, u32, u64, byteAt_drop, readU16_drop,
    readU32_drop, readU64_drop]
  rfl

/-- Reading the fields gives the header that was written. -/
theorem readHeader_headerBytes (payload : Bytes) :
    readHeader (headerBytes header ++ payload) = header := by
  rw [readHeader_eq_read, headerBytes_eq_write, List.append_assoc,
    List.drop_left' (u32.length_write magic)]
  exact fieldsCodec.read_write header payload

/-- What `validate` checks, one condition each. -/
theorem validate_iff :
    validate header = true ↔
      header.versionMajor = versionMajor ∧ header.versionMinor ≤ versionMinor
        ∧ isKnownType header.type = true ∧ header.headerSize.toNat = headerSize
        ∧ header.sessionId ≠ 0 ∧ validateFlags header = true
        ∧ validateFragment header = true ∧ validateMessageShape header = true := by
  simp only [validate, Bool.and_eq_true, beq_iff_eq, decide_eq_true_eq, bne_iff_ne, and_assoc]

theorem validateFragment_payloadSize_le {header : Header} (h : validateFragment header = true) :
    header.payloadSize.toNat ≤ maxFragmentPayload := by
  by_contra hgt
  simp [validateFragment, Nat.not_le.mp hgt] at h

/-- Only valid headers are written. -/
theorem encodeHeader_eq_some {header : Header} {bytes : Bytes}
    (h : encodeHeader header destinationSize = some bytes) :
    validate header = true ∧ bytes = headerBytes header := by
  unfold encodeHeader at h
  split_ifs at h with hno
  simp only [Bool.or_eq_true, Bool.not_eq_true', not_or, Bool.not_eq_false] at hno
  exact ⟨hno.2, (Option.some.inj h).symm⟩

/-- The payload of an acknowledgement names a session. -/
theorem encodeAckPayload_eq_some {session : UInt64} {bytes : Bytes}
    (h : encodeAckPayload session destinationSize = some bytes) :
    session ≠ 0 ∧ bytes = writeU64 session := by
  unfold encodeAckPayload at h
  split_ifs at h with hno
  simp only [Bool.or_eq_true, beq_iff_eq, not_or] at hno
  exact ⟨hno.2, (Option.some.inj h).symm⟩

/-- **The two chains of checks agree**: a string is accepted exactly when it is
long enough, starts with the magic and its fields are those of a valid header. -/
theorem decodeHeader_eq_ok_iff (source : Bytes) (header : Header) :
    decodeHeader source = .ok header ↔
      headerSize + header.payloadSize.toNat ≤ source.length ∧ readU32 source 0 = magic
        ∧ header = readHeader source ∧ validate header = true := by
  simp only [decodeHeader, Except.ite_error_eq_ok, Except.ok.injEq, Bool.or_eq_true, bne_iff_ne,
    ne_eq, not_or, not_not, decide_eq_true_eq, Nat.not_lt, Bool.not_eq_true', Bool.not_eq_false,
    beq_iff_eq, UInt8.not_lt, gt_iff_lt]
  constructor
  · rintro ⟨-, hmagic, hversion, htype, hsize, hpayload, hsession, hflags, hfragment, rfl⟩
    exact ⟨hpayload.2, hmagic, rfl, (validate_iff _).mpr
      ⟨hversion.1, hversion.2, htype, hsize, hsession, hflags, hfragment⟩⟩
  · rintro ⟨hlen, hmagic, rfl, hvalid⟩
    obtain ⟨hmajor, hminor, htype, hsize, hsession, hflags, hfragment⟩ :=
      (validate_iff _).mp hvalid
    exact ⟨by omega, hmagic, ⟨hmajor, hminor⟩, htype, hsize,
      ⟨validateFragment_payloadSize_le hfragment.1, hlen⟩, hsession, hflags, hfragment, rfl⟩

/-- **A valid header is read back as it was written**, whatever bytes follow
it, as long as they hold its payload. -/
theorem decodeHeader_headerBytes {header : Header} {payload : Bytes}
    (hvalid : validate header = true) (hlen : header.payloadSize.toNat ≤ payload.length) :
    decodeHeader (headerBytes header ++ payload) = .ok header := by
  refine (decodeHeader_eq_ok_iff _ _).mpr ⟨?_, readU32_headerBytes_magic header payload,
    (readHeader_headerBytes header payload).symm, hvalid⟩
  rw [List.length_append, headerBytes_length]
  omega

/-- The first forty bytes of a string with the magic in front are those of the
header read from it. -/
theorem headerBytes_readHeader (hlen : headerSize ≤ source.length)
    (hmagic : readU32 source 0 = magic) :
    headerBytes (readHeader source) = source.take headerSize := by
  have hmagicBytes : u32.write magic = source.take u32.size := by
    rw [← hmagic]
    exact u32.write_read source (le_trans (by decide) hlen)
  have hfields : fieldsCodec.size ≤ (source.drop u32.size).length := by
    rw [List.length_drop]
    exact Nat.le_sub_of_add_le hlen
  rw [headerBytes_eq_write, readHeader_eq_read, fieldsCodec.write_read _ hfields, hmagicBytes,
    ← List.take_add]
  rfl

theorem isSome_encodeHeader {header : Header} (hsize : headerSize ≤ destinationSize) :
    (encodeHeader header destinationSize).isSome = true ↔ validate header = true := by
  unfold encodeHeader
  cases hvalid : validate header <;> simp [Nat.not_lt.mpr hsize]

/-- The acknowledged session is read back as it was written. -/
theorem decodeAckPayload_writeU64 {session : UInt64} (h : session ≠ 0) :
    decodeAckPayload (writeU64 session) = some session := by
  have hread : readU64 (writeU64 session) 0 = session := by
    simpa using readU64_writeU64 session []
  simp [decodeAckPayload, hread, h, ackPayloadSize]

theorem decodeAckPayload_eq_some {session : UInt64} (h : decodeAckPayload source = some session) :
    session ≠ 0 ∧ writeU64 session = source := by
  unfold decodeAckPayload at h
  simp only [] at h
  split_ifs at h with hlen hzero
  simp only [bne_iff_ne, ne_eq, not_not] at hlen
  simp only [beq_iff_eq] at hzero
  rw [← Option.some.inj h]
  refine ⟨hzero, ?_⟩
  rw [writeU64_readU64 (by simp [hlen, ackPayloadSize]), List.drop_zero]
  exact List.take_of_length_le (le_of_eq hlen)

/-- **The header codec is a bijection between valid headers and accepted
headers.** An encoder with room writes exactly the valid ones; what it writes
is read back as it was, whatever follows, if the payload is there; a string is
accepted exactly when it holds its payload, starts with the magic and has the
fields of a valid header; and writing what was read gives the first forty bytes
again. The payload of an acknowledgement goes both ways as well. -/
theorem codec_roundTrip :
    (∀ (header : Header) (destinationSize : Nat), headerSize ≤ destinationSize →
      ((encodeHeader header destinationSize).isSome = true ↔ validate header = true))
    ∧ (∀ (header : Header) (destinationSize : Nat) (bytes payload : Bytes),
      encodeHeader header destinationSize = some bytes →
        header.payloadSize.toNat ≤ payload.length →
          bytes.length = headerSize ∧ decodeHeader (bytes ++ payload) = .ok header)
    ∧ (∀ (source : Bytes) (header : Header), decodeHeader source = .ok header ↔
      headerSize + header.payloadSize.toNat ≤ source.length ∧ readU32 source 0 = magic
        ∧ header = readHeader source ∧ validate header = true)
    ∧ (∀ (source : Bytes) (header : Header) (destinationSize : Nat),
      decodeHeader source = .ok header → headerSize ≤ destinationSize →
        encodeHeader header destinationSize = some (source.take headerSize))
    ∧ (∀ (session : UInt64) (destinationSize : Nat), session ≠ 0 →
      ackPayloadSize ≤ destinationSize →
        (encodeAckPayload session destinationSize).bind decodeAckPayload = some session)
    ∧ (∀ (source : Bytes) (session : UInt64) (destinationSize : Nat),
      decodeAckPayload source = some session → ackPayloadSize ≤ destinationSize →
        encodeAckPayload session destinationSize = some source) := by
  refine ⟨fun header size hsize => isSome_encodeHeader hsize, ?_, decodeHeader_eq_ok_iff,
    ?_, ?_, ?_⟩
  · intro header size bytes payload hencode hlen
    obtain ⟨hvalid, rfl⟩ := encodeHeader_eq_some hencode
    exact ⟨headerBytes_length header, decodeHeader_headerBytes hvalid hlen⟩
  · intro source header size hdecode hsize
    obtain ⟨hlen, hmagic, rfl, hvalid⟩ := (decodeHeader_eq_ok_iff source header).mp hdecode
    rw [← headerBytes_readHeader (by omega) hmagic]
    simp [encodeHeader, Nat.not_lt.mpr hsize, hvalid]
  · intro session size hsession hsize
    simp [encodeAckPayload, Nat.not_lt.mpr hsize, hsession, decodeAckPayload_writeU64 hsession]
  · intro source session size hdecode hsize
    obtain ⟨hsession, hbytes⟩ := decodeAckPayload_eq_some hdecode
    simp [encodeAckPayload, Nat.not_lt.mpr hsize, hsession, hbytes]

end VspwTp
