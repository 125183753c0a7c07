import SpwKit.Lib.BigEndian

/-!
# The records of the character device

Every read and write of `/dev/vspwX` carries one record: a header of sixteen bytes
and a payload. A header is checked by one function (`validateHeader`), before it is
written and after it is read. A record from outside may have any type and any flags,
so a header keeps them as bytes.
-/

namespace Cuse

open BigEndian

/-- `VSPW_CUSE_RECORD_MAGIC`. -/
def recordMagic : UInt32 := 0x53505752

/-- `VSPW_CUSE_RECORD_VERSION`. -/
def recordVersion : UInt8 := 1

/-- `VSPW_CUSE_RECORD_HEADER_SIZE`. -/
def recordHeaderSize : Nat := 16

/-- `VSPW_CUSE_RECORD_MAX_PAYLOAD`. -/
def recordMaxPayload : Nat := 1024 * 1024

/-- `VSPW_CUSE_RECORD_DATA`. -/
def recordData : UInt8 := 1

/-- `VSPW_CUSE_RECORD_TIME_CODE`. -/
def recordTimeCode : UInt8 := 2

/-- `VSPW_CUSE_RECORD_FLAG_EEP`. -/
def recordFlagEep : UInt8 := 0x01

/-- `VSPW_CUSE_RECORD_KNOWN_FLAGS`. -/
def recordKnownFlags : UInt8 := recordFlagEep

/-- `vspw_cuse_record_header_t`. -/
structure RecordHeader where
  type : UInt8
  flags : UInt8
  payloadSize : UInt32
deriving DecidableEq, Repr

/-- `vspw_cuse_record_result_t`. The result for a missing argument is left out. -/
inductive RecordResult
  | ok | invalidMagic | invalidVersion | invalidType | invalidFlags | invalidSize
  | invalidPayload
deriving DecidableEq, Repr

/-- `validate_header`. -/
def validateHeader (header : RecordHeader) : RecordResult :=
  if header.type ≠ recordData ∧ header.type ≠ recordTimeCode then .invalidType
  else if header.flags &&& ~~~recordKnownFlags ≠ 0 then .invalidFlags
  else if recordMaxPayload < header.payloadSize.toNat then .invalidSize
  else if header.type = recordTimeCode ∧ (header.flags ≠ 0 ∨ header.payloadSize ≠ 2) then
    .invalidPayload
  else .ok

/-- The bytes of a header. -/
def headerBytes (header : RecordHeader) : Bytes :=
  writeU32 recordMagic ++ [recordVersion, header.type, header.flags, 0]
    ++ writeU32 header.payloadSize ++ [0, 0, 0, 0]

/-- `vspw_cuse_record_encode_header`. -/
def encodeHeader (header : RecordHeader) : Except RecordResult Bytes :=
  match validateHeader header with
  | .ok => .ok (headerBytes header)
  | result => .error result

/-- The fields of a header, as they stand in its bytes. -/
def headerFields (src : Bytes) : RecordHeader :=
  ⟨byteAt src 5, byteAt src 6, readU32 src 8⟩

/-- `vspw_cuse_record_decode_header`. -/
def decodeHeader (src : Bytes) : Except RecordResult RecordHeader :=
  if readU32 src 0 ≠ recordMagic then .error .invalidMagic
  else if byteAt src 4 ≠ recordVersion then .error .invalidVersion
  else if byteAt src 7 ≠ 0 then .error .invalidPayload
  else if byteAt src 12 ≠ 0 ∨ byteAt src 13 ≠ 0 ∨ byteAt src 14 ≠ 0 ∨ byteAt src 15 ≠ 0 then
    .error .invalidPayload
  else match validateHeader (headerFields src) with
    | .ok => .ok (headerFields src)
    | result => .error result

/-- `vspw_cuse_record_validate_payload`. -/
def validatePayload (header : RecordHeader) (payload : Bytes) : RecordResult :=
  match validateHeader header with
  | .ok =>
    if payload.length ≠ header.payloadSize.toNat then .invalidSize
    else if header.type = recordTimeCode
        ∧ (63 < byteAt payload 0 ∨ byteAt payload 1 &&& 0xfc ≠ 0) then .invalidPayload
    else .ok
  | result => result

/-! ## Headers that pass -/

@[simp] theorem headerBytes_length (header : RecordHeader) :
    (headerBytes header).length = recordHeaderSize := rfl

/-- A header that passes is written. -/
theorem encodeHeader_of_valid {header : RecordHeader} (h : validateHeader header = .ok) :
    encodeHeader header = .ok (headerBytes header) := by
  rw [encodeHeader, h]

theorem validateHeader_data {flags : UInt8} {size : UInt32}
    (hflags : flags &&& ~~~recordKnownFlags = 0) (hsize : size.toNat ≤ recordMaxPayload) :
    validateHeader ⟨recordData, flags, size⟩ = .ok := by
  unfold validateHeader
  rw [if_neg (fun h => h.1 rfl), if_neg (not_not.mpr hflags), if_neg (not_lt.mpr hsize),
    if_neg (fun h => absurd (show recordData = recordTimeCode from h.1) (by decide))]

theorem validateHeader_timeCode : validateHeader ⟨recordTimeCode, 0, 2⟩ = .ok := by
  decide

end Cuse
