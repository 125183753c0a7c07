import SpwKit.Types
import SpwKit.Lib.FixedCodec

/-!
# The VSPD records

A device port talks to `vspwd` over a local socket that keeps record
boundaries. A record is a header of forty bytes in network order and a payload.
The codec checks in two steps: `validateCommon` what every header must have,
when one is written and when one is read; `validateFrame` the whole record with
the shape that its type asks for.

The types of messages and the flags are bytes on the wire, and one that is none
of the known ones must be representable, since refusing it is the decoder's
work; `MessageType` are the known ones.
-/

namespace Vspd

open BigEndian

/-- `VSPD_MAGIC`. -/
def magic : UInt32 := 0x56535044
/-- `VSPD_VERSION_MAJOR`. -/
def versionMajor : UInt8 := 1
/-- `VSPD_VERSION_MINOR`. -/
def versionMinor : UInt8 := 3
/-- `VSPD_HEADER_SIZE`. -/
def headerSize : Nat := 40
/-- `VSPD_MAX_FRAME_PAYLOAD`. -/
def maxFramePayload : Nat := 32 * 1024
/-- `VSPD_MAX_LOGICAL_PACKET`. -/
def maxLogicalPacket : Nat := 1024 * 1024

/-- `VSPD_HELLO_PAYLOAD_SIZE`. -/
def helloPayloadSize : Nat := 4
/-- `VSPD_LINK_STATE_PAYLOAD_SIZE`. -/
def linkStatePayloadSize : Nat := 4
/-- `VSPD_CAPABILITIES_PAYLOAD_SIZE`. -/
def capabilitiesPayloadSize : Nat := 24
/-- `VSPD_TIME_CODE_PAYLOAD_SIZE`. -/
def timeCodePayloadSize : Nat := 2
/-- `VSPD_STATISTICS_PAYLOAD_SIZE`. -/
def statisticsPayloadSize : Nat := 72
/-- `VSPD_SERVER_INFO_PAYLOAD_SIZE`. -/
def serverInfoPayloadSize : Nat := 20
/-- `VSPD_PORT_INFO_PAYLOAD_SIZE`. -/
def portInfoPayloadSize : Nat := 16
/-- `VSPD_PORT_SNAPSHOT_PAYLOAD_SIZE`. -/
def portSnapshotPayloadSize : Nat := portInfoPayloadSize + statisticsPayloadSize

/-- The `VSPD_MSG_` constants. -/
inductive MessageType
  | hello | attach | detach | start | stop | reset | getLinkState | getCapabilities
  | dataTx | dataRx | timeCodeTx | timeCodeRx | getStatistics | clearStatistics
  | linkStateEvent | getServerInfo | getPortInfo | getPortStatistics | clearPortStatistics
  | subscribePort | unsubscribePort | portSnapshotEvent
deriving DecidableEq, Repr

/-- The byte of a message type. -/
def MessageType.toByte : MessageType → UInt8
  | .hello => 1
  | .attach => 2
  | .detach => 3
  | .start => 4
  | .stop => 5
  | .reset => 6
  | .getLinkState => 7
  | .getCapabilities => 8
  | .dataTx => 9
  | .dataRx => 10
  | .timeCodeTx => 11
  | .timeCodeRx => 12
  | .getStatistics => 13
  | .clearStatistics => 14
  | .linkStateEvent => 15
  | .getServerInfo => 16
  | .getPortInfo => 17
  | .getPortStatistics => 18
  | .clearPortStatistics => 19
  | .subscribePort => 20
  | .unsubscribePort => 21
  | .portSnapshotEvent => 22

/-- The message type of a byte, if it is one. -/
def MessageType.ofByte (b : UInt8) : Option MessageType :=
  match b.toNat with
  | 1 => some .hello
  | 2 => some .attach
  | 3 => some .detach
  | 4 => some .start
  | 5 => some .stop
  | 6 => some .reset
  | 7 => some .getLinkState
  | 8 => some .getCapabilities
  | 9 => some .dataTx
  | 10 => some .dataRx
  | 11 => some .timeCodeTx
  | 12 => some .timeCodeRx
  | 13 => some .getStatistics
  | 14 => some .clearStatistics
  | 15 => some .linkStateEvent
  | 16 => some .getServerInfo
  | 17 => some .getPortInfo
  | 18 => some .getPortStatistics
  | 19 => some .clearPortStatistics
  | 20 => some .subscribePort
  | 21 => some .unsubscribePort
  | 22 => some .portSnapshotEvent
  | _ => none

@[simp] theorem MessageType.ofByte_toByte (t : MessageType) :
    MessageType.ofByte t.toByte = some t := by
  cases t <;> rfl

/-- A byte is that of the type it names. -/
theorem MessageType.toByte_of_ofByte {b : UInt8} {t : MessageType}
    (h : MessageType.ofByte b = some t) : b = t.toByte := by
  apply UInt8.toNat_inj.mp
  unfold MessageType.ofByte at h
  split at h <;> first | (cases h; assumption) | cases h

/-- Two types are the same if their bytes are. -/
@[simp] theorem MessageType.toByte_inj {a b : MessageType} : a.toByte = b.toByte ↔ a = b := by
  refine ⟨fun h => ?_, fun h => by rw [h]⟩
  have hbyte := congrArg MessageType.ofByte h
  rw [MessageType.ofByte_toByte, MessageType.ofByte_toByte] at hbyte
  exact Option.some.inj hbyte

def flagResponse : UInt8 := 0x01
def flagFragmentStart : UInt8 := 0x02
def flagFragmentEnd : UInt8 := 0x04
def flagEop : UInt8 := 0x08
def flagEep : UInt8 := 0x10
/-- `VSPD_FLAG_KNOWN_MASK`. -/
def flagKnownMask : UInt8 := 0x1f

/-- The `VSPD_STATUS_` constants. -/
inductive Status
  | ok | invalidArgument | invalidState | timeout | unsupported | resourceExhausted
  | linkUnavailable | bufferTooSmall | invalidPacket | backend
deriving DecidableEq, Repr

/-- A status on the wire. -/
def Status.toWire : Status → Int32
  | .ok => 0
  | .invalidArgument => -1
  | .invalidState => -2
  | .timeout => -3
  | .unsupported => -4
  | .resourceExhausted => -5
  | .linkUnavailable => -6
  | .bufferTooSmall => -7
  | .invalidPacket => -8
  | .backend => -9

end Vspd

/-- A link state on the wire. -/
def LinkState.toWire : LinkState → UInt32
  | .errorReset => 0
  | .errorWait => 1
  | .ready => 2
  | .started => 3
  | .connecting => 4
  | .run => 5

/-- The link state a word stands for, if it is one. -/
def LinkState.ofWire (w : UInt32) : Option LinkState :=
  match w.toNat with
  | 0 => some .errorReset
  | 1 => some .errorWait
  | 2 => some .ready
  | 3 => some .started
  | 4 => some .connecting
  | 5 => some .run
  | _ => none

namespace Vspd

open BigEndian

/-- `vspd_header_t`. -/
structure Header where
  magic : UInt32
  versionMajor : UInt8
  versionMinor : UInt8
  type : UInt8
  flags : UInt8
  headerSize : UInt16
  reserved : UInt16
  payloadSize : UInt32
  requestId : UInt32
  portId : UInt32
  messageId : UInt32
  fragmentOffset : UInt32
  totalSize : UInt32
  status : Int32
deriving DecidableEq, Repr

/-- The header that every writer starts from: zeros, with the fields that are
the same in all of them. -/
def Header.ofType (type : UInt8) : Header where
  magic := Vspd.magic
  versionMajor := Vspd.versionMajor
  versionMinor := Vspd.versionMinor
  type := type
  flags := 0
  headerSize := 40
  reserved := 0
  payloadSize := 0
  requestId := 0
  portId := 0
  messageId := 0
  fragmentOffset := 0
  totalSize := 0
  status := 0

variable (header : Header)

/-- A flag of a header. -/
def Header.has (flag : UInt8) : Bool := (header.flags &&& flag) != 0

/-- The codec results other than `VSPD_CODEC_OK`. -/
inductive CodecError
  | invalidArgument | truncated | invalidMagic | unsupportedVersion | invalidHeader | invalidType
  | invalidFlags | invalidSize | invalidShape
deriving DecidableEq, Repr

/-- `vspd_codec_result_t` of a check. -/
abbrev CodecResult := Except CodecError Unit

/-! ## The checks -/

/-- `vspd_type_valid`. -/
def typeValid (type : UInt8) : Bool :=
  decide (MessageType.hello.toByte ≤ type)
    && decide (type ≤ MessageType.portSnapshotEvent.toByte)

/-- `vspd_type_is_event`. -/
def typeIsEvent (type : UInt8) : Bool :=
  type == MessageType.dataRx.toByte || type == MessageType.timeCodeRx.toByte
    || type == MessageType.linkStateEvent.toByte || type == MessageType.portSnapshotEvent.toByte

/-- `vspd_type_allows_response`. -/
def typeAllowsResponse (type : UInt8) : Bool := !typeIsEvent type

/-- `vspd_status_valid`. -/
def statusValid (status : Int32) : Bool :=
  decide (status ≤ Status.ok.toWire) && decide (Status.backend.toWire ≤ status)

/-- `vspd_has_data_flags`. -/
def hasDataFlags (flags : UInt8) : Bool :=
  (flags &&& (flagFragmentStart ||| flagFragmentEnd ||| flagEop ||| flagEep)) != 0

/-- `vspd_success_response_payload_size`. -/
def successResponsePayloadSize (type : UInt8) : Nat :=
  match MessageType.ofByte type with
  | some .hello => helloPayloadSize
  | some .getLinkState => linkStatePayloadSize
  | some .getCapabilities => capabilitiesPayloadSize
  | some .getStatistics | some .getPortStatistics => statisticsPayloadSize
  | some .getServerInfo => serverInfoPayloadSize
  | some .getPortInfo => portInfoPayloadSize
  | _ => 0

/-- `vspd_validate_common`. -/
def validateCommon : CodecResult :=
  if header.magic != magic then .error .invalidMagic
  else if header.versionMajor != versionMajor || header.versionMinor != versionMinor then
    .error .unsupportedVersion
  else if header.headerSize.toNat != headerSize || header.reserved != 0 then
    .error .invalidHeader
  else if !typeValid header.type then .error .invalidType
  else if (header.flags &&& ~~~flagKnownMask) != 0 then .error .invalidFlags
  else if header.payloadSize.toNat > maxFramePayload then .error .invalidSize
  else .ok ()

/-- The terminator of a fragment: one on the last, none before. -/
def validateTerminator (fin eop eep : Bool) : CodecResult :=
  if fin then if eop == eep then .error .invalidShape else .ok ()
  else if eop || eep then .error .invalidShape
  else .ok ()

/-- `vspd_validate_data_shape`. -/
def validateDataShape : CodecResult :=
  let start := header.has flagFragmentStart
  let fin := header.has flagFragmentEnd
  let eop := header.has flagEop
  let eep := header.has flagEep
  let offset := header.fragmentOffset.toNat
  let payload := header.payloadSize.toNat
  let total := header.totalSize.toNat
  let fragmentEnd := offset + payload
  if header.messageId == 0 || decide (total > maxLogicalPacket) then .error .invalidShape
  else if fragmentEnd > total then .error .invalidShape
  else if total == 0 then
    if payload != 0 || offset != 0 || !start || !fin then .error .invalidShape
    else validateTerminator fin eop eep
  else if payload == 0 then .error .invalidShape
  else if (offset == 0) != start then .error .invalidShape
  else if (fragmentEnd == total) != fin then .error .invalidShape
  else validateTerminator fin eop eep

/-- The payload size of a record that is neither a response nor DATA, where its
type prescribes one. -/
def plainPayloadSize (type : UInt8) : Option Nat :=
  match MessageType.ofByte type with
  | some .hello => some helloPayloadSize
  | some .timeCodeTx | some .timeCodeRx => some timeCodePayloadSize
  | some .linkStateEvent => some linkStatePayloadSize
  | some .portSnapshotEvent => some portSnapshotPayloadSize
  | some .dataTx | some .dataRx => none
  | some _ => some 0
  | none => none

/-- A header that carries nothing of a fragment. -/
def noFragment : Bool :=
  !hasDataFlags header.flags && header.messageId == 0 && header.fragmentOffset == 0
    && header.totalSize == 0

/-- The shape of a response. -/
def validateResponse : CodecResult :=
  if !typeAllowsResponse header.type || header.requestId == 0 || !noFragment header
      || !statusValid header.status then .error .invalidShape
  else if header.payloadSize.toNat
      != (if header.status = Status.ok.toWire then successResponsePayloadSize header.type
        else 0) then
    .error .invalidShape
  else .ok ()

/-- The shape of a request or an event. -/
def validateRequest : CodecResult :=
  if header.status != Status.ok.toWire then .error .invalidShape
  else if typeIsEvent header.type != (header.requestId == 0) then .error .invalidShape
  else if header.type == MessageType.dataTx.toByte || header.type == MessageType.dataRx.toByte then
    validateDataShape header
  else if !noFragment header then .error .invalidShape
  else if (plainPayloadSize header.type).any (fun size => header.payloadSize.toNat != size) then
    .error .invalidShape
  else .ok ()

/-- What is checked of the bytes of a payload that is there. -/
def validatePayload (payload : Bytes) : CodecResult :=
  let response := header.has flagResponse
  let success := response && header.status == Status.ok.toWire
  if header.type == MessageType.hello.toByte && header.payloadSize == 4
      && (byteAt payload 0 != versionMajor || byteAt payload 1 != versionMinor
        || byteAt payload 2 != 0 || byteAt payload 3 != 0) then
    .error .unsupportedVersion
  else if (header.type == MessageType.timeCodeTx.toByte
        || header.type == MessageType.timeCodeRx.toByte)
      && header.payloadSize.toNat == timeCodePayloadSize
      && (decide (byteAt payload 0 > 63) || decide (byteAt payload 1 > 3)) then
    .error .invalidShape
  else if ((header.type == MessageType.getLinkState.toByte && success)
        || header.type == MessageType.linkStateEvent.toByte)
      && header.payloadSize.toNat == linkStatePayloadSize
      && decide (readU32 payload 0 > LinkState.run.toWire) then
    .error .invalidShape
  else if ((header.type == MessageType.getPortInfo.toByte && success
        && header.payloadSize.toNat == portInfoPayloadSize)
        || (header.type == MessageType.portSnapshotEvent.toByte
          && header.payloadSize.toNat == portSnapshotPayloadSize))
      && ((readU32 payload 0 &&& ~~~(0x1f : UInt32)) != 0
        || decide (readU32 payload 4 > LinkState.run.toWire)) then
    .error .invalidShape
  else .ok ()

/-- `vspd_validate_payload_shape`. A payload that is not there is the empty
list. -/
def validatePayloadShape (payload : Bytes) : CodecResult := do
  if header.has flagResponse then validateResponse header else validateRequest header
  if payload.isEmpty then
    if header.payloadSize != 0 then .error .invalidArgument else .ok ()
  else validatePayload header payload

/-! ## Reading and writing -/

/-- The forty bytes `vspd_encode_header` writes. -/
def headerBytes : Bytes :=
  writeU32 header.magic
    ++ [header.versionMajor, header.versionMinor, header.type, header.flags]
    ++ writeU16 header.headerSize ++ writeU16 header.reserved
    ++ writeU32 header.payloadSize ++ writeU32 header.requestId
    ++ writeU32 header.portId ++ writeU32 header.messageId
    ++ writeU32 header.fragmentOffset ++ writeU32 header.totalSize
    ++ writeU32 header.status.toUInt32

/-- `vspd_encode_header`. -/
def encodeHeader : Except CodecError Bytes :=
  (validateCommon header).map (fun _ => headerBytes header)

/-- The fields of the header at the start of a byte string, checked by nobody. -/
def readHeader (data : Bytes) : Header where
  magic := readU32 data 0
  versionMajor := byteAt data 4
  versionMinor := byteAt data 5
  type := byteAt data 6
  flags := byteAt data 7
  headerSize := readU16 data 8
  reserved := readU16 data 10
  payloadSize := readU32 data 12
  requestId := readU32 data 16
  portId := readU32 data 20
  messageId := readU32 data 24
  fragmentOffset := readU32 data 28
  totalSize := readU32 data 32
  status := (readU32 data 36).toInt32

/-- `vspd_decode_header`. -/
def decodeHeader (data : Bytes) : Except CodecError Header :=
  if data.length < headerSize then .error .truncated
  else (validateCommon (readHeader data)).map (fun _ => readHeader data)

/-- What follows the header of a record. -/
def payloadOf (frame : Bytes) : Bytes := frame.drop headerSize

/-- `vspd_validate_frame`. -/
def validateFrame (frame : Bytes) : Except CodecError Header := do
  let header ← decodeHeader frame
  if frame.length < headerSize + header.payloadSize.toNat then .error .truncated
  else if frame.length != headerSize + header.payloadSize.toNat then .error .invalidSize
  else (validatePayloadShape header (payloadOf frame)).map (fun _ => header)

/-- `vspd_encode_u32_payload`. -/
def encodeU32Payload (value : UInt32) : Bytes := writeU32 value

/-- `vspd_decode_u32_payload`. -/
def decodeU32Payload (bytes : Bytes) : UInt32 := readU32 bytes 0

/-- `vspd_capabilities_payload_t`. -/
structure CapabilitiesPayload where
  bits : UInt64
  maxPacketSize : UInt32
  txQueueDepth : UInt32
  rxQueueDepth : UInt32
  bufferAlignment : UInt32
deriving DecidableEq, Repr

/-- `vspd_encode_capabilities`. -/
def encodeCapabilities (value : CapabilitiesPayload) : Bytes :=
  writeU64 value.bits ++ writeU32 value.maxPacketSize ++ writeU32 value.txQueueDepth
    ++ writeU32 value.rxQueueDepth ++ writeU32 value.bufferAlignment

/-- `vspd_decode_capabilities`. -/
def decodeCapabilities (bytes : Bytes) : CapabilitiesPayload where
  bits := readU64 bytes 0
  maxPacketSize := readU32 bytes 8
  txQueueDepth := readU32 bytes 12
  rxQueueDepth := readU32 bytes 16
  bufferAlignment := readU32 bytes 20

/-- `vspd_server_info_payload_t`. -/
structure ServerInfoPayload where
  portCount : UInt32
  clientCapacity : UInt32
  packetQueueDepth : UInt32
  timeCodeQueueDepth : UInt32
  maxLogicalPacket : UInt32
deriving DecidableEq, Repr

/-- `vspd_encode_server_info`. -/
def encodeServerInfo (value : ServerInfoPayload) : Bytes :=
  writeU32 value.portCount ++ writeU32 value.clientCapacity ++ writeU32 value.packetQueueDepth
    ++ writeU32 value.timeCodeQueueDepth ++ writeU32 value.maxLogicalPacket

/-- `vspd_decode_server_info`. -/
def decodeServerInfo (bytes : Bytes) : ServerInfoPayload where
  portCount := readU32 bytes 0
  clientCapacity := readU32 bytes 4
  packetQueueDepth := readU32 bytes 8
  timeCodeQueueDepth := readU32 bytes 12
  maxLogicalPacket := readU32 bytes 16

/-- `vspd_port_info_payload_t`. -/
structure PortInfoPayload where
  flags : UInt32
  linkState : UInt32
  packetQueueCount : UInt32
  timeCodeQueueCount : UInt32
deriving DecidableEq, Repr

/-- `vspd_encode_port_info`. -/
def encodePortInfo (value : PortInfoPayload) : Bytes :=
  writeU32 value.flags ++ writeU32 value.linkState ++ writeU32 value.packetQueueCount
    ++ writeU32 value.timeCodeQueueCount

/-- `vspd_decode_port_info`. -/
def decodePortInfo (bytes : Bytes) : PortInfoPayload where
  flags := readU32 bytes 0
  linkState := readU32 bytes 4
  packetQueueCount := readU32 bytes 8
  timeCodeQueueCount := readU32 bytes 12

/-- `vspd_encode_statistics`. -/
def encodeStatistics (value : Statistics) : Bytes :=
  writeU64 value.txPackets ++ writeU64 value.rxPackets ++ writeU64 value.txBytes
    ++ writeU64 value.rxBytes ++ writeU64 value.txTimeCodes ++ writeU64 value.rxTimeCodes
    ++ writeU64 value.eepPackets ++ writeU64 value.linkErrors ++ writeU64 value.droppedPackets

/-- `vspd_decode_statistics`. -/
def decodeStatistics (bytes : Bytes) : Statistics where
  txPackets := readU64 bytes 0
  rxPackets := readU64 bytes 8
  txBytes := readU64 bytes 16
  rxBytes := readU64 bytes 24
  txTimeCodes := readU64 bytes 32
  rxTimeCodes := readU64 bytes 40
  eepPackets := readU64 bytes 48
  linkErrors := readU64 bytes 56
  droppedPackets := readU64 bytes 64

/-- `vspd_port_snapshot_payload_t`. -/
structure PortSnapshotPayload where
  info : PortInfoPayload
  statistics : Statistics
deriving DecidableEq, Repr

/-- `vspd_encode_port_snapshot`. -/
def encodePortSnapshot (value : PortSnapshotPayload) : Bytes :=
  encodePortInfo value.info ++ encodeStatistics value.statistics

/-- `vspd_decode_port_snapshot`. -/
def decodePortSnapshot (bytes : Bytes) : PortSnapshotPayload where
  info := decodePortInfo bytes
  statistics := decodeStatistics (bytes.drop portInfoPayloadSize)

/-! ## What is written is what is read -/

section Layouts

open FixedCodec

/-- The fields of a header, in the order of the wire. -/
def headerCodec : FixedCodec Header :=
  (u32.both <| byte.both <| byte.both <| byte.both <| byte.both <| u16.both <| u16.both
    <| u32.both <| u32.both <| u32.both <| u32.both <| u32.both <| u32.both i32).via
    { toFun := fun ⟨magic, major, minor, type, flags, size, reserved, payload, request, port,
        message, offset, total, status⟩ =>
        ⟨magic, major, minor, type, flags, size, reserved, payload, request, port, message,
          offset, total, status⟩
      invFun := fun h => ⟨h.magic, h.versionMajor, h.versionMinor, h.type, h.flags,
        h.headerSize, h.reserved, h.payloadSize, h.requestId, h.portId, h.messageId,
        h.fragmentOffset, h.totalSize, h.status⟩
      left_inv := fun _ => rfl
      right_inv := fun _ => rfl }

theorem headerCodec_write : headerCodec.write header = headerBytes header := by
  simp only [headerCodec, headerBytes, via, both, byte, u16, u32, i32, Equiv.coe_fn_symm_mk,
    List.append_assoc, List.cons_append, List.nil_append]
  rfl

theorem headerCodec_read (data : Bytes) : headerCodec.read data = readHeader data := by
  simp only [headerCodec, via, both, byte, u16, u32, i32, byteAt_drop, readU16_drop,
    readU32_drop]
  rfl

@[simp] theorem headerBytes_length : (headerBytes header).length = headerSize := by
  rw [← headerCodec_write]
  exact headerCodec.length_write header

@[simp] theorem payloadOf_append (payload : Bytes) :
    payloadOf (headerBytes header ++ payload) = payload :=
  List.drop_left' (headerBytes_length header)

/-- Reading the fields gives the header that was written. -/
theorem readHeader_headerBytes (payload : Bytes) :
    readHeader (headerBytes header ++ payload) = header := by
  rw [← headerCodec_read, ← headerCodec_write]
  exact headerCodec.read_write header payload

/-- Writing the fields that were read gives the bytes in front. -/
theorem headerBytes_readHeader {data : Bytes} (hlen : headerSize ≤ data.length) :
    headerBytes (readHeader data) = data.take headerSize := by
  rw [← headerCodec_read, ← headerCodec_write]
  exact headerCodec.write_read data hlen

/-- Five words. -/
def serverInfoCodec : FixedCodec ServerInfoPayload :=
  (u32.both <| u32.both <| u32.both <| u32.both u32).via
    { toFun := fun ⟨ports, clients, packets, timeCodes, size⟩ =>
        ⟨ports, clients, packets, timeCodes, size⟩
      invFun := fun v => ⟨v.portCount, v.clientCapacity, v.packetQueueDepth,
        v.timeCodeQueueDepth, v.maxLogicalPacket⟩
      left_inv := fun _ => rfl
      right_inv := fun _ => rfl }

theorem serverInfoCodec_write : serverInfoCodec.write = encodeServerInfo := by
  funext value
  simp only [serverInfoCodec, encodeServerInfo, via, both, u32, Equiv.coe_fn_symm_mk,
    List.append_assoc]

theorem serverInfoCodec_read : serverInfoCodec.read = decodeServerInfo := by
  funext bytes
  simp only [serverInfoCodec, via, both, u32, readU32_drop]
  rfl

/-- Four words. -/
def portInfoCodec : FixedCodec PortInfoPayload :=
  (u32.both <| u32.both <| u32.both u32).via
    { toFun := fun ⟨flags, state, packets, timeCodes⟩ => ⟨flags, state, packets, timeCodes⟩
      invFun := fun v => ⟨v.flags, v.linkState, v.packetQueueCount, v.timeCodeQueueCount⟩
      left_inv := fun _ => rfl
      right_inv := fun _ => rfl }

theorem portInfoCodec_write : portInfoCodec.write = encodePortInfo := by
  funext value
  simp only [portInfoCodec, encodePortInfo, via, both, u32, Equiv.coe_fn_symm_mk, List.append_assoc]

theorem portInfoCodec_read : portInfoCodec.read = decodePortInfo := by
  funext bytes
  simp only [portInfoCodec, via, both, u32, readU32_drop]
  rfl

/-- A long word and four words. -/
def capabilitiesCodec : FixedCodec CapabilitiesPayload :=
  (u64.both <| u32.both <| u32.both <| u32.both u32).via
    { toFun := fun ⟨bits, size, tx, rx, alignment⟩ => ⟨bits, size, tx, rx, alignment⟩
      invFun := fun v => ⟨v.bits, v.maxPacketSize, v.txQueueDepth, v.rxQueueDepth,
        v.bufferAlignment⟩
      left_inv := fun _ => rfl
      right_inv := fun _ => rfl }

theorem capabilitiesCodec_write : capabilitiesCodec.write = encodeCapabilities := by
  funext value
  simp only [capabilitiesCodec, encodeCapabilities, via, both, u32, u64, Equiv.coe_fn_symm_mk,
    List.append_assoc]

theorem capabilitiesCodec_read : capabilitiesCodec.read = decodeCapabilities := by
  funext bytes
  simp only [capabilitiesCodec, via, both, u32, u64, readU32_drop]
  rfl

/-- Nine long words. -/
def statisticsCodec : FixedCodec Statistics :=
  (u64.both <| u64.both <| u64.both <| u64.both <| u64.both <| u64.both <| u64.both
    <| u64.both u64).via
    { toFun := fun ⟨txPackets, rxPackets, txBytes, rxBytes, txTimeCodes, rxTimeCodes, eep,
        errors, dropped⟩ =>
        ⟨txPackets, rxPackets, txBytes, rxBytes, txTimeCodes, rxTimeCodes, eep, errors, dropped⟩
      invFun := fun v => ⟨v.txPackets, v.rxPackets, v.txBytes, v.rxBytes, v.txTimeCodes,
        v.rxTimeCodes, v.eepPackets, v.linkErrors, v.droppedPackets⟩
      left_inv := fun _ => rfl
      right_inv := fun _ => rfl }

theorem statisticsCodec_write : statisticsCodec.write = encodeStatistics := by
  funext value
  simp only [statisticsCodec, encodeStatistics, via, both, u64, Equiv.coe_fn_symm_mk,
    List.append_assoc]

theorem statisticsCodec_read : statisticsCodec.read = decodeStatistics := by
  funext bytes
  simp only [statisticsCodec, via, both, u64, readU64_drop]
  rfl

/-- The state of a port and its counters. -/
def portSnapshotCodec : FixedCodec PortSnapshotPayload :=
  (portInfoCodec.both statisticsCodec).via
    { toFun := fun ⟨info, statistics⟩ => ⟨info, statistics⟩
      invFun := fun v => ⟨v.info, v.statistics⟩
      left_inv := fun _ => rfl
      right_inv := fun _ => rfl }

theorem portSnapshotCodec_write : portSnapshotCodec.write = encodePortSnapshot := by
  funext value
  simp only [portSnapshotCodec, encodePortSnapshot, via, both, portInfoCodec_write,
    statisticsCodec_write, Equiv.coe_fn_symm_mk]

theorem portSnapshotCodec_read : portSnapshotCodec.read = decodePortSnapshot := by
  funext bytes
  simp only [portSnapshotCodec, via, both, portInfoCodec_read, statisticsCodec_read]
  rfl

/-- A snapshot is read back as it was written. -/
theorem decodePortSnapshot_encodePortSnapshot (value : PortSnapshotPayload) :
    decodePortSnapshot (encodePortSnapshot value) = value := by
  rw [← portSnapshotCodec_read, ← portSnapshotCodec_write]
  exact portSnapshotCodec.read_write_self value

end Layouts

theorem encodeHeader_eq_ok {header : Header} {bytes : Bytes} (h : encodeHeader header = .ok bytes) :
    validateCommon header = .ok () ∧ bytes = headerBytes header := by
  unfold encodeHeader at h
  cases hvalid : validateCommon header with
  | error e => simp [hvalid, Except.map] at h
  | ok u =>
    simp only [hvalid, Except.map, Except.ok.injEq] at h
    exact ⟨rfl, h.symm⟩

theorem encodeHeader_of_validateCommon {header : Header} (h : validateCommon header = .ok ()) :
    encodeHeader header = .ok (headerBytes header) := by
  simp [encodeHeader, h, Except.map]

/-- **A record is read as it was written**, if its header is valid by itself and
in the shape of the record. -/
theorem validateFrame_headerBytes {header : Header} {payload : Bytes}
    (hcommon : validateCommon header = .ok ()) (hsize : header.payloadSize.toNat = payload.length)
    (hshape : validatePayloadShape header payload = .ok ()) :
    validateFrame (headerBytes header ++ payload) = .ok header := by
  have hlong : ¬ (headerBytes header ++ payload).length < headerSize := by simp
  have hdecode : decodeHeader (headerBytes header ++ payload) = .ok header := by
    rw [decodeHeader, if_neg hlong, readHeader_headerBytes, hcommon]
    rfl
  have hlen : (headerBytes header ++ payload).length = headerSize + header.payloadSize.toNat := by
    simp [hsize]
  simp only [validateFrame, hdecode, bind, Except.bind, hlen, payloadOf_append, hshape,
    Except.map, lt_irrefl, bne_self_eq_false, Bool.false_eq_true, if_false]

/-- **What a record that passes says of itself.** -/
theorem validateFrame_eq_ok {frame : Bytes} {header : Header}
    (h : validateFrame frame = .ok header) :
    header = readHeader frame ∧ validateCommon header = .ok ()
      ∧ frame.length = headerSize + header.payloadSize.toNat
      ∧ validatePayloadShape header (payloadOf frame) = .ok () := by
  unfold validateFrame decodeHeader at h
  by_cases hshort : frame.length < headerSize
  · simp [hshort, bind, Except.bind] at h
  · rw [if_neg hshort] at h
    cases hcommon : validateCommon (readHeader frame) with
    | error e => simp [hcommon, Except.map, bind, Except.bind] at h
    | ok u =>
      simp only [hcommon, Except.map, bind, Except.bind] at h
      split_ifs at h with hlt hne
      cases hshape : validatePayloadShape (readHeader frame) (payloadOf frame) with
      | error e => simp [hshape] at h
      | ok u' =>
        simp only [hshape, Except.ok.injEq] at h
        subst h
        exact ⟨rfl, hcommon, by simpa using hne, hshape⟩

/-! ## What the checks come to -/

theorem validateCommon_eq_ok_iff :
    validateCommon header = .ok () ↔
      header.magic = magic ∧ header.versionMajor = versionMajor
        ∧ header.versionMinor = versionMinor ∧ header.headerSize.toNat = headerSize
        ∧ header.reserved = 0 ∧ typeValid header.type = true
        ∧ header.flags &&& ~~~flagKnownMask = 0
        ∧ header.payloadSize.toNat ≤ maxFramePayload := by
  simp only [validateCommon, Except.ite_error_eq_ok, bne_iff_ne, ne_eq, not_not, Bool.or_eq_true,
    not_or, Bool.not_eq_true', Bool.not_eq_false, gt_iff_lt, Nat.not_lt, and_assoc, and_true]

theorem validateTerminator_eq_ok_iff (fin eop eep : Bool) :
    validateTerminator fin eop eep = .ok () ↔
      ((eop = true ∨ eep = true) ↔ fin = true) ∧ ¬ (eop = true ∧ eep = true) := by
  cases fin <;> cases eop <;> cases eep <;> simp [validateTerminator]

/-- **The shape of a fragment**: it starts the packet exactly at its first byte, and ends
it exactly at its last. -/
structure DataShape : Prop where
  messageId_ne : header.messageId ≠ 0
  total_le : header.totalSize.toNat ≤ maxLogicalPacket
  fits : header.fragmentOffset.toNat + header.payloadSize.toNat ≤ header.totalSize.toNat
  /-- Only the empty packet has an empty fragment. -/
  nonempty : header.payloadSize.toNat = 0 → header.totalSize.toNat = 0
  start_iff : header.has flagFragmentStart = true ↔ header.fragmentOffset.toNat = 0
  end_iff : header.has flagFragmentEnd = true ↔
    header.fragmentOffset.toNat + header.payloadSize.toNat = header.totalSize.toNat
  /-- A terminator stands on the last fragment and on no other, and there is one. -/
  terminator : ((header.has flagEop = true ∨ header.has flagEep = true) ↔
    header.has flagFragmentEnd = true) ∧ ¬ (header.has flagEop = true ∧ header.has flagEep = true)

theorem validateDataShape_eq_ok_iff : validateDataShape header = .ok () ↔ DataShape header := by
  constructor
  · intro h
    simp only [validateDataShape] at h
    split_ifs at h with h1 h2 h3 h4 h5 h6 h7
    · -- the packet without bytes
      simp only [Bool.or_eq_true, bne_iff_ne, ne_eq, Bool.not_eq_true', not_or, not_not,
        Bool.not_eq_false, beq_iff_eq, decide_eq_true_eq] at h1 h3 h4
      obtain ⟨⟨⟨hp, ho⟩, hs⟩, hf⟩ := h4
      exact ⟨h1.1, Nat.not_lt.mp h1.2, Nat.not_lt.mp h2, fun _ => h3, by simp [hs, ho],
        by simp [hf, hp, ho, h3], (validateTerminator_eq_ok_iff _ _ _).mp h⟩
    · simp only [Bool.or_eq_true, not_or, beq_iff_eq, decide_eq_true_eq, bne_iff_ne, ne_eq,
        not_not] at h1 h3 h5 h6 h7
      exact ⟨h1.1, Nat.not_lt.mp h1.2, Nat.not_lt.mp h2, fun hp => absurd hp h5,
        by rw [← h6, beq_iff_eq], by rw [← h7, beq_iff_eq],
        (validateTerminator_eq_ok_iff _ _ _).mp h⟩
  · intro h
    have hstart : header.has flagFragmentStart = (header.fragmentOffset.toNat == 0) := by
      rw [Bool.eq_iff_iff, h.start_iff, beq_iff_eq]
    have hend : header.has flagFragmentEnd
        = (header.fragmentOffset.toNat + header.payloadSize.toNat == header.totalSize.toNat) := by
      rw [Bool.eq_iff_iff, h.end_iff, beq_iff_eq]
    have hfits := h.fits
    have hterminator := (validateTerminator_eq_ok_iff _ _ _).mpr h.terminator
    simp only [validateDataShape]
    rw [if_neg (by simp [h.messageId_ne, h.total_le]), if_neg (Nat.not_lt.mpr h.fits)]
    by_cases hzero : header.totalSize.toNat = 0
    · rw [if_pos (by simpa using hzero), if_neg, hterminator]
      have hp : header.payloadSize.toNat = 0 := by omega
      have ho : header.fragmentOffset.toNat = 0 := by omega
      simp [hstart, hend, hp, ho, hzero]
    · rw [if_neg (by simpa using hzero), if_neg (by simpa using fun hp => hzero (h.nonempty hp)),
        if_neg (by simp [hstart]), if_neg (by simp [hend]), hterminator]

/-! ## What a request that passes says of itself -/

section Request

variable {frame : Bytes} {request : Header} (h : validateFrame frame = .ok request)

include h

theorem payloadOf_length : (payloadOf frame).length = request.payloadSize.toNat := by
  obtain ⟨-, -, hlen, -⟩ := validateFrame_eq_ok h
  rw [payloadOf, List.length_drop, hlen, Nat.add_sub_cancel_left]

theorem typeValid_of_validateFrame : typeValid request.type = true :=
  ((validateCommon_eq_ok_iff _).mp (validateFrame_eq_ok h).2.1).2.2.2.2.2.1

variable (hrequest : request.has flagResponse = false)

include hrequest

theorem validateRequest_of_validateFrame :
    validateRequest request = .ok ()
      ∧ (payloadOf frame ≠ [] → validatePayload request (payloadOf frame) = .ok ()) := by
  obtain ⟨-, -, -, hshape⟩ := validateFrame_eq_ok h
  rw [validatePayloadShape, hrequest] at hshape
  simp only [Bool.false_eq_true, if_false] at hshape
  cases hvalid : validateRequest request with
  | error e => simp [hvalid, bind, Except.bind] at hshape
  | ok u =>
    simp only [hvalid, bind, Except.bind] at hshape
    refine ⟨rfl, fun hne => ?_⟩
    have hempty : (payloadOf frame).isEmpty = false := by simpa using hne
    simpa [hempty] using hshape

/-- A request that is no event is numbered. -/
theorem requestId_ne_zero (hevent : typeIsEvent request.type = false) : request.requestId ≠ 0 := by
  have hvalid := (validateRequest_of_validateFrame h hrequest).1
  intro hzero
  simp only [validateRequest, hevent, hzero] at hvalid
  rw [if_pos (show (false != ((0 : UInt32) == 0)) = true from rfl)] at hvalid
  split_ifs at hvalid

/-- A DATA record has the shape of a fragment. -/
theorem dataShape_of_validateFrame (htype : request.type = MessageType.dataTx.toByte) :
    DataShape request := by
  have hvalid := (validateRequest_of_validateFrame h hrequest).1
  rw [← validateDataShape_eq_ok_iff]
  simp only [validateRequest, htype] at hvalid
  split_ifs at hvalid with h1 h2 h3
  · exact hvalid
  · exact absurd (by decide) h3

/-- A TIME_CODE_TX record carries a time code. -/
theorem timeCode_of_validateFrame (htype : request.type = MessageType.timeCodeTx.toByte) :
    TimeCode.valid ⟨byteAt (payloadOf frame) 0, byteAt (payloadOf frame) 1⟩ = true := by
  obtain ⟨hvalid, hpayload⟩ := validateRequest_of_validateFrame h hrequest
  have hsize : request.payloadSize.toNat = timeCodePayloadSize := by
    simp only [validateRequest, htype] at hvalid
    split_ifs at hvalid with h1 h2 h3 h4 h5
    · exact absurd h3 (by decide)
    · simpa [plainPayloadSize, MessageType.ofByte_toByte] using h5
  have hne : payloadOf frame ≠ [] := by
    intro hnil
    have hlen := payloadOf_length h
    rw [hnil, hsize] at hlen
    exact absurd hlen (by decide)
  have hcheck := hpayload hne
  simp only [validatePayload, htype] at hcheck
  split_ifs at hcheck with h1 h2
  simp only [hsize, Bool.and_eq_true, Bool.or_eq_true, decide_eq_true_eq, not_or,
    beq_self_eq_true, true_or, true_and] at h2
  simp only [TimeCode.valid, Bool.and_eq_true, decide_eq_true_eq]
  exact ⟨UInt8.not_lt.mp h2.1, UInt8.not_lt.mp h2.2⟩

end Request

end Vspd
