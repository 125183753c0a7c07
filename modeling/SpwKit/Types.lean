import SpwKit.Lib.BigEndian

/-!
# The public vocabulary

The types every backend speaks: results, link states, terminators, time codes,
packets handed in by an application and the counters a port keeps. A terminator
that an application hands in is a byte and may be neither of the two there are;
what a backend keeps is one of them.
-/

/-- `spw_result_t`. -/
inductive Result
  | ok | invalidArgument | invalidState | timeout | unsupported | resourceExhausted
  | linkUnavailable | bufferTooSmall | invalidPacket | backend
deriving DecidableEq, Repr

/-- `spw_link_state_t`. -/
inductive LinkState
  | errorReset | errorWait | ready | started | connecting | run
deriving DecidableEq, Repr

/-- `spw_terminator_t`, where it is valid. -/
inductive Terminator
  | eop | eep
deriving DecidableEq, Repr

namespace Terminator

/-- The byte of a terminator. -/
def toByte : Terminator → UInt8
  | .eop => 0
  | .eep => 1

/-- The terminator of a byte, if it is one. -/
def ofByte (b : UInt8) : Option Terminator :=
  if b == 0 then some .eop else if b == 1 then some .eep else none

@[simp] theorem ofByte_toByte (t : Terminator) : ofByte t.toByte = some t := by
  cases t <;> rfl

end Terminator

/-- `spw_timeout_us_t`. -/
abbrev Timeout := UInt64

/-- `SPW_TIMEOUT_IMMEDIATE`. -/
def timeoutImmediate : Timeout := 0

/-- `SPW_TIMEOUT_INFINITE`. -/
def timeoutInfinite : Timeout := 0xffffffffffffffff

/-- `spw_time_code_t`. -/
structure TimeCode where
  timeCount : UInt8
  controlFlags : UInt8
deriving DecidableEq, Repr

/-- `valid_time_code`: six bits of count and two of flags. -/
def TimeCode.valid (t : TimeCode) : Bool := decide (t.timeCount ≤ 63) && decide (t.controlFlags ≤ 3)

/-- A logical packet: its bytes and its terminator. -/
structure Packet where
  bytes : Bytes
  terminator : Terminator
deriving DecidableEq, Repr

/-- `spw_packet_t` as an application hands it in for sending: a pointer that may
be null, a length and a byte for the terminator. -/
structure SendPacket where
  data : Option (Nat → UInt8)
  length : Nat
  terminator : UInt8

/-- The bytes behind a packet that is sent. -/
def SendPacket.bytes (p : SendPacket) : Bytes :=
  (List.range p.length).map (p.data.getD (fun _ => 0))

@[simp] theorem SendPacket.bytes_length (p : SendPacket) : p.bytes.length = p.length := by
  simp [SendPacket.bytes]

/-- The storage an application offers for a packet: whether there is any, and
how much. -/
structure ReceiveBuffer where
  hasData : Bool
  capacity : Nat

/-- What an application sends and receives over a link. -/
inductive Event
  | data (packet : Packet)
  | timeCode (code : TimeCode)
deriving DecidableEq, Repr

/-- `spw_ready_events_t`: what there is to receive. -/
structure ReadyEvents where
  rxPacket : Bool
  rxTimeCode : Bool
deriving DecidableEq, Repr

/-- Some event is ready. -/
def ReadyEvents.any (r : ReadyEvents) : Bool := r.rxPacket || r.rxTimeCode

/-- `spw_statistics_t`. -/
structure Statistics where
  txPackets : UInt64 := 0
  rxPackets : UInt64 := 0
  txBytes : UInt64 := 0
  rxBytes : UInt64 := 0
  txTimeCodes : UInt64 := 0
  rxTimeCodes : UInt64 := 0
  eepPackets : UInt64 := 0
  linkErrors : UInt64 := 0
  droppedPackets : UInt64 := 0
deriving DecidableEq, Repr

/-- `spw_fault_statistics_t`. -/
structure FaultStatistics where
  transportDrops : UInt64 := 0
  transportDuplicates : UInt64 := 0
  transportReorders : UInt64 := 0
  transportDelays : UInt64 := 0
  spacewireEepInjections : UInt64 := 0
deriving DecidableEq, Repr

/-- There are two ports, and a link has two ends: both are numbered from 0. -/
instance two_neZero : @NeZero Nat Zero.ofOfNat0 2 := ⟨by decide⟩
