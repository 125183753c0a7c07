import SpwKit.Device.VspwDeviceProtocol

/-!
# A packet as a row of records

A packet is longer than a record may be, so both ends cut it into fragments:
the device backend when it sends, the daemon when it delivers. Both take
`maxFramePayload` bytes at a time, mark the first fragment and the last, and put
the terminator on the last; a packet without bytes is one fragment without
bytes. This module is that cut, with what differs between the two ends – the type
of the message and the numbers in the header – as parameters.
-/

namespace Vspd

open BigEndian

/-- The bytes of the fragment at an offset. -/
def chunkAt (length offset : UInt32) : UInt32 :=
  if length - offset > 32768 then 32768 else length - offset

/-- The fragment at an offset is the last. -/
def isFinal (length offset : UInt32) : Bool :=
  length == 0 || offset + chunkAt length offset == length

/-- The flag of a terminator. -/
def terminatorFlag : Terminator → UInt8
  | .eop => flagEop
  | .eep => flagEep

/-- The terminator the flags of a last fragment stand for. -/
def Header.terminator (header : Header) : Terminator :=
  if header.has flagEep then .eep else .eop

/-- The flags of the fragment at an offset. -/
def fragmentFlags (length offset : UInt32) (terminator : Terminator) : UInt8 :=
  (if offset == 0 then flagFragmentStart else 0)
    ||| (if isFinal length offset then flagFragmentEnd ||| terminatorFlag terminator else 0)

/-- What the fragments of a packet have in common: the numbers in their headers,
the bytes they are cut from and the terminator. -/
structure Fragmentation where
  type : MessageType
  requestId : UInt32
  portId : UInt32
  messageId : UInt32
  data : Bytes
  terminator : Terminator
deriving DecidableEq, Repr

namespace Fragmentation

variable (f : Fragmentation)

/-- The length of the packet as the headers carry it. -/
def length : UInt32 := UInt32.ofNat f.data.length

/-- The packet behind the fragments. -/
def packet : Packet := ⟨f.data, f.terminator⟩

variable (offset : UInt32)

/-- The header of the fragment at an offset. -/
def header : Header :=
  { Header.ofType f.type.toByte with
    flags := fragmentFlags f.length offset f.terminator
    payloadSize := chunkAt f.length offset
    requestId := f.requestId
    portId := f.portId
    messageId := f.messageId
    fragmentOffset := offset
    totalSize := f.length }

/-- The bytes of the fragment at an offset. -/
def payload : Bytes :=
  (f.data.drop offset.toNat).take (chunkAt f.length offset).toNat

/-- The record of the fragment at an offset, if its header can be written. -/
def frame : Except CodecError Bytes :=
  (encodeHeader (f.header offset)).map (· ++ f.payload offset)

/-- A cut that can be written: the packet is not too long, and the numbers in its
headers are those of its type of message. -/
structure Valid : Prop where
  length_le : f.data.length ≤ maxLogicalPacket
  messageId_ne : f.messageId ≠ 0
  numbered : (f.type = .dataTx ∧ f.requestId ≠ 0) ∨ (f.type = .dataRx ∧ f.requestId = 0)

variable {f}

/-! ## Sizes as numbers -/

variable {offset : UInt32} {σ : Type}

theorem length_toNat (h : f.data.length ≤ maxLogicalPacket) : f.length.toNat = f.data.length := by
  have hmax : maxLogicalPacket < 2 ^ 32 := by decide
  rw [length, UInt32.toNat_ofNat']
  exact Nat.mod_eq_of_lt (h.trans_lt hmax)

/-- An offset at which a fragment starts. -/
def Starts (f : Fragmentation) (offset : UInt32) : Prop :=
  offset.toNat = 0 ∨ offset.toNat < f.data.length

theorem chunkAt_toNat (h : f.data.length ≤ maxLogicalPacket) (ho : f.Starts offset) :
    (chunkAt f.length offset).toNat = min maxFramePayload (f.data.length - offset.toNat) := by
  have hlen := length_toNat h
  have hle : offset ≤ f.length := by
    rw [UInt32.le_iff_toNat_le, hlen]
    obtain h0 | h0 := ho <;> omega
  have hsub : (f.length - offset).toNat = f.data.length - offset.toNat := by
    rw [UInt32.toNat_sub_of_le _ _ hle, hlen]
  have hmax : (32768 : UInt32).toNat = maxFramePayload := rfl
  unfold chunkAt
  split_ifs with hgt
  · rw [gt_iff_lt, UInt32.lt_iff_toNat_lt, hsub, hmax] at hgt
    omega
  · rw [gt_iff_lt, UInt32.lt_iff_toNat_lt, hsub, hmax] at hgt
    omega

/-- Where the fragment at an offset ends. -/
theorem end_toNat (h : f.data.length ≤ maxLogicalPacket) (ho : f.Starts offset) :
    (offset + chunkAt f.length offset).toNat
      = offset.toNat + min maxFramePayload (f.data.length - offset.toNat) := by
  have hmax : maxLogicalPacket < 2 ^ 31 := by decide
  have hframe : maxFramePayload < 2 ^ 31 := by decide
  rw [UInt32.toNat_add, chunkAt_toNat h ho]
  refine Nat.mod_eq_of_lt ?_
  obtain h0 | h0 := ho <;> omega

theorem isFinal_iff (h : f.data.length ≤ maxLogicalPacket) (ho : f.Starts offset) :
    isFinal f.length offset = true ↔
      offset.toNat + (chunkAt f.length offset).toNat = f.data.length := by
  have hlen := length_toNat h
  rw [chunkAt_toNat h ho, ← end_toNat h ho, ← hlen, isFinal]
  simp only [Bool.or_eq_true, beq_iff_eq, UInt32.toNat_inj]
  refine or_iff_right_of_imp (fun h0 => ?_)
  have hdata : f.data.length = 0 := by rw [← hlen, h0]; rfl
  rw [← UInt32.toNat_inj, end_toNat h ho, hlen, hdata]
  obtain h1 | h1 := ho <;> omega

@[simp] theorem payload_length (h : f.data.length ≤ maxLogicalPacket) (ho : f.Starts offset) :
    (f.payload offset).length = (chunkAt f.length offset).toNat := by
  rw [payload, List.length_take, List.length_drop, chunkAt_toNat h ho]
  omega

/-! ## The flags of a fragment -/

section Flags

variable (f : Fragmentation) (offset : UInt32)

theorem flags_header : (f.header offset).has flagFragmentStart = decide (offset = 0)
    ∧ (f.header offset).has flagFragmentEnd = isFinal f.length offset
    ∧ (f.header offset).has flagEep = (isFinal f.length offset && decide (f.terminator = .eep))
    ∧ (f.header offset).has flagEop = (isFinal f.length offset && decide (f.terminator = .eop))
    ∧ (f.header offset).has flagResponse = false := by
  simp only [Header.has, header, fragmentFlags, beq_iff_eq]
  cases f.terminator <;> by_cases h : offset = 0 <;>
    cases isFinal f.length offset <;> simp [h] <;> decide

theorem has_start : (f.header offset).has flagFragmentStart = decide (offset = 0) :=
  (f.flags_header offset).1

theorem has_end : (f.header offset).has flagFragmentEnd = isFinal f.length offset :=
  (f.flags_header offset).2.1

theorem has_response : (f.header offset).has flagResponse = false :=
  (f.flags_header offset).2.2.2.2

end Flags

/-- The last fragment carries the terminator. -/
theorem terminator_header (h : isFinal f.length offset = true) :
    (f.header offset).terminator = f.terminator := by
  rw [Header.terminator, (f.flags_header offset).2.2.1, h, Bool.true_and]
  cases f.terminator <;> rfl

/-! ## Every fragment is a legal record -/

theorem dataShape_header (hv : f.Valid) (ho : f.Starts offset) : DataShape (f.header offset) := by
  have hlen := length_toNat hv.length_le
  have hchunk := chunkAt_toNat hv.length_le ho
  refine ⟨hv.messageId_ne, by simpa [header, hlen] using hv.length_le, ?_, ?_, ?_, ?_, ?_⟩
  · show offset.toNat + (chunkAt f.length offset).toNat ≤ f.length.toNat
    rw [hchunk, hlen]
    obtain h0 | h0 := ho <;> omega
  · intro hzero
    have hzero' : (chunkAt f.length offset).toNat = 0 := hzero
    have hmax : 0 < maxFramePayload := by decide
    show f.length.toNat = 0
    rw [hlen]
    obtain h0 | h0 := ho <;> omega
  · rw [has_start, decide_eq_true_eq]
    exact UInt32.toNat_inj.symm
  · rw [has_end, isFinal_iff hv.length_le ho]
    show _ ↔ offset.toNat + (chunkAt f.length offset).toNat = f.length.toNat
    rw [hlen]
  · obtain ⟨-, hend, heep, heop, -⟩ := f.flags_header offset
    rw [hend, heop, heep]
    cases isFinal f.length offset <;> cases f.terminator <;> decide

theorem validateCommon_header (f : Fragmentation) (offset : UInt32) :
    validateCommon (f.header offset) = .ok () := by
  refine (validateCommon_eq_ok_iff _).mpr ⟨rfl, rfl, rfl, rfl, rfl, ?_, ?_, ?_⟩
  · show typeValid f.type.toByte = true
    cases f.type <;> rfl
  · simp only [header, fragmentFlags, beq_iff_eq]
    cases f.terminator <;> by_cases h : offset = 0 <;>
      cases isFinal f.length offset <;> simp [h] <;> decide
  · show (chunkAt f.length offset).toNat ≤ maxFramePayload
    unfold chunkAt
    split_ifs with hgt
    · exact le_rfl
    · exact UInt32.not_lt.mp hgt

theorem validatePayloadShape_header (hv : f.Valid) (ho : f.Starts offset) :
    validatePayloadShape (f.header offset) (f.payload offset) = .ok () := by
  have hrequest : validateRequest (f.header offset) = .ok () := by
    have hshape := (validateDataShape_eq_ok_iff _).mpr (dataShape_header hv ho)
    have hstatus : (f.header offset).status = Status.ok.toWire := rfl
    have htype : (f.header offset).type = f.type.toByte := rfl
    have hid : (f.header offset).requestId = f.requestId := rfl
    rw [validateRequest, hstatus, htype, hid, hshape]
    obtain ⟨ht, hr⟩ | ⟨ht, hr⟩ := hv.numbered
    · simp [ht, hr, typeIsEvent, MessageType.toByte]
    · simp [ht, hr, typeIsEvent, MessageType.toByte]
  have hsize : (f.header offset).payloadSize.toNat = (f.payload offset).length :=
    (payload_length hv.length_le ho).symm
  have hpayload : validatePayload (f.header offset) (f.payload offset) = .ok () := by
    have htype : (f.header offset).type = f.type.toByte := rfl
    simp only [validatePayload, htype]
    obtain ⟨ht, -⟩ | ⟨ht, -⟩ := hv.numbered <;> simp [ht, MessageType.toByte]
  rw [validatePayloadShape, has_response]
  simp only [Bool.false_eq_true, if_false, hrequest, bind, Except.bind, hpayload]
  split_ifs with hempty hne
  · rw [List.isEmpty_iff] at hempty
    rw [hempty, List.length_nil] at hsize
    have hzero : (f.header offset).payloadSize = 0 := UInt32.toNat_inj.mp hsize
    simp [hzero] at hne
  · rfl
  · rfl

/-- Every fragment is written, whatever the packet. -/
theorem frame_written (f : Fragmentation) (offset : UInt32) :
    f.frame offset = .ok (headerBytes (f.header offset) ++ f.payload offset) := by
  rw [frame, encodeHeader_of_validateCommon (f.validateCommon_header offset)]
  rfl

/-- **Every fragment is written, and is a legal record.** -/
theorem frame_eq_ok (hv : f.Valid) (ho : f.Starts offset) :
    f.frame offset = .ok (headerBytes (f.header offset) ++ f.payload offset)
      ∧ validateFrame (headerBytes (f.header offset) ++ f.payload offset)
        = .ok (f.header offset) :=
  ⟨f.frame_written offset, validateFrame_headerBytes (f.validateCommon_header offset)
    (payload_length hv.length_le ho).symm (validatePayloadShape_header hv ho)⟩

/-! ## The row of a packet -/

/-- The record of the fragment at an offset. -/
def record (f : Fragmentation) (offset : UInt32) : Bytes :=
  headerBytes (f.header offset) ++ f.payload offset

/-- The records from an offset on, at most as many as the number says. -/
def rowFrom (f : Fragmentation) : Nat → UInt32 → List Bytes
  | 0, _ => []
  | n + 1, offset =>
    f.record offset :: if isFinal f.length offset then []
      else rowFrom f n (offset + chunkAt f.length offset)

/-- As many fragments as a packet has at most. -/
def rowBound (f : Fragmentation) : Nat := f.data.length / maxFramePayload + 1

/-- **The records of a packet.** -/
def row (f : Fragmentation) : List Bytes := f.rowFrom f.rowBound 0

/-- The packet ends within so many fragments from an offset on. -/
def Within (f : Fragmentation) (n : Nat) (offset : UInt32) : Prop :=
  0 < n ∧ f.data.length ≤ offset.toNat + n * maxFramePayload

theorem starts_zero (f : Fragmentation) : f.Starts 0 := Or.inl rfl

theorem within_rowBound (f : Fragmentation) : f.Within f.rowBound 0 := by
  refine ⟨Nat.succ_pos _, ?_⟩
  have hdiv := Nat.lt_div_mul_add (a := f.data.length) (b := maxFramePayload) (by decide)
  show f.data.length ≤ 0 + (f.data.length / maxFramePayload + 1) * maxFramePayload
  rw [Nat.add_mul, Nat.zero_add, Nat.one_mul]
  exact hdiv.le

section Next

variable {offset : UInt32} (h : f.data.length ≤ maxLogicalPacket) (ho : f.Starts offset)
  (hmore : isFinal f.length offset = false)

include h ho hmore

/-- A fragment that is not the last is full, and bytes follow it. -/
theorem full_of_not_final : maxFramePayload < f.data.length - offset.toNat := by
  have hnot : ¬ offset.toNat + (chunkAt f.length offset).toNat = f.data.length := by
    rw [← isFinal_iff h ho, hmore]
    exact Bool.false_ne_true
  rw [chunkAt_toNat h ho] at hnot
  obtain h0 | h0 := ho <;> omega

theorem next_toNat : (offset + chunkAt f.length offset).toNat = offset.toNat + maxFramePayload := by
  have hfull := full_of_not_final h ho hmore
  rw [end_toNat h ho]
  omega

theorem next_ne_zero : offset + chunkAt f.length offset ≠ 0 := by
  intro hzero
  have hnext := next_toNat h ho hmore
  have hmax : 0 < maxFramePayload := by decide
  have hnum : (0 : UInt32).toNat = 0 := rfl
  rw [hzero] at hnext
  omega

theorem Starts.next : f.Starts (offset + chunkAt f.length offset) := by
  have hfull := full_of_not_final h ho hmore
  right
  rw [next_toNat h ho hmore]
  omega

theorem Within.next {n : Nat} (hn : f.Within (n + 1) offset) :
    f.Within n (offset + chunkAt f.length offset) := by
  have hfull := full_of_not_final h ho hmore
  have hle := hn.2
  rw [Nat.add_mul, Nat.one_mul] at hle
  refine ⟨Nat.pos_of_ne_zero fun hzero => ?_, ?_⟩
  · rw [hzero, Nat.zero_mul] at hle
    omega
  · rw [next_toNat h ho hmore]
    omega

end Next

section Rule

variable {step : σ → Bytes → σ} {P : UInt32 → σ → Prop} {Q : σ → Prop}
  (h : f.data.length ≤ maxLogicalPacket)
  (hmore : ∀ offset s, f.Starts offset → isFinal f.length offset = false → P offset s →
    P (offset + chunkAt f.length offset) (step s (f.record offset)))
  (hlast : ∀ offset s, f.Starts offset → isFinal f.length offset = true → P offset s →
    Q (step s (f.record offset)))

include h hmore hlast

/-- **The rule of a row**: what holds at the first fragment and is passed on from
each one to the next gives, with the last, what holds at the end. -/
theorem rowFrom_rule : ∀ n offset s, f.Starts offset → f.Within n offset → P offset s →
    Q ((f.rowFrom n offset).foldl step s)
  | 0, _, _, _, hn, _ => absurd hn.1 (Nat.lt_irrefl 0)
  | n + 1, offset, s, ho, hn, hs => by
    rw [rowFrom, List.foldl_cons]
    cases hfinal : isFinal f.length offset with
    | true => exact hlast offset s ho hfinal hs
    | false =>
      exact rowFrom_rule n _ _ (Starts.next h ho hfinal) (Within.next h ho hfinal hn)
        (hmore offset s ho hfinal hs)

/-- The rule of a whole row. -/
theorem row_rule {s : σ} (hs : P 0 s) : Q (f.row.foldl step s) :=
  rowFrom_rule h hmore hlast _ 0 s f.starts_zero f.within_rowBound hs

end Rule

/-- A bound that is large enough does not matter. -/
theorem rowFrom_of_within (h : f.data.length ≤ maxLogicalPacket) :
    ∀ n m offset, f.Starts offset → f.Within n offset → f.Within m offset →
      f.rowFrom n offset = f.rowFrom m offset
  | 0, _, _, _, hn, _ => absurd hn.1 (Nat.lt_irrefl 0)
  | _, 0, _, _, _, hm => absurd hm.1 (Nat.lt_irrefl 0)
  | n + 1, m + 1, offset, ho, hn, hm => by
    cases hfinal : isFinal f.length offset with
    | true => simp only [rowFrom, hfinal, if_true]
    | false =>
      simp only [rowFrom, hfinal, Bool.false_eq_true, if_false]
      rw [rowFrom_of_within h n m _ (Starts.next h ho hfinal) (Within.next h ho hfinal hn)
        (Within.next h ho hfinal hm)]

/-- Every record of a row is that of a fragment. -/
theorem mem_rowFrom (h : f.data.length ≤ maxLogicalPacket) {frame : Bytes} :
    ∀ n offset, f.Starts offset → frame ∈ f.rowFrom n offset →
      ∃ offset, f.Starts offset ∧ frame = f.record offset
  | 0, _, _, hmem => by simp [rowFrom] at hmem
  | n + 1, offset, ho, hmem => by
    rw [rowFrom, List.mem_cons] at hmem
    obtain rfl | hmem := hmem
    · exact ⟨offset, ho, rfl⟩
    · cases hfinal : isFinal f.length offset with
      | true => simp [hfinal] at hmem
      | false =>
        simp only [hfinal, Bool.false_eq_true, if_false] at hmem
        exact mem_rowFrom h n _ (Starts.next h ho hfinal) hmem

/-- **Every record of a row is legal.** -/
theorem row_legal (hv : f.Valid) {frame : Bytes} (h : frame ∈ f.row) :
    ∃ header, validateFrame frame = .ok header := by
  obtain ⟨offset, ho, rfl⟩ := mem_rowFrom hv.length_le _ 0 f.starts_zero h
  exact ⟨_, (frame_eq_ok hv ho).2⟩

end Fragmentation

end Vspd
