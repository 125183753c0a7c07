import SpwKit.Ethernet.UdpBackend

/-!
# The fragments of a packet

What a backend puts on the wire for its pending packet: one datagram, or as many
fragments of the configured size as it takes. Each of them is a piece of the
packet (`PieceOf`): a valid header that names the packet and the place of the
piece in it, and the bytes of the packet at that place. The headers differ in
their sequence numbers, which nobody reads.
-/

open VspwTp Interactive FragmentReassembler

/-! ## Flags -/

theorem hasFlag_dataFlags_start (t : Terminator) (start fin : Bool) :
    hasFlag (dataFlags t start fin) flagFragmentStart = start := by
  cases t <;> cases start <;> cases fin <;> rfl

theorem hasFlag_dataFlags_end (t : Terminator) (start fin : Bool) :
    hasFlag (dataFlags t start fin) flagFragmentEnd = fin := by
  cases t <;> cases start <;> cases fin <;> rfl

theorem hasFlag_dataFlags_ack (t : Terminator) (start fin : Bool) :
    hasFlag (dataFlags t start fin) flagAckRequired = true := by
  cases t <;> cases start <;> cases fin <;> rfl

theorem dataFlags_and_terminators (t : Terminator) (start fin : Bool) :
    dataFlags t start fin &&& (flagEop ||| flagEep) = terminatorFlag t := by
  cases t <;> cases start <;> cases fin <;> rfl

/-- The terminator is read back from its flag, alone or among others. -/
theorem terminatorOfFlags_terminatorFlag (t : Terminator) :
    terminatorOfFlags (terminatorFlag t) = t := by
  cases t <;> rfl

theorem terminatorOfFlags_eq_of_and {flags : UInt8} {t : Terminator}
    (h : flags &&& (flagEop ||| flagEep) = terminatorFlag t) : terminatorOfFlags flags = t := by
  have hmask : flags &&& flagEep = (flags &&& (flagEop ||| flagEep)) &&& flagEep := by
    rw [UInt8.and_assoc]
    rfl
  unfold terminatorOfFlags hasFlag
  rw [hmask, h]
  cases t <;> rfl

/-- The flags of a data datagram pass the check of the header. -/
theorem validateFlags_dataFlags {header : Header} {t : Terminator} {start fin : Bool}
    (htype : header.type = typeData) (hflags : header.flags = dataFlags t start fin) :
    validateFlags header = true := by
  unfold validateFlags
  rw [hflags, htype]
  cases t <;> cases start <;> cases fin <;> rfl

/-! ## Pieces of a packet -/

/-- **A piece of a packet**: a valid header that names the packet and a place in
it, and the bytes of the packet there. -/
structure PieceOf (packet : Packet) (messageId : UInt32) (header : Header)
    (payload : Bytes) : Prop where
  valid : validate header = true
  type : header.type = typeData
  messageId : header.messageId = messageId
  ackRequired : hasFlag header.flags flagAckRequired = true
  terminator : terminatorFlagsOf header = terminatorFlag packet.terminator
  total : header.totalSize.toNat = packet.bytes.length
  size : header.payloadSize.toNat = payload.length
  inside : header.fragmentOffset.toNat + payload.length ≤ packet.bytes.length
  bytes : payload = (packet.bytes.drop header.fragmentOffset.toNat).take payload.length

/-- The byte of a piece is the byte of the packet at its place. -/
theorem PieceOf.byteAt {packet : Packet} {messageId : UInt32} {header : Header} {payload : Bytes}
    (h : PieceOf packet messageId header payload) {p : Nat} (h₁ : header.fragmentOffset.toNat ≤ p)
    (h₂ : p < header.fragmentOffset.toNat + header.payloadSize.toNat) :
    BigEndian.byteAt payload (p - header.fragmentOffset.toNat)
      = BigEndian.byteAt packet.bytes p := by
  have hlt : p - header.fragmentOffset.toNat < payload.length := by
    have := h.size
    omega
  unfold BigEndian.byteAt
  rw [h.bytes, List.getD_eq_getElem?_getD, List.getD_eq_getElem?_getD,
    List.getElem?_take_of_lt hlt, List.getElem?_drop, Nat.add_sub_cancel' h₁]

/-- A piece that is not the whole packet is a fragment. -/
theorem PieceOf.fragment {packet : Packet} {messageId : UInt32} {header : Header}
    {payload : Bytes} (h : PieceOf packet messageId header payload)
    (hpart : header.totalSize.toNat = header.payloadSize.toNat) :
    header.fragmentOffset.toNat = 0 ∧ payload = packet.bytes := by
  have hzero : header.fragmentOffset.toNat = 0 := by
    have := h.inside
    have := h.size
    have := h.total
    omega
  refine ⟨hzero, ?_⟩
  have hlen : payload.length = packet.bytes.length := by
    rw [← h.size, ← hpart, h.total]
  rw [h.bytes, hzero, hlen, List.drop_zero, List.take_length]

/-! ## The fragments of the pending packet -/

namespace UdpBackend

/-- The size of a full fragment. -/
def fragmentLimit (b : UdpBackend) : Nat := b.config.fragmentPayloadSize.toNat

/-- What a backend that was constructed and started has: a fragment size its
construction admits, a session and a packet that was let in. -/
structure Sendable (b : UdpBackend) : Prop where
  limit_pos : 256 ≤ b.fragmentLimit
  limit_le : b.fragmentLimit ≤ maxFragmentPayload
  length_le : b.pendingTxPacket.length ≤ udpMaxPacketSize
  session : b.localSessionId ≠ 0

variable {b : UdpBackend} {offset : Nat}

theorem limit_of_valid (hconfig : b.config.valid = true) :
    256 ≤ b.fragmentLimit ∧ b.fragmentLimit ≤ maxFragmentPayload := by
  simp only [UdpConfig.valid, Bool.and_eq_true, Bool.not_eq_true', Bool.or_eq_false_iff,
    decide_eq_false_iff_not] at hconfig
  unfold fragmentLimit
  omega

theorem limit_pos_of_valid (hconfig : b.config.valid = true) : 0 < b.fragmentLimit :=
  Nat.lt_of_lt_of_le (by decide) (limit_of_valid hconfig).1

theorem sendable_of_valid (hconfig : b.config.valid = true)
    (hlength : b.pendingTxPacket.length ≤ udpMaxPacketSize) (hsession : b.localSessionId ≠ 0) :
    b.Sendable :=
  ⟨(limit_of_valid hconfig).1, (limit_of_valid hconfig).2, hlength, hsession⟩

theorem fragmented_iff (b : UdpBackend) :
    b.fragmented = true ↔ b.fragmentLimit < b.pendingTxPacket.length := by
  simp [fragmented, fragmentLimit]

/-- The places a fragment starts at. -/
def StartsFragment (b : UdpBackend) (offset : Nat) : Prop :=
  offset = 0 ∨ (b.fragmented = true ∧ offset < b.pendingTxPacket.length)

theorem fragmentSize_of_fragmented (hf : b.fragmented = true) (offset : Nat) :
    b.fragmentSize offset = min b.fragmentLimit (b.pendingTxPacket.length - offset) := if_pos hf

theorem fragmentSize_of_whole (hf : ¬ b.fragmented = true) (offset : Nat) :
    b.fragmentSize offset = b.pendingTxPacket.length - offset := if_neg hf

theorem StartsFragment.le (h : b.StartsFragment offset) : offset ≤ b.pendingTxPacket.length := by
  rcases h with rfl | ⟨_, hlt⟩
  · exact Nat.zero_le _
  · exact hlt.le

theorem fragmentSize_le (b : UdpBackend) (offset : Nat) (h : b.StartsFragment offset) :
    offset + b.fragmentSize offset ≤ b.pendingTxPacket.length := by
  have hle := h.le
  by_cases hf : b.fragmented = true
  · rw [fragmentSize_of_fragmented hf]
    omega
  · rw [fragmentSize_of_whole hf]
    omega

theorem fragmentSize_le_limit (b : UdpBackend) (offset : Nat) (h : b.StartsFragment offset) :
    b.fragmentSize offset ≤ b.fragmentLimit := by
  by_cases hf : b.fragmented = true
  · rw [fragmentSize_of_fragmented hf]
    exact min_le_left _ _
  · rw [fragmentSize_of_whole hf]
    rcases h with rfl | ⟨hfrag, _⟩
    · have := (not_congr b.fragmented_iff).mp hf
      omega
    · exact absurd hfrag hf

theorem fragmentSize_pos (hs : b.Sendable) (hf : b.fragmented = true)
    (hlt : offset < b.pendingTxPacket.length) : 0 < b.fragmentSize offset := by
  have := hs.limit_pos
  rw [fragmentSize_of_fragmented hf]
  omega

theorem fragmentPayload_length (b : UdpBackend) (offset : Nat) (h : b.StartsFragment offset) :
    (b.fragmentPayload offset).length = b.fragmentSize offset := by
  have := b.fragmentSize_le offset h
  simp only [fragmentPayload, List.length_take, List.length_drop]
  omega

section

variable {b : UdpBackend} (hs : b.Sendable) {offset : Nat} (h : b.StartsFragment offset)

include hs h

theorem fragmentHeader_payloadSize :
    (b.fragmentHeader offset).payloadSize.toNat = b.fragmentSize offset := by
  have h₁ := b.fragmentSize_le_limit offset h
  have h₂ : b.fragmentLimit ≤ 65467 := hs.limit_le
  exact UInt16.toNat_ofNat_of_lt' (by rw [UInt16.size]; omega)

theorem fragmentHeader_fragmentOffset :
    (b.fragmentHeader offset).fragmentOffset.toNat = offset := by
  have h₁ := b.fragmentSize_le offset h
  have h₂ : b.pendingTxPacket.length ≤ 1048576 := hs.length_le
  exact UInt32.toNat_ofNat_of_lt' (by rw [UInt32.size]; omega)

omit h in
theorem fragmentHeader_totalSize :
    (b.fragmentHeader offset).totalSize.toNat = b.pendingTxPacket.length := by
  have h₂ : b.pendingTxPacket.length ≤ 1048576 := hs.length_le
  exact UInt32.toNat_ofNat_of_lt' (by rw [UInt32.size]; omega)

/-- **Every header a transmission makes is valid.** -/
theorem fragmentHeader_valid : validate (b.fragmentHeader offset) = true := by
  have hsize := fragmentHeader_payloadSize hs h
  have hoffset := fragmentHeader_fragmentOffset hs h
  have htotal : (b.fragmentHeader offset).totalSize.toNat = b.pendingTxPacket.length :=
    fragmentHeader_totalSize hs
  have hle := b.fragmentSize_le offset h
  have hlimit := b.fragmentSize_le_limit offset h
  have hmax : b.fragmentLimit ≤ 65467 := hs.limit_le
  have hlen : b.pendingTxPacket.length ≤ 1048576 := hs.length_le
  refine (validate_iff _).mpr ⟨rfl, UInt8.le_refl _, rfl, rfl, hs.session,
    validateFlags_dataFlags rfl rfl, ?_, rfl⟩
  have hstart : hasFlag (b.fragmentHeader offset).flags flagFragmentStart
      = (b.fragmented && offset == 0) := hasFlag_dataFlags_start _ _ _
  have hend : hasFlag (b.fragmentHeader offset).flags flagFragmentEnd
      = (b.fragmented && offset + b.fragmentSize offset == b.pendingTxPacket.length) :=
    hasFlag_dataFlags_end _ _ _
  have htype : (b.fragmentHeader offset).type = typeData := rfl
  have hbounds : (decide (b.pendingTxPacket.length > maxPacketSize)
      || decide (b.fragmentSize offset > maxFragmentPayload)
      || decide (offset > b.pendingTxPacket.length)
      || decide (offset + b.fragmentSize offset > b.pendingTxPacket.length)) = false := by
    have hmaxPacket : maxPacketSize = 16777216 := rfl
    have hmaxFragment : maxFragmentPayload = 65467 := rfl
    simp only [hmaxPacket, hmaxFragment, Bool.or_eq_false_iff, decide_eq_false_iff_not]
    refine ⟨⟨⟨?_, ?_⟩, ?_⟩, ?_⟩ <;> omega
  unfold validateFragment
  simp only [hsize, hoffset, htotal, hstart, hend, htype, hbounds, Bool.false_eq_true, if_false,
    bne_self_eq_false]
  by_cases hf : b.fragmented = true
  · -- a fragment is not the whole packet, and the last one ends it
    have hpart := b.fragmented_iff.mp hf
    have hne : (b.pendingTxPacket.length == b.fragmentSize offset) = false := by
      rw [beq_eq_false_iff_ne]
      omega
    have hlt : offset < b.pendingTxPacket.length := by
      rcases h with rfl | ⟨_, hlt⟩
      · omega
      · exact hlt
    have hpos : (b.fragmentSize offset == 0) = false := by
      rw [beq_eq_false_iff_ne]
      exact (fragmentSize_pos hs hf hlt).ne'
    simp only [hf, hne, hpos, bne, Bool.true_and, Bool.and_false, Bool.and_not_self,
      Bool.false_eq_true, if_false]
  · have h0 : offset = 0 := h.resolve_right (fun hfrag => hf hfrag.1)
    subst h0
    have hwhole : b.fragmentSize 0 = b.pendingTxPacket.length := fragmentSize_of_whole hf 0
    have hf' : b.fragmented = false := by simpa using hf
    simp [hf', hwhole]

/-- **A fragment is a piece of the pending packet.** -/
theorem fragment_pieceOf :
    PieceOf ⟨b.pendingTxPacket, b.pendingTxTerminator⟩ b.pendingTxMessageId
      (b.fragmentHeader offset) (b.fragmentPayload offset) where
  valid := fragmentHeader_valid hs h
  type := rfl
  messageId := rfl
  ackRequired := hasFlag_dataFlags_ack _ _ _
  terminator := dataFlags_and_terminators _ _ _
  total := fragmentHeader_totalSize hs
  size := by rw [fragmentHeader_payloadSize hs h, b.fragmentPayload_length offset h]
  inside := by
    rw [fragmentHeader_fragmentOffset hs h, b.fragmentPayload_length offset h]
    exact b.fragmentSize_le offset h
  bytes := by
    rw [fragmentHeader_fragmentOffset hs h, b.fragmentPayload_length offset h]
    rfl

end

end UdpBackend

/-! ## The fragments, one after the other -/

namespace UdpBackend

/-- The backend after some sequence numbers were taken. -/
def advance (b : UdpBackend) : Nat → UdpBackend
  | 0 => b
  | i + 1 => (b.advance i).takeSequence.2

variable {b : UdpBackend} {i : Nat}

/-- Only the sequence number moves. -/
theorem advance_eq (b : UdpBackend) (i : Nat) :
    b.advance i = { b with nextSequence := (b.advance i).nextSequence } := by
  induction i with
  | zero => rfl
  | succ i ih =>
    show (b.advance i).takeSequence.2 = _
    rw [ih]
    rfl

/-- How many datagrams the pending packet takes. -/
def fragmentCount (b : UdpBackend) : Nat :=
  if b.fragmented then (b.pendingTxPacket.length + b.fragmentLimit - 1) / b.fragmentLimit else 1

/-- The `i`-th datagram of the pending packet: its header and its payload. -/
def fragment (b : UdpBackend) (i : Nat) : Header × Bytes :=
  ((b.advance i).fragmentHeader (i * b.fragmentLimit), b.fragmentPayload (i * b.fragmentLimit))

/-- **The datagrams of the pending packet**, in the order they are sent. -/
def fragments (b : UdpBackend) : List (Header × Bytes) :=
  (List.range b.fragmentCount).map b.fragment

theorem Sendable.advance (hs : b.Sendable) (i : Nat) : (b.advance i).Sendable := by
  rw [advance_eq]
  exact ⟨hs.limit_pos, hs.limit_le, hs.length_le, hs.session⟩

theorem StartsFragment.advance {offset : Nat} (h : b.StartsFragment offset) (i : Nat) :
    (b.advance i).StartsFragment offset := by
  rw [advance_eq]
  exact h

/-- The `i`-th fragment starts inside the packet. -/
theorem lt_fragmentCount_iff (hs : b.Sendable) (hf : b.fragmented = true) (i : Nat) :
    i < b.fragmentCount ↔ i * b.fragmentLimit < b.pendingTxPacket.length := by
  have hpos := hs.limit_pos
  rw [fragmentCount, if_pos hf, Nat.lt_iff_add_one_le, Nat.le_div_iff_mul_le (by omega),
    Nat.add_one_mul]
  omega

theorem startsFragment_mul (hs : b.Sendable) (hi : i < b.fragmentCount) :
    b.StartsFragment (i * b.fragmentLimit) := by
  by_cases hf : b.fragmented = true
  · exact Or.inr ⟨hf, (lt_fragmentCount_iff hs hf i).mp hi⟩
  · rw [fragmentCount, if_neg hf] at hi
    refine Or.inl ?_
    rw [Nat.lt_one_iff.mp hi, Nat.zero_mul]

/-- The next fragment starts where this one ends, as long as there is a next. -/
theorem fragment_next (hs : b.Sendable) (hi : i < b.fragmentCount) :
    (i * b.fragmentLimit + b.fragmentSize (i * b.fragmentLimit) < b.pendingTxPacket.length
        ↔ i + 1 < b.fragmentCount)
      ∧ (i + 1 < b.fragmentCount → i * b.fragmentLimit + b.fragmentSize (i * b.fragmentLimit)
        = (i + 1) * b.fragmentLimit) := by
  by_cases hf : b.fragmented = true
  · have hi' := (lt_fragmentCount_iff hs hf i).mp hi
    rw [lt_fragmentCount_iff hs hf (i + 1), fragmentSize_of_fragmented hf, Nat.add_one_mul]
    omega
  · have hone : b.fragmentCount = 1 := if_neg hf
    have hle := b.fragmentSize_le _ (startsFragment_mul hs hi)
    rw [hone] at hi ⊢
    have h0 : i = 0 := by omega
    subst h0
    rw [fragmentSize_of_whole hf]
    omega

theorem fragmentCount_pos (hs : b.Sendable) : 0 < b.fragmentCount := by
  by_cases hf : b.fragmented = true
  · rw [lt_fragmentCount_iff hs hf, Nat.zero_mul]
    have := b.fragmented_iff.mp hf
    omega
  · rw [fragmentCount, if_neg hf]
    exact Nat.one_pos

theorem fragmentCount_le (hs : b.Sendable) : b.fragmentCount ≤ b.pendingTxPacket.length + 1 := by
  by_cases hf : b.fragmented = true
  · by_contra hgt
    have := (lt_fragmentCount_iff hs hf (b.pendingTxPacket.length + 1)).mp (by omega)
    have := hs.limit_pos
    have := Nat.le_mul_of_pos_right (b.pendingTxPacket.length + 1)
      (show 0 < b.fragmentLimit by omega)
    omega
  · rw [fragmentCount, if_neg hf]
    omega

/-- **The datagrams of the pending packet are pieces of it.** -/
theorem pieceOf_fragment (hs : b.Sendable) (hi : i < b.fragmentCount) :
    PieceOf ⟨b.pendingTxPacket, b.pendingTxTerminator⟩ b.pendingTxMessageId
      (b.fragment i).1 (b.fragment i).2 := by
  have hstart := startsFragment_mul hs hi
  have := fragment_pieceOf (hs.advance i) (hstart.advance i)
  rw [advance_eq] at this
  unfold fragment
  rw [advance_eq]
  exact this

end UdpBackend
