import SpwKit.Lib.FixedCodec
import SpwKit.Cuse.Spwcuse

/-!
# Records that are accepted

A record that a user writes is checked in three places: its header is decoded, its length is
compared with what the header says, and its payload is looked at. Together they accept what
the encoder can write and a legal payload behind it, and nothing else (`cuse_records_exact`);
so a record that one user reads is one that another may write.
-/

namespace Cuse

open BigEndian FixedCodec

/-! ## Headers -/

/-- The sixteen bytes of a header, field by field. -/
def recordCodec := u32.both <| byte.both <| byte.both <| byte.both <| byte.both <| u32.both
  <| byte.both <| byte.both <| byte.both byte

theorem recordCodec_write (header : RecordHeader) :
    recordCodec.write (recordMagic, recordVersion, header.type, header.flags, 0,
      header.payloadSize, 0, 0, 0, 0) = headerBytes header := rfl

theorem recordCodec_read (src : Bytes) :
    recordCodec.read src = (readU32 src 0, byteAt src 4, byteAt src 5, byteAt src 6,
      byteAt src 7, readU32 src 8, byteAt src 12, byteAt src 13, byteAt src 14,
      byteAt src 15) := by
  simp only [recordCodec, both, byte, u32, byteAt_drop, readU32_drop]

/-- **A header is decoded from the bytes that it is encoded to**, and from no others. -/
theorem decodeHeader_eq_ok_iff {src : Bytes} {header : RecordHeader}
    (hlength : recordHeaderSize ≤ src.length) :
    decodeHeader src = .ok header
      ↔ src.take recordHeaderSize = headerBytes header ∧ validateHeader header = .ok := by
  have hcodec := recordCodec.write_read src hlength
  rw [recordCodec_read] at hcodec
  constructor
  · intro h
    unfold decodeHeader at h
    simp only [Except.ite_error_eq_ok, not_not, not_or] at h
    obtain ⟨hmagic, hversion, hseven, ⟨htwelve, hthirteen, hfourteen, hfifteen⟩, h⟩ := h
    cases hvalid : validateHeader (headerFields src) with
    | ok =>
      rw [hvalid] at h
      obtain rfl := Except.ok.inj h
      rw [hmagic, hversion, hseven, htwelve, hthirteen, hfourteen, hfifteen] at hcodec
      exact ⟨hcodec.symm, hvalid⟩
    | _ =>
      rw [hvalid] at h
      cases h
  · rintro ⟨hbytes, hvalid⟩
    have hread : recordCodec.read src = (recordMagic, recordVersion, header.type, header.flags, 0,
        header.payloadSize, 0, 0, 0, 0) := by
      rw [← List.take_append_drop recordHeaderSize src, hbytes, ← recordCodec_write]
      exact recordCodec.read_write _ _
    rw [recordCodec_read] at hread
    simp only [Prod.mk.injEq] at hread
    obtain ⟨hmagic, hversion, htype, hflags, hseven, hsize, htwelve, hthirteen, hfourteen,
      hfifteen⟩ := hread
    have hfields : headerFields src = header := by rw [headerFields, htype, hflags, hsize]
    unfold decodeHeader
    simp only [Except.ite_error_eq_ok, not_not, not_or]
    refine ⟨hmagic, hversion, hseven, ⟨htwelve, hthirteen, hfourteen, hfifteen⟩, ?_⟩
    rw [hfields, hvalid]

/-! ## Payloads -/

/-- **A payload that a header may announce**: any bytes for a packet, with no flag but EEP,
and for a time code its two bytes and no flag. -/
def LegalPayload (header : RecordHeader) (payload : Bytes) : Prop :=
  (header.type = recordData ∧ (header.flags = 0 ∨ header.flags = recordFlagEep)
      ∧ payload.length ≤ recordMaxPayload)
    ∨ (header.type = recordTimeCode ∧ header.flags = 0 ∧ payload.length = 2
      ∧ byteAt payload 0 ≤ 63 ∧ byteAt payload 1 ≤ 3)

/-- What holds of 256 numbers holds of every byte. -/
theorem forall_byte {P : UInt8 → Prop} (h : ∀ n < 256, P (UInt8.ofNat n)) (b : UInt8) : P b := by
  have := h b.toNat b.toNat_lt
  rwa [UInt8.ofNat_toNat] at this

theorem known_flags_iff (flags : UInt8) :
    flags &&& ~~~recordKnownFlags = 0 ↔ flags = 0 ∨ flags = recordFlagEep :=
  forall_byte (P := fun b => b &&& ~~~recordKnownFlags = 0 ↔ b = 0 ∨ b = recordFlagEep)
    (by decide +kernel) flags

theorem control_iff (control : UInt8) : control &&& 0xfc = 0 ↔ control ≤ 3 :=
  forall_byte (P := fun b => b &&& 0xfc = 0 ↔ b ≤ 3) (by decide +kernel) control

theorem validateHeader_eq_ok_iff (header : RecordHeader) :
    validateHeader header = .ok ↔
      (header.type = recordData ∧ (header.flags = 0 ∨ header.flags = recordFlagEep)
        ∨ header.type = recordTimeCode ∧ header.flags = 0 ∧ header.payloadSize = 2)
      ∧ header.payloadSize.toNat ≤ recordMaxPayload := by
  have htype : recordData ≠ recordTimeCode := by decide
  have hflags := known_flags_iff header.flags
  unfold validateHeader
  split_ifs <;> grind

/-- **The checks of header and payload**, of a payload that is as long as announced. -/
theorem legalPayload_iff {header : RecordHeader} {payload : Bytes}
    (hsize : payload.length = header.payloadSize.toNat) :
    validateHeader header = .ok ∧ validatePayload header payload = .ok
      ↔ LegalPayload header payload := by
  have htype : recordData ≠ recordTimeCode := by decide
  have htwo : header.payloadSize = 2 ↔ payload.length = 2 := by
    rw [hsize, ← UInt32.toNat_inj]
    rfl
  have hvalid := validateHeader_eq_ok_iff header
  rw [htwo, ← hsize] at hvalid
  have hpayload : validateHeader header = .ok → (validatePayload header payload = .ok
      ↔ (header.type = recordTimeCode → byteAt payload 0 ≤ 63 ∧ byteAt payload 1 ≤ 3)) := by
    intro h
    unfold validatePayload
    simp only [h, hsize, ne_eq, not_true, if_false, control_iff]
    split_ifs with hcode
    · refine iff_of_false (by decide) (fun hlegal => ?_)
      obtain ⟨hcount, hcontrol⟩ := hlegal hcode.1
      exact hcode.2.elim (fun hlt => UInt8.not_lt.mpr hcount hlt) (fun hmore => hmore hcontrol)
    · refine iff_of_true rfl (fun htype => ?_)
      rw [not_and_or, not_or, not_not, UInt8.not_lt] at hcode
      exact hcode.resolve_left (not_not.mpr htype)
  have hmax : 2 ≤ recordMaxPayload := by decide
  unfold LegalPayload
  grind

/-- **What is accepted.** -/
theorem validateUserRecord_eq_ok_iff (data : Bytes) (header : RecordHeader) :
    validateUserRecord data = .ok header ↔ ∃ bytes payload, encodeHeader header = .ok bytes
      ∧ data = bytes ++ payload ∧ payload.length = header.payloadSize.toNat
      ∧ LegalPayload header payload := by
  unfold validateUserRecord
  rw [Except.ite_error_eq_ok]
  constructor
  · rintro ⟨hlong, h⟩
    rw [not_lt] at hlong
    cases hdecode : decodeHeader data with
    | error result =>
      rw [hdecode] at h
      cases h
    | ok header' =>
      simp only [hdecode, Except.ite_error_eq_ok, not_not] at h
      obtain ⟨hsize, hpayload, h⟩ := h
      obtain rfl := Except.ok.inj h
      obtain ⟨hbytes, hvalid⟩ := (decodeHeader_eq_ok_iff hlong).mp hdecode
      have hlength : (data.drop recordHeaderSize).length = header'.payloadSize.toNat := by
        rw [List.length_drop, hsize]
      refine ⟨_, _, encodeHeader_of_valid hvalid, ?_, hlength,
        (legalPayload_iff hlength).mp ⟨hvalid, hpayload⟩⟩
      rw [← hbytes, List.take_append_drop]
  · rintro ⟨bytes, payload, hencode, rfl, hsize, hlegal⟩
    obtain ⟨hvalid, hpayload⟩ := (legalPayload_iff hsize).mpr hlegal
    obtain rfl := Except.ok.inj ((encodeHeader_of_valid hvalid).symm.trans hencode)
    have hlong : recordHeaderSize ≤ (headerBytes header ++ payload).length := by
      rw [List.length_append, headerBytes_length]
      omega
    have hdecode := (decodeHeader_eq_ok_iff hlong).mpr
      ⟨List.take_left' (headerBytes_length header), hvalid⟩
    refine ⟨not_lt.mpr hlong, ?_⟩
    simp only [hdecode, Except.ite_error_eq_ok, not_not]
    refine ⟨?_, ?_, trivial⟩
    · rw [List.length_append, headerBytes_length, Nat.add_sub_cancel_left, hsize]
    · rw [List.drop_left' (headerBytes_length header)]
      exact hpayload

/-- A packet, or a time code that is one. -/
def LegalEvent : Event → Prop
  | .data _ => True
  | .timeCode code => code.valid = true

/-- **CUSE records parse exactly what the presenter can emit.** -/
theorem cuse_records_exact :
    (∀ data header, validateUserRecord data = .ok header ↔ ∃ bytes payload,
      encodeHeader header = .ok bytes ∧ data = bytes ++ payload
        ∧ payload.length = header.payloadSize.toNat ∧ LegalPayload header payload)
    ∧ (∀ data header, validateUserRecord data = .ok header → decodeHeader data = .ok header
      ∧ encodeHeader header = .ok (data.take recordHeaderSize))
    ∧ ∀ s event s', LegalEvent event → enqueueRecord s (eventFields event).1
        (eventFields event).2.1 (eventFields event).2.2 = some s' →
      ∃ record header, s'.records.toList = s.records.toList ++ [record]
        ∧ validateUserRecord record = .ok header := by
  refine ⟨validateUserRecord_eq_ok_iff, fun data header h => ?_, fun s event s' hevent h => ?_⟩
  · obtain ⟨bytes, payload, hencode, rfl, hsize, hlegal⟩ := (validateUserRecord_eq_ok_iff _ _).mp h
    obtain ⟨hvalid, -⟩ := (legalPayload_iff hsize).mpr hlegal
    obtain rfl := Except.ok.inj ((encodeHeader_of_valid hvalid).symm.trans hencode)
    have hfront : (headerBytes header ++ payload).take recordHeaderSize = headerBytes header :=
      List.take_left' (headerBytes_length header)
    refine ⟨(decodeHeader_eq_ok_iff ?_).mpr ⟨hfront, hvalid⟩, by rw [hfront]; exact hencode⟩
    rw [List.length_append, headerBytes_length]
    exact Nat.le_add_right _ _
  · unfold enqueueRecord at h
    split_ifs at h with hroom hlong
    rw [not_lt] at hlong
    have hsize : (eventFields event).2.2.length.toUInt32.toNat = (eventFields event).2.2.length :=
      Nat.mod_eq_of_lt (lt_of_le_of_lt hlong (by decide))
    rw [encodeHeader_of_valid (validateHeader_event hlong)] at h
    obtain rfl := Option.some.inj h
    refine ⟨_, _, RingBuffer.toList_push _ _ _, (validateUserRecord_eq_ok_iff _ _).mpr
      ⟨_, _, encodeHeader_of_valid (validateHeader_event hlong), rfl, hsize.symm, ?_⟩⟩
    cases event with
    | data packet =>
      refine Or.inl ⟨rfl, ?_, hlong⟩
      show (if packet.terminator = .eep then recordFlagEep else 0) = 0
        ∨ (if packet.terminator = .eep then recordFlagEep else 0) = recordFlagEep
      split_ifs
      · exact Or.inr rfl
      · exact Or.inl rfl
    | timeCode code =>
      have hcode : code.timeCount ≤ 63 ∧ code.controlFlags ≤ 3 := by
        simpa [LegalEvent, TimeCode.valid] using hevent
      exact Or.inr ⟨rfl, rfl, rfl, hcode⟩

end Cuse
