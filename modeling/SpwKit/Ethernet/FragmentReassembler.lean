import SpwKit.Ethernet.VspwTp
import SpwKit.Lib.Bitmap
import Mathlib.Order.Interval.Finset.Nat

/-!
# Reassembly of fragmented packets

A packet longer than one datagram arrives as fragments in any order. The
reassembler keeps the bytes it has in a buffer of the caller and a bitmap of
which of them are there; the buffer is never cleared, and a reset clears only
the words of the bitmap that the packet can have touched. Their number is
computed in 32 bits, and is 0 for the largest sizes (`ResetsAll`). This module is the
reassembler as it is written, with its two ways of storing a fragment: a range
that touches nothing covered goes in word by word, anything else byte by byte.
The first is only faster than the second (`push_fast_path`).

The data and the bitmap are memories of the caller, so they are functions on
positions; a reassembler without storage refuses every fragment.
-/

open VspwTp BigEndian

/-- `spw_reassembly_result_t`. -/
inductive ReassemblyResult
  | accepted | duplicate | complete | conflict | invalid
deriving DecidableEq, Repr

/-- `spw_fragment_reassembler_t`. The two pointers are one question: whether
there is storage behind them. -/
structure FragmentReassembler where
  hasStorage : Bool
  data : Nat → UInt8
  coverage : Nat → UInt64
  capacity : Nat
  coverageWords : Nat
  coveredBytes : Nat
  messageId : UInt32
  totalSize : UInt32
  terminatorFlags : UInt8
  ackRequired : Bool
  seenStart : Bool
  seenEnd : Bool
  active : Bool

namespace FragmentReassembler

/-- `SPW_FRAGMENT_COVERAGE_WORDS` of a capacity, which is the size of a memory. -/
def coverageWordsFor (capacity : Nat) : Nat := (capacity + 63) / 64

/-- `SPW_FRAGMENT_COVERAGE_WORDS` of the size of a packet: the sum is a `uint32_t` and wraps. -/
def packetCoverageWords (totalSize : UInt32) : UInt32 := (totalSize + 63) / 64

variable (r : FragmentReassembler) (offset length : Nat) (header : Header) (payload : Bytes)

/-- `covered`. -/
def covered (position : Nat) : Bool :=
  (r.coverage (position / 64) &&& Bitmap.single (position % 64)) != 0

/-- `mark_covered`. -/
def markCovered (position : Nat) : FragmentReassembler :=
  { r with
    coverage := Bitmap.orWord r.coverage (position / 64) (Bitmap.single (position % 64)) }

/-- `coverage_mask`. -/
def coverageMask (bit count : Nat) : UInt64 := Bitmap.mask bit count

/-- The positions one turn of the two loops over words handles. -/
def chunk (position fin : Nat) : Nat := min (fin - position) (64 - position % 64)

/-- The loop of `coverage_range_is_clear`. Each turn moves on by one position
at least, so the length of the range is fuel enough. -/
def rangeIsClearLoop (coverage : Nat → UInt64) (fin : Nat) : Nat → Nat → Bool
  | 0, _ => true
  | fuel + 1, position =>
    if position < fin then
      let count := chunk position fin
      if coverage (position / 64) &&& coverageMask (position % 64) count != 0 then false
      else rangeIsClearLoop coverage fin fuel (position + count)
    else true

/-- `coverage_range_is_clear`. -/
def coverageRangeIsClear : Bool :=
  rangeIsClearLoop r.coverage (offset + length) length offset

/-- The loop of `mark_coverage_range`. -/
def markRangeLoop (fin : Nat) : Nat → Nat → (Nat → UInt64) → (Nat → UInt64)
  | 0, _, coverage => coverage
  | fuel + 1, position, coverage =>
    if position < fin then
      let count := chunk position fin
      markRangeLoop fin fuel (position + count)
        (Bitmap.orWord coverage (position / 64) (coverageMask (position % 64) count))
    else coverage

/-- `mark_coverage_range`. -/
def markCoverageRange : FragmentReassembler :=
  { r with coverage := markRangeLoop (offset + length) length offset r.coverage }

/-- `memset` of the first words of a bitmap to zero. -/
def clearWords (coverage : Nat → UInt64) (words : Nat) : Nat → UInt64 :=
  fun i => if i < words then 0 else coverage i

/-- `spw_fragment_reassembler_init`, over memories with whatever is in them. -/
def init (hasStorage : Bool) (data : Nat → UInt8) (capacity : Nat)
    (coverage : Nat → UInt64) (coverageWords : Nat) : FragmentReassembler where
  hasStorage := hasStorage
  data := data
  coverage := clearWords coverage coverageWords
  capacity := capacity
  coverageWords := coverageWords
  coveredBytes := 0
  messageId := 0
  totalSize := 0
  terminatorFlags := 0
  ackRequired := false
  seenStart := false
  seenEnd := false
  active := false

/-- The words a reset clears: those of the packet in progress, or all. -/
def wordsToClear : Nat :=
  if r.active && decide (r.totalSize.toNat ≤ r.capacity) then
    min (packetCoverageWords r.totalSize).toNat r.coverageWords
  else r.coverageWords

/-- `spw_fragment_reassembler_reset`. -/
def reset : FragmentReassembler :=
  { r with
    coverage := clearWords r.coverage r.wordsToClear
    coveredBytes := 0
    messageId := 0
    totalSize := 0
    terminatorFlags := 0
    ackRequired := false
    seenStart := false
    seenEnd := false
    active := false }

/-- The terminator flags of a header. -/
def terminatorFlagsOf : UInt8 := header.flags &&& (flagEop ||| flagEep)

/-- Whether a header asks for an acknowledgement. -/
def ackRequiredOf : Bool := hasFlag header.flags flagAckRequired

/-- What makes `push` return `INVALID`. A payload that is not there is the
empty list, which a fragment with a payload cannot have. -/
def refuses : Bool :=
  !r.hasStorage || decide (r.coverageWords < coverageWordsFor r.capacity)
    || header.type != typeData
    || header.totalSize.toNat == header.payloadSize.toNat
    || header.totalSize == 0 || decide (header.totalSize.toNat > r.capacity)
    || header.messageId == 0
    || (header.payloadSize != 0 && payload.isEmpty)
    || decide (header.fragmentOffset.toNat + header.payloadSize.toNat > header.totalSize.toNat)

/-- The packet in progress becomes that of a header. -/
def withPacket : FragmentReassembler :=
  { r with
    active := true
    messageId := header.messageId
    totalSize := header.totalSize
    terminatorFlags := terminatorFlagsOf header
    ackRequired := ackRequiredOf header }

/-- The first fragment says what packet is being put together; the others must
be of the same packet. -/
def adopt : Option FragmentReassembler :=
  if !r.active then some (r.withPacket header)
  else if header.messageId != r.messageId || header.totalSize != r.totalSize
      || terminatorFlagsOf header != r.terminatorFlags
      || ackRequiredOf header != r.ackRequired then none
  else some r

/-- `memcpy` of a payload into the buffer. -/
def copyRange (data : Nat → UInt8) (offset length : Nat) (payload : Bytes) : Nat → UInt8 :=
  fun p => if offset ≤ p ∧ p < offset + length then byteAt payload (p - offset) else data p

/-- The whole range at once. -/
def storeRange : FragmentReassembler :=
  let r := { r with data := copyRange r.data offset length payload }
  let r := r.markCoverageRange offset length
  { r with coveredBytes := r.coveredBytes + length }

/-- Whether some byte that is there already differs from the payload. -/
def conflicts : Bool :=
  (List.range length).any (fun i =>
    r.covered (offset + i) && r.data (offset + i) != byteAt payload i)

/-- One byte of the payload, unless it is there already. -/
def storeByte (offset : Nat) (payload : Bytes) (acc : FragmentReassembler × Nat)
    (i : Nat) : FragmentReassembler × Nat :=
  if acc.1.covered (offset + i) then acc
  else
    let r := { acc.1 with
      data := fun p => if p = offset + i then byteAt payload i else acc.1.data p }
    let r := r.markCovered (offset + i)
    ({ r with coveredBytes := r.coveredBytes + 1 }, acc.2 + 1)

/-- Byte by byte, with the number of bytes that were new. -/
def storeBytes : FragmentReassembler × Nat :=
  (List.range length).foldl (storeByte offset payload) (r, 0)

/-- The payload of a fragment into the buffer: `none` is a conflict, and the
number is of the bytes that were new. -/
def store : Option (FragmentReassembler × Nat) :=
  if length ≠ 0 ∧ r.coverageRangeIsClear offset length then
    some (r.storeRange offset length payload, length)
  else if r.conflicts offset length payload then none
  else some (r.storeBytes offset length payload)

/-- The start and end flags a header adds to those seen. -/
def noteEnds : FragmentReassembler :=
  { r with
    seenStart := r.seenStart || hasFlag header.flags flagFragmentStart
    seenEnd := r.seenEnd || hasFlag header.flags flagFragmentEnd }

/-- The result once a fragment is stored. -/
def verdict (added : Nat) : ReassemblyResult :=
  if r.coveredBytes = r.totalSize.toNat ∧ r.seenStart ∧ r.seenEnd then .complete
  else if added = 0 then .duplicate
  else .accepted

/-- `spw_fragment_reassembler_push`. -/
def push : ReassemblyResult × FragmentReassembler :=
  if r.refuses header payload then (.invalid, r)
  else
    match r.adopt header with
    | none => (.conflict, r)
    | some r =>
      match r.store header.fragmentOffset.toNat header.payloadSize.toNat payload with
      | none => (.conflict, r)
      | some (r, added) =>
        let r := r.noteEnds header
        (r.verdict added, r)

/-! ## The bitmap, position by position -/

variable {fin offset position : Nat} {r r₁ r₂ : FragmentReassembler}

theorem covered_eq_bit (r : FragmentReassembler) (p : Nat) :
    r.covered p = Bitmap.bit r.coverage p := by
  have h := Bitmap.and_single_ne_zero_iff (r.coverage (p / 64)) (b := p % 64) (by omega)
  rw [Bool.eq_iff_iff, covered, bne_iff_ne, h]
  rfl

theorem covered_markCovered (r : FragmentReassembler) (p q : Nat) :
    (r.markCovered p).covered q = (r.covered q || decide (p = q)) := by
  simp only [covered_eq_bit, markCovered]
  exact Bitmap.bit_orWord_single r.coverage p q

/-- A turn of the loops stays inside one word. -/
theorem chunk_run (position fin : Nat) : position % 64 + chunk position fin ≤ 64 := by
  unfold chunk
  omega

theorem chunk_pos (h : position < fin) : 0 < chunk position fin := by
  unfold chunk
  omega

theorem chunk_le (h : position < fin) : position + chunk position fin ≤ fin := by
  unfold chunk
  omega

/-- One turn of the clear test looks at the positions of its run. -/
theorem and_coverageMask_eq_zero_iff (coverage : Nat → UInt64) (position fin : Nat) :
    coverage (position / 64) &&& coverageMask (position % 64) (chunk position fin) = 0 ↔
      ∀ p, position ≤ p → p < position + chunk position fin →
        Bitmap.bit coverage p = false := by
  have hrun := chunk_run position fin
  rw [coverageMask, Bitmap.and_mask_eq_zero_iff _ hrun (by omega)]
  constructor
  · intro h p h₁ h₂
    unfold Bitmap.bit
    rw [show p / 64 = position / 64 by omega]
    exact h (p % 64) (by omega) (by omega)
  · intro h i h₁ h₂
    have := h (position / 64 * 64 + i) (by omega) (by omega)
    unfold Bitmap.bit at this
    rwa [show (position / 64 * 64 + i) / 64 = position / 64 by omega,
      show (position / 64 * 64 + i) % 64 = i by omega] at this

theorem rangeIsClearLoop_iff (coverage : Nat → UInt64) (fin : Nat) :
    ∀ fuel position, fin ≤ position + fuel →
      (rangeIsClearLoop coverage fin fuel position = true ↔
        ∀ p, position ≤ p → p < fin → Bitmap.bit coverage p = false) := by
  intro fuel
  induction fuel with
  | zero =>
    intro position hfuel
    refine ⟨fun _ p h₁ h₂ => by omega, fun _ => rfl⟩
  | succ fuel ih =>
    intro position hfuel
    by_cases hlt : position < fin
    · have hpos := chunk_pos hlt
      have hle := chunk_le hlt
      have hturn := and_coverageMask_eq_zero_iff coverage position fin
      have hrest := ih (position + chunk position fin) (by omega)
      simp only [rangeIsClearLoop, hlt, if_true]
      by_cases hzero : coverage (position / 64)
          &&& coverageMask (position % 64) (chunk position fin) = 0
      · rw [if_neg (by simpa using hzero), hrest]
        constructor
        · intro h p h₁ h₂
          by_cases hp : p < position + chunk position fin
          · exact hturn.mp hzero p h₁ hp
          · exact h p (by omega) h₂
        · intro h p h₁ h₂
          exact h p (by omega) h₂
      · rw [if_pos (by simpa using hzero)]
        refine ⟨fun h => (Bool.false_ne_true h).elim, fun h => ?_⟩
        exact (hzero (hturn.mpr (fun p h₁ h₂ => h p h₁ (by omega)))).elim
    · simp only [rangeIsClearLoop, hlt, if_false]
      refine ⟨fun _ p h₁ h₂ => by omega, fun _ => trivial⟩

/-- **The clear test by words is the clear test by positions.** -/
theorem coverageRangeIsClear_iff (r : FragmentReassembler) (offset length : Nat) :
    r.coverageRangeIsClear offset length = true ↔
      ∀ p, offset ≤ p → p < offset + length → r.covered p = false := by
  simp only [covered_eq_bit]
  exact rangeIsClearLoop_iff r.coverage (offset + length) length offset (by omega)

theorem bit_markRangeLoop (fin q : Nat) :
    ∀ fuel position coverage, fin ≤ position + fuel →
      Bitmap.bit (markRangeLoop fin fuel position coverage) q
        = (Bitmap.bit coverage q || decide (position ≤ q ∧ q < fin)) := by
  intro fuel
  induction fuel with
  | zero =>
    intro position coverage hfuel
    have hout : ¬ (position ≤ q ∧ q < fin) := by omega
    simp [markRangeLoop, hout]
  | succ fuel ih =>
    intro position coverage hfuel
    by_cases hlt : position < fin
    · have hpos := chunk_pos hlt
      have hle := chunk_le hlt
      simp only [markRangeLoop, hlt, if_true]
      rw [ih _ _ (by omega), coverageMask, Bitmap.bit_orWord_mask _ q (chunk_run position fin),
        Bool.or_assoc, ← Bool.decide_or]
      exact congrArg _ (decide_eq_decide.mpr (by omega))
    · have hout : ¬ (position ≤ q ∧ q < fin) := by omega
      simp [markRangeLoop, hlt, hout]

/-- **Marking by words is marking by positions.** -/
theorem covered_markCoverageRange (r : FragmentReassembler) (offset length q : Nat) :
    (r.markCoverageRange offset length).covered q
      = (r.covered q || decide (offset ≤ q ∧ q < offset + length)) := by
  simp only [covered_eq_bit, markCoverageRange]
  exact bit_markRangeLoop (offset + length) q length offset r.coverage (by omega)

theorem bit_clearWords (coverage : Nat → UInt64) (words p : Nat) :
    Bitmap.bit (clearWords coverage words) p
      = (decide (words ≤ p / 64) && Bitmap.bit coverage p) := by
  unfold Bitmap.bit clearWords
  by_cases h : p / 64 < words
  · simp [h]
  · simp [h, Nat.not_lt.mp h]

/-! ## Storing a fragment -/

/-- The positions of a range that are not covered yet. -/
def missing (r : FragmentReassembler) (offset length : Nat) : Finset Nat :=
  (Finset.Ico offset (offset + length)).filter (fun p => r.covered p = false)

/-- **What storing a range does**: the range is covered, the bytes that were
not there are those of the payload, and they are counted. -/
structure Stored (r r' : FragmentReassembler) (offset length : Nat) (payload : Bytes)
    (added : Nat) : Prop where
  covered : ∀ p, r'.covered p = (r.covered p || decide (offset ≤ p ∧ p < offset + length))
  data : ∀ p, r'.data p
    = if offset ≤ p ∧ p < offset + length ∧ r.covered p = false then byteAt payload (p - offset)
      else r.data p
  coveredBytes : r'.coveredBytes = r.coveredBytes + added
  added : added = (r.missing offset length).card
  rest : r' = { r with
    data := r'.data, coverage := r'.coverage, coveredBytes := r'.coveredBytes }

theorem stored_storeRange {length : Nat} (payload : Bytes)
    (hclear : ∀ p, offset ≤ p → p < offset + length → r.covered p = false) :
    Stored r (r.storeRange offset length payload) offset length payload length where
  covered := covered_markCoverageRange r offset length
  data p := by
    show copyRange r.data offset length payload p = _
    unfold copyRange
    refine if_congr ⟨fun h => ⟨h.1, h.2, hclear p h.1 h.2⟩, fun h => ⟨h.1, h.2.1⟩⟩ rfl rfl
  coveredBytes := rfl
  added := by
    have hall : r.missing offset length = Finset.Ico offset (offset + length) :=
      Finset.filter_true_of_mem (fun p hp => by
        rw [Finset.mem_Ico] at hp
        exact hclear p hp.1 hp.2)
    rw [hall, Nat.card_Ico, Nat.add_sub_cancel_left]
  rest := rfl

/-- One byte more. -/
theorem Stored.storeByte {n : Nat} {payload : Bytes} {acc : FragmentReassembler × Nat}
    (h : Stored r acc.1 offset n payload acc.2) :
    Stored r (FragmentReassembler.storeByte offset payload acc n).1 offset (n + 1) payload
      (FragmentReassembler.storeByte offset payload acc n).2 := by
  have hhere : acc.1.covered (offset + n) = r.covered (offset + n) := by
    rw [h.covered]
    simp
  have hmissing : r.missing offset (n + 1)
      = if r.covered (offset + n) = false then insert (offset + n) (r.missing offset n)
        else r.missing offset n := by
    unfold missing
    rw [← Nat.add_assoc, Nat.Ico_succ_right_eq_insert_Ico (Nat.le_add_right offset n),
      Finset.filter_insert]
  unfold FragmentReassembler.storeByte
  by_cases hcov : r.covered (offset + n) = true
  · rw [if_pos (hhere.trans hcov)]
    rw [hcov, if_neg (by decide)] at hmissing
    refine ⟨fun p => ?_, fun p => ?_, h.coveredBytes, ?_, h.rest⟩
    · rw [h.covered]
      by_cases hp : p = offset + n
      · subst hp
        simp [hcov]
      · exact congrArg _ (decide_eq_decide.mpr (by omega))
    · rw [h.data]
      refine if_congr ⟨fun hp => ⟨hp.1, by omega, hp.2.2⟩, fun hp => ⟨hp.1, ?_, hp.2.2⟩⟩ rfl rfl
      have : p ≠ offset + n := by
        rintro rfl
        exact absurd hcov (by simp [hp.2.2])
      omega
    · rw [hmissing]
      exact h.added
  · rw [if_neg (by rw [hhere]; exact hcov)]
    have hfalse : r.covered (offset + n) = false := by simpa using hcov
    rw [hfalse, if_pos rfl] at hmissing
    refine ⟨fun p => ?_, fun p => ?_, ?_, ?_, ?_⟩
    · show (markCovered _ (offset + n)).covered p = _
      rw [covered_markCovered]
      show (acc.1.covered p || _) = _
      rw [h.covered, Bool.or_assoc, ← Bool.decide_or]
      exact congrArg _ (decide_eq_decide.mpr (by omega))
    · show (if p = offset + n then byteAt payload n else acc.1.data p) = _
      by_cases hp : p = offset + n
      · subst hp
        rw [if_pos rfl, if_pos ⟨by omega, by omega, hfalse⟩, Nat.add_sub_cancel_left]
      · rw [if_neg hp, h.data]
        exact if_congr ⟨fun hq => ⟨hq.1, by omega, hq.2.2⟩,
          fun hq => ⟨hq.1, by omega, hq.2.2⟩⟩ rfl rfl
    · show acc.1.coveredBytes + 1 = _
      rw [h.coveredBytes, Nat.add_assoc]
    · show acc.2 + 1 = _
      rw [hmissing, Finset.card_insert_of_notMem, ← h.added]
      simp [missing]
    · rw [h.rest]
      rfl

theorem stored_storeBytes (r : FragmentReassembler) (offset length : Nat) (payload : Bytes) :
    Stored r (r.storeBytes offset length payload).1 offset length payload
      (r.storeBytes offset length payload).2 := by
  unfold storeBytes
  induction length with
  | zero =>
    refine ⟨fun p => by simp, fun p => ?_, rfl, by simp [missing], rfl⟩
    rw [if_neg (by omega)]
    rfl
  | succ n ih =>
    rw [List.range_succ, List.foldl_append]
    exact ih.storeByte

theorem conflicts_eq_false_iff (r : FragmentReassembler) (offset length : Nat) (payload : Bytes) :
    r.conflicts offset length payload = false ↔
      ∀ p, offset ≤ p → p < offset + length → r.covered p = true →
        r.data p = byteAt payload (p - offset) := by
  simp only [conflicts, List.any_eq_false, List.mem_range, Bool.and_eq_true, bne_iff_ne, not_and,
    not_not]
  constructor
  · intro h p h₁ h₂ hcov
    have := h (p - offset) (by omega)
    rw [Nat.add_sub_cancel' h₁] at this
    exact this hcov
  · intro h i hi hcov
    have := h (offset + i) (by omega) (by omega) hcov
    rwa [Nat.add_sub_cancel_left] at this

/-- **Storing a fragment succeeds exactly when it agrees with what is there**,
and then stores it, by whichever of the two ways. -/
theorem store_spec (r : FragmentReassembler) (offset length : Nat) (payload : Bytes) :
    (r.store offset length payload = none ∧ r.conflicts offset length payload = true) ∨
      ∃ r' added, r.store offset length payload = some (r', added)
        ∧ r.conflicts offset length payload = false
        ∧ Stored r r' offset length payload added := by
  unfold store
  by_cases hfast : length ≠ 0 ∧ r.coverageRangeIsClear offset length = true
  · have hclear := (coverageRangeIsClear_iff r offset length).mp hfast.2
    rw [if_pos hfast]
    refine Or.inr ⟨_, _, rfl, ?_, stored_storeRange payload hclear⟩
    refine (conflicts_eq_false_iff r offset length payload).mpr (fun p h₁ h₂ hcov => ?_)
    exact absurd hcov (by simp [hclear p h₁ h₂])
  · rw [if_neg hfast]
    by_cases hconf : r.conflicts offset length payload = true
    · rw [if_pos hconf]
      exact Or.inl ⟨rfl, hconf⟩
    · rw [if_neg hconf]
      exact Or.inr ⟨_, _, rfl, by simpa using hconf, stored_storeBytes r offset length payload⟩

/-! ## The two ways of storing agree -/

/-- What storing a range does leaves no choice. -/
theorem Stored.unique {length : Nat} {payload : Bytes} {a₁ a₂ : Nat}
    (h₁ : Stored r r₁ offset length payload a₁) (h₂ : Stored r r₂ offset length payload a₂) :
    r₁ = r₂ ∧ a₁ = a₂ := by
  have hadded : a₁ = a₂ := h₁.added.trans h₂.added.symm
  have hdata : r₁.data = r₂.data := by
    funext p
    rw [h₁.data, h₂.data]
  have hcoverage : r₁.coverage = r₂.coverage := Bitmap.bitmap_ext fun p => by
    rw [← covered_eq_bit, ← covered_eq_bit, h₁.covered, h₂.covered]
  have hbytes : r₁.coveredBytes = r₂.coveredBytes := by
    rw [h₁.coveredBytes, h₂.coveredBytes, hadded]
  refine ⟨?_, hadded⟩
  rw [h₁.rest, h₂.rest, hdata, hcoverage, hbytes]

/-- Storing without the way by words. -/
def storeBytewise (r : FragmentReassembler) (offset length : Nat) (payload : Bytes) :
    Option (FragmentReassembler × Nat) :=
  if r.conflicts offset length payload then none
  else some (r.storeBytes offset length payload)

/-- `spw_fragment_reassembler_push` without the way by words. -/
def pushBytewise (r : FragmentReassembler) (header : Header) (payload : Bytes) :
    ReassemblyResult × FragmentReassembler :=
  if r.refuses header payload then (.invalid, r)
  else
    match r.adopt header with
    | none => (.conflict, r)
    | some r =>
      match r.storeBytewise header.fragmentOffset.toNat header.payloadSize.toNat payload with
      | none => (.conflict, r)
      | some (r, added) =>
        let r := r.noteEnds header
        (r.verdict added, r)

theorem store_eq_storeBytewise (r : FragmentReassembler) (offset length : Nat) (payload : Bytes) :
    r.store offset length payload = r.storeBytewise offset length payload := by
  unfold storeBytewise
  obtain ⟨hnone, hconf⟩ | ⟨r', added, hsome, hagrees, hstored⟩ :=
    store_spec r offset length payload
  · rw [hnone, if_pos hconf]
  · obtain ⟨hr, hadded⟩ := hstored.unique (stored_storeBytes r offset length payload)
    rw [hsome, hagrees, if_neg (by decide), hr, hadded]

/-- **The way by words is the way by bytes.** A range is found clear exactly if
none of its bytes is covered, marking it covers exactly its bytes, and a push
returns and leaves what one without the way by words does, in any state. -/
theorem push_fast_path :
    (∀ (r : FragmentReassembler) (offset length : Nat),
      r.coverageRangeIsClear offset length = true ↔
        ∀ p, offset ≤ p → p < offset + length → r.covered p = false)
    ∧ (∀ (r : FragmentReassembler) (offset length p : Nat),
      (r.markCoverageRange offset length).covered p
        = (r.covered p || decide (offset ≤ p ∧ p < offset + length)))
    ∧ (∀ (r : FragmentReassembler) (header : Header) (payload : Bytes),
      r.push header payload = r.pushBytewise header payload) := by
  refine ⟨coverageRangeIsClear_iff, covered_markCoverageRange, fun r header payload => ?_⟩
  simp only [push, pushBytewise, store_eq_storeBytewise]

/-! ## Well-formed reassemblers -/

/-- The size of the packet in progress, zero when there is none. -/
def extent (r : FragmentReassembler) : Nat := if r.active then r.totalSize.toNat else 0

/-- **The invariant of a reassembler**: it owns no bit outside the packet in
progress, counts those it has, and fits its storage. -/
structure WellFormed (r : FragmentReassembler) : Prop where
  clear : ∀ p, r.extent ≤ p → p < 64 * r.coverageWords → r.covered p = false
  count : r.coveredBytes = ((Finset.range r.extent).filter (fun p => r.covered p = true)).card
  fits : r.extent ≤ 64 * r.coverageWords

theorem lt_of_lt_coverageWordsFor {capacity words p : Nat}
    (hw : coverageWordsFor capacity ≤ words) (hp : p < capacity) : p < 64 * words := by
  unfold coverageWordsFor at hw
  omega

theorem wellFormed_of_clear (hactive : r.active = false)
    (hclear : ∀ p, p < 64 * r.coverageWords → r.covered p = false) (hbytes : r.coveredBytes = 0) :
    r.WellFormed where
  clear p _ hp := hclear p hp
  count := by
    rw [hbytes, extent, hactive]
    rfl
  fits := by simp [extent, hactive]

/-- Whatever the memories hold, `init` makes the reassembler well-formed. -/
theorem wellFormed_init (hasStorage : Bool) (data : Nat → UInt8) (capacity : Nat)
    (coverage : Nat → UInt64) (coverageWords : Nat) :
    (init hasStorage data capacity coverage coverageWords).WellFormed := by
  refine wellFormed_of_clear rfl (fun p hp => ?_) rfl
  rw [covered_eq_bit]
  show Bitmap.bit (clearWords coverage coverageWords) p = false
  have hp' : p < 64 * coverageWords := hp
  rw [bit_clearWords, decide_eq_false (by omega), Bool.false_and]

/-- The words of a packet are counted right unless the sum wraps, and are none then. -/
theorem packetCoverageWords_toNat (size : UInt32) :
    (packetCoverageWords size).toNat
      = if size.toNat < 2 ^ 32 - 63 then coverageWordsFor size.toNat else 0 := by
  have hlt := size.toNat_lt
  show (size.toNat + 63) % 2 ^ 32 / 64 = _
  unfold coverageWordsFor
  split_ifs <;> omega

/-- **A reset clears every bit**: the words of the packet in progress are counted right, or no
byte of it is there. -/
def ResetsAll (r : FragmentReassembler) : Prop :=
  r.active = true → r.totalSize.toNat ≤ r.capacity → r.coveredBytes ≠ 0 →
    r.totalSize.toNat < 2 ^ 32 - 63

theorem resetsAll_of_capacity (h : r.capacity < 2 ^ 32 - 63) : r.ResetsAll :=
  fun _ hle _ => lt_of_le_of_lt hle h

/-- What is counted as covered is all that is. -/
theorem WellFormed.covered_of_empty (h : r.WellFormed) (hbytes : r.coveredBytes = 0) {p : Nat}
    (hp : p < 64 * r.coverageWords) : r.covered p = false := by
  by_cases hin : p < r.extent
  · have hnone := Finset.card_eq_zero.mp (h.count.symm.trans hbytes)
    simpa using Finset.filter_eq_empty_iff.mp hnone (Finset.mem_range.mpr hin)
  · exact h.clear p (Nat.not_lt.mp hin) hp

/-- **A reset forgets the packet**: the words it leaves alone were clear. -/
theorem WellFormed.reset (h : r.WellFormed) (hall : r.ResetsAll) : r.reset.WellFormed := by
  refine wellFormed_of_clear rfl (fun p hp => ?_) rfl
  have hp' : p < 64 * r.coverageWords := hp
  rw [covered_eq_bit]
  show Bitmap.bit (clearWords r.coverage r.wordsToClear) p = false
  rw [bit_clearWords]
  by_cases hlow : r.wordsToClear ≤ p / 64
  · suffices hclear : r.covered p = false by rw [← covered_eq_bit, hclear, Bool.and_false]
    by_cases hbytes : r.coveredBytes = 0
    · exact h.covered_of_empty hbytes hp'
    · refine h.clear p ?_ hp'
      unfold wordsToClear at hlow
      unfold extent
      cases hactive : r.active
      · simp
      · simp only [hactive, Bool.true_and, decide_eq_true_eq] at hlow
        simp only [if_true]
        split_ifs at hlow with hle
        · rw [packetCoverageWords_toNat, if_pos (hall hactive hle hbytes), coverageWordsFor] at hlow
          omega
        · omega
  · rw [decide_eq_false hlow, Bool.false_and]

/-- **A well-formed reassembler small enough that a reset clears every bit.** -/
structure Sized (r : FragmentReassembler) : Prop extends WellFormed r where
  capacity_lt : r.capacity < 2 ^ 32 - 63

theorem Sized.reset (h : r.Sized) : r.reset.Sized :=
  ⟨h.toWellFormed.reset (resetsAll_of_capacity h.capacity_lt), h.capacity_lt⟩

/-! ## Pushing a fragment -/

/-- What it takes for a header not to be refused. -/
theorem refuses_eq_false_iff (r : FragmentReassembler) (header : Header) (payload : Bytes) :
    r.refuses header payload = false ↔
      r.hasStorage = true ∧ coverageWordsFor r.capacity ≤ r.coverageWords
        ∧ header.type = typeData ∧ header.totalSize.toNat ≠ header.payloadSize.toNat
        ∧ header.totalSize ≠ 0 ∧ header.totalSize.toNat ≤ r.capacity ∧ header.messageId ≠ 0
        ∧ (header.payloadSize ≠ 0 → payload ≠ [])
        ∧ header.fragmentOffset.toNat + header.payloadSize.toNat ≤ header.totalSize.toNat := by
  simp only [refuses, Bool.or_eq_false_iff, Bool.not_eq_false', decide_eq_false_iff_not,
    bne_eq_false_iff_eq, beq_eq_false_iff_ne, Bool.and_eq_false_iff, Nat.not_lt, and_assoc,
    List.isEmpty_eq_false_iff, ne_eq]
  refine and_congr_right' (and_congr_right' (and_congr_right' (and_congr_right'
    (and_congr_right' (and_congr_right' (and_congr_right' (and_congr_left' ?_)))))))
  exact Decidable.or_iff_not_imp_left

/-- The packet a header belongs to is the one in progress. -/
def SamePacket (r : FragmentReassembler) (header : Header) : Prop :=
  header.messageId = r.messageId ∧ header.totalSize = r.totalSize
    ∧ terminatorFlagsOf header = r.terminatorFlags ∧ ackRequiredOf header = r.ackRequired

/-- **A fragment that was taken**: it belongs to the packet in progress, agrees
with what was there, and is there now. -/
structure Took (r : FragmentReassembler) (header : Header) (payload : Bytes)
    (result : ReassemblyResult) (r' : FragmentReassembler) : Prop where
  accepts : r.refuses header payload = false
  before : r.active = true → r.SamePacket header
  active : r'.active = true
  after : r'.SamePacket header
  agrees : ∀ p, header.fragmentOffset.toNat ≤ p →
    p < header.fragmentOffset.toNat + header.payloadSize.toNat → r.covered p = true →
      r.data p = byteAt payload (p - header.fragmentOffset.toNat)
  covered : ∀ p, r'.covered p = (r.covered p || decide (header.fragmentOffset.toNat ≤ p
    ∧ p < header.fragmentOffset.toNat + header.payloadSize.toNat))
  data : ∀ p, r'.data p
    = if header.fragmentOffset.toNat ≤ p
        ∧ p < header.fragmentOffset.toNat + header.payloadSize.toNat
      then byteAt payload (p - header.fragmentOffset.toNat) else r.data p
  coveredBytes : r'.coveredBytes = r.coveredBytes
    + (r.missing header.fragmentOffset.toNat header.payloadSize.toNat).card
  storage : r'.hasStorage = r.hasStorage ∧ r'.capacity = r.capacity
    ∧ r'.coverageWords = r.coverageWords
  seenStart : r'.seenStart = (r.seenStart || hasFlag header.flags flagFragmentStart)
  seenEnd : r'.seenEnd = (r.seenEnd || hasFlag header.flags flagFragmentEnd)
  result : result = r'.verdict
    (r.missing header.fragmentOffset.toNat header.payloadSize.toNat).card

/-- The first fragment is adopted, a later one must be of the same packet. -/
theorem adopt_cases (r : FragmentReassembler) (header : Header) :
    (r.active = true ∧ ¬ r.SamePacket header ∧ r.adopt header = none)
      ∨ (r.active = true ∧ r.SamePacket header ∧ r.adopt header = some r)
      ∨ (r.active = false ∧ r.adopt header = some (r.withPacket header)) := by
  unfold adopt
  cases hactive : r.active
  · exact Or.inr (Or.inr ⟨rfl, rfl⟩)
  · by_cases hsame : r.SamePacket header
    · refine Or.inr (Or.inl ⟨rfl, hsame, ?_⟩)
      obtain ⟨h₁, h₂, h₃, h₄⟩ := hsame
      simp [h₁, h₂, h₃, h₄]
    · refine Or.inl ⟨rfl, hsame, ?_⟩
      have : (header.messageId != r.messageId || header.totalSize != r.totalSize
          || terminatorFlagsOf header != r.terminatorFlags
          || ackRequiredOf header != r.ackRequired) = true := by
        by_contra hnone
        simp only [Bool.not_eq_true, Bool.or_eq_false_iff, bne_eq_false_iff_eq] at hnone
        exact hsame ⟨hnone.1.1.1, hnone.1.1.2, hnone.1.2, hnone.2⟩
      simp [this]

/-- The same bytes, bits and storage, whatever packet they are said to be of. -/
structure SameStore (r r₁ : FragmentReassembler) : Prop where
  hasStorage : r₁.hasStorage = r.hasStorage
  data : r₁.data = r.data
  coverage : r₁.coverage = r.coverage
  capacity : r₁.capacity = r.capacity
  coverageWords : r₁.coverageWords = r.coverageWords
  coveredBytes : r₁.coveredBytes = r.coveredBytes
  seenStart : r₁.seenStart = r.seenStart
  seenEnd : r₁.seenEnd = r.seenEnd

theorem sameStore_refl (r : FragmentReassembler) : SameStore r r :=
  ⟨rfl, rfl, rfl, rfl, rfl, rfl, rfl, rfl⟩

theorem sameStore_withPacket (r : FragmentReassembler) (header : Header) :
    SameStore r (r.withPacket header) :=
  ⟨rfl, rfl, rfl, rfl, rfl, rfl, rfl, rfl⟩

/-- Storing into the adopted packet takes the fragment. -/
theorem took_of_stored {header : Header} {payload : Bytes} {added : Nat}
    (haccepts : r.refuses header payload = false) (hbefore : r.active = true → r.SamePacket header)
    (hactive : r₁.active = true) (hsame : r₁.SamePacket header) (hstore : SameStore r r₁)
    (hagrees : r₁.conflicts header.fragmentOffset.toNat header.payloadSize.toNat payload = false)
    (hstored : Stored r₁ r₂ header.fragmentOffset.toNat header.payloadSize.toNat payload added) :
    Took r header payload ((r₂.noteEnds header).verdict added) (r₂.noteEnds header) := by
  have hcov : ∀ p, r₁.covered p = r.covered p := fun p => by
    simp only [FragmentReassembler.covered, hstore.coverage]
  have hmissing : added
      = (r.missing header.fragmentOffset.toNat header.payloadSize.toNat).card := by
    rw [hstored.added]
    simp only [missing, hcov]
  have hagree := (conflicts_eq_false_iff r₁ _ _ payload).mp hagrees
  have hrest := hstored.rest
  refine ⟨haccepts, hbefore, ?_, ?_, fun p h₁ h₂ hp => ?_, fun p => ?_, fun p => ?_, ?_,
    ⟨?_, ?_, ?_⟩, ?_, ?_, ?_⟩
  · exact (congrArg FragmentReassembler.active hrest).trans hactive
  · obtain ⟨h₁, h₂, h₃, h₄⟩ := hsame
    exact ⟨h₁.trans (congrArg FragmentReassembler.messageId hrest).symm,
      h₂.trans (congrArg FragmentReassembler.totalSize hrest).symm,
      h₃.trans (congrArg FragmentReassembler.terminatorFlags hrest).symm,
      h₄.trans (congrArg FragmentReassembler.ackRequired hrest).symm⟩
  · rw [← hstore.data]
    exact hagree p h₁ h₂ ((hcov p).trans hp)
  · rw [← hcov]
    exact hstored.covered p
  · show r₂.data p = _
    rw [hstored.data]
    by_cases hin : header.fragmentOffset.toNat ≤ p
        ∧ p < header.fragmentOffset.toNat + header.payloadSize.toNat
    · rw [if_pos hin]
      by_cases hp : r₁.covered p = false
      · rw [if_pos ⟨hin.1, hin.2, hp⟩]
      · rw [if_neg (fun h => hp h.2.2)]
        exact hagree p hin.1 hin.2 (by simpa using hp)
    · rw [if_neg hin, if_neg (fun h => hin ⟨h.1, h.2.1⟩), hstore.data]
  · show r₂.coveredBytes = _
    rw [hstored.coveredBytes, hstore.coveredBytes, hmissing]
  · exact (congrArg FragmentReassembler.hasStorage hrest).trans hstore.hasStorage
  · exact (congrArg FragmentReassembler.capacity hrest).trans hstore.capacity
  · exact (congrArg FragmentReassembler.coverageWords hrest).trans hstore.coverageWords
  · exact congrArg (· || hasFlag header.flags flagFragmentStart)
      ((congrArg FragmentReassembler.seenStart hrest).trans hstore.seenStart)
  · exact congrArg (· || hasFlag header.flags flagFragmentEnd)
      ((congrArg FragmentReassembler.seenEnd hrest).trans hstore.seenEnd)
  · rw [hmissing]

/-- A reassembler with nothing in progress has nothing to conflict with. -/
theorem WellFormed.conflicts_of_idle (h : r.WellFormed) (hidle : r.active = false)
    {header : Header} {payload : Bytes} (haccepts : r.refuses header payload = false) :
    r.conflicts header.fragmentOffset.toNat header.payloadSize.toNat payload = false := by
  obtain ⟨_, hwords, _, _, _, hcap, _, _, hrange⟩ :=
    (refuses_eq_false_iff r header payload).mp haccepts
  refine (conflicts_eq_false_iff r _ _ payload).mpr (fun p h₁ h₂ hcov => ?_)
  have hclear := h.clear p (by simp [extent, hidle])
    (lt_of_lt_coverageWordsFor hwords (by omega))
  exact absurd hcov (by simp [hclear])

/-- **The ends of `push`**: the fragment is refused, it contradicts the packet in progress, or
it is taken. Where nothing is in progress it may contradict what an earlier packet has left,
and its packet is in progress then all the same. -/
theorem push_ends (r : FragmentReassembler) (header : Header) (payload : Bytes) :
    (r.refuses header payload = true ∧ r.push header payload = (.invalid, r))
      ∨ (r.refuses header payload = false ∧ r.active = true
          ∧ r.push header payload = (.conflict, r)
          ∧ (r.SamePacket header →
              r.conflicts header.fragmentOffset.toNat header.payloadSize.toNat payload = true))
      ∨ (r.refuses header payload = false ∧ r.active = false
          ∧ r.push header payload = (.conflict, r.withPacket header)
          ∧ r.conflicts header.fragmentOffset.toNat header.payloadSize.toNat payload = true)
      ∨ Took r header payload (r.push header payload).1 (r.push header payload).2 := by
  unfold push
  by_cases hrefuses : r.refuses header payload = true
  · rw [if_pos hrefuses]
    exact Or.inl ⟨hrefuses, rfl⟩
  have haccepts : r.refuses header payload = false := by simpa using hrefuses
  rw [if_neg hrefuses]
  refine Or.inr ?_
  obtain ⟨hactive, hother, hadopt⟩ | ⟨hactive, hsame, hadopt⟩ | ⟨hidle, hadopt⟩ :=
    adopt_cases r header
  · rw [hadopt]
    exact Or.inl ⟨haccepts, hactive, rfl, fun hsame => absurd hsame hother⟩
  · rw [hadopt]
    obtain ⟨hnone, hconf⟩ | ⟨r₂, added, hsome, hagrees, hstored⟩ :=
      store_spec r header.fragmentOffset.toNat header.payloadSize.toNat payload
    · refine Or.inl ⟨haccepts, hactive, ?_, fun _ => hconf⟩
      simp only [hnone]
    · simp only [hsome]
      exact Or.inr (Or.inr (took_of_stored haccepts (fun _ => hsame) hactive hsame
        (sameStore_refl r) hagrees hstored))
  · rw [hadopt]
    refine Or.inr ?_
    obtain ⟨hnone, hconf⟩ | ⟨r₂, added, hsome, hagrees, hstored⟩ :=
      store_spec (r.withPacket header) header.fragmentOffset.toNat header.payloadSize.toNat
        payload
    · refine Or.inl ⟨haccepts, hidle, ?_, hconf⟩
      simp only [hnone]
    · simp only [hsome]
      have hbefore : r.active = true → r.SamePacket header := fun h => by simp [hidle] at h
      exact Or.inr (took_of_stored haccepts hbefore rfl ⟨rfl, rfl, rfl, rfl⟩
        (sameStore_withPacket r header) hagrees hstored)

/-- **The ends of `push` of a well-formed reassembler**: with nothing in progress there is
nothing to conflict with, and what is refused or contradicts changes nothing. -/
theorem push_cases (hr : r.WellFormed) (header : Header) (payload : Bytes) :
    (r.refuses header payload = true ∧ r.push header payload = (.invalid, r))
      ∨ (r.refuses header payload = false ∧ r.active = true
          ∧ r.push header payload = (.conflict, r)
          ∧ (r.SamePacket header →
              r.conflicts header.fragmentOffset.toNat header.payloadSize.toNat payload = true))
      ∨ Took r header payload (r.push header payload).1 (r.push header payload).2 := by
  obtain h | h | ⟨haccepts, hidle, -, hconf⟩ | h := push_ends r header payload
  · exact Or.inl h
  · exact Or.inr (Or.inl h)
  · exact absurd ((hr.conflicts_of_idle hidle haccepts).symm.trans hconf) (by decide)
  · exact Or.inr (Or.inr h)

end FragmentReassembler
