import SpwKit.Ethernet.Transmission

/-!
# Fragments put a packet together again

The fragments of a packet tile it: each starts where the one before ends, and a
position belongs to exactly one of them. A reassembler that is given fragments
of one packet, in any order and however often, therefore knows exactly the
positions of the fragments it was given, never finds a contradiction, and is
done when each of them has come once – not earlier, since no fragment covers a
position of another.
-/

open VspwTp FragmentReassembler

namespace UdpBackend

variable {b : UdpBackend}

/-! ## The tiling -/

variable {i p : Nat} {r : FragmentReassembler}

theorem fragment_offset (hs : b.Sendable) (hi : i < b.fragmentCount) :
    (b.fragment i).1.fragmentOffset.toNat = i * b.fragmentLimit :=
  fragmentHeader_fragmentOffset (hs.advance i) ((startsFragment_mul hs hi).advance i)

theorem fragment_size (hs : b.Sendable) (hi : i < b.fragmentCount) :
    (b.fragment i).1.payloadSize.toNat = b.fragmentSize (i * b.fragmentLimit) := by
  have h := fragmentHeader_payloadSize (hs.advance i) ((startsFragment_mul hs hi).advance i)
  have hadvance : (b.advance i).fragmentSize (i * b.fragmentLimit)
      = b.fragmentSize (i * b.fragmentLimit) := by
    rw [advance_eq]
    rfl
  exact h.trans hadvance

theorem fragment_flags (i : Nat) :
    (b.fragment i).1.flags
      = dataFlags b.pendingTxTerminator (b.fragmented && i * b.fragmentLimit == 0)
        (b.fragmented && i * b.fragmentLimit + b.fragmentSize (i * b.fragmentLimit)
          == b.pendingTxPacket.length) := by
  unfold fragment
  rw [advance_eq]
  rfl

theorem mem_fragments {f : Header × Bytes} (hf : f ∈ b.fragments) :
    ∃ i < b.fragmentCount, f = b.fragment i := by
  obtain ⟨i, hi, rfl⟩ := List.mem_map.mp hf
  exact ⟨i, List.mem_range.mp hi, rfl⟩

theorem fragment_mem (hi : i < b.fragmentCount) : b.fragment i ∈ b.fragments :=
  List.mem_map.mpr ⟨i, List.mem_range.mpr hi, rfl⟩

/-- The positions a datagram has bytes for. -/
def CoversPosition (f : Header × Bytes) (p : Nat) : Prop :=
  f.1.fragmentOffset.toNat ≤ p ∧ p < f.1.fragmentOffset.toNat + f.1.payloadSize.toNat

/-- Every position belongs to the fragment its quotient names. -/
theorem fragment_covers (hs : b.Sendable) (hf : b.fragmented = true)
    (hp : p < b.pendingTxPacket.length) :
    p / b.fragmentLimit < b.fragmentCount
      ∧ CoversPosition (b.fragment (p / b.fragmentLimit)) p := by
  have hpos := hs.limit_pos
  have hle := Nat.div_mul_le_self p b.fragmentLimit
  have hlt := Nat.lt_div_mul_add (a := p) (b := b.fragmentLimit) (by omega)
  have hi : p / b.fragmentLimit < b.fragmentCount :=
    (lt_fragmentCount_iff hs hf _).mpr (by omega)
  refine ⟨hi, ?_⟩
  rw [CoversPosition, fragment_offset hs hi, fragment_size hs hi, fragmentSize_of_fragmented hf]
  omega

/-- A position belongs to one fragment only. -/
theorem fragment_unique (hs : b.Sendable) (hf : b.fragmented = true) (hi : i < b.fragmentCount)
    (hp : CoversPosition (b.fragment i) p) : i = p / b.fragmentLimit := by
  have hpos := hs.limit_pos
  rw [CoversPosition, fragment_offset hs hi, fragment_size hs hi,
    fragmentSize_of_fragmented hf] at hp
  refine (Nat.div_eq_of_lt_le hp.1 ?_).symm
  rw [Nat.add_one_mul]
  omega

/-- The first fragment is marked as the start and the last as the end. -/
theorem fragment_start (hf : b.fragmented = true) (i : Nat) :
    hasFlag (b.fragment i).1.flags flagFragmentStart = (i * b.fragmentLimit == 0) := by
  rw [fragment_flags, hasFlag_dataFlags_start, hf, Bool.true_and]

theorem fragment_end (hf : b.fragmented = true) (i : Nat) :
    hasFlag (b.fragment i).1.flags flagFragmentEnd
      = (i * b.fragmentLimit + b.fragmentSize (i * b.fragmentLimit)
        == b.pendingTxPacket.length) := by
  rw [fragment_flags, hasFlag_dataFlags_end, hf, Bool.true_and]

theorem fragment_last (hs : b.Sendable) :
    (b.fragmentCount - 1) * b.fragmentLimit
      + b.fragmentSize ((b.fragmentCount - 1) * b.fragmentLimit)
      = b.pendingTxPacket.length := by
  have hpos := fragmentCount_pos hs
  have hi : b.fragmentCount - 1 < b.fragmentCount := by omega
  have hle := b.fragmentSize_le _ (startsFragment_mul hs hi)
  have hmore := (fragment_next hs hi).1
  by_contra hne
  have := hmore.mp (by omega)
  omega

/-! ## What a reassembler knows after some fragments -/

/-- **A reassembler that was given these fragments** of the pending packet of `b`,
and nothing else. -/
structure Collects (b : UdpBackend) (r : FragmentReassembler)
    (ds : List (Header × Bytes)) : Prop where
  wellFormed : r.WellFormed
  storage : r.hasStorage = true
  capacity : r.capacity = udpMaxPacketSize
  words : coverageWordsFor r.capacity ≤ r.coverageWords
  idle : ds = [] → r.active = false
  packet : ds ≠ [] → r.messageId = b.pendingTxMessageId
    ∧ r.totalSize = UInt32.ofNat b.pendingTxPacket.length
    ∧ r.terminatorFlags = terminatorFlag b.pendingTxTerminator ∧ r.ackRequired = true
  covered : ∀ p < b.pendingTxPacket.length,
    (r.covered p = true ↔ ∃ f ∈ ds, CoversPosition f p)
  data : ∀ p < b.pendingTxPacket.length, r.covered p = true →
    r.data p = BigEndian.byteAt b.pendingTxPacket p
  seenStart : r.seenStart = true ↔ ∃ f ∈ ds, hasFlag f.1.flags flagFragmentStart = true
  seenEnd : r.seenEnd = true ↔ ∃ f ∈ ds, hasFlag f.1.flags flagFragmentEnd = true

theorem length_lt (hs : b.Sendable) : b.pendingTxPacket.length < 2 ^ 32 := by
  have : b.pendingTxPacket.length ≤ 1048576 := hs.length_le
  omega

/-- A well-formed reassembler with room, freshly reset, was given nothing. -/
theorem collects_reset (hs : b.Sendable) (hr : r.WellFormed) (hstorage : r.hasStorage = true)
    (hcapacity : r.capacity = udpMaxPacketSize)
    (hwords : coverageWordsFor r.capacity ≤ r.coverageWords) : Collects b r.reset [] := by
  have hreset := hr.reset (resetsAll_of_capacity (hcapacity ▸ by decide))
  have hclear : ∀ p < b.pendingTxPacket.length, r.reset.covered p = false := fun p hp => by
    refine hreset.clear p (Nat.zero_le _) (lt_of_lt_coverageWordsFor hwords ?_)
    rw [hcapacity]
    exact lt_of_lt_of_le hp hs.length_le
  refine ⟨hreset, hstorage, hcapacity, hwords, fun _ => rfl, fun h => absurd rfl h,
    fun p hp => ?_, fun p hp hcov => ?_, ?_, ?_⟩
  · simp [hclear p hp]
  · exact absurd hcov (by simp [hclear p hp])
  · exact ⟨fun h => absurd h Bool.false_ne_true, fun ⟨f, hf, _⟩ => absurd hf List.not_mem_nil⟩
  · exact ⟨fun h => absurd h Bool.false_ne_true, fun ⟨f, hf, _⟩ => absurd hf List.not_mem_nil⟩

section

variable (hs : b.Sendable) (hf : b.fragmented = true) (hmessage : b.pendingTxMessageId ≠ 0)
  {r : FragmentReassembler} {ds : List (Header × Bytes)} (hc : Collects b r ds)
  {i : Nat} (hi : i < b.fragmentCount)

include hs hf hmessage hc hi

/-- A fragment is never refused. -/
theorem Collects.accepts : r.refuses (b.fragment i).1 (b.fragment i).2 = false := by
  have hpiece := pieceOf_fragment hs hi
  have hlt := (lt_fragmentCount_iff hs hf i).mp hi
  have hlimit := b.fragmentSize_le_limit _ (startsFragment_mul hs hi)
  have hpart := b.fragmented_iff.mp hf
  have hpos := fragmentSize_pos hs hf hlt
  have hsize := fragment_size hs hi
  have htotal : (b.fragment i).1.totalSize.toNat = b.pendingTxPacket.length := hpiece.total
  refine (refuses_eq_false_iff _ _ _).mpr ⟨hc.storage, hc.words, hpiece.type, ?_, ?_, ?_, ?_,
    fun _ hnil => ?_, ?_⟩
  · omega
  · intro hzero
    rw [hzero] at htotal
    have : (0 : UInt32).toNat = 0 := rfl
    omega
  · rw [hc.capacity, htotal]
    exact hs.length_le
  · rw [hpiece.messageId]
    exact hmessage
  · have := hpiece.size
    rw [hnil] at this
    simp only [List.length_nil] at this
    omega
  · rw [hpiece.size, htotal]
    exact hpiece.inside

omit hf hmessage in
/-- A fragment is of the packet in progress. -/
theorem Collects.samePacket (hne : ds ≠ []) : r.SamePacket (b.fragment i).1 := by
  have hpiece := pieceOf_fragment hs hi
  obtain ⟨hmessageId, htotalSize, hterminator, hackRequired⟩ := hc.packet hne
  refine ⟨?_, ?_, ?_, ?_⟩
  · rw [hmessageId]
    exact hpiece.messageId
  · rw [htotalSize]
    apply UInt32.toNat_inj.mp
    rw [hpiece.total, UInt32.toNat_ofNat_of_lt' (length_lt hs)]
  · rw [hterminator]
    exact hpiece.terminator
  · rw [hackRequired]
    exact hpiece.ackRequired

/-- **A fragment is taken.** -/
theorem Collects.took :
    Took r (b.fragment i).1 (b.fragment i).2 (r.push (b.fragment i).1 (b.fragment i).2).1
      (r.push (b.fragment i).1 (b.fragment i).2).2 := by
  have hpiece := pieceOf_fragment hs hi
  have haccepts := hc.accepts hs hf hmessage hi
  obtain ⟨hrefuses, _⟩ | ⟨_, hactive, _, hconf⟩ | htook := push_cases hc.wellFormed
    (b.fragment i).1 (b.fragment i).2
  · exact absurd hrefuses (by simp [haccepts])
  · -- what is there already are bytes of the same packet
    have hne : ds ≠ [] := fun hnil => absurd hactive (by simp [hc.idle hnil])
    have hagree := (conflicts_eq_false_iff r _ _ (b.fragment i).2).mpr (fun p h₁ h₂ hcov => by
      have hp : p < b.pendingTxPacket.length := by
        have hin := hpiece.inside
        rw [← hpiece.size] at hin
        exact lt_of_lt_of_le h₂ hin
      rw [hc.data p hp hcov]
      exact (hpiece.byteAt h₁ h₂).symm)
    exact absurd (hconf (hc.samePacket hs hi hne)) (by simp [hagree])
  · exact htook

/-- One more fragment. -/
theorem Collects.push :
    Collects b (r.push (b.fragment i).1 (b.fragment i).2).2 (ds ++ [b.fragment i]) := by
  have hpiece := pieceOf_fragment hs hi
  have htook := hc.took hs hf hmessage hi
  have hafter := htook.after
  refine ⟨htook.wellFormed hc.wellFormed, ?_, ?_, ?_, fun h => absurd h (by simp),
    fun _ => ⟨?_, ?_, ?_, ?_⟩, fun p hp => ?_, fun p hp hcov => ?_, ?_, ?_⟩
  · rw [htook.storage.1, hc.storage]
  · rw [htook.storage.2.1, hc.capacity]
  · rw [htook.storage.2.1, htook.storage.2.2]
    exact hc.words
  · rw [← hafter.1]
    exact hpiece.messageId
  · rw [← hafter.2.1]
    apply UInt32.toNat_inj.mp
    rw [hpiece.total, UInt32.toNat_ofNat_of_lt' (length_lt hs)]
  · rw [← hafter.2.2.1]
    exact hpiece.terminator
  · rw [← hafter.2.2.2]
    exact hpiece.ackRequired
  · rw [htook.covered, Bool.or_eq_true, hc.covered p hp, decide_eq_true_eq]
    simp only [List.mem_append, List.mem_singleton, or_and_right, exists_or, exists_eq_left,
      CoversPosition]
  · rw [htook.data]
    split_ifs with hin
    · exact hpiece.byteAt hin.1 hin.2
    · rw [htook.covered, decide_eq_false hin, Bool.or_false] at hcov
      exact hc.data p hp hcov
  · rw [htook.seenStart, Bool.or_eq_true, hc.seenStart]
    simp only [List.mem_append, List.mem_singleton, or_and_right, exists_or, exists_eq_left]
  · rw [htook.seenEnd, Bool.or_eq_true, hc.seenEnd]
    simp only [List.mem_append, List.mem_singleton, or_and_right, exists_or, exists_eq_left]

/-- **A push completes the packet exactly when every fragment has come.** -/
theorem Collects.push_complete_iff (hds : ∀ f ∈ ds, f ∈ b.fragments) :
    (r.push (b.fragment i).1 (b.fragment i).2).1 = .complete
      ↔ ∀ g ∈ b.fragments, g ∈ ds ++ [b.fragment i] := by
  have hafter := hc.push hs hf hmessage hi
  have htook := hc.took hs hf hmessage hi
  have hne : ds ++ [b.fragment i] ≠ [] := by simp
  have htotal : (r.push (b.fragment i).1 (b.fragment i).2).2.totalSize.toNat
      = b.pendingTxPacket.length := by
    rw [(hafter.packet hne).2.1, UInt32.toNat_ofNat_of_lt' (length_lt hs)]
  have hmem : ∀ f ∈ ds ++ [b.fragment i], ∃ j < b.fragmentCount, f = b.fragment j := fun f hf' => by
    rw [List.mem_append, List.mem_singleton] at hf'
    obtain hold | rfl := hf'
    · exact mem_fragments (hds f hold)
    · exact ⟨i, hi, rfl⟩
  rw [htook.result, verdict_eq_complete_iff,
    hafter.wellFormed.coveredBytes_eq_iff htook.active, htotal]
  constructor
  · -- the first position of a fragment is in no other fragment
    rintro ⟨hall, -, -⟩ g hg
    obtain ⟨j, hj, rfl⟩ := mem_fragments hg
    have hlt := (lt_fragmentCount_iff hs hf j).mp hj
    obtain ⟨f, hfmem, hcovers⟩ := (hafter.covered _ hlt).mp (hall _ hlt)
    obtain ⟨k, hk, rfl⟩ := hmem f hfmem
    have hkj : k = j := by
      rw [fragment_unique hs hf hk hcovers, Nat.mul_div_cancel _ (by have := hs.limit_pos; omega)]
    rwa [hkj] at hfmem
  · intro hall
    refine ⟨fun p hp => ?_, hafter.seenStart.mpr ?_, hafter.seenEnd.mpr ?_⟩
    · obtain ⟨hj, hcovers⟩ := fragment_covers hs hf hp
      exact (hafter.covered p hp).mpr ⟨_, hall _ (fragment_mem hj), hcovers⟩
    · refine ⟨_, hall _ (fragment_mem (fragmentCount_pos hs)), ?_⟩
      rw [fragment_start hf, Nat.zero_mul]
      rfl
    · have hlast : b.fragmentCount - 1 < b.fragmentCount := by
        have := fragmentCount_pos hs
        omega
      refine ⟨_, hall _ (fragment_mem hlast), ?_⟩
      rw [fragment_end hf, fragment_last hs]
      exact beq_self_eq_true _

end

/-- A reassembler after some pushes. -/
def pushAll (r : FragmentReassembler) (ds : List (Header × Bytes)) : FragmentReassembler :=
  ds.foldl (fun r f => (r.push f.1 f.2).2) r

theorem Collects.pushAll (hs : b.Sendable) (hf : b.fragmented = true)
    (hmessage : b.pendingTxMessageId ≠ 0) {ds ds' : List (Header × Bytes)} (hc : Collects b r ds)
    (hds' : ∀ f ∈ ds', f ∈ b.fragments) : Collects b (UdpBackend.pushAll r ds') (ds ++ ds') := by
  induction ds' generalizing r ds with
  | nil =>
    rw [List.append_nil]
    exact hc
  | cons f ds' ih =>
    obtain ⟨i, hi, rfl⟩ := mem_fragments (hds' f List.mem_cons_self)
    rw [List.append_cons]
    exact ih (hc.push hs hf hmessage hi) (fun g hg => hds' g (List.mem_cons_of_mem _ hg))

/-- The bytes of a list by position. -/
theorem map_byteAt_range (l : Bytes) : (List.range l.length).map (BigEndian.byteAt l) = l := by
  refine List.ext_getElem (by simp) (fun i h₁ h₂ => ?_)
  simp [BigEndian.byteAt, List.getD_eq_getElem?_getD, h₂]

/-- **Fragmentation and reassembly are inverse.** The pending packet of a backend
goes out as `b.fragments`: a transmission over a socket that takes every datagram
hands over these and no others. Each has a valid header. If there is more than
one, then pushing any of them, in any order and any number of times, into a
reassembler that was just reset never fails, completes the packet exactly once
each of them has come, and then holds the packet. -/
theorem fragments_round_trip (b : UdpBackend) (hconfig : b.config.valid = true)
    (hlength : b.pendingTxPacket.length ≤ udpMaxPacketSize) (hsession : b.localSessionId ≠ 0)
    (hkind : b.pendingTxKind = .data) (hmessage : b.pendingTxMessageId ≠ 0) :
    (∀ oracle : UdpOracle,
        (∀ n bytes, oracle n (.sendto bytes) = SendAnswer.sent) → ∀ fuel timeoutUs, 0 < fuel →
        b.socketOpen = true → b.config.remoteAddress.isSome = true → b.faultInjector.Quiet →
        b.reorderedDatagramValid = false →
          Replays oracle (transmitPending fuel timeoutUs) b (fun _ r => r = .ok)
            (b.fragments.map (fun f => headerBytes f.1 ++ f.2)))
      ∧ (∀ f ∈ b.fragments, validate f.1 = true ∧ f.1.payloadSize.toNat = f.2.length)
      ∧ (b.pendingTxPacket.length > b.config.fragmentPayloadSize.toNat →
        ∀ r : FragmentReassembler, r.WellFormed → r.hasStorage = true →
          r.capacity = udpMaxPacketSize → coverageWordsFor r.capacity ≤ r.coverageWords →
        ∀ ds f, (∀ g ∈ ds ++ [f], g ∈ b.fragments) →
          let pushed := (pushAll r.reset ds).push f.1 f.2
          (pushed.1 = .complete ↔ ∀ g ∈ b.fragments, g ∈ ds ++ [f])
            ∧ pushed.1 ≠ .conflict ∧ pushed.1 ≠ .invalid
            ∧ (pushed.1 = .complete →
              pushed.2.packet = ⟨b.pendingTxPacket, b.pendingTxTerminator⟩
                ∧ pushed.2.totalSize.toNat = b.pendingTxPacket.length
                ∧ pushed.2.terminatorFlags = terminatorFlag b.pendingTxTerminator
                ∧ pushed.2.messageId = b.pendingTxMessageId
                ∧ pushed.2.ackRequired = true)) := by
  have hs : b.Sendable := sendable_of_valid hconfig hlength hsession
  refine ⟨fun oracle hsend fuel timeoutUs hfuel hopen hremote hquiet hheld =>
    transmitPending_replay hsend hfuel timeoutUs hs ⟨hopen, hremote, hquiet, hheld⟩ hkind
      hmessage,
    fun f hf => ?_, fun hlong r hr hstorage hcapacity hwords ds f hmem => ?_⟩
  · obtain ⟨i, hi, rfl⟩ := mem_fragments hf
    have hpiece := pieceOf_fragment hs hi
    exact ⟨hpiece.valid, hpiece.size⟩
  · have hf : b.fragmented = true := b.fragmented_iff.mpr hlong
    have hds : ∀ g ∈ ds, g ∈ b.fragments := fun g hg => hmem g (List.mem_append_left _ hg)
    have hc : Collects b (pushAll r.reset ds) ds :=
      (collects_reset hs hr hstorage hcapacity hwords).pushAll hs hf hmessage hds
    obtain ⟨i, hi, rfl⟩ := mem_fragments (hmem f (by simp))
    have hafter := hc.push hs hf hmessage hi
    have htook := hc.took hs hf hmessage hi
    obtain ⟨hmessageId, htotalSize, hterminator, hackRequired⟩ := hafter.packet (by simp)
    have hiff := hc.push_complete_iff hs hf hmessage hi hds
    have htotal : ((pushAll r.reset ds).push (b.fragment i).1 (b.fragment i).2).2.totalSize.toNat
        = b.pendingTxPacket.length := by
      rw [htotalSize, UInt32.toNat_ofNat_of_lt' (length_lt hs)]
    refine ⟨hiff, ?_, ?_, fun hcomplete => ⟨?_, htotal, hterminator, hmessageId,
      hackRequired⟩⟩
    · rw [htook.result]
      exact verdict_ne_conflict _ _
    · rw [htook.result]
      exact verdict_ne_invalid _ _
    · -- every position is covered, so the buffer holds the bytes of the packet
      have hall : ∀ p < b.pendingTxPacket.length, BigEndian.byteAt b.pendingTxPacket p
          = ((pushAll r.reset ds).push (b.fragment i).1 (b.fragment i).2).2.data p := by
        intro p hp
        obtain ⟨hj, hcovers⟩ := fragment_covers hs hf hp
        exact (hafter.data p hp ((hafter.covered p hp).mpr
          ⟨_, hiff.mp hcomplete _ (fragment_mem hj), hcovers⟩)).symm
      unfold FragmentReassembler.packet
      rw [htotal, hterminator, terminatorOfFlags_terminatorFlag]
      congr 1
      rw [← List.map_congr_left (fun p hp => hall p (List.mem_range.mp hp)), map_byteAt_range]

/-- A packet of 300 bytes is pending. -/
def sampleSender : UdpBackend :=
  { UdpBackend.zeroed .sample 0 with
    localSessionId := 5
    pendingTxPacket := List.replicate 300 7
    pendingTxKind := .data
    pendingTxMessageId := 1 }

/-- Two fragments that arrive in reverse order make up the packet. -/
theorem fragments_round_trip_reversed :
    ((pushAll sampleSender.reassembly.reset [sampleSender.fragment 1]).push
      (sampleSender.fragment 0).1 (sampleSender.fragment 0).2).1 = .complete := by
  have hlength : sampleSender.pendingTxPacket.length = 300 := List.length_replicate
  have hcount : sampleSender.fragmentCount = 2 := by
    unfold fragmentCount fragmented
    rw [hlength]
    rfl
  have hall : ∀ g, g ∈ sampleSender.fragments
      ↔ g ∈ [sampleSender.fragment 1] ++ [sampleSender.fragment 0] := by
    intro g
    simp [fragments, hcount, List.range_succ, or_comm]
  obtain ⟨_, _, hround⟩ := fragments_round_trip sampleSender (by decide)
    (by rw [hlength]; decide) (by decide) rfl (by decide)
  exact ((hround (by rw [hlength]; decide) sampleSender.reassembly
    (FragmentReassembler.wellFormed_init _ _ _ _ _) rfl rfl (Nat.le_refl _)
    [sampleSender.fragment 1] (sampleSender.fragment 0)
    (fun g hg => (hall g).mpr hg)).1).mpr (fun g hg => (hall g).mp hg)

end UdpBackend
