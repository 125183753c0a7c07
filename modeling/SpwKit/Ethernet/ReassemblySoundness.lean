import SpwKit.Ethernet.FragmentReassembler

/-!
# A completed packet is made of what was pushed

Fragments come from a network: they overlap, contradict each other, belong to
other packets or to nothing. This module follows a reassembler through any
sequence of calls together with the pushes made since its last reset, and shows
that what it holds is explained by those of them it took (`Explained`): every
byte it counts as there was supplied by one of them, and none of them disagrees
with the bytes it holds. A completed packet is then exactly what was pushed
since the last reset, whatever the buffer and the bitmap held before. The bitmap has the
bits of that packet and no other for as long as every reset clears what it should
(`run_coverage_exact`); one of a packet of nearly 2³² bytes does not.
-/

open VspwTp BigEndian

namespace FragmentReassembler

/-! ## The invariant of the reassembler is kept -/

variable {r r' : FragmentReassembler} {result : ReassemblyResult}

theorem Took.extent {header : Header} {payload : Bytes} (h : Took r header payload result r') :
    r'.extent = header.totalSize.toNat := by
  rw [FragmentReassembler.extent, h.active, if_pos rfl, ← h.after.2.1]

/-- Outside its packet a reassembler has nothing, so a taken fragment's packet
says how far the bits can reach before it, too. -/
theorem Took.clear_before {header : Header} {payload : Bytes}
    (h : Took r header payload result r') (hr : r.WellFormed) {p : Nat}
    (hp : header.totalSize.toNat ≤ p) (hw : p < 64 * r.coverageWords) : r.covered p = false := by
  refine hr.clear p ?_ hw
  unfold FragmentReassembler.extent
  cases hactive : r.active
  · exact Nat.zero_le p
  · rw [if_pos rfl, ← (h.before hactive).2.1]
    exact hp

theorem Took.wellFormed {header : Header} {payload : Bytes}
    (h : Took r header payload result r') (hr : r.WellFormed) : r'.WellFormed := by
  obtain ⟨_, hwords, _, _, _, hcap, _, _, hrange⟩ :=
    (refuses_eq_false_iff r header payload).mp h.accepts
  have hinside : ∀ p, p < header.totalSize.toNat → p < 64 * r.coverageWords := fun p hp =>
    lt_of_lt_coverageWordsFor hwords (by omega)
  refine ⟨fun p hp hw => ?_, ?_, ?_⟩
  · rw [h.extent] at hp
    rw [h.storage.2.2] at hw
    rw [h.covered, h.clear_before hr hp hw, decide_eq_false (by omega)]
    rfl
  · -- the positions covered afterwards are those covered before and those that were missing
    have hbefore : r.coveredBytes
        = ((Finset.range header.totalSize.toNat).filter (fun p => r.covered p = true)).card := by
      rw [hr.count]
      refine congrArg Finset.card ?_
      cases hactive : r.active
      · have hnone : ∀ p < header.totalSize.toNat, r.covered p = false := fun p hp =>
          hr.clear p (by simp [FragmentReassembler.extent, hactive]) (hinside p hp)
        rw [FragmentReassembler.extent, hactive, if_neg (by decide)]
        refine (Finset.filter_false_of_mem (fun p hp => ?_)).symm
        simp [hnone p (Finset.mem_range.mp hp)]
      · rw [FragmentReassembler.extent, hactive, if_pos rfl, ← (h.before hactive).2.1]
    rw [h.coveredBytes, hbefore, h.extent, ← Finset.card_union_of_disjoint]
    · refine congrArg Finset.card (Finset.ext (fun p => ?_))
      simp only [missing, Finset.mem_union, Finset.mem_filter, Finset.mem_range, Finset.mem_Ico,
        h.covered, Bool.or_eq_true, decide_eq_true_eq]
      cases r.covered p
      · simp
        omega
      · simp
    · refine Finset.disjoint_left.mpr (fun p hp hq => ?_)
      simp only [missing, Finset.mem_filter] at hp hq
      exact absurd hp.2 (by simp [hq.2])
  · rw [h.extent, h.storage.2.2]
    unfold coverageWordsFor at hwords
    omega

theorem WellFormed.push (hr : r.WellFormed) (header : Header) (payload : Bytes) :
    (r.push header payload).2.WellFormed := by
  obtain ⟨_, hpush⟩ | ⟨_, _, hpush, _⟩ | htook := push_cases hr header payload
  · rw [hpush]
    exact hr
  · rw [hpush]
    exact hr
  · exact htook.wellFormed hr

theorem Sized.push (h : r.Sized) (header : Header) (payload : Bytes) :
    (r.push header payload).2.Sized := by
  refine ⟨h.toWellFormed.push header payload, ?_⟩
  obtain ⟨_, hpush⟩ | ⟨_, _, hpush, _⟩ | htook := push_cases h.toWellFormed header payload
  · rw [hpush]
    exact h.capacity_lt
  · rw [hpush]
    exact h.capacity_lt
  · rw [htook.storage.2.1]
    exact h.capacity_lt

/-- The count says when every position is covered. -/
theorem WellFormed.coveredBytes_eq_iff (hr : r.WellFormed) (hactive : r.active = true) :
    r.coveredBytes = r.totalSize.toNat ↔ ∀ p < r.totalSize.toNat, r.covered p = true := by
  have hextent : r.extent = r.totalSize.toNat := by
    rw [extent, hactive, if_pos rfl]
  rw [hr.count, hextent]
  constructor
  · intro hcard p hp
    have hall : (Finset.range r.totalSize.toNat).filter (fun p => r.covered p = true)
        = Finset.range r.totalSize.toNat :=
      Finset.eq_of_subset_of_card_le (Finset.filter_subset _ _) (by
        rw [hcard, Finset.card_range])
    have hmem := Finset.mem_range.mpr hp
    rw [← hall] at hmem
    exact (Finset.mem_filter.mp hmem).2
  · intro hall
    rw [Finset.filter_true_of_mem (fun p hp => hall p (Finset.mem_range.mp hp)),
      Finset.card_range]

/-! ## Calls, and the pushes since the last reset -/

/-- A push and what it returned. -/
structure Push where
  header : Header
  payload : Bytes
  result : ReassemblyResult

/-- The results of a push that was taken. -/
def Push.taken (f : Push) : Bool :=
  f.result == .accepted || f.result == .duplicate || f.result == .complete

/-- The positions a fragment is about. -/
def Push.Covers (f : Push) (p : Nat) : Prop :=
  f.header.fragmentOffset.toNat ≤ p
    ∧ p < f.header.fragmentOffset.toNat + f.header.payloadSize.toNat

/-- The byte a fragment has for a position. -/
def Push.byte (f : Push) (p : Nat) : UInt8 :=
  byteAt f.payload (p - f.header.fragmentOffset.toNat)

/-- A call on a reassembler. -/
inductive Call
  | init (hasStorage : Bool) (data : Nat → UInt8) (capacity : Nat) (coverage : Nat → UInt64)
      (coverageWords : Nat)
  | reset
  | push (header : Header) (payload : Bytes)

/-- A reassembler with the pushes since its last `init` or `reset`. -/
structure Traced where
  reassembler : FragmentReassembler
  pushes : List Push

/-- The pushes since the last reset that were taken. -/
def Traced.taken (x : Traced) : List Push := x.pushes.filter Push.taken

/-- One call. -/
def Traced.call (x : Traced) : Call → Traced
  | .init hasStorage data capacity coverage coverageWords =>
    ⟨.init hasStorage data capacity coverage coverageWords, []⟩
  | .reset => ⟨x.reassembler.reset, []⟩
  | .push header payload =>
    ⟨(x.reassembler.push header payload).2,
      x.pushes ++ [⟨header, payload, (x.reassembler.push header payload).1⟩]⟩

/-- A reassembler fresh from `init`. -/
def Traced.fresh (hasStorage : Bool) (data : Nat → UInt8) (capacity : Nat)
    (coverage : Nat → UInt64) (coverageWords : Nat) : Traced :=
  ⟨.init hasStorage data capacity coverage coverageWords, []⟩

/-! ## What the reassembler holds is explained by the pushes it took -/

/-- **The pushes explain the reassembler.** The bytes it counts are positions that they have
supplied; bits that an earlier packet has left are not counted. -/
structure Explained (x : Traced) : Prop where
  active : ∀ f ∈ x.taken, x.reassembler.active = true
  same : ∀ f ∈ x.taken, x.reassembler.SamePacket f.header
  agrees : ∀ f ∈ x.taken, ∀ p, f.Covers p →
    x.reassembler.covered p = true ∧ x.reassembler.data p = f.byte p
  counted : ∃ supplied : Finset Nat, supplied.card = x.reassembler.coveredBytes
    ∧ ∀ p ∈ supplied, p < x.reassembler.extent ∧ x.reassembler.covered p = true
      ∧ ∃ f ∈ x.taken, f.Covers p
  seenStart : x.reassembler.seenStart = true →
    ∃ f ∈ x.taken, hasFlag f.header.flags flagFragmentStart = true
  seenEnd : x.reassembler.seenEnd = true →
    ∃ f ∈ x.taken, hasFlag f.header.flags flagFragmentEnd = true

/-- With no push taken, nothing must be counted. -/
theorem explained_of_empty {pushes : List Push} (hpushes : pushes.filter Push.taken = [])
    (hbytes : r.coveredBytes = 0) (hends : r.seenStart = false ∧ r.seenEnd = false) :
    Explained ⟨r, pushes⟩ := by
  have hnone : ∀ f, f ∉ (Traced.mk r pushes).taken := fun f hf => by
    simp [Traced.taken, hpushes] at hf
  exact ⟨fun f hf => absurd hf (hnone f), fun f hf => absurd hf (hnone f),
    fun f hf => absurd hf (hnone f), ⟨∅, hbytes.symm, fun p hp => absurd hp (by simp)⟩,
    fun h => absurd h (by simp [hends.1]), fun h => absurd h (by simp [hends.2])⟩

variable {x : Traced}

/-- A push that is not taken leaves everything as it was. -/
theorem Explained.untaken (h : Explained x) {f : Push} (hf : f.taken = false) :
    Explained ⟨x.reassembler, x.pushes ++ [f]⟩ := by
  have htaken : (Traced.mk x.reassembler (x.pushes ++ [f])).taken = x.taken := by
    simp [Traced.taken, List.filter_append, hf]
  exact ⟨htaken ▸ h.active, htaken ▸ h.same, htaken ▸ h.agrees, htaken ▸ h.counted,
    htaken ▸ h.seenStart, htaken ▸ h.seenEnd⟩

/-- With nothing in progress no push was taken and nothing is counted. -/
theorem Explained.of_idle (h : Explained x) (hidle : x.reassembler.active = false) :
    x.taken = [] ∧ x.reassembler.coveredBytes = 0
      ∧ x.reassembler.seenStart = false ∧ x.reassembler.seenEnd = false := by
  have hnone : x.taken = [] := List.eq_nil_iff_forall_not_mem.mpr fun f hf =>
    absurd (h.active f hf) (by simp [hidle])
  obtain ⟨supplied, hcard, hsupplied⟩ := h.counted
  have hempty : supplied = ∅ := Finset.eq_empty_of_forall_notMem fun p hp => by
    obtain ⟨-, -, f, hf, -⟩ := hsupplied p hp
    simp [hnone] at hf
  refine ⟨hnone, by rw [← hcard, hempty]; rfl, ?_, ?_⟩
  · by_contra hseen
    obtain ⟨f, hf, -⟩ := h.seenStart (by simpa using hseen)
    simp [hnone] at hf
  · by_contra hseen
    obtain ⟨f, hf, -⟩ := h.seenEnd (by simpa using hseen)
    simp [hnone] at hf

theorem verdict_taken (r : FragmentReassembler) (added : Nat) (header : Header)
    (payload : Bytes) : (Push.mk header payload (r.verdict added)).taken = true := by
  unfold Push.taken verdict
  split_ifs <;> rfl

/-- **A fragment that is taken joins the explanation.** -/
theorem Explained.took (h : Explained x) {header : Header} {payload : Bytes}
    (htook : Took x.reassembler header payload result r') :
    Explained ⟨r', x.pushes ++ [⟨header, payload, result⟩]⟩ := by
  have htaken : (Traced.mk r' (x.pushes ++ [⟨header, payload, result⟩])).taken
      = x.taken ++ [⟨header, payload, result⟩] := by
    have := htook.result ▸ verdict_taken r' _ header payload
    simp only [Traced.taken, List.filter_append, List.filter_cons, this, if_true,
      List.filter_nil]
  have hmem : ∀ f, f ∈ (Traced.mk r' (x.pushes ++ [⟨header, payload, result⟩])).taken →
      f ∈ x.taken ∨ f = ⟨header, payload, result⟩ := fun f hf => by
    rw [htaken] at hf
    simpa using hf
  -- an earlier taken push is of the packet in progress, hence of this header's
  have hsame : ∀ f ∈ x.taken, r'.SamePacket f.header := fun f hf => by
    obtain ⟨a₁, a₂, a₃, a₄⟩ := h.same f hf
    obtain ⟨b₁, b₂, b₃, b₄⟩ := htook.before (h.active f hf)
    obtain ⟨c₁, c₂, c₃, c₄⟩ := htook.after
    exact ⟨a₁.trans (b₁.symm.trans c₁), a₂.trans (b₂.symm.trans c₂),
      a₃.trans (b₃.symm.trans c₃), a₄.trans (b₄.symm.trans c₄)⟩
  refine ⟨fun f _ => htook.active, fun f hf => ?_, fun f hf p hp => ?_, ?_, fun hseen => ?_,
    fun hseen => ?_⟩
  · obtain hold | rfl := hmem f hf
    · exact hsame f hold
    · exact htook.after
  · show r'.covered p = true ∧ r'.data p = _
    rw [htook.covered, htook.data]
    obtain hold | rfl := hmem f hf
    · obtain ⟨hcov, hdata⟩ := h.agrees f hold p hp
      refine ⟨by rw [hcov, Bool.true_or], ?_⟩
      by_cases hin : header.fragmentOffset.toNat ≤ p
          ∧ p < header.fragmentOffset.toNat + header.payloadSize.toNat
      · rw [if_pos hin, ← htook.agrees p hin.1 hin.2 hcov]
        exact hdata
      · rw [if_neg hin]
        exact hdata
    · have hin : header.fragmentOffset.toNat ≤ p
          ∧ p < header.fragmentOffset.toNat + header.payloadSize.toNat := hp
      rw [decide_eq_true hin, Bool.or_true, if_pos hin]
      exact ⟨rfl, rfl⟩
  · -- the positions that were not covered join those counted before, which were
    obtain ⟨supplied, hcard, hsupplied⟩ := h.counted
    obtain ⟨-, -, -, -, -, -, -, -, hrange⟩ := (refuses_eq_false_iff _ _ _).mp htook.accepts
    refine ⟨supplied ∪ x.reassembler.missing header.fragmentOffset.toNat
      header.payloadSize.toNat, ?_, fun p hp => ?_⟩
    · show _ = r'.coveredBytes
      rw [htook.coveredBytes, Finset.card_union_of_disjoint, hcard]
      refine Finset.disjoint_left.mpr fun p hp hmissing => ?_
      simp [missing, (hsupplied p hp).2.1] at hmissing
    · show p < r'.extent ∧ r'.covered p = true ∧ _
      rw [htook.extent, htook.covered, htaken]
      obtain hold | hnew := Finset.mem_union.mp hp
      · obtain ⟨hlt, hcov, f, hf, hcovers⟩ := hsupplied p hold
        refine ⟨?_, by rw [hcov, Bool.true_or], f, List.mem_append_left _ hf, hcovers⟩
        rwa [extent, h.active f hf, if_pos rfl, ← (htook.before (h.active f hf)).2.1] at hlt
      · simp only [missing, Finset.mem_filter, Finset.mem_Ico] at hnew
        refine ⟨by omega, by rw [decide_eq_true hnew.1, Bool.or_true],
          _, List.mem_append_right _ (List.mem_singleton_self _), hnew.1⟩
  · rw [htaken]
    have hseen' : r'.seenStart = true := hseen
    rw [htook.seenStart, Bool.or_eq_true] at hseen'
    obtain hold | hnew := hseen'
    · obtain ⟨f, hf, hflag⟩ := h.seenStart hold
      exact ⟨f, List.mem_append_left _ hf, hflag⟩
    · exact ⟨_, List.mem_append_right _ (List.mem_singleton_self _), hnew⟩
  · rw [htaken]
    have hseen' : r'.seenEnd = true := hseen
    rw [htook.seenEnd, Bool.or_eq_true] at hseen'
    obtain hold | hnew := hseen'
    · obtain ⟨f, hf, hflag⟩ := h.seenEnd hold
      exact ⟨f, List.mem_append_left _ hf, hflag⟩
    · exact ⟨_, List.mem_append_right _ (List.mem_singleton_self _), hnew⟩

/-- One call keeps the explanation. -/
theorem Explained.call (h : Explained x) (c : Call) : Explained (x.call c) := by
  cases c with
  | init | reset => exact explained_of_empty rfl rfl ⟨rfl, rfl⟩
  | push header payload =>
    simp only [Traced.call]
    obtain ⟨_, hpush⟩ | ⟨_, _, hpush, _⟩ | ⟨_, hidle, hpush, _⟩ | htook :=
      push_ends x.reassembler header payload
    · rw [hpush]
      exact h.untaken rfl
    · rw [hpush]
      exact h.untaken rfl
    · rw [hpush]
      obtain ⟨hnone, hbytes, hends⟩ := h.of_idle hidle
      refine explained_of_empty ?_ hbytes hends
      rw [List.filter_append, show x.pushes.filter Push.taken = [] from hnone]
      rfl
    · exact h.took htook

/-- **Every state a reassembler can be in is explained.** -/
theorem explained_run (calls : List Call) (h : Explained x) :
    Explained (calls.foldl Traced.call x) := by
  induction calls generalizing x with
  | nil => exact h
  | cons c calls ih => exact ih (h.call c)

/-- The verdict says when a packet is complete. -/
theorem verdict_eq_complete_iff (r : FragmentReassembler) (added : Nat) :
    r.verdict added = .complete
      ↔ r.coveredBytes = r.totalSize.toNat ∧ r.seenStart = true ∧ r.seenEnd = true := by
  unfold verdict
  split_ifs with hdone hadded
  · exact ⟨fun _ => hdone, fun _ => rfl⟩
  · exact ⟨fun h => absurd h (by decide), fun h => absurd h hdone⟩
  · exact ⟨fun h => absurd h (by decide), fun h => absurd h hdone⟩

theorem verdict_ne_conflict (r : FragmentReassembler) (added : Nat) :
    r.verdict added ≠ .conflict := by
  unfold verdict
  split_ifs <;> decide

theorem verdict_ne_invalid (r : FragmentReassembler) (added : Nat) :
    r.verdict added ≠ .invalid := by
  unfold verdict
  split_ifs <;> decide

/-- **A completed packet is made of what was pushed since the last reset.**
After any calls on a reassembler fresh from `init`, whatever its memories hold,
a push that completes a packet does so only if every byte of it was supplied by
a push since the last reset that was taken, and every push that was taken is of
this packet and agrees with its bytes; one of them was the start of the packet
and one its end. -/
theorem push_complete_sound (hasStorage : Bool) (data : Nat → UInt8) (capacity : Nat)
    (coverage : Nat → UInt64) (coverageWords : Nat) (calls : List Call) (header : Header)
    (payload : Bytes) :
    let x := calls.foldl Traced.call
      (Traced.fresh hasStorage data capacity coverage coverageWords)
    let x' := x.call (.push header payload)
    (x.reassembler.push header payload).1 = .complete →
      (∀ p < x'.reassembler.totalSize.toNat,
        ∃ f ∈ x'.taken, f.Covers p ∧ x'.reassembler.data p = f.byte p)
      ∧ (∀ f ∈ x'.taken,
          f.header.messageId = x'.reassembler.messageId
            ∧ f.header.totalSize = x'.reassembler.totalSize
            ∧ terminatorFlagsOf f.header = x'.reassembler.terminatorFlags
            ∧ ackRequiredOf f.header = x'.reassembler.ackRequired
            ∧ ∀ p, f.Covers p → x'.reassembler.data p = f.byte p)
      ∧ (∃ f ∈ x'.taken, hasFlag f.header.flags flagFragmentStart = true)
      ∧ (∃ f ∈ x'.taken, hasFlag f.header.flags flagFragmentEnd = true) := by
  intro x x' hcomplete
  have hx : Explained x := explained_run calls (explained_of_empty rfl rfl ⟨rfl, rfl⟩)
  have hx' : Explained x' := hx.call (.push header payload)
  -- only a fragment that was taken completes a packet
  have htook : Took x.reassembler header payload (x.reassembler.push header payload).1
      x'.reassembler := by
    obtain ⟨_, hpush⟩ | ⟨_, _, hpush, _⟩ | ⟨_, _, hpush, _⟩ | htook :=
      push_ends x.reassembler header payload
    · rw [hpush] at hcomplete
      cases hcomplete
    · rw [hpush] at hcomplete
      cases hcomplete
    · rw [hpush] at hcomplete
      cases hcomplete
    · exact htook
  obtain ⟨hbytes, hstart, hend⟩ :=
    (verdict_eq_complete_iff _ _).mp (htook.result.symm.trans hcomplete)
  -- as many positions were supplied as there are
  obtain ⟨supplied, hcard, hsupplied⟩ := hx'.counted
  rw [extent, htook.active, if_pos rfl] at hsupplied
  have hall : supplied = Finset.range x'.reassembler.totalSize.toNat :=
    Finset.eq_of_subset_of_card_le (fun p hp => Finset.mem_range.mpr (hsupplied p hp).1)
      (by rw [Finset.card_range, hcard, hbytes])
  refine ⟨fun p hp => ?_, fun f hf => ?_, hx'.seenStart hstart, hx'.seenEnd hend⟩
  · obtain ⟨-, -, f, hf, hcovers⟩ := hsupplied p (hall ▸ Finset.mem_range.mpr hp)
    exact ⟨f, hf, hcovers, (hx'.agrees f hf p hcovers).2⟩
  · obtain ⟨h₁, h₂, h₃, h₄⟩ := hx'.same f hf
    exact ⟨h₁, h₂, h₃, h₄, fun p hp => (hx'.agrees f hf p hp).2⟩

/-- With nothing in progress every word of the bitmap is zero. -/
theorem WellFormed.coverage_eq_zero (hr : r.WellFormed) (hidle : r.active = false) {i : Nat}
    (hi : i < r.coverageWords) : r.coverage i = 0 := by
  refine (Bitmap.word_eq_zero_iff _).mpr fun b hb => ?_
  have hclear := hr.clear (64 * i + b) (by simp [extent, hidle]) (by omega)
  rw [covered_eq_bit, Bitmap.bit] at hclear
  rwa [show (64 * i + b) / 64 = i by omega, show (64 * i + b) % 64 = b by omega] at hclear

/-- The count is of all the bits of the bitmap, since there are none elsewhere. -/
theorem WellFormed.coveredBytes_eq (hr : r.WellFormed) :
    r.coveredBytes
      = ((Finset.range (64 * r.coverageWords)).filter (fun p => r.covered p = true)).card := by
  rw [hr.count]
  refine congrArg Finset.card (Finset.ext fun p => ?_)
  simp only [Finset.mem_filter, Finset.mem_range]
  refine ⟨fun h => ⟨lt_of_lt_of_le h.1 hr.fits, h.2⟩, fun h => ⟨?_, h.2⟩⟩
  by_contra hge
  have hclear := hr.clear p (Nat.not_lt.mp hge) h.1
  exact absurd h.2 (by simp [hclear])

/-- A push that is turned away leaves everything as it was. -/
theorem WellFormed.push_unchanged (hr : r.WellFormed) {header : Header} {payload : Bytes}
    (h : (r.push header payload).1 = .invalid ∨ (r.push header payload).1 = .conflict) :
    (r.push header payload).2 = r := by
  obtain ⟨_, hpush⟩ | ⟨_, _, hpush, _⟩ | htook := push_cases hr header payload
  · rw [hpush]
  · rw [hpush]
  · rw [htook.result] at h
    exact (h.elim (verdict_ne_invalid _ _) (verdict_ne_conflict _ _)).elim

/-- **The bitmap is that of the packet in progress**: the bytes counted are the bits set, no
bit is set at or beyond the size of the packet, with no packet in progress every word is zero,
and a push that is refused or contradicts the packet changes nothing. -/
def CoverageExact (r : FragmentReassembler) : Prop :=
  r.coveredBytes
      = ((Finset.range (64 * r.coverageWords)).filter (fun p => r.covered p = true)).card
    ∧ (∀ p, r.totalSize.toNat ≤ p → p < 64 * r.coverageWords → r.covered p = false)
    ∧ (r.active = false → ∀ i < r.coverageWords, r.coverage i = 0)
    ∧ ∀ (header : Header) (payload : Bytes),
      (r.push header payload).1 = .invalid ∨ (r.push header payload).1 = .conflict →
        (r.push header payload).2 = r

theorem WellFormed.coverageExact (hr : r.WellFormed) : r.CoverageExact := by
  have hextent : r.extent ≤ r.totalSize.toNat := by
    unfold extent
    split
    · exact le_rfl
    · exact Nat.zero_le _
  exact ⟨hr.coveredBytes_eq, fun p hp hw => hr.clear p (le_trans hextent hp) hw,
    fun hidle i hi => hr.coverage_eq_zero hidle hi, fun header payload h => hr.push_unchanged h⟩

theorem WellFormed.call (hx : x.reassembler.WellFormed) (c : Call)
    (hreset : c = .reset → x.reassembler.ResetsAll) : (x.call c).reassembler.WellFormed := by
  cases c with
  | init => exact wellFormed_init _ _ _ _ _
  | reset => exact hx.reset (hreset rfl)
  | push header payload => exact hx.push header payload

/-- A reset that leaves bits behind is noticed in the count. -/
theorem resetsAll_of_exact (h : r.CoverageExact) (h' : r.reset.CoverageExact) : r.ResetsAll := by
  intro hactive hle hbytes
  by_contra hwraps
  have hwords : r.wordsToClear = 0 := by
    rw [wordsToClear, packetCoverageWords_toNat, if_neg hwraps]
    simp [hactive, hle]
  have hkept : ∀ p, r.reset.covered p = r.covered p := fun p => by
    rw [covered_eq_bit, covered_eq_bit]
    show Bitmap.bit (clearWords r.coverage r.wordsToClear) p = _
    rw [bit_clearWords, hwords, decide_eq_true (Nat.zero_le _), Bool.true_and]
  have hcount : 0 = _ := h'.1
  simp only [hkept] at hcount
  exact hbytes (h.1.trans hcount.symm)

/-- **The bitmap stays that of the packet in progress exactly as long as every reset clears
it.** After any calls, whatever the memories held: the bitmap is exact in every state up to
there if and only if no reset was made in a state in which it does not clear every bit. -/
theorem run_coverage_exact (hasStorage : Bool) (data : Nat → UInt8) (capacity : Nat)
    (coverage : Nat → UInt64) (coverageWords : Nat) (calls : List Call) :
    let after := fun before : List Call => (before.foldl Traced.call
      (Traced.fresh hasStorage data capacity coverage coverageWords)).reassembler
    (∀ before, before <+: calls → (after before).CoverageExact)
      ↔ ∀ before, before ++ [.reset] <+: calls → (after before).ResetsAll := by
  intro after
  have hconcat : ∀ before c, after (before ++ [c]) = ((before.foldl Traced.call
      (Traced.fresh hasStorage data capacity coverage coverageWords)).call c).reassembler :=
    fun before c => by simp only [after, List.foldl_append, List.foldl_cons, List.foldl_nil]
  constructor
  · intro hexact before hbefore
    have hreset := hexact _ hbefore
    rw [hconcat] at hreset
    exact resetsAll_of_exact (hexact before ((List.prefix_append _ _).trans hbefore)) hreset
  · intro hresets before hbefore
    suffices hwf : (after before).WellFormed from hwf.coverageExact
    induction before using List.reverseRecOn with
    | nil => exact wellFormed_init _ _ _ _ _
    | append_singleton before c ih =>
      rw [hconcat]
      exact (ih ((List.prefix_append _ _).trans hbefore)).call c fun hc =>
        hresets before (hc ▸ hbefore)

/-- The header of a one-byte fragment of the largest packet. -/
def largestHeader : Header :=
  { Header.initializer with payloadSize := 1, messageId := 7, totalSize := 0xffffffff }

/-- One byte of the largest packet is pushed, and the reset leaves its bit in the bitmap. -/
theorem reset_leaves_coverage :
    let x := [Call.push largestHeader [9], .reset].foldl Traced.call
      (Traced.fresh true (fun _ => 0) (2 ^ 32) (fun _ => 0) (2 ^ 26))
    x.reassembler.active = false ∧ x.reassembler.coveredBytes = 0 ∧ x.reassembler.coverage 0 = 1
      ∧ ¬ x.reassembler.CoverageExact := by
  intro x
  have hidle : x.reassembler.active = false := by decide +kernel
  have hword : x.reassembler.coverage 0 = 1 := by decide +kernel
  refine ⟨hidle, by decide +kernel, hword, fun hexact => ?_⟩
  have hzero := hexact.2.2.1 hidle 0 (by decide +kernel)
  exact absurd (hword.symm.trans hzero) (by decide)

/-- The header of a two-byte packet in two fragments. -/
def sampleHeader (flags : UInt8) (offset : UInt32) : Header :=
  { Header.initializer with
    flags := flags, payloadSize := 1, messageId := 7, fragmentOffset := offset, totalSize := 2 }

/-- A packet of another message is put aside by a reset, and the next one is
completed in reverse order over memories that held other things. -/
theorem push_complete_sound_reordered :
    let calls := [Call.push { sampleHeader 5 0 with messageId := 3 } [9], .reset,
      .push (sampleHeader 9 1) [20]]
    let x := calls.foldl Traced.call (Traced.fresh true (fun _ => 0xaa) 64 (fun _ => 0xff) 1)
    (x.call (.push (sampleHeader 5 0) [10])).reassembler.data 0 = 10
      ∧ ∀ p < 2, ∃ f ∈ (x.call (.push (sampleHeader 5 0) [10])).taken,
        f.Covers p ∧ (x.call (.push (sampleHeader 5 0) [10])).reassembler.data p = f.byte p :=
  ⟨by decide, (push_complete_sound true (fun _ => 0xaa) 64 (fun _ => 0xff) 1
    [Call.push { sampleHeader 5 0 with messageId := 3 } [9], .reset,
      .push (sampleHeader 9 1) [20]] (sampleHeader 5 0) [10] (by decide)).1⟩

end FragmentReassembler
