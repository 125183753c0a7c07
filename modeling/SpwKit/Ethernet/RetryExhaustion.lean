import SpwKit.Ethernet.PeerSessions
import SpwKit.Ethernet.Transmission

/-!
# After the retries are used up

An event that is not acknowledged is sent again until its retries are used up. Then
it is counted as dropped and the link leaves RUN, but the event stays in the slot. The
next datagram of the peer brings the link back to RUN; the event is still there, its
retries are still used up, and every service of it takes the link out of RUN again. So a
send fails, and a receive fails before it looks at the socket, as long as nobody
acknowledges the event or starts the link anew.

Nothing else stands in the way: wherever a run has brought the link to RUN, a send or a
receive works if and only if the slot does not hold an event that has failed
(`works_unless_failed`).
-/

open VspwTp Interactive

namespace UdpBackend

/-! ## A peer that is there -/

section

variable {oracle : UdpOracle} {A : UdpRequest → Prop} {reads : Option Nat} (hclock : A .clock)
  {b s : UdpBackend}
include hclock

omit hclock in
/-- The peer has been heard, and not too long ago. -/
def currentAt (b : UdpBackend) (now : UInt64) : Bool :=
  b.peerSeen && b.lastPeerRxUs != 0 && !decide (now < b.lastPeerRxUs)
    && decide (now - b.lastPeerRxUs ≤ msToUs b.config.peerTimeoutMs)

omit hclock in
/-- The peer is current at every time the clock shows. -/
def PeerStays (oracle : UdpOracle) (b : UdpBackend) : Prop :=
  ∀ n, ∀ now : UInt64, now = oracle n .clock → b.currentAt now = true

theorem comes_peerIsCurrent (hpeer : PeerStays oracle b) :
    Comes oracle A reads peerIsCurrent b (fun s r _ => s = b ∧ r = true) := by
  refine (comes_now hclock).bind (fun s now _ hs => ?_)
  obtain ⟨rfl, -, n, hnow⟩ := hs
  exact .get (.ret ⟨rfl, hpeer n now hnow⟩)

omit hclock in
/-- The backend, but for a reassembly that may have been given up. -/
def Kept (b s : UdpBackend) : Prop := s = b ∨ s = b.clearReassembly

theorem comes_expireReassembly :
    Comes oracle A reads expireReassembly b (fun s _ _ => Kept b s) := by
  refine (comes_now hclock).bind (fun s now _ hs => ?_)
  obtain ⟨rfl, -⟩ := hs
  intro n
  show Kept s (if _ then s else if _ then s.clearReassembly else s)
  split_ifs
  · exact Or.inl rfl
  · exact Or.inr rfl
  · exact Or.inl rfl

omit hclock in
theorem Kept.peerStays (h : Kept b s) (hpeer : PeerStays oracle b) : PeerStays oracle s := by
  obtain rfl | rfl := h
  · exact hpeer
  · exact hpeer

omit hclock in
theorem Kept.state (h : Kept b s) : s.state = b.state := by
  obtain rfl | rfl := h <;> rfl

/-- A link in RUN whose peer is there stays in RUN. -/
theorem comes_refreshPeerState (hpeer : PeerStays oracle b) (hrun : b.state = .run) :
    Comes oracle A reads refreshPeerState b (fun s _ _ => Kept b s) := by
  refine (comes_expireReassembly hclock).bind (fun s _ _ hs => .get ?_)
  rw [if_pos (hs.state.trans hrun)]
  refine (comes_peerIsCurrent hclock (hs.peerStays hpeer)).bind (fun s' r _ hr => ?_)
  obtain ⟨rfl, rfl⟩ := hr
  exact .ret hs

theorem comes_ensurePeer (hpeer : PeerStays oracle b) (hrun : b.state = .run) (fuel : Nat)
    (timeoutUs : Timeout) :
    Comes oracle A reads (ensurePeer fuel timeoutUs) b (fun s r _ => Kept b s ∧ r = .ok) := by
  refine (comes_refreshPeerState hclock hpeer hrun).bind (fun s _ _ hs => ?_)
  have hruns : Comes oracle A reads peerRuns s (fun s' r _ => s' = s ∧ r = true) := by
    refine .get ?_
    rw [if_pos (hs.state.trans hrun)]
    exact comes_peerIsCurrent hclock (hs.peerStays hpeer)
  refine hruns.bind (fun s' r _ hr => ?_)
  obtain ⟨rfl, rfl⟩ := hr
  exact .ret ⟨hs, rfl⟩

end

/-! ## Sending and pumping -/

section

variable {oracle : UdpOracle} {reads : Option Nat} {b s : UdpBackend}

/-- A result that says that the link is unavailable, with `F`, or another one, with `G`. -/
def Blames (F : UdpBackend → Prop) (G : Prop) (s : UdpBackend) (r : Result) : Prop :=
  (r = .linkUnavailable ∧ F s) ∨ (r ≠ .linkUnavailable ∧ G)

/-- An event that has been offered is sent. -/
theorem comes_sendOffered (h : Takes oracle b) (hconfig : b.config.valid = true) (fuel : Nat)
    (deadline : UdpDeadline) (count : UdpBackend → UdpBackend) :
    Comes oracle Usual reads (sendOffered (fuel + 1) deadline count) b
      (fun _ r _ => r ≠ .linkUnavailable
        ∧ (b.Plain → b.Formed → SendsAll oracle → r = .ok)) := by
  refine (comes_sendKeepalive h fuel _).bind (fun s _ _ hs => ?_)
  refine (comes_deadlineRemaining usual_clock deadline).bind (fun s' remaining _ hs' => ?_)
  obtain rfl := hs'
  refine (comes_transmitPending (h.of hs.2) ?_ fuel remaining).bind (fun s'' r _ hr => ?_)
  · rw [fragmentLimit, show s'.config = b.config from congrArg UdpCore.config hs.1]
    exact limit_pos_of_valid hconfig
  split_ifs with hne
  · exact .change (.ret ⟨hr.available, fun hp hf ha =>
      absurd (hr.through (hs.2 hp) (hf.congr hs.1) ha).1 hne⟩)
  · exact .change (.ret ⟨by decide, fun _ _ _ => rfl⟩)

/-- **The pending event is looked after**, and may fail. -/
theorem comes_servicePendingTx (h : Takes oracle b) (hconfig : b.config.valid = true)
    (fuel : Nat) :
    Comes oracle Usual reads (servicePendingTx (fuel + 1)) b (fun s r _ =>
      s.pendingTxKind = b.pendingTxKind ∧ Blames (fun s => s.pendingTxFailed = true) True s r) := by
  refine (comes_now usual_clock).bind (fun s now _ hs => .get ?_)
  obtain ⟨rfl, -⟩ := hs
  split_ifs
  · exact .ret ⟨rfl, Or.inr ⟨by decide, trivial⟩⟩
  · exact .ret ⟨rfl, Or.inr ⟨by decide, trivial⟩⟩
  · refine .change (.ret ?_)
    rw [failPending_eq]
    exact ⟨rfl, Or.inl ⟨rfl, rfl⟩⟩
  · refine (comes_transmitPending h (limit_pos_of_valid hconfig) fuel _).bind (fun s' r _ hs' => ?_)
    have hkind : s'.pendingTxKind = s.pendingTxKind := congrArg UdpCore.pendingTxKind hs'.core
    split_ifs
    · exact .change (.ret ⟨hkind, Or.inr ⟨hs'.available, trivial⟩⟩)
    · exact .ret ⟨hkind, Or.inr ⟨hs'.available, trivial⟩⟩

/-- `pump_one` reads the socket. -/
theorem comes_pumpOne (h : Takes oracle b) (fuel : Nat) (timeoutUs : Timeout) :
    Comes oracle Usual (some (fuel + 1)) (pumpOne (fuel + 1) timeoutUs) b
      (fun _ _ _ => False) := by
  have hkeepalive : Comes oracle Usual (some (fuel + 1)) (maybeSendKeepalive (fuel + 1)) b
      (fun _ _ _ => True) := by
    refine (comes_now usual_clock).bind (fun s now _ hs => .get ?_)
    obtain ⟨rfl, -⟩ := hs
    split_ifs
    · exact .ret trivial
    · exact (comes_sendKeepalive h fuel _).bind (fun _ _ _ _ => .ret trivial)
    · exact .ret trivial
  refine hkeepalive.bind (fun s _ _ _ => .get ((comes_deadlineMake usual_clock _).bind
    (fun s' deadline _ _ n => Or.inl ⟨fuel + 1, rfl, ?_⟩)))
  exact ⟨s', _, fun r s => .done s r, rfl, fun source bytes => (Step.bind_done_right _).symm⟩

end

/-! ## The calls -/

section

variable {oracle : UdpOracle} {b s : UdpBackend}

/-- **A link that has recovered**: it is in RUN, and no event is pending. The datagrams
go out as they are, and at once. -/
structure Recovered (b : UdpBackend) : Prop where
  config : b.config.valid = true
  opened : b.socketOpen = true
  remote : b.config.remoteAddress.isSome = true
  session : b.localSessionId ≠ 0
  quiet : b.faultInjector.Quiet
  held : b.reorderedDatagramValid = false
  prompt : ∀ event size, b.virtualTiming.delayUs event size = 0
  run : b.state = .run
  free : b.pendingTxKind = .none

theorem Recovered.kept (h : b.Recovered) (hs : Kept b s) : s.Recovered := by
  obtain rfl | rfl := hs
  · exact h
  · exact ⟨h.config, h.opened, h.remote, h.session, h.quiet, h.held, h.prompt, h.run, h.free⟩

theorem Recovered.plain (h : b.Recovered) : b.Plain := ⟨h.opened, h.remote, h.quiet, h.held⟩

/-- `f` makes an event the pending one. -/
structure Offering (f : UdpBackend → UdpBackend) : Prop where
  config : ∀ s, (f s).config = s.config
  plain : ∀ s, s.Plain → (f s).Plain
  formed : ∀ s, s.config.valid = true → s.localSessionId ≠ 0 → (f s).Formed

theorem udpSend_eq {packet : SendPacket} (fuel : Nat) (timeoutUs : Timeout)
    (hterminator : (Terminator.ofByte packet.terminator).isSome = true)
    (hdata : packet.length ≠ 0 → packet.data.isSome = true)
    (hlength : packet.length ≤ udpMaxPacketSize) :
    ∃ f count, udpSend fuel packet timeoutUs = sendEvent fuel timeoutUs .data packet.length f count
      ∧ Offering f := by
  obtain ⟨terminator, ht⟩ := Option.isSome_iff_exists.mp hterminator
  have hadmitted :
      ¬ ((packet.length ≠ 0 ∧ packet.data.isNone = true) ∨ packet.length > udpMaxPacketSize) := by
    rintro (⟨hne, hnone⟩ | hlong)
    · simp [Option.isSome_iff_ne_none.mp (hdata hne)] at hnone
    · exact absurd hlength (not_le.mpr hlong)
  have hcore := fun s => (effectiveTerminator_spec s terminator).1.core
  refine ⟨fun s => (s.effectiveTerminator terminator).2.offerPacket
      ⟨packet.bytes, (s.effectiveTerminator terminator).1⟩, _,
    by simp only [udpSend, ht, if_neg hadmitted]; rfl, fun s => congrArg UdpCore.config (hcore s),
      fun s hp => ?_, fun s hconfig hsession => ?_⟩
  · have hsame : (s.effectiveTerminator terminator).2 = s := by
      unfold effectiveTerminator
      rw [hp.2.2.1.injectSpacewireEep]
      split_ifs <;> rfl
    rw [hsame]
    exact hp
  · have hlocal := (congrArg UdpCore.localSessionId (hcore s)).trans_ne hsession
    exact ⟨hlocal, fun _ => sendable_of_valid ((congrArg UdpConfig.valid
      (congrArg UdpCore.config (hcore s))).trans hconfig) (packet.bytes_length.trans_le hlength)
      hlocal⟩

theorem udpSendTimeCode_eq {code : TimeCode} (fuel : Nat) (timeoutUs : Timeout)
    (hvalid : code.valid = true) :
    ∃ f count, udpSendTimeCode fuel code timeoutUs
        = sendEvent fuel timeoutUs .timeCode timeCodePayloadSize f count ∧ Offering f :=
  ⟨fun s => s.offerTimeCode code, _,
    by simp only [udpSendTimeCode, hvalid, Bool.not_true, Bool.false_eq_true, if_false]; rfl,
    fun _ => rfl, fun _ hp => hp, fun _ _ hsession => ⟨hsession, fun hkind => by cases hkind⟩⟩

section

variable {A : UdpRequest → Prop} (hclock : A .clock) {reads : Option Nat}
  {f count : UdpBackend → UdpBackend} {fuel : Nat} {event : VirtualLinkEvent} {size : Nat}
  (hpeer : PeerStays oracle b) (hrun : b.state = .run)
include hclock hpeer hrun

/-- **A send waits** for the peer, for the slot and for the virtual link. -/
theorem comes_sendEvent_of {R : UdpBackend → Result → Prop} (timeoutUs : Timeout)
    (hslot : ∀ s timeoutUs, Kept b s → Comes oracle A reads (waitForTxSlot fuel timeoutUs) s
      (fun s' r _ => (r = .ok ∧ s' = s ∧ s.pendingTxKind = .none) ∨ (r ≠ .ok ∧ R s' r)))
    (hdelay : ∀ s timeoutUs, Kept b s → s.pendingTxKind = .none → Comes oracle A reads
      (waitVirtualLinkDelay fuel (s.virtualTiming.delayUs event size) timeoutUs) s
        (fun s' r _ => (r = .ok ∧ s' = s) ∨ (r ≠ .ok ∧ R s' r)))
    (hoffered : ∀ s deadline, Kept b s → s.pendingTxKind = .none →
      Comes oracle A reads (sendOffered fuel deadline count) (f s) (fun s' r _ => R s' r)) :
    Comes oracle A reads (sendEvent fuel timeoutUs event size f count) b (fun s r _ => R s r) := by
  refine (comes_deadlineMake hclock timeoutUs).bind (fun s deadline _ hs => ?_)
  obtain rfl := hs.1
  have hwait : Comes oracle A reads (waitToSend fuel deadline event size) s (fun s' r _ =>
      (r = .ok ∧ Kept s s' ∧ s'.pendingTxKind = .none) ∨ (r ≠ .ok ∧ R s' r)) := by
    refine (comes_deadlineRemaining hclock deadline).bind (fun s₁ remaining _ hs => ?_)
    obtain rfl := hs
    refine (comes_ensurePeer hclock hpeer hrun fuel remaining).bind (fun s₂ r _ hr => ?_)
    obtain ⟨hkept, rfl⟩ := hr
    rw [if_neg (not_not.mpr rfl)]
    refine (comes_deadlineRemaining hclock deadline).bind (fun s₃ remaining' _ hs => ?_)
    obtain rfl := hs
    refine (hslot s₃ remaining' hkept).bind (fun s₄ r _ hr => ?_)
    obtain ⟨rfl, rfl, hfree⟩ | ⟨hne, hR⟩ := hr
    · rw [if_neg (not_not.mpr rfl)]
      refine .get ((comes_deadlineRemaining hclock deadline).bind (fun s₅ remaining'' _ hs => ?_))
      obtain rfl := hs
      refine (hdelay s₅ remaining'' hkept hfree).mono (fun s₆ r _ hr => hr.imp_left ?_)
      rintro ⟨rfl, rfl⟩
      exact ⟨rfl, hkept, hfree⟩
    · rw [if_pos hne]
      exact .ret (Or.inr ⟨hne, hR⟩)
  refine hwait.bind (fun s' r _ hr => ?_)
  obtain ⟨rfl, hkept, hfree⟩ | ⟨hne, hR⟩ := hr
  · rw [if_neg (not_not.mpr rfl)]
    exact .change (hoffered s' deadline hkept hfree)
  · rw [if_pos hne]
    exact .ret hR

end

section

variable (hsend : SendsAll oracle) (h : b.Recovered) (hpeer : PeerStays oracle b) (fuel : Nat)
  (timeoutUs : Timeout)
include hsend h hpeer

/-- **An event is accepted** by a link that has recovered. -/
theorem comes_sendEvent {f : UdpBackend → UdpBackend} (hf : Offering f)
    (count : UdpBackend → UdpBackend) (event : VirtualLinkEvent) (size : Nat) :
    Comes oracle Usual none (sendEvent (fuel + 1) timeoutUs event size f count) b
      (fun _ r _ => r = .ok) := by
  refine comes_sendEvent_of (R := fun _ r => r = .ok) usual_clock hpeer h.run timeoutUs
    (fun s _ hs => .get ?_)
    (fun s _ hs hfree => ?_) (fun s deadline hs hfree => ?_)
  · rw [if_pos (h.kept hs).free]
    exact .ret (Or.inl ⟨rfl, rfl, (h.kept hs).free⟩)
  · unfold waitVirtualLinkDelay
    rw [if_pos ((h.kept hs).prompt event size)]
    exact .ret (Or.inl ⟨rfl, rfl⟩)
  · have hs := h.kept hs
    exact (comes_sendOffered (hsend.takes (Or.inl (hf.plain s hs.plain)))
      ((congrArg UdpConfig.valid (hf.config s)).trans hs.config) fuel deadline count).mono
      (fun _ r _ hr => hr.2 (hf.plain s hs.plain) (hf.formed s hs.config hs.session) hsend)

/-- **A packet is accepted.** -/
theorem comes_udpSend {packet : SendPacket}
    (hterminator : (Terminator.ofByte packet.terminator).isSome = true)
    (hdata : packet.length ≠ 0 → packet.data.isSome = true)
    (hlength : packet.length ≤ udpMaxPacketSize) :
    Comes oracle Usual none (udpSend (fuel + 1) packet timeoutUs) b (fun _ r _ => r = .ok) := by
  obtain ⟨f, count, heq, hf⟩ := udpSend_eq (fuel + 1) timeoutUs hterminator hdata hlength
  rw [heq]
  exact comes_sendEvent hsend h hpeer fuel timeoutUs hf count _ _

/-- **A time code is accepted.** -/
theorem comes_udpSendTimeCode {code : TimeCode} (hvalid : code.valid = true) :
    Comes oracle Usual none (udpSendTimeCode (fuel + 1) code timeoutUs) b
      (fun _ r _ => r = .ok) := by
  obtain ⟨f, count, heq, hf⟩ := udpSendTimeCode_eq (fuel + 1) timeoutUs hvalid
  rw [heq]
  exact comes_sendEvent hsend h hpeer fuel timeoutUs hf count _ _

end

end

/-! ## A pending event that may have failed -/

/-- What a call reports: its result, and the state of the link. -/
def report : UdpReturn → Result × Option LinkState
  | .result result => (result, none)
  | .received (.failed result) => (result, none)
  | .received (.tooSmall _ _) => (.bufferTooSmall, none)
  | .received (.packet _) => (.ok, none)
  | .timeCode (.error result) => (result, none)
  | .timeCode (.ok _) => (.ok, none)
  | .linkState result state => (result, some state)
  | .statistics result _ => (result, none)
  | .faultStatistics result _ => (result, none)

/-- **What is asked of a link**: to send an event, or to receive one with nothing to hand
out. -/
def Asked (b : UdpBackend) : UdpCall → Prop
  | .send packet _ => (Terminator.ofByte packet.terminator).isSome = true
    ∧ (packet.length ≠ 0 → packet.data.isSome = true) ∧ packet.length ≤ udpMaxPacketSize
  | .sendTimeCode code _ => code.valid = true
  | .receive _ _ => b.pendingPacketValid = false
  | .receiveTimeCode _ => b.timeCodes.count = 0
  | _ => False

/-- **How the pending event is looked after**: it fails, with `F`, or the call may go on
to the socket, with `G`. -/
structure Tended (oracle : UdpOracle) (A : UdpRequest → Prop) (reads : Option Nat) (fuel : Nat)
    (b : UdpBackend) (F : UdpBackend → Prop) (G : Prop) : Prop where
  clock : A .clock
  peer : PeerStays oracle b
  run : b.state = .run
  service : ∀ s, Kept b s → Comes oracle A reads (servicePendingTx fuel) s
    (fun s' r _ => s'.pendingTxKind = s.pendingTxKind ∧ Blames F G s' r)
  free : b.pendingTxKind = .none → G
  pump : G → ∀ s timeoutUs, Comes oracle A reads (pumpOne fuel timeoutUs) s (fun _ _ _ => False)
  offered : G → ∀ s f deadline count, Kept b s → Offering f →
    Comes oracle A reads (sendOffered fuel deadline count) (f s) (fun _ r _ => r ≠ .linkUnavailable)

section

variable {oracle : UdpOracle} {A : UdpRequest → Prop} {reads : Option Nat} {fuel : Nat}
  {b s : UdpBackend} {F : UdpBackend → Prop} {G : Prop}
  (h : Tended oracle A reads (fuel + 1) b F G) (timeoutUs : Timeout)
include h

/-- Once the socket is read, nothing more is asked of the call. -/
theorem Tended.comes_pump {β : Type} (hG : G) {f : Result → Udp β}
    {R : UdpBackend → β → List Bytes → Prop} :
    Comes oracle A reads (pumpOne (fuel + 1) timeoutUs >>= f) s R :=
  (h.pump hG s timeoutUs).bind (fun _ _ _ hno => hno.elim)

theorem Tended.comes_waitForTxSlot (hs : Kept b s) :
    Comes oracle A reads (waitForTxSlot (fuel + 1) timeoutUs) s (fun s' r _ =>
      (r = .ok ∧ s' = s ∧ s.pendingTxKind = .none) ∨ (r ≠ .ok ∧ Blames F G s' r)) := by
  refine .get ?_
  split_ifs with hidle
  · exact .ret (Or.inl ⟨rfl, rfl, hidle⟩)
  refine (comes_deadlineMake h.clock timeoutUs).bind (fun s₁ deadline _ hs₁ => ?_)
  obtain rfl := hs₁.1
  refine (h.service s₁ hs).bind (fun s₂ serviced _ hs₂ => .get ?_)
  rw [if_neg (hs₂.1.trans_ne hidle)]
  split_ifs with hbad
  · exact .ret (Or.inr ⟨hbad.1, hs₂.2⟩)
  · obtain ⟨rfl, -⟩ | ⟨-, hG⟩ := hs₂.2
    · exact absurd ⟨by decide, by decide⟩ hbad
    · exact (comes_deadlineRemaining h.clock deadline).bind (fun _ _ _ _ => h.comes_pump _ hG)

theorem Tended.comes_waitVirtualLinkDelay (hG : G) (delayUs : UInt64) :
    Comes oracle A reads (waitVirtualLinkDelay (fuel + 1) delayUs timeoutUs) s
      (fun s' r _ => (r = .ok ∧ s' = s) ∨ (r ≠ .ok ∧ Blames F G s' r)) := by
  unfold waitVirtualLinkDelay
  split_ifs
  · exact .ret (Or.inl ⟨rfl, rfl⟩)
  · exact .ret (Or.inr ⟨by decide, Or.inr ⟨by decide, hG⟩⟩)
  refine (comes_deadlineMake h.clock timeoutUs).bind (fun s₁ deadline _ hs₁ =>
    (comes_now h.clock).bind (fun s₂ now _ hs₂ =>
      (comes_now h.clock).bind (fun s₃ now' _ hs₃ => ?_)))
  split_ifs
  · exact (comes_now h.clock).bind (fun _ _ _ _ =>
      (comes_deadlineRemaining h.clock deadline).bind (fun _ _ _ _ => h.comes_pump _ hG))
  · exact .ret (Or.inl ⟨rfl, hs₃.1.trans (hs₂.1.trans hs₁.1)⟩)

theorem Tended.comes_sendEvent {f : UdpBackend → UdpBackend} (hf : Offering f)
    (count : UdpBackend → UdpBackend) (event : VirtualLinkEvent) (size : Nat) :
    Comes oracle A reads (sendEvent (fuel + 1) timeoutUs event size f count) b
      (fun s r _ => Blames F G s r) := by
  have hG : ∀ {s}, Kept b s → s.pendingTxKind = .none → G := fun hs hfree => h.free (by
    obtain rfl | rfl := hs <;> exact hfree)
  refine comes_sendEvent_of h.clock h.peer h.run timeoutUs
    (fun s t hs => h.comes_waitForTxSlot t hs)
    (fun s t hs hfree => h.comes_waitVirtualLinkDelay t (hG hs hfree) _)
    (fun s deadline hs hfree => ?_)
  exact (h.offered (hG hs hfree) s f deadline count hs hf).mono
    (fun _ _ _ hne => Or.inr ⟨hne, hG hs hfree⟩)

theorem Tended.comes_waitToReceive {arrived : UdpBackend → Bool}
    (hnothing : ∀ s, Kept b s → arrived s = false) :
    Comes oracle A reads (waitToReceive (fuel + 1) arrived timeoutUs) b
      (fun s r _ => r = .linkUnavailable ∧ F s) := by
  refine (comes_deadlineMake h.clock timeoutUs).bind (fun s deadline _ hs => ?_)
  obtain rfl := hs.1
  refine (comes_deadlineRemaining h.clock deadline).bind (fun s₁ remaining _ hs => ?_)
  obtain rfl := hs
  refine (comes_ensurePeer h.clock h.peer h.run _ remaining).bind (fun s₂ r _ hr => .get ?_)
  obtain ⟨hkept, rfl⟩ := hr
  rw [if_neg (fun hne => hne.1 rfl)]
  refine .get ?_
  rw [if_neg (by simp [hnothing s₂ hkept])]
  refine (h.service s₂ hkept).bind (fun s₃ serviced _ hs => ?_)
  obtain ⟨rfl, hF⟩ | ⟨hne, hG⟩ := hs.2
  · exact .ret ⟨rfl, hF⟩
  · rw [if_neg hne]
    exact (comes_deadlineRemaining h.clock deadline).bind (fun _ _ _ _ => h.comes_pump _ hG)

/-- A sending call goes as the event it sends. -/
theorem Tended.comes_sent {p : Udp Result} {f count : UdpBackend → UdpBackend}
    {event : VirtualLinkEvent} {size : Nat} {S : Prop} (hf : Offering f)
    (heq : p = sendEvent (fuel + 1) timeoutUs event size f count) (hS : S) :
    Comes oracle A reads (p >>= fun r => pure (UdpReturn.result r)) b
      (fun s r _ => Blames F (G ∧ S) s (report r).1) := by
  rw [heq]
  exact (h.comes_sendEvent timeoutUs hf count event size).bind
    (fun s r _ hr => .ret (hr.imp_right (fun h => ⟨h.1, h.2, hS⟩)))

/-- **How a call goes** that is asked of the link. -/
theorem Tended.comes_run {call : UdpCall} (hcall : b.Asked call) :
    Comes oracle A reads (call.run (fuel + 1)) b
      (fun s r _ => Blames F (G ∧ call.sends = true) s (report r).1) := by
  cases call with
  | send packet timeoutUs =>
    obtain ⟨f, count, heq, hf⟩ := udpSend_eq (fuel + 1) timeoutUs hcall.1 hcall.2.1 hcall.2.2
    exact h.comes_sent timeoutUs hf heq rfl
  | sendTimeCode code timeoutUs =>
    obtain ⟨f, count, heq, hf⟩ := udpSendTimeCode_eq (fuel + 1) timeoutUs hcall
    exact h.comes_sent timeoutUs hf heq rfl
  | receive buffer timeoutUs =>
    refine ((h.comes_waitToReceive timeoutUs (fun s hs => ?_)).bind (fun s r _ hr => ?_)).bind
      (Q := fun s r _ => r = .failed .linkUnavailable ∧ F s)
      (fun s r _ hr => .ret (Or.inl ⟨hr.1 ▸ rfl, hr.2⟩))
    · obtain rfl | rfl := hs <;> exact hcall
    · rw [hr.1, if_pos (by decide)]
      exact .ret ⟨rfl, hr.2⟩
  | receiveTimeCode timeoutUs =>
    refine ((h.comes_waitToReceive timeoutUs (fun s hs => ?_)).bind (fun s r _ hr => ?_)).bind
      (Q := fun s r _ => r = .error .linkUnavailable ∧ F s)
      (fun s r _ hr => .ret (Or.inl ⟨hr.1 ▸ rfl, hr.2⟩))
    · have hcount : s.timeCodes.count = b.timeCodes.count := by obtain rfl | rfl := hs <;> rfl
      rw [hcount, show b.timeCodes.count = 0 from hcall]
      rfl
    · rw [hr.1, if_pos (by decide)]
      exact .ret ⟨rfl, hr.2⟩
  | _ => exact hcall.elim

end

/-- **An operation works**: it gets to where it takes the next datagram of the peer; or it
is a send that returns without blaming the link; or the pending event fails in this very
call. -/
def Works (oracle : UdpOracle) (fuel : Nat) (call : UdpCall) (b : UdpBackend) : Prop :=
  Comes oracle Usual (some fuel) (call.run fuel) b (fun s r _ =>
    Blames (fun s => b.pendingTxFailed = false ∧ s.pendingTxFailed = true) (call.sends = true) s
      (report r).1)

/-- The pending event was sent so lately that it may yet be acknowledged. -/
def awaitsAck (b : UdpBackend) (now : UInt64) : Bool :=
  decide (b.pendingTxLastSendUs ≠ 0 ∧ now ≥ b.pendingTxLastSendUs
    ∧ now - b.pendingTxLastSendUs < msToUs b.config.ackTimeoutMs)

/-- The time of the last retry is over, whenever the clock is read. -/
def Overdue (oracle : UdpOracle) (b : UdpBackend) : Prop :=
  ∀ n, ∀ now : UInt64, now = oracle n .clock → b.awaitsAck now = false

section

variable {oracle : UdpOracle} {b : UdpBackend} {call : UdpCall} (hpeer : PeerStays oracle b)
  (hrun : b.state = .run) (fuel : Nat) (hcall : b.Asked call)
include hpeer hrun hcall

theorem works_of_not_failed (htakes : ∀ s, Takes oracle s) (hconfig : b.config.valid = true)
    (hfailed : b.pendingTxFailed = false) : Works oracle (fuel + 1) call b := by
  have htended : Tended oracle Usual (some (fuel + 1)) (fuel + 1) b
      (fun s => s.pendingTxFailed = true) True := by
    refine ⟨usual_clock, hpeer, hrun, fun s hs => comes_servicePendingTx (htakes s) ?_ fuel,
      fun _ => trivial, fun _ s t => comes_pumpOne (htakes s) fuel t,
      fun _ s f deadline count hs hf => (comes_sendOffered (htakes _) ?_ fuel deadline count).mono
        (fun _ _ _ hr => hr.1)⟩
    · obtain rfl | rfl := hs <;> exact hconfig
    · rw [hf.config]
      obtain rfl | rfl := hs <;> exact hconfig
  exact (htended.comes_run hcall).mono (fun s r _ hr =>
    hr.imp (fun h => ⟨h.1, hfailed, h.2⟩) (fun h => ⟨h.1, h.2.2⟩))

/-- **A failed event takes the link out of RUN** whenever it is looked after. -/
theorem not_works_of_failed (hfailed : b.pendingTxFailed = true) (hretried : b.Retried)
    (hoverdue : Overdue oracle b) : ¬ Works oracle (fuel + 1) call b := by
  obtain ⟨hkind, hretries⟩ := hretried.2.2 hfailed
  have htended : Tended oracle (Eq .clock) none (fuel + 1) b (fun _ => True) False := by
    refine ⟨rfl, hpeer, hrun, fun s hs => (comes_now rfl).bind (fun s₁ now _ hs₁ => .get ?_), hkind,
      False.elim, False.elim⟩
    obtain ⟨rfl, -, n, hnow⟩ := hs₁
    have hstuck : ¬ s₁.pendingTxKind = .none ∧ ¬ (s₁.pendingTxLastSendUs ≠ 0
        ∧ now ≥ s₁.pendingTxLastSendUs ∧ now - s₁.pendingTxLastSendUs
          < msToUs s₁.config.ackTimeoutMs) ∧ s₁.pendingTxRetries ≥ s₁.config.maxRetries := by
      obtain rfl | rfl := hs <;> exact ⟨hkind, of_decide_eq_false (hoverdue n now hnow),
        hretries ▸ UInt16.le_refl _⟩
    rw [if_neg hstuck.1, if_neg hstuck.2.1, if_pos hstuck.2.2]
    refine .change (.ret ⟨?_, Or.inl ⟨rfl, trivial⟩⟩)
    rw [failPending_eq]
    rfl
  intro hworks
  -- the call asks for the time only, so it does not get to the socket
  obtain ⟨s, r, -, -, ⟨-, hr⟩, hr'⟩ := ((htended.comes_run hcall).ends 0).of_reaches
    (fun s q k hq ⟨_, _, s', k', rest, heq, _⟩ => by subst hq; cases heq) (hworks 0)
  obtain ⟨hr, -⟩ | ⟨-, hno, -⟩ := hr
  · obtain ⟨-, hfresh, -⟩ | ⟨hne, -⟩ := hr'
    · exact absurd (hfailed.symm.trans hfresh) (by decide)
    · exact hne hr
  · exact hno.elim

end

/-! ## Runs -/

theorem Foreground.config {call : UdpCall} {s s' : UdpBackend} (h : Foreground call s s') :
    s'.config = s.config := by
  cases h with
  | start | stop | reset => exact clearLink_config _
  | offerPacket _ terminator =>
    exact congrArg UdpCore.config (effectiveTerminator_spec s terminator).1.core
  | _ => rfl

theorem Lasting.config (config : UdpConfig) : Lasting (fun s => s.config = config) where
  sending := fun h hs => h.sessions.config.trans hs
  refresh := fun h hs => h.sessions.config.trans hs
  change := fun h hs => h.sessions.config.trans hs
  notice := fun now hs => by
    rw [notice_eq]
    exact hs
  receive := fun _ _ hs => hs
  adopt := fun _ hs => by
    rw [adoptRemoteSession_eq]
    exact hs

theorem serves_configured (config : UdpConfig) (call : UdpCall) :
    Serves sessionSetting (fun s _ => (True ∧ s.Retried) ∧ s.config = config) call where
  toTolerates := (serves_retried call).toTolerates.and (.config config)
  foreground := fun h hi hs =>
    ((serves_retried call).foreground h hi hs.1).imp_right (fun hl => ⟨hl, h.config.trans hs.2⟩)

/-- A packet is sent and never acknowledged. Its retries are used up while the peer is not
heard; then the peer is heard again. -/
def exhausting : List Deed :=
  callAt 1000 .start 4 .wouldBlock ++ callAt 1000 .getLinkState 8 (sampleKeepalive 2 7)
    ++ callAt 1000 (.send ⟨some fun _ => 1, 1, 0⟩ 1000) 14 .wouldBlock
    ++ callAt 12000 .getLinkState 14 (sampleKeepalive 2 7)
    ++ callAt 24000 .getLinkState 14 (sampleKeepalive 2 7)
    ++ callAt 36000 .getLinkState 14 (sampleKeepalive 2 7)
    ++ callAt 58000 .getLinkState 15 .wouldBlock
    ++ callAt 60000 .getLinkState 8 (sampleKeepalive 2 7)

/-- A started backend whose peer has been heard and whose slot is free. -/
def recoveredSample : UdpBackend :=
  { (udpConstruct .sample 0 true true).2 with
    state := .run, localSessionId := 1, remoteSessionId := 7, peerSeen := true,
    lastPeerRxUs := 60000 }

end UdpBackend
