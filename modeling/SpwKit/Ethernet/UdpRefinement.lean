import SpwKit.Ethernet.UdpPump

/-!
# The UDP backend does what the protocol says

Every public call of a backend is a sequence of acts of its party, wherever it
is interrupted: each change the code makes to its state either leaves the party
alone or is one of the acts, and so is each datagram it sends. So whatever is
kept by the acts (`Stable`) is kept by the code, over all calls, all answers of
the environment and all that the peer does meanwhile (`tolerates_link`).

What the background of a call may change is `Keeps`: the session and the numbering stay,
and what has been accepted stays where it is. Of the first transmission of an event more
is needed, because an event whose call fails must never be delivered: what a transmission
that fails has left unsent is `Transmits`.
-/

open VspwTp Interactive FragmentReassembler

/-! ## What the code relies on -/

namespace UdpBackend

/-- **The code's own invariant.** The slot and the queue of the history are the
ones of the code, a link that talks has a session, and only rules hold datagrams
back. -/
structure Wf (b : UdpBackend) : Prop where
  config : b.config.valid = true
  talks : b.state.talks = true → b.localSessionId ≠ 0
  reassembly : b.reassembly.Sized
  length : b.pendingTxPacket.length ≤ udpMaxPacketSize
  message : b.pendingTxKind ≠ .none → b.pendingTxMessageId ≠ 0
  valid : b.pendingPacketValid = b.history.slot.isSome
  slot : ∀ d, b.history.slot = some d →
    d.event = .data ⟨b.pendingPacket, b.pendingPacketTerminator⟩
  queue : b.history.queue.map Delivery.event = b.timeCodes.toList.map Event.timeCode
  quiet : b.faultInjector.Quiet → b.reorderedDatagramValid = false

/-- What every call begins and ends with: the pending event is one whose call has
succeeded. -/
def AtRest (b : UdpBackend) : Prop := ∀ o, b.pendingOffer = some o → o ∈ b.history.sent

/-- **What the background of a call leaves as it is.** -/
structure Keeps (s₀ s : UdpBackend) : Prop where
  session : s.localSessionId = s₀.localSessionId
  next : s.nextMessageId = s₀.nextMessageId
  pending : s.pendingOffer = s₀.pendingOffer ∨ s.pendingOffer = none
  sent : s.history.sent = s₀.history.sent
  life : s.history.life = s₀.history.life
  taken : s.history.taken = s₀.history.taken
  slot : ∀ d, s₀.history.slot = some d → s.history.slot = some d
  queue : s₀.history.queue <+: s.history.queue
  talks : s₀.state.talks = true → s.state.talks = true
  quiet : s₀.faultInjector.Quiet → s.faultInjector.Quiet

variable {s s' s₀ : UdpBackend}

theorem Keeps.refl (s : UdpBackend) : Keeps s s :=
  ⟨rfl, rfl, Or.inl rfl, rfl, rfl, rfl, fun _ h => h, List.prefix_refl _, fun h => h, fun h => h⟩

theorem Keeps.trans {s₁ s₂ : UdpBackend} (h : Keeps s₀ s₁) (h' : Keeps s₁ s₂) : Keeps s₀ s₂ where
  session := h'.session.trans h.session
  next := h'.next.trans h.next
  pending := by
    obtain heq | heq := h'.pending
    · rw [heq]
      exact h.pending
    · exact Or.inr heq
  sent := h'.sent.trans h.sent
  life := h'.life.trans h.life
  taken := h'.taken.trans h.taken
  slot := fun d hd => h'.slot d (h.slot d hd)
  queue := h.queue.trans h'.queue
  talks := fun ht => h'.talks (h.talks ht)
  quiet := fun hq => h'.quiet (h.quiet hq)

theorem AtRest.keeps (hs : AtRest s₀) (h : Keeps s₀ s) : AtRest s := by
  intro o ho
  rw [h.sent]
  obtain heq | heq := h.pending
  · exact hs o (heq ▸ ho)
  · rw [heq] at ho
    exact absurd ho (by simp)

theorem Wf.of_core (hw : s.Wf) (h : s'.core = s.core)
    (htalks : s'.state.talks = true → s'.localSessionId ≠ 0)
    (hquiet : s'.faultInjector.Quiet → s'.reorderedDatagramValid = false) : s'.Wf := by
  simp only [UdpBackend.core, UdpCore.mk.injEq] at h
  obtain ⟨hconfig, hlocal, hremote, hnext, hrx, hreassembly, hpacket, hterminator, hvalid, hcodes,
    htxPacket, htxTerminator, htxCode, htxKind, htxId, hrecent, hhistory⟩ := h
  refine ⟨?_, htalks, ?_, ?_, ?_, ?_, ?_, ?_, hquiet⟩
  · rw [hconfig]
    exact hw.config
  · rw [hreassembly]
    exact hw.reassembly
  · rw [htxPacket]
    exact hw.length
  · rw [htxKind, htxId]
    exact hw.message
  · rw [hvalid, hhistory]
    exact hw.valid
  · rw [hhistory, hpacket, hterminator]
    exact hw.slot
  · rw [hhistory, hcodes]
    exact hw.queue

theorem Untouched.wf (h : Untouched s s') (hw : s.Wf) : s'.Wf := by
  refine hw.of_core h.core (fun ht => ?_) (fun hq => ?_)
  · rw [show s'.localSessionId = s.localSessionId from congrArg UdpCore.localSessionId h.core]
    exact hw.talks (h.talks ▸ ht)
  · rw [h.reorderedValid]
    exact hw.quiet (quiet_congr h.rules.symm hq)

/-- What does not touch the core keeps it. -/
theorem Keeps.of_core (h : s'.core = s.core) (htalks : s.state.talks = true → s'.state.talks = true)
    (hquiet : s.faultInjector.Quiet → s'.faultInjector.Quiet) : Keeps s s' := by
  have hpending := pendingOffer_congr h
  have hhistory : s'.history = s.history := congrArg UdpCore.history h
  refine ⟨congrArg UdpCore.localSessionId h, congrArg UdpCore.nextMessageId h, Or.inl hpending,
    ?_, ?_, ?_, ?_, ?_, htalks, hquiet⟩
  · rw [hhistory]
  · rw [hhistory]
  · rw [hhistory]
  · rw [hhistory]
    exact fun _ hd => hd
  · rw [hhistory]

theorem Untouched.keeps (h : Untouched s s') : Keeps s s' :=
  .of_core h.core (fun ht => h.talks.trans ht) (fun hq => quiet_congr h.rules hq)

end UdpBackend

/-! ## Settings -/

/-- The datagrams on the wire after a send. -/
def SendAnswer.publish (answer : SendAnswer) (out : List Bytes) (bytes : Bytes) : List Bytes :=
  if answer = .sent then out ++ [bytes] else out

/-- **What the code is run against.** A datagram from the peer's address is one
the peer has sent and is in the window; a session number is a new one. -/
def linkSetting (window : Party → Bytes → Prop) (Inv : Party → Party → Prop) :
    UdpSetting (List Bytes) Party where
  inv s o e := s.Wf ∧ Inv (s.party o) e
  answers s o e
    | .sendto bytes, answer, o' => o' = SendAnswer.publish answer o bytes
    | .recvfrom, answer, o' => o' = o ∧ ∀ source bytes,
        answer = ReceiveAnswer.datagram source bytes → sourceMatches s.config source = true →
          bytes ∈ e.out ∧ window (s.party o) bytes
    | .clockAndPid, answer, o' => o' = o ∧
        makeSessionId s answer.1 answer.2 ∉ s.history.sessions
        ∧ makeSessionId s answer.1 answer.2 ∉ e.history.sessions
    | .clock, _, o' => o' = o
    | .pollOut _, _, o' => o' = o
    | .pollIn _, _, o' => o' = o
    | .nanosleep _, _, o' => o' = o

/-- **What every act keeps**, and what does not need a session: giving up the
packet in progress and taking what has arrived. Besides, the number of the next
event must be a new one: no datagram has it and no call that succeeded. -/
structure Stable (window : Party → Bytes → Prop) (Inv : Party → Party → Prop) : Prop where
  act : ∀ {p p' q : Party}, p.localSessionId ≠ 0 → Inv p q → Act window q p p' → Inv p' q
  forget : ∀ {p q : Party}, Inv p q → Inv p.forget q
  takePacket : ∀ {p q : Party}, Inv p q → Inv p.takePacket q
  takeTimeCode : ∀ {p q : Party}, Inv p q → Inv p.takeTimeCode q
  fresh : ∀ {p q : Party}, Inv p q → p.nextMessageId ≠ 0 → ∀ event,
    (∀ d ∈ p.out, ¬ Piece ⟨p.localSessionId, p.nextMessageId, event⟩ d)
      ∧ ⟨p.localSessionId, p.nextMessageId, event⟩ ∉ p.history.sent

namespace UdpBackend

/-! ## Changes as acts -/

variable {s s' : UdpBackend}

theorem toList_rememberIf (s : UdpBackend) (o : List Bytes) (ackRequired : Bool)
    (type : UInt8) (messageId : UInt32) :
    (s.rememberIf ackRequired type messageId).recentMessages.toList
      = (s.party o).recentAfter ackRequired type messageId := by
  have hiff := recentlyDelivered_iff s type messageId
  unfold rememberIf rememberDelivered Party.recentAfter
  by_cases hack : ackRequired = true
  · by_cases hid : messageId = 0
    · simp [hack, hid, party]
    · by_cases hmem : ⟨type, messageId⟩ ∈ s.recentMessages.toList
      · have hseen := hiff.mpr ⟨hid, hmem⟩
        simp [hack, hseen, party, hmem]
      · have hseen : s.recentlyDelivered type messageId = false := by
          rw [← Bool.not_eq_true]
          exact fun h => hmem (hiff.mp h).2
        simp only [hack, hseen, hid, party, hmem, if_true, ne_eq, not_false_iff, and_self,
          Bool.or_false, beq_iff_eq, if_false, RingBuffer.toList_remember, Party.rememberKey,
          RingBuffer.toList_length]
  · simp [hack, party]

theorem Wf.rememberIf (hw : s.Wf) (ackRequired : Bool) (type : UInt8) (messageId : UInt32) :
    (s.rememberIf ackRequired type messageId).Wf := by
  rw [rememberIf_eq]
  exact ⟨hw.config, hw.talks, hw.reassembly, hw.length, hw.message, hw.valid, hw.slot, hw.queue,
    hw.quiet⟩

theorem party_rememberIf (s : UdpBackend) (ackRequired : Bool) (type : UInt8)
    (messageId : UInt32) (o : List Bytes) :
    (s.rememberIf ackRequired type messageId).party o
      = { s.party o with recent := (s.party o).recentAfter ackRequired type messageId } := by
  rw [← toList_rememberIf, rememberIf_eq]
  rfl

theorem Wf.clearReassembly (hw : s.Wf) : s.clearReassembly.Wf :=
  ⟨hw.config, hw.talks, hw.reassembly.reset, hw.length, hw.message, hw.valid, hw.slot, hw.queue,
    hw.quiet⟩

theorem Wf.acceptPacket (hw : s.Wf) (messageId : UInt32) (packet : Packet) :
    (s.acceptPacket messageId packet).Wf where
  config := hw.config
  talks := hw.talks
  reassembly := hw.reassembly
  length := hw.length
  message := hw.message
  valid := rfl
  slot := fun d hd => by
    rw [← Option.some.inj hd]
    rfl
  queue := hw.queue
  quiet := hw.quiet

theorem Wf.acceptTimeCode (hw : s.Wf) (messageId : UInt32) (code : TimeCode)
    (h : s.timeCodes.count < udpTimeCodeQueueDepth) : (s.acceptTimeCode messageId code h).Wf where
  config := hw.config
  talks := hw.talks
  reassembly := hw.reassembly
  length := hw.length
  message := hw.message
  valid := hw.valid
  slot := hw.slot
  queue := by
    show (s.history.queue ++ [_]).map Delivery.event = (s.timeCodes.push code h).toList.map _
    rw [RingBuffer.toList_push, List.map_append, List.map_append, hw.queue]
    rfl
  quiet := hw.quiet

/-- The slot of the code is free exactly when that of the history is. -/
theorem Wf.slot_eq_none (hw : s.Wf) (h : ¬ s.pendingPacketValid = true) :
    s.history.slot = none := by
  rw [hw.valid] at h
  simpa using h

/-- The queue of the code is as long as that of the history. -/
theorem Wf.queue_length (hw : s.Wf) : s.history.queue.length = s.timeCodes.count := by
  have := congrArg List.length hw.queue
  simpa using this

/-- Retiring a session touches nothing that matters. -/
theorem untouched_retireRemoteSession (s : UdpBackend) : Untouched s s.retireRemoteSession := by
  unfold retireRemoteSession rememberRetiredSession
  split_ifs <;> exact ⟨rfl, rfl, rfl, rfl, rfl⟩

theorem untouched_restartPendingTx (s : UdpBackend) : Untouched s s.restartPendingTx := by
  unfold restartPendingTx
  split_ifs <;> exact ⟨rfl, rfl, rfl, rfl, rfl⟩

theorem party_adoptRemoteSession (s : UdpBackend) (session : UInt64) (o : List Bytes) :
    (s.adoptRemoteSession session).party o = (s.party o).adopt session := by
  unfold adoptRemoteSession
  rw [(untouched_restartPendingTx _).party, ← (untouched_retireRemoteSession s).party]
  rfl

theorem Wf.adoptRemoteSession (hw : s.Wf) (session : UInt64) :
    (s.adoptRemoteSession session).Wf := by
  have hw' := (untouched_retireRemoteSession s).wf hw
  exact (untouched_restartPendingTx _).wf ⟨hw'.config, hw'.talks, hw'.reassembly.reset, hw'.length,
    hw'.message, hw'.valid, hw'.slot, hw'.queue, hw'.quiet⟩

/-- The message of a datagram that was not found among those remembered. -/
theorem Fresh.unseen {type : UInt8} {header : Header} (h : s.Fresh type header) (o : List Bytes) :
    (s.party o).Unseen (hasFlag header.flags flagAckRequired) type header.messageId := by
  intro hack hid hmem
  refine h ?_
  rw [hack, Bool.true_and, recentlyDelivered_iff]
  exact ⟨hid, hmem⟩

theorem Wf.sendable (hw : s.Wf) (ht : s.state.talks = true) : s.Sendable :=
  sendable_of_valid hw.config hw.length (hw.talks ht)

/-- A change of the link state and of what only counters and timers depend on. -/
theorem keeps_refl_of (h : s'.core = s.clearReassembly.core)
    (htalks : s.state.talks = true → s'.state.talks = true)
    (hquiet : s.faultInjector.Quiet → s'.faultInjector.Quiet) : Keeps s s' := by
  have hcleared : Keeps s s.clearReassembly := ⟨rfl, rfl, Or.inl rfl, rfl, rfl, rfl, fun _ h => h,
    List.prefix_refl _, fun h => h, fun h => h⟩
  exact hcleared.trans (.of_core h htalks hquiet)

/-- An acceptance and what is remembered of it. -/
theorem Keeps.rememberIf (h : Keeps s s') (ackRequired : Bool) (type : UInt8) (messageId : UInt32) :
    Keeps s (s'.rememberIf ackRequired type messageId) := by
  rw [rememberIf_eq]
  exact ⟨h.session, h.next, h.pending, h.sent, h.life, h.taken, h.slot, h.queue, h.talks, h.quiet⟩

theorem Sending.keeps (h : Sending s s') : Keeps s s' :=
  .of_core h.alike.core (fun ht => h.alike.state ▸ ht) (fun hq => quiet_congr h.alike.rules hq)

theorem Refreshing.keeps (h : Refreshing s s') : Keeps s s' := by
  cases h with
  | expire h => exact keeps_refl_of rfl (fun h => h) (fun h => h)
  | lose h =>
    rw [markPeerLost_eq]
    exact keeps_refl_of rfl (fun _ => rfl) (fun h => h)
  | recover h => exact .of_core rfl (fun _ => rfl) (fun h => h)

theorem Background.keeps (hw : s.Wf) (h : Background s s') : Keeps s s' := by
  cases h with
  | retry now honce hkind h | drop | fragment now =>
    exact Keeps.of_core rfl (fun h => h) (fun h => h)
  | fail hkind h =>
    rw [failPending_eq]
    exact keeps_refl_of rfl (fun _ => rfl) (fun h => h)
  | acknowledge hears htype hack hkind hid =>
    exact ⟨rfl, rfl, Or.inr rfl, rfl, rfl, rfl, fun _ h => h, List.prefix_refl _, fun h => h,
      fun h => h⟩
  | push h hpart =>
    exact ⟨rfl, rfl, Or.inl rfl, rfl, rfl, rfl, fun _ h => h, List.prefix_refl _, fun h => h,
      fun h => h⟩
  | timeCode code h hcode hvalid hroom =>
    refine Keeps.rememberIf ?_ _ _ _
    exact ⟨rfl, rfl, Or.inl rfl, rfl, rfl, rfl, fun _ h => h, List.prefix_append _ _, fun h => h,
      fun h => h⟩
  | whole h hwhole hfree | reassembled h hactive hsame hall hfree =>
    refine Keeps.rememberIf ?_ _ _ _
    have hslot := hw.slot_eq_none (by simp [hfree])
    exact ⟨rfl, rfl, Or.inl rfl, rfl, rfl, rfl, fun d hd => absurd (hslot.symm.trans hd) (by simp),
      List.prefix_refl _, fun h => h, fun h => h⟩

theorem untouched_noteHeard (s : UdpBackend) (now : UInt64) : Untouched s (s.noteHeard now) := by
  unfold noteHeard
  dsimp only
  split_ifs with hstate
  · refine ⟨rfl, rfl, rfl, rfl, ?_⟩
    obtain h | h := hstate <;> rw [h] <;> rfl
  · exact ⟨rfl, rfl, rfl, rfl, rfl⟩

theorem keeps_notice (s : UdpBackend) (now : UInt64) : Keeps s (s.notice now) := by
  have hseen : Keeps s { s with peerSeen := true } := .of_core rfl (fun h => h) (fun h => h)
  exact hseen.trans (untouched_noteHeard _ now).keeps

theorem keeps_adoptRemoteSession (s : UdpBackend) (session : UInt64) :
    Keeps s (s.adoptRemoteSession session) := by
  rw [adoptRemoteSession_eq]
  exact ⟨rfl, rfl, Or.inl rfl, rfl, rfl, rfl, fun _ h => h, List.prefix_refl _, fun h => h,
    fun h => h⟩

section

variable {window : Party → Bytes → Prop} {Inv : Party → Party → Prop}
  (hI : Stable window Inv) {s s' : UdpBackend} {o : List Bytes} {e : Party}
include hI

variable {P : UdpBackend → List Bytes → Prop} {n : Nat} {result : Result}
  {source : SocketAddress}

omit hI in
theorem inv_untouched (h : Untouched s s') (hi : (linkSetting window Inv).inv s o e) :
    (linkSetting window Inv).inv s' o e :=
  ⟨h.wf hi.1, by rw [h.party o]; exact hi.2⟩

/-- Giving up the packet in progress, and perhaps the peer. -/
theorem inv_cleared (hcore : s'.core = s.clearReassembly.core)
    (hrules : s'.faultInjector.rules = s.faultInjector.rules)
    (hheld : s'.reorderedDatagram = s.reorderedDatagram
      ∧ s'.reorderedDatagramValid = s.reorderedDatagramValid)
    (htalks : s'.state.talks = true → s.localSessionId ≠ 0)
    (hi : (linkSetting window Inv).inv s o e) : (linkSetting window Inv).inv s' o e := by
  obtain ⟨hw, hi⟩ := hi
  refine ⟨hw.clearReassembly.of_core hcore (fun ht => ?_) (fun hq => ?_), ?_⟩
  · rw [show s'.localSessionId = s.localSessionId from congrArg UdpCore.localSessionId hcore]
    exact htalks ht
  · rw [hheld.2]
    exact hw.quiet (quiet_congr hrules.symm hq)
  · rw [party_congr hcore hrules hheld.1 hheld.2]
    exact hI.forget hi

theorem inv_sending (ht : s.state.talks = true) (h : Sending s s')
    (hi : (linkSetting window Inv).inv s o e) : (linkSetting window Inv).inv s' o e := by
  cases h with
  | decide type =>
    exact inv_untouched (s := s) ⟨rfl, s.faultInjector.injectTransport_rules type, rfl, rfl, rfl⟩ hi
  | hold h hrules =>
    exact ⟨hi.1.of_core rfl hi.1.talks (fun hq => absurd hq hrules), hI.act (hi.1.talks ht) hi.2
      (Act.hold (h (hi.1.sendable ht) o) hrules)⟩
  | release =>
    exact ⟨hi.1.of_core rfl hi.1.talks (fun _ => rfl), hI.act (hi.1.talks ht) hi.2 Act.release⟩
  | _ => exact inv_untouched (s := s) ⟨rfl, rfl, rfl, rfl, rfl⟩ hi

theorem inv_refreshing (h : Refreshing s s') (hi : (linkSetting window Inv).inv s o e) :
    (linkSetting window Inv).inv s' o e := by
  cases h with
  | expire h => exact inv_cleared (s := s) hI rfl rfl ⟨rfl, rfl⟩ hi.1.talks hi
  | lose h =>
    rw [markPeerLost_eq]
    exact inv_cleared (s := s) hI rfl rfl ⟨rfl, rfl⟩ (fun _ => hi.1.talks (by rw [h]; rfl)) hi
  | recover h =>
    refine inv_untouched (s := s) ⟨rfl, rfl, rfl, rfl, ?_⟩ hi
    rw [h]
    rfl

/-- **What is accepted is an act.** -/
theorem inv_background (hrest : AtRest s) (ht : s.state.talks = true) (h : Background s s')
    (hi : (linkSetting window Inv).inv s o e) : (linkSetting window Inv).inv s' o e := by
  have hw := hi.1
  have hact : ∀ {p'}, Act window e (s.party o) p' → Inv p' e := hI.act (hw.talks ht) hi.2
  cases h with
  | fail hkind h =>
    rw [failPending_eq]
    exact inv_cleared (s := s) hI rfl rfl ⟨rfl, rfl⟩ (fun _ => hw.talks ht) hi
  | acknowledge hears htype hack hkind hid =>
    obtain ⟨offer, hoffer⟩ := Option.ne_none_iff_exists'.mp
      (fun hnone => hkind ((pendingOffer_eq_none_iff s).mp hnone))
    have hmessage : offer.messageId = s.pendingTxMessageId := by
      unfold pendingOffer at hoffer
      obtain ⟨event, -, rfl⟩ := Option.map_eq_some_iff.mp hoffer
      rfl
    have hparty : s.acknowledgePending.party o = (s.party o).acknowledge offer := by
      unfold acknowledgePending
      rw [hoffer]
      rfl
    refine ⟨⟨hw.config, hw.talks, hw.reassembly, Nat.zero_le _, fun h => absurd rfl h, hw.valid,
      hw.slot, hw.queue, hw.quiet⟩, ?_⟩
    rw [hparty]
    exact hact (Act.acknowledge (hears.heard o) htype hack hoffer (hid.trans hmessage.symm)
      (hrest offer hoffer))
  | push h hpart =>
    exact ⟨⟨hw.config, hw.talks, hw.reassembly.push _ _, hw.length, hw.message, hw.valid, hw.slot,
      hw.queue, hw.quiet⟩, hact (Act.push (h.hears.heard o) h.type hpart (h.fresh.unseen o))⟩
  | timeCode code h hcode hvalid hroom =>
    refine ⟨(hw.acceptTimeCode _ _ hroom).rememberIf _ _ _, ?_⟩
    rw [party_rememberIf, hcode]
    refine hact (Act.acceptTimeCode (h.hears.heard o) h.type (h.fresh.unseen o) ?_)
    show s.history.queue.length < _
    rwa [hw.queue_length]
  | whole h hwhole hfree =>
    refine ⟨(hw.acceptPacket _ _).rememberIf _ _ _, ?_⟩
    rw [party_rememberIf]
    exact hact (Act.acceptWhole (h.hears.heard o) h.type hwhole (h.fresh.unseen o)
      (hw.slot_eq_none (by simp [hfree])))
  | reassembled h hactive hsame hall hfree =>
    refine ⟨(hw.acceptPacket _ _).clearReassembly.rememberIf _ _ _, ?_⟩
    rw [party_rememberIf]
    exact hact (Act.acceptReassembled (h.hears.heard o) h.type (h.fresh.unseen o)
      (hw.slot_eq_none (by simp [hfree])) hactive hsame.1.symm hsame.2.2.2.symm hall)
  | _ => exact inv_untouched (s := s) ⟨rfl, rfl, rfl, rfl, rfl⟩ hi

/-- **A datagram arrives.** What comes from the peer's address was sent by the
peer. -/
theorem inv_receiveDatagram {bytes : Bytes} (ht : s.state.talks = true)
    (hi : (linkSetting window Inv).inv s o e)
    (hpeer : sourceMatches s.config source = true → bytes ∈ e.out ∧ window (s.party o) bytes) :
    (linkSetting window Inv).inv (s.receiveDatagram source bytes) o e := by
  have hw := hi.1
  refine ⟨⟨hw.config, hw.talks, hw.reassembly, hw.length, hw.message, hw.valid, hw.slot, hw.queue,
    hw.quiet⟩, ?_⟩
  by_cases hmatch : sourceMatches s.config source = true
  · have hparty : (s.receiveDatagram source bytes).party o = (s.party o).receive bytes := by
      unfold receiveDatagram
      rw [if_pos hmatch]
      rfl
    rw [hparty]
    exact hI.act (hw.talks ht) hi.2 (Act.receive (hpeer hmatch).1 (hpeer hmatch).2)
  · have hparty : (s.receiveDatagram source bytes).party o = s.party o := by
      unfold receiveDatagram
      rw [if_neg hmatch]
      rfl
    rw [hparty]
    exact hi.2

/-- **The peer has a new session.** -/
theorem inv_adopt {bytes : Bytes} {sessionId : UInt64} (ht : s.state.talks = true)
    (h : Adopts s source bytes sessionId)
    (hi : (linkSetting window Inv).inv (s.receiveDatagram source bytes) o e) :
    (linkSetting window Inv).inv ((s.receiveDatagram source bytes).adoptRemoteSession sessionId)
      o e := by
  obtain ⟨header, hdecode, hlength, -, htype, rfl⟩ := h.keepalive
  refine ⟨hi.1.adoptRemoteSession _, ?_⟩
  rw [party_adoptRemoteSession]
  refine hI.act (hi.1.talks ht) hi.2 (Act.adopt (d := bytes) ?_ ⟨hdecode, hlength, rfl⟩ htype
    (fun heq => h.other heq.symm))
  show List.getLast? (if sourceMatches s.config source then s.history.received ++ [bytes]
    else s.history.received) = some bytes
  rw [if_pos h.source, List.getLast?_concat]

omit hI in
/-- Only a send is seen by the peer. -/
theorem asks_link : Asks (linkSetting window Inv) P := by
  intro s o e q r o' hq hi hs hr
  cases q with
  | sendto d => cases hq
  | recvfrom | clockAndPid =>
    obtain ⟨rfl, -⟩ := hr
    exact ⟨hi, hs⟩
  | _ =>
    obtain rfl := hr
    exact ⟨hi, hs⟩

/-- **Sending is an act.** -/
theorem upkeep_link {P : UdpBackend → Prop} (hP : ∀ {s s'}, Sending s s' → P s → P s') :
    Upkeep (linkSetting window Inv) (fun s _ => P s) where
  ask := fun hq hi hr => (asks_link (P := fun _ _ => True) hq hi trivial hr).1
  lasts := fun _ _ _ hs => hs
  emit := by
    intro s o e d r o' ht hd hi hs hr
    obtain rfl : o' = SendAnswer.publish r o d := hr
    refine ⟨⟨hi.1, ?_⟩, hs⟩
    unfold SendAnswer.publish
    split_ifs
    · exact hI.act (hi.1.talks ht) hi.2 (Act.emit (hd (hi.1.sendable ht) o))
    · exact hi.2
  sending := fun ht hsend hi hs => ⟨inv_sending hI ht hsend hi, hP hsend hs⟩

/-- **Whatever the acts keep survives the background of every call**, which keeps what
`Keeps` says. -/
theorem tolerates_link {s₀ : UdpBackend} (hrest : AtRest s₀) :
    Tolerates (linkSetting window Inv) (fun s _ => Keeps s₀ s) where
  toUpkeep := upkeep_link hI (fun hsend hs => hs.trans hsend.keeps)
  refresh := fun h hi hs => ⟨inv_refreshing hI h hi, hs.trans h.keeps⟩
  change := fun ht h hi hs => ⟨inv_background hI (hrest.keeps hs) ht h hi, hs.trans (h.keeps hi.1)⟩
  see := by
    intro s o e hi
    exact inv_untouched (s := s) ⟨rfl, rfl, rfl, rfl, rfl⟩ hi
  hear := fun now hi => inv_untouched (untouched_noteHeard _ now) hi
  note := fun {s _ _} _ _ hi => inv_untouched (s := s) ⟨rfl, rfl, rfl, rfl, rfl⟩ hi
  notice := fun now _ _ hs => hs.trans (keeps_notice _ now)
  receive := by
    rintro s o e source bytes o' ht hi hs ⟨rfl, hpeer⟩
    refine ⟨inv_receiveDatagram hI ht hi (hpeer source bytes rfl), hs.trans ?_⟩
    exact ⟨rfl, rfl, Or.inl rfl, rfl, rfl, rfl, fun _ h => h, List.prefix_refl _, fun h => h,
      fun h => h⟩
  adopt := fun ht _ _ hadopts hi => inv_adopt hI ht hadopts hi
  adopted := fun now _ _ hs => (hs.trans (keeps_adoptRemoteSession _ _)).trans (keeps_notice _ now)

/-! ## Sending exactly -/

variable {s₀ : UdpBackend} {o₀ : List Bytes}

omit hI in
/-- What sending a datagram may lead to: without rules it is on the wire if the
send succeeds, and nothing is otherwise. -/
structure AfterSend (s₀ : UdpBackend) (o₀ : List Bytes) (bytes : Bytes)
    (s : UdpBackend) (result : Result) (o : List Bytes) : Prop extends Alike s₀ s where
  exact : s₀.faultInjector.Quiet →
    (result = .ok ∧ o = o₀ ++ [bytes]) ∨ (result ≠ .ok ∧ o = o₀)

theorem triple_raw {bytes : Bytes} (fuel : Nat) (timeoutUs : Timeout)
    (ht : s₀.state.talks = true) (hd : s₀.Owns bytes) :
    Triple (linkSetting window Inv) (Here s₀ o₀)
      (sendDatagramRaw fuel bytes timeoutUs)
      (Outcome (Here s₀ o₀) (fun s o => s = s₀ ∧ o = o₀ ++ [bytes])) := by
  have hlink : Upkeep (linkSetting window Inv) (fun _ _ => True) := upkeep_link hI
    (fun _ _ => trivial)
  refine triple_sendDatagramRaw ⟨asks_link, ?_, ?_⟩ fuel timeoutUs
  · rintro s o e o' hi ⟨rfl, rfl⟩ hr
    exact ⟨(hlink.emit ht (hd s rfl) hi trivial hr).1, rfl, hr⟩
  · rintro s o e r o' hr' hi ⟨rfl, rfl⟩ hr
    refine ⟨(hlink.emit ht (hd s rfl) hi trivial hr).1, rfl, ?_⟩
    rw [show o' = SendAnswer.publish r o bytes from hr, SendAnswer.publish, if_neg hr']

/-- **Sending a datagram.** -/
theorem triple_sendDatagram (s₀ : UdpBackend) {bytes : Bytes} (fuel : Nat) (timeoutUs : Timeout)
    (ht : s₀.state.talks = true) (hd : s₀.Owns bytes) :
    Triple (linkSetting window Inv) (Here s₀ o₀)
      (sendDatagram fuel bytes timeoutUs) (AfterSend s₀ o₀ bytes) := by
  by_cases hq : s₀.faultInjector.Quiet
  swap
  · exact (tends_send (upkeep_link hI (P := fun _ => True) (fun _ _ => trivial)) fuel timeoutUs hd
      ⟨trivial, ht⟩).post (fun s r o hs => ⟨hs.2.2, fun hq' => absurd hq' hq⟩)
  -- without rules nothing is held back and no rule decides
  have hraw : ∀ s₁, Sending s₀ s₁ ∨ s₁ = s₀ → Triple (linkSetting window Inv)
      (Here s₁ o₀) (sendDatagramRaw fuel bytes timeoutUs)
      (AfterSend s₀ o₀ bytes) := by
    intro s₁ hs₁
    have halike : Alike s₀ s₁ := hs₁.elim Sending.alike (fun heq => heq ▸ .refl s₀)
    refine (triple_raw hI fuel timeoutUs (halike.state ▸ ht)
      (fun s' hcore => hd s' (hcore.trans halike.core))).post (fun s r o hs => ?_)
    obtain ⟨hok, rfl, ho⟩ | ⟨hne, rfl, ho⟩ := hs
    · exact ⟨halike, fun _ => Or.inl ⟨hok, ho⟩⟩
    · exact ⟨halike, fun _ => Or.inr ⟨hne, ho⟩⟩
  refine Triple.get_bind (fun s o e hso hi => ?_)
  obtain ⟨rfl, rfl⟩ := hso
  refine Triple.ite (fun hheld => absurd ((hi.1.quiet hq).symm.trans hheld) (by decide))
    (fun _ => ?_)
  split
  · exact hraw s (Or.inr rfl)
  · next header _ =>
    refine Triple.bind (Q := fun s' _ o' => s' = (s.decideFault header.type).2 ∧ o' = o) ?_
      (fun _ => ?_)
    · rintro s' o' e' ⟨rfl, rfl⟩ hi'
      exact ⟨inv_sending hI ht (.decide s' header.type) hi', rfl, rfl⟩
    · have hnone : (s.decideFault header.type).1.action = FaultAction.none := by
        rw [decideFault, hq.injectTransport]
      have hdecided : sendDecided fuel (s.decideFault header.type).1 bytes timeoutUs
          = sendDatagramRaw fuel bytes timeoutUs := by
        unfold sendDecided
        rw [hnone]
        rfl
      rw [hdecided]
      exact hraw _ (Or.inl (.decide s header.type))

/-- A datagram with the next sequence number. -/
theorem triple_sendNumbered (s₀ : UdpBackend) {bytes : Bytes} (fuel : Nat)
    (timeoutUs : Timeout) (ht : s₀.state.talks = true) (hd : s₀.Owns bytes) :
    Triple (linkSetting window Inv) (Here s₀.takeSequence.2 o₀)
      (sendDatagram fuel bytes timeoutUs) (AfterSend s₀ o₀ bytes) :=
  (triple_sendDatagram hI s₀.takeSequence.2 fuel timeoutUs ht hd).post
    (fun _ _ _ h => ⟨(Sending.number s₀).alike.trans h.toAlike, h.exact⟩)

omit hI in
/-- What some sending may lead to: without rules, only datagrams with `K` are
new on the wire. -/
structure Adds (K : Bytes → Prop) (s₀ : UdpBackend) (o₀ : List Bytes)
    (s : UdpBackend) (o : List Bytes) : Prop extends Alike s₀ s where
  new : s₀.faultInjector.Quiet → ∀ d ∈ o, d ∈ o₀ ∨ K d

omit hI in
/-- A keepalive. -/
def Keepalive (d : Bytes) : Prop :=
  ∃ header payload, Decodes d header payload ∧ header.type = typeKeepalive

/-- A change that sending makes, in a given state. -/
theorem triple_sending {f : UdpBackend → UdpBackend} (ht : s₀.state.talks = true)
    (h : Sending s₀ (f s₀)) :
    Triple (linkSetting window Inv) (Here s₀ o₀) (modify f)
      (fun s _ o => s = f s₀ ∧ o = o₀) := by
  rintro s o e ⟨rfl, rfl⟩ hi
  exact ⟨inv_sending hI ht h hi, rfl, rfl⟩

omit hI in
/-- After a success a time is noted. -/
theorem triple_note {f : UInt64 → UdpBackend → UdpBackend} (hf : ∀ now s, Untouched s (f now s))
    (hP : ∀ now s o, P s o → P (f now s) o) :
    Triple (linkSetting window Inv) P (do
      let now ← nowUs
      modify (f now)
      return result) (fun s r o => P s o ∧ r = result) := by
  refine Triple.bind (tends_nowUs asks_link) (fun now => Triple.bind
    (Q := fun s _ o => P s o) (fun s o e hs hi => ?_)
    (fun _ => Triple.ret (fun _ _ hs => ⟨hs, rfl⟩)))
  exact ⟨inv_untouched (hf now s) hi, hP now s o hs⟩

theorem triple_sendKeepalive (fuel : Nat) (timeoutUs : Timeout) (ht : s₀.state.talks = true) :
    Triple (linkSetting window Inv) (Here s₀ o₀) (sendKeepalive fuel timeoutUs)
      (fun s _ o => Adds Keepalive s₀ o₀ s o) := by
  refine Triple.get_bind (fun s o e hso hi => ?_)
  obtain ⟨rfl, rfl⟩ := hso
  refine Triple.bind (triple_sending hI (f := fun _ => s.takeSequence.2) ht (.number s))
    (fun _ => ?_)
  split
  · refine Triple.ret ?_
    rintro _ _ ⟨rfl, rfl⟩
    exact ⟨(Sending.number s).alike, fun _ d hd => Or.inl hd⟩
  next bytes hbytes =>
  have hkeepalive : Keepalive bytes := by
    obtain ⟨hvalid, rfl⟩ := encodeHeader_eq_some hbytes
    exact ⟨_, _, by simpa using decodes_headerBytes [] hvalid rfl, rfl⟩
  refine Triple.bind ((triple_sendNumbered hI s fuel timeoutUs ht (owns_keepalive hbytes)).post
    (fun s' r o' (h : AfterSend s o bytes s' r o') => show Adds Keepalive s o s' o' from ?_))
    (fun result => Triple.ite (fun _ => ?_) (fun _ => Triple.ret (fun _ _ h => h)))
  · refine ⟨h.toAlike, fun hq d hd => ?_⟩
    obtain ⟨-, rfl⟩ | ⟨-, rfl⟩ := h.exact hq
    · obtain hold | hnew := List.mem_append.mp hd
      · exact Or.inl hold
      · exact Or.inr (List.mem_singleton.mp hnew ▸ hkeepalive)
    · exact Or.inl hd
  · exact (triple_note (P := fun s' o' => Adds Keepalive s o s' o')
      (f := fun now b => { b with lastKeepaliveTxUs := now })
      (fun now s' => ⟨rfl, rfl, rfl, rfl, rfl⟩)
      (fun now s' o' h => ⟨h.toAlike.trans ⟨rfl, rfl, rfl, rfl⟩, h.new⟩)).post
      (fun _ _ _ h => h.1)

/-! ## The pending event -/

omit hI in
/-- A datagram with bytes of a packet up to a position at most. -/
def EndsBy (position : Nat) (d : Bytes) : Prop :=
  ∃ header payload, Decodes d header payload
    ∧ header.fragmentOffset.toNat + header.payloadSize.toNat ≤ position

omit hI in
/-- **A transmission that fails leaves something unsent**: nothing is new on the
wire, or what is new ends before a position of the packet. -/
structure Transmits (from_ : Nat) (s₀ : UdpBackend) (o₀ : List Bytes) (s : UdpBackend)
    (result : Result) (o : List Bytes) : Prop extends Alike s₀ s where
  unsent : s₀.faultInjector.Quiet → result ≠ .ok →
    (∀ d ∈ o, d ∈ o₀) ∨ (s₀.pendingTxKind = .data ∧ ∃ position, from_ ≤ position
      ∧ position < s₀.pendingTxPacket.length ∧ ∀ d ∈ o, d ∈ o₀ ∨ EndsBy position d)

omit hI in
/-- A single datagram that is sent is all of the transmission. -/
theorem AfterSend.transmits {bytes : Bytes} (h : AfterSend s₀ o₀ bytes s result o) :
    Transmits n s₀ o₀ s result o := by
  refine ⟨h.toAlike, fun hq hne => Or.inl (fun d hd => ?_)⟩
  obtain ⟨hok, -⟩ | ⟨-, rfl⟩ := h.exact hq
  · exact absurd hok hne
  · exact hd

omit hI in
theorem Transmits.none (halike : Alike s₀ s) :
    Transmits n s₀ o₀ s result o₀ := ⟨halike, fun _ _ => Or.inl (fun _ hd => hd)⟩

/-- **The loop over the fragments.** By induction on the turns: what was sent
before the turn at an offset ends by that offset. -/
theorem triple_transmitFragments (fuel : Nat) (timeoutUs : Timeout) (n : Nat) :
    ∀ {s₀ : UdpBackend} {o₀ : List Bytes} (offset : Nat), s₀.state.talks = true →
      s₀.pendingTxKind = .data → s₀.Sendable → s₀.StartsFragment offset →
      Triple (linkSetting window Inv) (Here s₀ o₀)
        (transmitFragments fuel timeoutUs n offset)
        (fun s r o => Transmits offset s₀ o₀ s r o) := by
  induction n with
  | zero => exact fun _ _ _ _ _ => Triple.hang
  | succ n ih =>
    intro s₀ o₀ offset ht hkind hs hstart
    refine Triple.get_bind (fun s o e hso hi => ?_)
    obtain ⟨rfl, rfl⟩ := hso
    refine Triple.bind (triple_sending hI (f := fun _ => s.takeSequence.2) ht (.number s))
      (fun _ => ?_)
    split
    · refine Triple.ret ?_
      rintro _ _ ⟨rfl, rfl⟩
      exact .none (Sending.number s).alike
    next bytes hbytes =>
    refine Triple.bind (triple_sendNumbered hI s fuel timeoutUs ht
      (owns_fragment hkind hstart hbytes)) (fun result => ?_)
    obtain ⟨hvalid, rfl⟩ := encodeHeader_eq_some hbytes
    have hdec := decodes_headerBytes (s.fragmentPayload offset) hvalid
      (fragment_pieceOf hs hstart).size.symm
    refine Triple.of_state (fun s₁ o₁ _ hs₁ _ => Triple.ite (fun _ => Triple.ret ?_)
      (fun hok => Triple.ite (fun hmore => ?_) (fun _ => Triple.ret ?_)))
    · rintro _ _ ⟨rfl, rfl⟩
      exact hs₁.transmits
    · -- the next turn starts where this fragment ends
      have halike : Alike s s₁ := hs₁.toAlike
      have hcongr := fragments_congr halike.core (offset + s.fragmentSize offset)
      refine (ih _ (halike.state ▸ ht) ((congrArg UdpCore.pendingTxKind halike.core).trans hkind)
        (hcongr.2.2.1 hs) (hcongr.2.2.2 (startsFragment_next hmore))).post (fun s₂ r o₂ h => ?_)
      refine ⟨halike.trans h.toAlike, fun hq hne => Or.inr ⟨hkind, ?_⟩⟩
      have hsize : (s.fragmentHeader offset).fragmentOffset.toNat
          + (s.fragmentHeader offset).payloadSize.toNat = offset + s.fragmentSize offset := by
        rw [fragmentHeader_fragmentOffset hs hstart, fragmentHeader_payloadSize hs hstart]
      obtain ⟨-, rfl⟩ | ⟨hno, -⟩ := hs₁.exact hq
      · obtain hnone | ⟨-, k, hk, hlt, hends⟩ := h.unsent (quiet_congr halike.rules hq) hne
        · refine ⟨offset + s.fragmentSize offset, Nat.le_add_right _ _, hmore, fun d hd => ?_⟩
          obtain hold | hnew := List.mem_append.mp (hnone d hd)
          · exact Or.inl hold
          · rw [List.mem_singleton] at hnew
            exact Or.inr ⟨_, _, hnew ▸ hdec, hsize.le⟩
        · refine ⟨k, le_trans (Nat.le_add_right _ _) hk, hcongr.2.1 ▸ hlt, fun d hd => ?_⟩
          obtain hold | hnew := hends d hd
          · obtain hold | hnew := List.mem_append.mp hold
            · exact Or.inl hold
            · rw [List.mem_singleton] at hnew
              exact Or.inr ⟨_, _, hnew ▸ hdec, hsize.le.trans hk⟩
          · exact Or.inr hnew
      · exact absurd (not_not.mp hok) hno
    · rintro _ _ ⟨rfl, rfl⟩
      exact ⟨hs₁.toAlike, fun _ hne => absurd rfl hne⟩

theorem triple_transmitTimeCode (fuel : Nat) (timeoutUs : Timeout) (ht : s₀.state.talks = true)
    (hkind : s₀.pendingTxKind = .timeCode) :
    Triple (linkSetting window Inv) (Here s₀ o₀)
      (transmitTimeCode fuel timeoutUs) (fun s r o => Transmits 0 s₀ o₀ s r o) := by
  refine Triple.get_bind (fun s o e hso hi => ?_)
  obtain ⟨rfl, rfl⟩ := hso
  refine Triple.bind (triple_sending hI (f := fun _ => s.takeSequence.2) ht (.number s))
    (fun _ => ?_)
  split
  · refine Triple.ret ?_
    rintro _ _ ⟨rfl, rfl⟩
    exact .none (Sending.number s).alike
  · next bytes hbytes =>
    exact (triple_sendNumbered hI s fuel timeoutUs ht
      (owns_timeCode hkind hbytes)).post (fun s' r o' h => h.transmits)

/-- **Transmitting the pending event.** -/
theorem triple_transmitPending (fuel : Nat) (timeoutUs : Timeout) (ht : s₀.state.talks = true) :
    Triple (linkSetting window Inv) (Here s₀ o₀)
      (transmitPending fuel timeoutUs) (fun s r o => Transmits 0 s₀ o₀ s r o) := by
  refine Triple.get_bind (fun s o e hso hi => ?_)
  obtain ⟨rfl, rfl⟩ := hso
  refine Triple.ite (fun _ => Triple.ret ?_) (fun hpending => Triple.bind
    (Q := fun s' r o' => Transmits 0 s o s' r o') ?_ (fun result => Triple.ite (fun hok => ?_)
      (fun _ => Triple.ret (fun _ _ h => h))))
  · rintro _ _ ⟨rfl, rfl⟩
    exact .none (.refl _)
  · exact Triple.ite (fun hcode => triple_transmitTimeCode hI fuel timeoutUs ht hcode)
      (fun hcode => triple_transmitFragments hI fuel timeoutUs _ _ ht
        (kind_eq_data (not_or.mp hpending).1 hcode) (hi.1.sendable ht) (Or.inl rfl))
  · exact Triple.consequence (triple_note (P := fun s' _ => Alike s s')
      (fun now s' => ⟨rfl, rfl, rfl, rfl, rfl⟩) (fun now s' o' h => h.trans ⟨rfl, rfl, rfl, rfl⟩))
      (fun _ _ h => h.toAlike)
      (fun s' r o' h => ⟨h.1, fun _ hne => absurd h.2 hne⟩)

end

end UdpBackend
