import SpwKit.Ethernet.UdpRefinement

/-!
# The public calls of a UDP backend

Each call keeps what the acts keep, and ends as it begins: with a pending event
only if its call has succeeded. The calls that send also say what they add to
the events sent, and that an event whose call fails was never sent completely
(`triple_sendOffered`), which is why it is never delivered.
-/

open VspwTp Interactive

namespace UdpBackend

/-- **What a call leaves behind**: a backend at rest, the event it has received at
the end of those received before, and without fault rules the same for the event
it has sent. -/
structure CallPost (call : UdpCall) (s₀ s : UdpBackend) (r : UdpReturn) : Prop where
  rest : AtRest s
  quiet : s₀.faultInjector.Quiet → s.faultInjector.Quiet
  sent : s₀.faultInjector.Quiet → s.history.sent.map Offer.event
    = s₀.history.sent.map Offer.event ++ (call.sentEvent r).toList
  taken : s.history.taken.map Delivery.event
    = s₀.history.taken.map Delivery.event ++ (call.receivedEvent r).toList

/-- A call that changes nothing the others see, and neither sends nor receives. -/
theorem CallPost.of_keeps {call : UdpCall} {s₀ s : UdpBackend} {r : UdpReturn}
    (hs : AtRest s₀) (h : Keeps s₀ s) (hsent : call.sentEvent r = none)
    (hreceived : call.receivedEvent r = none) : CallPost call s₀ s r :=
  ⟨hs.keeps h, h.quiet, fun _ => by rw [h.sent, hsent]; exact (List.append_nil _).symm,
    by rw [h.taken, hreceived]; exact (List.append_nil _).symm⟩

/-- A call that hands out a delivery. -/
theorem CallPost.of_taken {call : UdpCall} {s₀ s : UdpBackend} {r : UdpReturn} {d : Delivery}
    (hrest : AtRest s) (hquiet : s₀.faultInjector.Quiet → s.faultInjector.Quiet)
    (hsent : s.history.sent = s₀.history.sent)
    (htaken : s.history.taken = s₀.history.taken ++ [d])
    (hcall : call.sentEvent r = none ∧ call.receivedEvent r = some d.event) :
    CallPost call s₀ s r :=
  ⟨hrest, hquiet, fun _ => by rw [hsent, hcall.1]; exact (List.append_nil _).symm,
    by rw [htaken, hcall.2, List.map_append]; rfl⟩

section

variable {window : Party → Bytes → Prop} {Inv : Party → Party → Prop}

/-! ## Sending -/

/-- An event of which something was not sent, by a transmission that failed. -/
theorem Transmits.incomplete {s₀ s : UdpBackend} {o₀ o : List Bytes} {result : Result}
    {offer : Offer} (h : Transmits 0 s₀ o₀ s result o) (hquiet : s₀.faultInjector.Quiet)
    (hfail : result ≠ .ok) (hpending : s₀.pendingOffer = some offer)
    (hfresh : ∀ d ∈ o₀, ¬ Piece offer d) : Incomplete o offer := by
  obtain hnone | ⟨hkind, position, _, hlt, hends⟩ := h.unsent hquiet hfail
  · exact Or.inl (fun d hd => hfresh d (hnone d hd))
  · rw [pendingOffer_data hkind, Option.some.injEq] at hpending
    subst hpending
    refine Or.inr ⟨_, rfl, position, hlt, fun d hd => ?_⟩
    rintro ⟨header, payload, hdec, hcarries, _, hafter⟩
    obtain hold | ⟨header', payload', hdec', hends'⟩ := hends d hd
    · exact hfresh d hold ⟨header, payload, hdec, hcarries⟩
    · rw [(hdec.unique hdec').1] at hafter
      omega

/-- A keepalive is no piece of an event. -/
theorem Keepalive.not_piece {d : Bytes} {offer : Offer} (h : Keepalive d) : ¬ Piece offer d := by
  rintro ⟨header, payload, hdec, hcarries⟩
  obtain ⟨header', payload', hdec', htype⟩ := h
  rw [← (hdec.unique hdec').1] at htype
  obtain h | h := hcarries.type <;> exact absurd (h.symm.trans htype) (by decide)

section

variable (hI : Stable window Inv)
include hI

variable {f : UdpBackend → UdpBackend} {o₀ : List Bytes} {s s₀ : UdpBackend}

/-- An act of the call itself. -/
theorem triple_act (ht : s₀.state.talks = true) (hw : s₀.Wf → (f s₀).Wf)
    (hact : ∀ e, Act window e (s₀.party o₀) ((f s₀).party o₀)) :
    Triple (linkSetting window Inv) (Here s₀ o₀) (modify f)
      (fun s _ o => s = f s₀ ∧ o = o₀) := by
  rintro s o e ⟨rfl, rfl⟩ hi
  exact ⟨⟨hw hi.1, hI.act (hi.1.talks ht) hi.2 (hact e)⟩, rfl, rfl⟩

variable (fuel : Nat)

/-- **The end of a send.** The event is noted as sent if its transmission
succeeds; otherwise it is given up, and some of it was never sent. -/
theorem triple_sendOffered {offer : Offer} (deadline : UdpDeadline)
    {count : UdpBackend → UdpBackend} (hcount : ∀ s, Untouched s (count s))
    (ht : s₀.state.talks = true) (hpending : s₀.pendingOffer = some offer)
    (hnew : offer ∉ s₀.history.sent) (hfresh : ∀ d ∈ o₀, ¬ Piece offer d) :
    Triple (linkSetting window Inv) (Here s₀ o₀) (sendOffered fuel deadline count)
      (fun s r _ => AtRest s ∧ s.faultInjector.rules = s₀.faultInjector.rules
        ∧ (r = .ok → s.history.sent = s₀.history.sent ++ [offer])
        ∧ (r ≠ .ok → s.history.sent = s₀.history.sent)
        ∧ s.history.taken = s₀.history.taken) := by
  refine (triple_sendKeepalive hI fuel _ ht).bind (fun _ => ?_)
  refine Triple.bind (tends_deadlineRemaining asks_link deadline) (fun remaining => ?_)
  refine Triple.of_state (fun s₁ o₁ _ hs₁ _ => ?_)
  have ht₁ : s₁.state.talks = true := hs₁.state ▸ ht
  refine (triple_transmitPending hI fuel remaining ht₁).bind (fun result => ?_)
  refine Triple.of_state (fun s₂ o₂ _ hs₂ _ => ?_)
  have hcore : s₂.core = s₀.core := hs₂.core.trans hs₁.core
  have hrules := hs₂.rules.trans hs₁.rules
  have ht₂ : s₂.state.talks = true := hs₂.state ▸ ht₁
  have hpending₂ : s₂.pendingOffer = some offer := (pendingOffer_congr hcore).trans hpending
  have hhistory : s₂.history = s₀.history := congrArg UdpCore.history hcore
  have hnew₂ : offer ∉ s₂.history.sent := by rwa [hhistory]
  refine Triple.ite (fun hfail => ?_) (fun hok => ?_)
  · -- what the keepalive added is no piece of the event
    have hfresh₁ : s₀.faultInjector.Quiet → ∀ d ∈ o₁, ¬ Piece offer d := fun hq d hd => by
      obtain hold | hkeepalive := hs₁.new hq d hd
      · exact hfresh d hold
      · exact hkeepalive.not_piece
    refine (triple_act hI (f := clearPendingTx) ht₂ (fun hw => ?_) (fun e => ?_)).bind
      (fun _ => Triple.ret ?_)
    · exact ⟨hw.config, hw.talks, hw.reassembly, Nat.zero_le _, fun h => absurd rfl h, hw.valid,
        hw.slot, hw.queue, hw.quiet⟩
    · refine Act.fail hpending₂ hnew₂ (fun hq => ?_)
      have hq₀ : s₀.faultInjector.Quiet := quiet_congr hrules.symm hq
      exact hs₂.incomplete (quiet_congr hs₁.rules hq₀) hfail
        ((pendingOffer_congr hs₁.core).trans hpending) (hfresh₁ hq₀)
    · rintro _ _ ⟨rfl, rfl⟩
      refine ⟨fun o ho => ?_, hrules, fun h => absurd h hfail, fun _ => ?_, ?_⟩
      · rw [(pendingOffer_eq_none_iff _).mpr rfl] at ho
        exact absurd ho (by simp)
      · show s₂.history.sent = s₀.history.sent
        rw [hhistory]
      · show s₂.history.taken = s₀.history.taken
        rw [hhistory]
  · have hnoted : s₂.noteSent.party o₂ = (s₂.party o₂).noteSent offer := by
      unfold noteSent
      rw [hpending₂]
      rfl
    have hcounted := hcount s₂.noteSent
    refine (triple_act hI (f := fun b => count b.noteSent) ht₂ (fun hw => ?_)
      (fun e => ?_)).bind (fun _ => Triple.ret ?_)
    · exact hcounted.wf ⟨hw.config, hw.talks, hw.reassembly, hw.length, hw.message, hw.valid,
        hw.slot, hw.queue, hw.quiet⟩
    · rw [hcounted.party, hnoted]
      exact Act.noteSent hpending₂ hnew₂
    · rintro _ _ ⟨rfl, rfl⟩
      have hafter : (count s₂.noteSent).history = s₂.noteSent.history :=
        congrArg UdpCore.history hcounted.core
      have hsent : (count s₂.noteSent).history.sent = s₀.history.sent ++ [offer] := by
        rw [hafter]
        show s₂.history.sent ++ s₂.pendingOffer.toList = _
        rw [hpending₂, hhistory]
        rfl
      refine ⟨fun o ho => ?_, hcounted.rules.trans hrules, fun _ => hsent,
        fun h => absurd rfl h, ?_⟩
      · rw [pendingOffer_congr hcounted.core,
          show s₂.noteSent.pendingOffer = s₂.pendingOffer from rfl, hpending₂,
          Option.some.injEq] at ho
        rw [hsent, ← ho]
        simp
      · rw [hafter]
        show s₂.history.taken = _
        rw [hhistory]

omit hI in
theorem takeNonzero_of_ne {counter : UInt32} (h : counter ≠ 0) :
    takeNonzero counter = (counter, counter + 1) := by
  unfold takeNonzero
  rw [if_neg (by simpa using h)]

/-- **Offering an event and sending it.** `f` makes it the pending event. -/
theorem triple_offer {event : Event} (deadline : UdpDeadline)
    {count : UdpBackend → UdpBackend} (hcount : ∀ s, Untouched s (count s))
    (ht : s₀.state.talks = true) (hidle : s₀.pendingTxKind = .none) (hnext : s₀.nextMessageId ≠ 0)
    (hw : s₀.Wf → (f s₀).Wf) (hparty : ∀ o, (f s₀).party o = (s₀.party o).offer event)
    (hrules : (f s₀).faultInjector.rules = s₀.faultInjector.rules)
    (htalks : (f s₀).state.talks = s₀.state.talks) :
    Triple (linkSetting window Inv) (Here s₀ o₀)
      (do modify f; sendOffered fuel deadline count)
      (fun s r _ => AtRest s ∧ s.faultInjector.rules = s₀.faultInjector.rules
        ∧ (r = .ok → s.history.sent.map Offer.event = s₀.history.sent.map Offer.event ++ [event])
        ∧ (r ≠ .ok → s.history.sent = s₀.history.sent)
        ∧ s.history.taken = s₀.history.taken) := by
  refine Triple.of_state (fun s o e hso hi => ?_)
  obtain ⟨rfl, rfl⟩ := hso
  obtain ⟨hpieces, hnew⟩ := hI.fresh hi.2 hnext event
  have hpending : (f s).pendingOffer = some ⟨s.localSessionId, s.nextMessageId, event⟩ :=
    congrArg Party.pending (hparty o)
  have hsent : (f s).history.sent = s.history.sent :=
    congrArg (fun p : Party => p.history.sent) (hparty o)
  have htaken : (f s).history.taken = s.history.taken :=
    congrArg (fun p : Party => p.history.taken) (hparty o)
  refine (triple_act hI ht hw (fun e => ?_)).bind (fun _ => ?_)
  · rw [hparty o]
    exact Act.offer ((pendingOffer_eq_none_iff s).mpr hidle) hnext
  · refine (triple_sendOffered hI fuel deadline hcount (htalks.trans ht) hpending
      (by rwa [hsent]) hpieces).post (fun s' r o' h => ?_)
    refine ⟨h.1, h.2.1.trans hrules, fun hok => ?_, fun hne => (h.2.2.2.1 hne).trans hsent,
      h.2.2.2.2.trans htaken⟩
    rw [h.2.2.1 hok, hsent, List.map_append]
    rfl

omit hI in
theorem receivedEvent_result (call : UdpCall) (result : Result) :
    call.receivedEvent (.result result) = none := by
  cases call <;> rfl

omit hI in
theorem sentEvent_of_ne (call : UdpCall) {result : Result} (hne : result ≠ .ok) :
    call.sentEvent (.result result) = none := by
  cases call <;> cases result <;> first | rfl | exact absurd rfl hne

/-- **What both sends do** with an event that `f` makes the pending one. -/
theorem triple_sendEvent {call : UdpCall} {event : Event}
    (hcall : call.sentEvent (.result .ok) = some event) (timeoutUs : Timeout)
    (kind : VirtualLinkEvent) (size : Nat) {count : UdpBackend → UdpBackend}
    (effective : UdpBackend → Event) (hs : AtRest s₀) (hnext : s₀.nextMessageId ≠ 0)
    (hcount : ∀ s, Untouched s (count s)) (hwf : ∀ s, s.nextMessageId ≠ 0 → s.Wf → (f s).Wf)
    (hparty : ∀ s o, s.nextMessageId ≠ 0 → (f s).party o = (s.party o).offer (effective s))
    (hrules : ∀ s, (f s).faultInjector.rules = s.faultInjector.rules)
    (htalks : ∀ s, (f s).state.talks = s.state.talks)
    (hevent : ∀ s : UdpBackend, s.faultInjector.Quiet → effective s = event) :
    Triple (linkSetting window Inv) (fun s _ => s = s₀) (sendEvent fuel timeoutUs kind size f count)
      (fun s r _ => CallPost call s₀ s (.result r)) := by
  have hlink := tolerates_link hI hs
  refine Triple.pre (P := fun s _ => Keeps s₀ s) ?_ (fun s _ heq => heq ▸ .refl s)
  refine Triple.bind (tends_deadlineMake hlink.asks timeoutUs) (fun deadline => ?_)
  refine (triple_waitToSend hlink fuel deadline kind size).bind (fun result => ?_)
  refine Triple.ite (fun hne => Triple.ret (fun s o h => .of_keeps hs h.1
    (sentEvent_of_ne call hne) (receivedEvent_result call _))) (fun hok => ?_)
  rw [not_not] at hok
  refine Triple.of_state (fun s o e h hi => ?_)
  obtain ⟨hkeeps, hready⟩ := h
  obtain ⟨hlinked, hidle⟩ := hready hok
  have hnext' : s.nextMessageId ≠ 0 := by rwa [hkeeps.next]
  refine (triple_offer hI fuel deadline hcount hlinked.talks hidle hnext' (hwf s hnext')
    (fun o => hparty s o hnext') (hrules s) (htalks s)).post (fun s' r o' h => ?_)
  refine ⟨h.1, fun hq => quiet_congr h.2.1 (hkeeps.quiet hq), fun hq => ?_, ?_⟩
  · by_cases hr : r = .ok
    · rw [h.2.2.1 hr, hkeeps.sent, hevent s (hkeeps.quiet hq), hr, hcall]
      rfl
    · rw [h.2.2.2.1 hr, hkeeps.sent, sentEvent_of_ne call hr]
      exact (List.append_nil _).symm
  · rw [h.2.2.2.2, hkeeps.taken, receivedEvent_result]
    exact (List.append_nil _).symm

omit hI in
theorem party_offerPacket (h : s.nextMessageId ≠ 0) (packet : Packet) (o : List Bytes) :
    (s.offerPacket packet).party o = (s.party o).offer (.data packet) := by
  unfold offerPacket offer
  rw [takeNonzero_of_ne h]
  rfl

omit hI in
theorem party_offerTimeCode (h : s.nextMessageId ≠ 0) (code : TimeCode) (o : List Bytes) :
    (s.offerTimeCode code).party o = (s.party o).offer (.timeCode code) := by
  unfold offerTimeCode offer
  rw [takeNonzero_of_ne h]
  rfl

omit hI in
theorem Wf.offerPacket (hw : s.Wf) (h : s.nextMessageId ≠ 0) {packet : Packet}
    (hlength : packet.bytes.length ≤ udpMaxPacketSize) : (s.offerPacket packet).Wf := by
  unfold UdpBackend.offerPacket UdpBackend.offer
  rw [takeNonzero_of_ne h]
  exact ⟨hw.config, hw.talks, hw.reassembly, hlength, fun _ => h, hw.valid, hw.slot, hw.queue,
    hw.quiet⟩

omit hI in
theorem Wf.offerTimeCode (hw : s.Wf) (h : s.nextMessageId ≠ 0) (code : TimeCode) :
    (s.offerTimeCode code).Wf := by
  unfold UdpBackend.offerTimeCode UdpBackend.offer
  rw [takeNonzero_of_ne h]
  exact ⟨hw.config, hw.talks, hw.reassembly, hw.length, fun _ => h, hw.valid, hw.slot, hw.queue,
    hw.quiet⟩

/-- **Sending a packet.** -/
theorem triple_udpSend (packet : SendPacket) (timeoutUs : Timeout) (hs : AtRest s₀)
    (hnext : s₀.nextMessageId ≠ 0) :
    Triple (linkSetting window Inv) (fun s _ => s = s₀) (UdpCall.run fuel (.send packet timeoutUs))
      (fun s r _ => CallPost (.send packet timeoutUs) s₀ s r) := by
  refine Triple.bind (Q := fun s r _ => CallPost (.send packet timeoutUs) s₀ s (.result r)) ?_
    (fun result => Triple.ret (fun s o h => h))
  unfold udpSend
  split
  · refine Triple.ret (fun s o hso => ?_)
    obtain rfl : s = s₀ := hso
    exact .of_keeps hs (.refl _) rfl rfl
  next terminator hterminator =>
  refine Triple.ite (fun _ => Triple.ret (fun s o hso => ?_)) (fun hgood => ?_)
  · obtain rfl : s = s₀ := hso
    exact .of_keeps hs (.refl _) rfl rfl
  rw [not_or, Nat.not_lt] at hgood
  have hcall : UdpCall.sentEvent (.send packet timeoutUs) (.result .ok)
      = some (.data ⟨packet.bytes, terminator⟩) := by
    rw [UdpCall.sentEvent, hterminator]
    rfl
  refine triple_sendEvent hI fuel hcall timeoutUs .data packet.length
    (fun s => .data ⟨packet.bytes, (s.effectiveTerminator terminator).1⟩) hs hnext
    (fun s => ⟨rfl, rfl, rfl, rfl, rfl⟩) (fun s hnext hw => ?_) (fun s o hnext => ?_)
    (fun s => (effectiveTerminator_spec s terminator).1.rules)
    (fun s => (effectiveTerminator_spec s terminator).1.talks) (fun s hq => ?_)
  · have htouch := (effectiveTerminator_spec s terminator).1
    refine (htouch.wf hw).offerPacket ?_ (by rw [SendPacket.bytes_length]; exact hgood.2)
    rwa [show (s.effectiveTerminator terminator).2.nextMessageId = s.nextMessageId from
      congrArg UdpCore.nextMessageId htouch.core]
  · have htouch := (effectiveTerminator_spec s terminator).1
    rw [party_offerPacket, htouch.party]
    rwa [show (s.effectiveTerminator terminator).2.nextMessageId = s.nextMessageId from
      congrArg UdpCore.nextMessageId htouch.core]
  · rw [(effectiveTerminator_spec s terminator).2 hq]

/-- **Sending a time code.** -/
theorem triple_udpSendTimeCode (code : TimeCode) (timeoutUs : Timeout)
    (hs : AtRest s₀) (hnext : s₀.nextMessageId ≠ 0) :
    Triple (linkSetting window Inv) (fun s _ => s = s₀)
      (UdpCall.run fuel (.sendTimeCode code timeoutUs))
      (fun s r _ => CallPost (.sendTimeCode code timeoutUs) s₀ s r) := by
  refine Triple.bind (Q := fun s r _ => CallPost (.sendTimeCode code timeoutUs) s₀ s (.result r)) ?_
    (fun result => Triple.ret (fun s o h => h))
  refine Triple.ite (fun _ => Triple.ret (fun s o hso => ?_)) (fun hgood => ?_)
  · obtain rfl : s = s₀ := hso
    exact .of_keeps hs (.refl _) rfl rfl
  have hcall : UdpCall.sentEvent (.sendTimeCode code timeoutUs) (.result .ok)
      = some (.timeCode code) := rfl
  exact triple_sendEvent hI fuel hcall timeoutUs .timeCode timeCodePayloadSize
    (fun _ => .timeCode code) hs hnext (fun s => ⟨rfl, rfl, rfl, rfl, rfl⟩)
    (fun s hnext hw => hw.offerTimeCode hnext code)
    (fun s o hnext => party_offerTimeCode hnext code o) (fun s => rfl) (fun s => rfl)
    (fun s hq => rfl)

/-! ## Receiving -/

/-- **What receiving a packet leads to**: the packet that is returned leaves the
slot, and one that was there from the start and fits is returned. -/
structure ReceivePost (buffer : ReceiveBuffer) (timeoutUs : Timeout) (s₀ s : UdpBackend)
    (r : ReceiveReturn) : Prop extends
    CallPost (.receive buffer timeoutUs) s₀ s (.received r) where
  full : ∀ d packet, s₀.history.slot = some d → d.event = .data packet →
    packet.bytes.length ≤ buffer.capacity → (packet.bytes ≠ [] → buffer.hasData = true) →
      r = .packet packet ∧ s.history.taken = s₀.history.taken ++ [d]

theorem triple_udpReceive (buffer : ReceiveBuffer) (timeoutUs : Timeout) (hs : AtRest s₀) :
    Triple (linkSetting window Inv) (fun s _ => s = s₀) (udpReceive fuel buffer timeoutUs)
      (fun s r _ => ReceivePost buffer timeoutUs s₀ s r) := by
  have hfull : ∀ s : UdpBackend, s.Wf → (s.pendingPacketValid = true
    ↔ ∃ d, s.history.slot = some d) :=
    fun s hw => by rw [hw.valid, Option.isSome_iff_exists]
  refine Triple.pre (P := fun s _ => Keeps s₀ s) ?_ (fun s _ heq => heq ▸ .refl s)
  refine (triple_waitToReceive (tolerates_link hI hs) fuel
    (fun {s _ _} hi hkeeps (hfirst : ∃ d, s₀.history.slot = some d) => ?_) timeoutUs).bind
    (fun result => ?_)
  · obtain ⟨d, hd⟩ := hfirst
    exact (hfull s hi.1).mpr ⟨d, hkeeps.slot d hd⟩
  refine Triple.ite (fun hne => Triple.ret (fun s o h => ?_)) (fun hok => ?_)
  · obtain ⟨hkeeps, _, hstart⟩ := h
    exact ⟨.of_keeps hs hkeeps rfl rfl, fun d packet hd _ _ _ => absurd (hstart ⟨d, hd⟩) hne⟩
  rw [not_not] at hok
  refine Triple.get_bind (fun s o e h hi => ?_)
  obtain ⟨hkeeps, hslot, _⟩ := h
  obtain ⟨d, hd⟩ := (hfull s hi.1).mp (hslot hok)
  have hevent := hi.1.slot d hd
  have hsame : ∀ d' packet, s₀.history.slot = some d' → d'.event = .data packet →
      d' = d ∧ packet = ⟨s.pendingPacket, s.pendingPacketTerminator⟩ :=
      fun d' packet hd' hpacket => by
    obtain rfl := Option.some.inj ((hkeeps.slot d' hd').symm.trans hd)
    exact ⟨rfl, Event.data.inj (hpacket.symm.trans hevent)⟩
  refine Triple.ite (fun hsmall => Triple.ret ?_) (fun hfits => ?_)
  · rintro _ _ ⟨rfl, rfl⟩
    refine ⟨.of_keeps hs hkeeps rfl rfl, fun d' packet hd' hpacket hcapacity hdata => ?_⟩
    obtain ⟨_, rfl⟩ := hsame d' packet hd' hpacket
    obtain hlt | ⟨hlong, hnull⟩ := hsmall
    · exact absurd hcapacity (Nat.not_le.mpr hlt)
    · have := hdata (fun h => hlong (List.length_eq_zero_iff.mpr h))
      exact absurd (hnull.symm.trans this) Bool.false_ne_true
  · have htaken : s.takePacket.history.taken = s₀.history.taken ++ [d] := by
      show s.history.taken ++ s.history.slot.toList = _
      rw [hkeeps.taken, hd]
      rfl
    refine Triple.modify_ret (f := fun _ => s.takePacket) (fun e' hi' => ?_) ?_
    · exact ⟨⟨hi'.1.config, hi'.1.talks, hi'.1.reassembly, hi'.1.length, hi'.1.message, rfl,
        fun d hd => absurd hd (by simp [takePacket]), hi'.1.queue, hi'.1.quiet⟩,
        hI.takePacket hi'.2⟩
    · refine ⟨.of_taken (fun o ho => hs.keeps hkeeps o ho) hkeeps.quiet hkeeps.sent htaken
        ⟨rfl, congrArg some hevent.symm⟩, fun d' packet hd' hpacket _ _ => ?_⟩
      obtain ⟨rfl, rfl⟩ := hsame d' packet hd' hpacket
      exact ⟨rfl, htaken⟩

/-- **What receiving a time code leads to**: the oldest of the queue is returned
and leaves it. -/
structure ReceiveTimeCodePost (timeoutUs : Timeout) (s₀ s : UdpBackend)
    (r : Except Result TimeCode) : Prop extends
    CallPost (.receiveTimeCode timeoutUs) s₀ s (.timeCode r) where
  full : ∀ d rest code, s₀.history.queue = d :: rest → d.event = .timeCode code →
    r = .ok code ∧ s.history.taken = s₀.history.taken ++ [d] ∧ rest <+: s.history.queue

theorem triple_udpReceiveTimeCode (timeoutUs : Timeout) (hs : AtRest s₀) :
    Triple (linkSetting window Inv) (fun s _ => s = s₀) (udpReceiveTimeCode fuel timeoutUs)
      (fun s r _ => ReceiveTimeCodePost timeoutUs s₀ s r) := by
  refine Triple.pre (P := fun s _ => Keeps s₀ s) ?_ (fun s _ heq => heq ▸ .refl s)
  refine (triple_waitToReceive (tolerates_link hI hs) fuel
    (fun {s _ _} hi hkeeps (hfirst : s₀.history.queue ≠ []) => ?_) timeoutUs).bind
    (fun result => ?_)
  · rw [bne_iff_ne, ← hi.1.queue_length, ne_eq, List.length_eq_zero_iff]
    intro hnil
    exact hfirst (List.prefix_nil.mp (hnil ▸ hkeeps.queue))
  refine Triple.ite (fun hne => Triple.ret (fun s o h => ?_)) (fun hok => ?_)
  · obtain ⟨hkeeps, _, hstart⟩ := h
    refine ⟨.of_keeps hs hkeeps rfl rfl, fun d rest code hd _ => ?_⟩
    exact absurd (hstart (by rw [hd]; exact List.cons_ne_nil _ _)) hne
  refine Triple.get_bind (fun s o e h hi => ?_)
  obtain ⟨hkeeps, _, _⟩ := h
  have hqueue := hi.1.queue
  obtain ⟨hpop, hnil⟩ | ⟨code, ring, hpop, hcons⟩ := RingBuffer.pop_cases s.timeCodes
  · rw [hpop]
    exact Triple.hang
  · rw [hpop]
    rw [hcons, List.map_cons] at hqueue
    obtain ⟨d, rest, hd, hevent, hrest⟩ := List.map_eq_cons_iff.mp hqueue
    have hleft : s.history.queue.tail.map Delivery.event = ring.toList.map Event.timeCode := by
      rw [hd]
      exact hrest
    have htaken : (s.takeTimeCode ring).history.taken = s₀.history.taken ++ [d] := by
      show s.history.taken ++ s.history.queue.head?.toList = _
      rw [hkeeps.taken, hd]
      rfl
    refine Triple.modify_ret (f := fun _ => s.takeTimeCode ring) (fun e' hi' => ?_) ?_
    · exact ⟨⟨hi'.1.config, hi'.1.talks, hi'.1.reassembly, hi'.1.length, hi'.1.message,
        hi'.1.valid, hi'.1.slot, hleft, hi'.1.quiet⟩, hI.takeTimeCode hi'.2⟩
    · refine ⟨.of_taken (fun o ho => hs.keeps hkeeps o ho) hkeeps.quiet hkeeps.sent htaken
        ⟨rfl, congrArg some hevent.symm⟩, fun d' rest' code' hd' hcode' => ?_⟩
      -- what was the oldest is the oldest still
      obtain ⟨tail, htail⟩ := hkeeps.queue
      rw [hd', hd, List.cons_append, List.cons.injEq] at htail
      obtain ⟨rfl, hprefix⟩ := htail
      obtain rfl := Event.timeCode.inj (hcode'.symm.trans hevent)
      refine ⟨rfl, htaken, tail, ?_⟩
      show _ = s.history.queue.tail
      rw [hd, List.tail_cons]
      exact hprefix

/-! ## The link state and the counters -/

omit hI in
/-- A part of a call that keeps what the background keeps, and all of a call that neither
sends nor receives. -/
theorem triple_keeping {α : Type} {p : Udp α} {call : UdpCall} {f : α → UdpReturn}
    (hs : AtRest s₀) (hp : Tends (linkSetting window Inv) (fun s _ => Keeps s₀ s) p)
    (hcall : ∀ a, call.sentEvent (f a) = none ∧ call.receivedEvent (f a) = none) :
    Triple (linkSetting window Inv) (fun s _ => s = s₀) (p >>= fun a => pure (f a))
      (fun s r _ => CallPost call s₀ s r) :=
  Triple.pre (P := fun s _ => Keeps s₀ s) (Triple.bind hp (fun a => Triple.ret
    (fun _ _ hkeeps => .of_keeps hs hkeeps (hcall a).1 (hcall a).2))) (fun s _ heq => heq ▸ .refl s)

/-- **The calls that leave the session as it is.** -/
theorem triple_call (call : UdpCall) (hs : AtRest s₀)
    (hnext : call.sends = true → s₀.nextMessageId ≠ 0) (hstart : call ≠ .start)
    (hstop : call ≠ .stop) (hreset : call ≠ .reset) :
    Triple (linkSetting window Inv) (fun s _ => s = s₀) (call.run fuel)
      (fun s r _ => CallPost call s₀ s r) := by
  cases call with
  | start => exact absurd rfl hstart
  | stop => exact absurd rfl hstop
  | reset => exact absurd rfl hreset
  | send packet timeoutUs => exact triple_udpSend hI fuel packet timeoutUs hs (hnext rfl)
  | sendTimeCode code timeoutUs =>
    exact triple_udpSendTimeCode hI fuel code timeoutUs hs (hnext rfl)
  | receive buffer timeoutUs =>
    exact (triple_udpReceive hI fuel buffer timeoutUs hs).bind (fun r => Triple.ret
      (fun s o h => h.toCallPost))
  | receiveTimeCode timeoutUs =>
    exact (triple_udpReceiveTimeCode hI fuel timeoutUs hs).bind (fun r => Triple.ret
      (fun s o h => h.toCallPost))
  | getLinkState =>
    exact triple_keeping hs (tends_udpGetLinkState (tolerates_link hI hs) fuel)
      (fun _ => ⟨rfl, rfl⟩)
  | getStatistics =>
    exact triple_keeping (p := udpGetStatistics) hs
      (.get_bind (fun _ _ hs => Tends.ret.at_state hs))
      (fun _ => ⟨rfl, rfl⟩)
  | getFaultStatistics =>
    exact triple_keeping (p := udpGetFaultStatistics) hs
      (.get_bind (fun _ _ hs => Tends.ret.at_state hs)) (fun _ => ⟨rfl, rfl⟩)
  | clearStatistics =>
    refine triple_keeping (p := udpClearStatistics) hs
      (Tends.bind (.change (fun {s _ _} hi hs => ?_))
      (fun _ => .ret)) (fun _ => ⟨rfl, rfl⟩)
    exact ⟨inv_untouched (s := s) ⟨rfl, rfl, rfl, rfl, rfl⟩ hi,
      hs.trans (.of_core rfl (fun h => h) (fun h => h))⟩
  | clearFaultStatistics =>
    refine triple_keeping (p := udpClearFaultStatistics) hs
      (Tends.bind (.change (fun {s _ _} hi hs => ?_))
      (fun _ => .ret)) (fun _ => ⟨rfl, rfl⟩)
    exact ⟨inv_untouched (s := s) ⟨rfl, rfl, rfl, rfl, rfl⟩ hi,
      hs.trans (.of_core rfl (fun h => h) (fun h => h))⟩

/-! ## Starting and stopping -/

omit hI in
theorem makeSessionId_ne_zero (s : UdpBackend) (now : UInt64) (pid : UInt32) :
    makeSessionId s now pid ≠ 0 := by
  unfold makeSessionId
  dsimp only
  split_ifs with h
  · decide
  · simpa using h

omit hI in
theorem party_clearLink (s : UdpBackend) (o : List Bytes) :
    s.clearLink.party o = (s.party o).clearLink := by
  have h₁ : s.clearReassembly.party o = (s.party o).forget := rfl
  have h₂ : ∀ b : UdpBackend, b.clearPendingTx.party o = { b.party o with pending := none } :=
    fun _ => rfl
  have h₃ : ∀ b : UdpBackend, b.clearRecentMessages.party o = { b.party o with recent := [] } :=
    fun _ => rfl
  have h₄ : ∀ b : UdpBackend, b.clearRetiredSessions.party o = b.party o := fun _ => rfl
  have h₅ : ∀ b : UdpBackend, b.clearReorderedDatagram.party o = { b.party o with held := none } :=
    fun _ => rfl
  have h₆ : ∀ b : UdpBackend, b.clearArrived.party o = { b.party o with
      remoteSessionId := 0
      history := { b.history with life := b.history.life + 1, slot := none, queue := [] } } :=
    fun _ => rfl
  unfold clearLink
  rw [h₆, h₅, h₄, h₃, h₂, h₁]
  rfl

omit hI in
theorem party_restart (s : UdpBackend) (session : UInt64) (o : List Bytes) :
    (s.restart session).party o = (s.party o).start session := by
  have hbegin : ∀ b : UdpBackend, b.pendingTxKind = .none →
      (b.beginSession session).party o = { b.party o with
        localSessionId := session
        nextMessageId := 1
        history := { b.history with sessions := b.history.sessions ++ [session] } } := by
    intro b hb
    have hidle : (b.beginSession session).pendingOffer = none := (pendingOffer_eq_none_iff _).mpr hb
    unfold party
    rw [(pendingOffer_eq_none_iff b).mpr hb, hidle]
    rfl
  have hhistory : s.clearLink.history = (s.party o).clearLink.history :=
    congrArg Party.history (party_clearLink s o)
  unfold restart
  rw [hbegin s.clearLink rfl, party_clearLink, hhistory]
  rfl

omit hI in
/-- A link that is cleared, in a state in which it does not talk or with a new
session. -/
theorem Wf.clearLink (hw : s.Wf) (state : LinkState)
    (htalks : state.talks = true → s.clearLink.localSessionId ≠ 0) :
    ({ s.clearLink with state := state } : UdpBackend).Wf where
  config := by
    show s.clearLink.config.valid = true
    rw [clearLink_config]
    exact hw.config
  talks := htalks
  reassembly := hw.reassembly.reset
  length := Nat.zero_le _
  message := fun h => absurd rfl h
  valid := rfl
  slot := fun d hd => by cases hd
  queue := rfl
  quiet := fun _ => rfl

omit hI in
theorem Wf.restart (hw : s.Wf) {session : UInt64} (h : session ≠ 0) : (s.restart session).Wf := by
  have hw' := hw.clearLink .ready (fun h => absurd h (by decide))
  exact ⟨hw'.config, fun _ => h, hw'.reassembly, hw'.length, hw'.message, hw'.valid, hw'.slot,
    hw'.queue, fun _ => rfl⟩

omit hI in
/-- What a start, a stop or a reset leaves pending is nothing. -/
theorem CallPost.of_idle {call : UdpCall} {r : UdpReturn} (hidle : s.pendingOffer = none)
    (hrules : s.faultInjector.rules = s₀.faultInjector.rules)
    (hsent : s.history.sent = s₀.history.sent) (htaken : s.history.taken = s₀.history.taken)
    (hcall : call.sentEvent r = none ∧ call.receivedEvent r = none) : CallPost call s₀ s r :=
  ⟨fun o ho => absurd (hidle.symm.trans ho) (by simp), fun hq => quiet_congr hrules hq,
    fun _ => by rw [hsent, hcall.1]; exact (List.append_nil _).symm,
    by rw [htaken, hcall.2]; exact (List.append_nil _).symm⟩

/-- **Starting**, where a start keeps the invariant. -/
theorem triple_udpStart (hs : AtRest s₀)
    (hstart : ∀ (q : Party) (session : UInt64) (o : List Bytes), Inv (s₀.party o) q →
      session ≠ 0 → session ∉ s₀.history.sessions → session ∉ q.history.sessions →
        Inv ((s₀.party o).start session) q) :
    Triple (linkSetting window Inv) (fun s _ => s = s₀) (UdpCall.run fuel .start)
      (fun s r _ => CallPost .start s₀ s r) := by
  refine Triple.bind (Q := fun s r _ => CallPost .start s₀ s (.result r)) ?_
    (fun r => Triple.ret (fun s o h => h))
  refine Triple.get_bind (fun s o e hso hi => ?_)
  obtain rfl : s = s₀ := hso
  refine Triple.ite (fun _ => Triple.ret ?_) (fun _ => ?_)
  · rintro _ _ ⟨rfl, rfl⟩
    exact .of_keeps hs (.refl _) rfl rfl
  refine Triple.ask (fun s' o' e' hso hi' answer o'' hanswer => ?_)
  obtain ⟨rfl, rfl⟩ := hso
  obtain ⟨rfl, hown, hpeer⟩ := hanswer
  have hnonzero := makeSessionId_ne_zero s' answer.1 answer.2
  -- the keepalive is sent by the backend that has its new session
  have hsend : Triple (linkSetting window Inv)
      (fun s o => s = s'.restart (makeSessionId s' answer.1 answer.2) ∧ o = o'')
      (do
        let result ← sendKeepalive fuel timeoutImmediate
        return if result = .timeout then .ok else result)
      (fun s r _ => CallPost .start s' s (.result r)) := by
    refine (triple_sendKeepalive hI fuel timeoutImmediate rfl).bind (fun result => Triple.ret
      (fun s o h => ?_))
    have hhistory : s.history = (s'.restart (makeSessionId s' answer.1 answer.2)).history :=
      congrArg UdpCore.history h.core
    refine .of_idle ?_ ?_ ?_ ?_ ⟨rfl, rfl⟩
    · rw [pendingOffer_congr h.core]
      exact (pendingOffer_eq_none_iff _).mpr rfl
    · rw [h.rules]
      show s'.clearLink.faultInjector.rules = _
      rw [clearLink_faultInjector]
    · rw [hhistory]
      rfl
    · rw [hhistory]
      rfl
  refine hsend _ _ e' ⟨rfl, rfl⟩ ⟨hi'.1.restart hnonzero, ?_⟩
  rw [party_restart]
  exact hstart e' _ _ hi'.2 hnonzero hown hpeer

omit hI in
/-- **Stopping and resetting**, where clearing the link keeps the invariant. -/
theorem triple_clear {call : UdpCall} {code : Udp Result} (hs : AtRest s₀)
    (hcode : code = do
      let b ← get
      if !b.socketOpen then return Result.invalidState
      else
        modify f
        return Result.ok)
    (hwf : s₀.Wf → (f s₀).Wf) (hparty : ∀ o, (f s₀).party o = (s₀.party o).clearLink)
    (hrules : (f s₀).faultInjector.rules = s₀.faultInjector.rules)
    (hcall : ∀ result, call.sentEvent (.result result) = none
      ∧ call.receivedEvent (.result result) = none)
    (hclear : ∀ (q : Party) (o : List Bytes), Inv (s₀.party o) q → Inv (s₀.party o).clearLink q) :
    Triple (linkSetting window Inv) (fun s _ => s = s₀) code
      (fun s r _ => CallPost call s₀ s (.result r)) := by
  rw [hcode]
  refine Triple.get_bind (fun s o e hso hi => ?_)
  obtain rfl : s = s₀ := hso
  refine Triple.ite (fun _ => Triple.ret ?_) (fun _ => ?_)
  · rintro _ _ ⟨rfl, rfl⟩
    exact .of_keeps hs (.refl _) (hcall _).1 (hcall _).2
  refine Triple.modify_ret (fun e' hi' => ⟨hwf hi'.1, ?_⟩) ?_
  · rw [hparty]
    exact hclear e' _ hi'.2
  · exact .of_idle (congrArg Party.pending (hparty [])) hrules
      (congrArg (fun p : Party => p.history.sent) (hparty []))
      (congrArg (fun p : Party => p.history.taken) (hparty [])) (hcall _)

omit hI in
theorem triple_udpStop (hs : AtRest s₀)
    (hclear : ∀ (q : Party) (o : List Bytes), Inv (s₀.party o) q → Inv (s₀.party o).clearLink q) :
    Triple (linkSetting window Inv) (fun s _ => s = s₀) (UdpCall.run fuel .stop)
      (fun s r _ => CallPost .stop s₀ s r) :=
  (triple_clear (f := fun b => b.clearLink.enterReady) hs rfl
    (fun hw => hw.clearLink .ready (fun h => absurd h (by decide))) (fun o => party_clearLink s₀ o)
    (congrArg FaultInjector.rules (clearLink_faultInjector s₀)) (fun _ => ⟨rfl, rfl⟩) hclear).bind
    (fun _ => Triple.ret (fun _ _ h => h))

omit hI in
theorem triple_udpReset (hs : AtRest s₀)
    (hclear : ∀ (q : Party) (o : List Bytes), Inv (s₀.party o) q → Inv (s₀.party o).clearLink q) :
    Triple (linkSetting window Inv) (fun s _ => s = s₀) (UdpCall.run fuel .reset)
      (fun s r _ => CallPost .reset s₀ s r) := by
  refine (triple_clear (f := fun b => b.clearLink.enterErrorReset) hs rfl (fun hw => ?_)
    (fun o => ?_)
    ?_ (fun _ => ⟨rfl, rfl⟩) hclear).bind
    (fun _ => Triple.ret (fun _ _ h => h))
  · have hw' := hw.clearLink .errorReset (fun h => absurd h (by decide))
    exact ⟨hw'.config, hw'.talks, hw'.reassembly, hw'.length, hw'.message, hw'.valid, hw'.slot,
      hw'.queue, fun _ => rfl⟩
  · rw [← party_clearLink]
    rfl
  · show s₀.clearLink.faultInjector.rules = _
    rw [clearLink_faultInjector]

end

end

end UdpBackend
