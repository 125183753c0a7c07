import SpwKit.Ethernet.UdpLink
import SpwKit.Ethernet.UdpReturns

/-!
# What datagrams say is true

The invariant behind the acknowledgements of a link, over any number of
restarts on both sides. Every datagram a party has put on the wire tells the
truth about its history (`Tells`): a keepalive names one of its sessions, an
acknowledgement a delivery it has made, and a piece of an event one it has
offered. A datagram stays true however late it arrives, for histories only
grow, and since the numbers of events are not used twice within a session
(`EventNumbering`) it determines what it speaks of. So what a party accepts is what
its peer has offered, and what clears a pending event is the acknowledgement of
that event by the session it was sent to (`UdpLink.acknowledged_accepted`).
-/

open VspwTp FragmentReassembler Interactive

/-! ## Numbers -/

/-- **The numbers of events.** Sessions are not zero, the events of the current
one are numbered from one on, and no two events have the same session and
number. -/
structure EventNumbering (session : UInt64) (next : UInt32) (pending : Option Offer)
    (sessions : List UInt64) (offers sent : List Offer) : Prop where
  known : session ≠ 0 → session ∈ sessions
  nonzero : 0 ∉ sessions
  offered : ∀ o ∈ offers, o.session ∈ sessions
  next : (offers.countP (·.session = session)) + 1 ≤ 2 ^ 32
    ∧ next.toNat = ((offers.countP (·.session = session)) + 1) % 2 ^ 32
  positive : ∀ o ∈ offers, o.messageId ≠ 0
  below : ∀ o ∈ offers, o.session = session →
    o.messageId.toNat ≤ offers.countP (·.session = session)
  unique : ∀ o ∈ offers, ∀ o' ∈ offers, o.session = o'.session → o.messageId = o'.messageId → o = o'
  pending : ∀ o, pending = some o → o ∈ offers ∧ o.session = session
  sent : ∀ o ∈ sent, o ∈ offers

namespace EventNumbering

variable {session : UInt64} {next : UInt32} {pending : Option Offer} {sessions : List UInt64}
  {offers sent : List Offer}

variable {o : Offer}

/-- Before the first start. -/
theorem unstarted : EventNumbering 0 1 none [] [] [] where
  known h := absurd rfl h
  nonzero := List.not_mem_nil
  offered _ ho := absurd ho List.not_mem_nil
  next := ⟨by decide, rfl⟩
  positive _ ho := absurd ho List.not_mem_nil
  below _ ho := absurd ho List.not_mem_nil
  unique _ ho := absurd ho List.not_mem_nil
  pending _ ho := by cases ho
  sent _ ho := absurd ho List.not_mem_nil

variable (h : EventNumbering session next pending sessions offers sent)

include h

/-- While there are numbers left, the next one is larger than all that were
used. -/
theorem below_next (hnext : next ≠ 0)
    (ho : o ∈ offers) (hsession : o.session = session) : o.messageId < next := by
  have hbelow := h.below o ho hsession
  obtain ⟨hle, heq⟩ := h.next
  have hne : next.toNat ≠ 0 := fun h0 => hnext (UInt32.toNat_inj.mp h0)
  rw [UInt32.lt_iff_toNat_lt, heq]
  omega

/-- The next number is new. -/
theorem fresh (hnext : next ≠ 0)
    (ho : o ∈ offers) : ¬ (o.session = session ∧ o.messageId = next) := by
  rintro ⟨hsession, hid⟩
  have hlt := h.below_next hnext ho hsession
  rw [hid] at hlt
  exact UInt32.lt_irrefl next hlt

/-- Fewer than `2 ^ 32` events leave a number for one more. -/
theorem next_ne_zero
    (hfew : offers.countP (·.session = session) + 1 < 2 ^ 32) : next ≠ 0 := by
  intro h0
  have heq := h.next.2
  rw [h0, Nat.mod_eq_of_lt hfew] at heq
  exact absurd heq (by simp)

/-- The pending event is acknowledged or given up. -/
theorem idle :
    EventNumbering session next none sessions offers sent :=
  ⟨h.known, h.nonzero, h.offered, h.next, h.positive, h.below, h.unique,
    fun o ho => absurd ho (by simp), h.sent⟩

/-- The call of the pending event succeeds. -/
theorem noteSent (ho : pending = some o) :
    EventNumbering session next pending sessions offers (sent ++ [o]) := by
  refine ⟨h.known, h.nonzero, h.offered, h.next, h.positive, h.below, h.unique, h.pending,
    fun o' ho' => ?_⟩
  rcases List.mem_append.mp ho' with ho' | ho'
  · exact h.sent o' ho'
  · rw [List.mem_singleton] at ho'
    rw [ho']
    exact (h.pending o ho).1

/-- **One more event is offered.** -/
theorem offer (hs : session ≠ 0)
    (hnext : next ≠ 0) (event : Event) :
    EventNumbering session (next + 1) (some ⟨session, next, event⟩) sessions
      (offers ++ [⟨session, next, event⟩]) sent := by
  obtain ⟨hle, heq⟩ := h.next
  have hne : next.toNat ≠ 0 := fun h0 => hnext (UInt32.toNat_inj.mp h0)
  have hcount : (offers ++ [(⟨session, next, event⟩ : Offer)]).countP (·.session = session)
      = offers.countP (·.session = session) + 1 := by
    rw [List.countP_append]
    simp
  have hnextNat : next.toNat = offers.countP (·.session = session) + 1 := by omega
  have hmem : ∀ {P : Offer → Prop}, (∀ o ∈ offers, P o) → P ⟨session, next, event⟩ →
      ∀ o ∈ offers ++ [⟨session, next, event⟩], P o := fun hold hnew o ho => by
    rcases List.mem_append.mp ho with ho | ho
    · exact hold o ho
    · rw [List.mem_singleton] at ho
      rwa [ho]
  refine ⟨h.known, h.nonzero, hmem h.offered (h.known hs), ?_, hmem h.positive hnext, ?_, ?_, ?_,
    fun o ho => List.mem_append_left _ (h.sent o ho)⟩
  · rw [hcount, UInt32.toNat_add, hnextNat]
    have hone : (1 : UInt32).toNat = 1 := rfl
    have := next.toNat_lt
    constructor <;> omega
  · rw [hcount]
    refine hmem (fun o ho hsession => (h.below o ho hsession).trans (Nat.le_succ _)) (fun _ => ?_)
    exact hnextNat.le
  · refine hmem (fun o ho => hmem (h.unique o ho) (fun hsession hid => ?_))
      (hmem (fun o ho hsession hid => ?_) (fun _ _ => rfl))
    · exact absurd ⟨hsession, hid⟩ (h.fresh hnext ho)
    · exact absurd ⟨hsession.symm, hid.symm⟩ (h.fresh hnext ho)
  · intro o ho
    rw [← Option.some.inj ho]
    exact ⟨by simp, rfl⟩

/-- **A new session** numbers its events from one. -/
theorem start {new : UInt64}
    (hnew : new ≠ 0) (hfresh : new ∉ sessions) :
    EventNumbering new 1 none (sessions ++ [new]) offers sent := by
  have hnone : offers.countP (·.session = new) = 0 := by
    rw [List.countP_eq_zero]
    intro o ho hsession
    exact hfresh (of_decide_eq_true hsession ▸ h.offered o ho)
  refine ⟨fun _ => by simp, ?_, fun o ho => List.mem_append_left _ (h.offered o ho), ?_,
    h.positive, fun o ho hsession => ?_, h.unique, fun o ho => absurd ho (by simp), h.sent⟩
  · rw [List.mem_append, List.mem_singleton, not_or]
    exact ⟨h.nonzero, fun h0 => hnew h0.symm⟩
  · rw [hnone]
    exact ⟨by decide, rfl⟩
  · exact absurd (hsession ▸ h.offered o ho) hfresh

end EventNumbering

/-! ## Datagrams that tell the truth -/

/-- **What a datagram says is true of a history** with these sessions, events
offered and events delivered. -/
inductive Tells (sessions : List UInt64) (offers : List Offer) (deliveries : List Delivery)
    (d : Bytes) : Prop
  | keepalive (header : Header) (payload : Bytes) (hd : Decodes d header payload)
      (htype : header.type = typeKeepalive) (hsession : header.sessionId ∈ sessions)
  | ack (header : Header) (payload : Bytes) (hd : Decodes d header payload)
      (htype : header.type = typeAck) (delivery : Delivery) (hdelivery : delivery ∈ deliveries)
      (hsession : delivery.localSession = header.sessionId)
      (hack : decodeAckPayload payload = some delivery.remoteSession)
      (hid : delivery.messageId = header.messageId)
  | piece (header : Header) (payload : Bytes) (hd : Decodes d header payload) (offer : Offer)
      (hoffer : offer ∈ offers) (hcarries : Carries offer header payload)

namespace Tells

variable {sessions sessions' : List UInt64} {offers offers' : List Offer}
  {deliveries deliveries' : List Delivery} {d : Bytes} {header : Header}
  {payload : Bytes}

/-- The truth stays true. -/
theorem mono (h : Tells sessions offers deliveries d) (hs : sessions ⊆ sessions')
    (ho : offers ⊆ offers') (hd : deliveries ⊆ deliveries') :
    Tells sessions' offers' deliveries' d := by
  cases h with
  | keepalive header payload hdec htype hsession =>
    exact .keepalive header payload hdec htype (hs hsession)
  | ack header payload hdec htype delivery hdelivery hsession hack hid =>
    exact .ack header payload hdec htype delivery (hd hdelivery) hsession hack hid
  | piece header payload hdec offer hoffer hcarries =>
    exact .piece header payload hdec offer (ho hoffer) hcarries

theorem of_keepalive (h : Tells sessions offers deliveries d) (hd : Decodes d header payload)
    (htype : header.type = typeKeepalive) : header.sessionId ∈ sessions := by
  cases h with
  | keepalive header' payload' hdec htype' hsession =>
    rwa [(hd.unique hdec).1]
  | ack header' payload' hdec htype' =>
    rw [(hd.unique hdec).1, htype'] at htype
    exact absurd htype (by decide)
  | piece header' payload' hdec offer hoffer hcarries =>
    rw [(hd.unique hdec).1] at htype
    obtain h | h := hcarries.type <;> exact absurd (h.symm.trans htype) (by decide)

theorem of_ack (h : Tells sessions offers deliveries d) (hd : Decodes d header payload)
    (htype : header.type = typeAck) :
    ∃ delivery ∈ deliveries, delivery.localSession = header.sessionId
      ∧ decodeAckPayload payload = some delivery.remoteSession
      ∧ delivery.messageId = header.messageId := by
  cases h with
  | keepalive header' payload' hdec htype' hsession =>
    rw [(hd.unique hdec).1, htype'] at htype
    exact absurd htype (by decide)
  | ack header' payload' hdec htype' delivery hdelivery hsession hack hid =>
    obtain ⟨rfl, rfl⟩ := hd.unique hdec
    exact ⟨delivery, hdelivery, hsession, hack, hid⟩
  | piece header' payload' hdec offer hoffer hcarries =>
    rw [(hd.unique hdec).1] at htype
    obtain h | h := hcarries.type <;> exact absurd (h.symm.trans htype) (by decide)

theorem of_event (h : Tells sessions offers deliveries d) (hd : Decodes d header payload)
    (htype : header.type = typeData ∨ header.type = typeTimeCode) :
    ∃ offer ∈ offers, Carries offer header payload := by
  cases h with
  | keepalive header' payload' hdec htype' hsession | ack header' payload' hdec htype' =>
    rw [(hd.unique hdec).1, htype'] at htype
    exact absurd htype (by decide)
  | piece header' payload' hdec offer hoffer hcarries =>
    obtain ⟨rfl, rfl⟩ := hd.unique hdec
    exact ⟨offer, hoffer, hcarries⟩

end Tells

/-! ## The packet in progress -/

/-- **The packet in progress is one the peer has offered**, and every byte there
is of it has come in a datagram of the peer's. -/
structure Explains (r : FragmentReassembler) (session : UInt64) (offers : List Offer)
    (out : List Bytes) (offer : Offer) (packet : Packet) : Prop where
  offered : offer ∈ offers
  session : offer.session = session
  messageId : offer.messageId = r.messageId
  event : offer.event = .data packet
  total : r.totalSize.toNat = packet.bytes.length
  terminator : r.terminatorFlags = terminatorFlag packet.terminator
  ackRequired : r.ackRequired = true
  data : ∀ p, r.covered p = true → p < packet.bytes.length →
    r.data p = BigEndian.byteAt packet.bytes p ∧ ∃ d ∈ out, PieceAt offer p d

/-- What is there once every byte has come. -/
theorem Explains.packet_eq {r : FragmentReassembler} {session : UInt64} {offers : List Offer}
    {out : List Bytes} {offer : Offer} {packet : Packet}
    (h : Explains r session offers out offer packet)
    (hall : ∀ p < r.totalSize.toNat, r.covered p = true) : r.packet = packet := by
  unfold FragmentReassembler.packet
  rw [h.total, h.terminator, terminatorOfFlags_terminatorFlag]
  congr 1
  refine List.ext_getElem (by simp) (fun p h₁ h₂ => ?_)
  rw [List.getElem_map, List.getElem_range, (h.data p (hall p (h.total ▸ h₂)) h₂).1]
  simp [BigEndian.byteAt, List.getD_eq_getElem?_getD, h₂]

/-- **One more datagram of the peer's.** -/
theorem explains_push {r : FragmentReassembler} (hr : r.Sized) {session : UInt64}
    {offers : List Offer} {out : List Bytes}
    (hunique : ∀ o ∈ offers, ∀ o' ∈ offers, o.session = o'.session → o.messageId = o'.messageId →
      o = o')
    (h : r.active = true → ∃ offer packet, Explains r session offers out offer packet)
    {d : Bytes} {header : Header} {payload : Bytes} (hd : d ∈ out)
    (hdec : Decodes d header payload) (htype : header.type = typeData)
    (hsession : header.sessionId = session) {offer : Offer} (hoffer : offer ∈ offers)
    (hcarries : Carries offer header payload) (hactive : (r.push header payload).2.active = true) :
    ∃ offer packet, Explains (r.push header payload).2 session offers out offer packet := by
  obtain ⟨_, hpush⟩ | ⟨_, _, hpush, _⟩ | htook := push_cases hr.toWellFormed header payload
  · rw [hpush] at hactive ⊢
    exact h hactive
  · rw [hpush] at hactive ⊢
    exact h hactive
  · obtain ⟨packet, hevent, hpiece⟩ := hcarries.pieceOf htype
    have hafter := htook.after
    have hid : offer.messageId = (r.push header payload).2.messageId := by
      rw [← hcarries.messageId]
      exact hafter.1
    refine ⟨offer, packet, hoffer, hcarries.session.symm.trans hsession, hid, hevent, ?_, ?_, ?_,
      fun p hcov hp => ?_⟩
    · rw [← hafter.2.1]
      exact hpiece.total
    · rw [← hafter.2.2.1]
      exact hpiece.terminator
    · rw [← hafter.2.2.2]
      exact hpiece.ackRequired
    · rw [htook.data]
      split_ifs with hin
      · exact ⟨hpiece.byteAt hin.1 hin.2, d, hd, header, payload, hdec, hcarries, hin.1, hin.2⟩
      · -- what was there before is of the same packet
        rw [htook.covered, decide_eq_false hin, Bool.or_false] at hcov
        have hactive' : r.active = true := by
          by_contra hidle
          obtain ⟨_, hwords, _, _, _, hcap, _⟩ :=
            (refuses_eq_false_iff r header payload).mp htook.accepts
          have hclear := hr.clear p (by simp [extent, hidle])
            (lt_of_lt_coverageWordsFor hwords (lt_of_lt_of_le (hpiece.total.symm ▸ hp) hcap))
          exact absurd (hclear.symm.trans hcov) Bool.false_ne_true
        obtain ⟨offer', packet', hexp⟩ := h hactive'
        have hsame : offer' = offer := hunique offer' hexp.offered offer hoffer
          (hexp.session.trans (hsession.symm.trans hcarries.session)) (by
            rw [hexp.messageId, ← (htook.before hactive').1, hcarries.messageId])
        subst hsame
        obtain rfl : packet' = packet := Event.data.inj (hexp.event.symm.trans hevent)
        exact hexp.data p hcov hp

/-! ## The invariant -/

/-- **What holds of one side of a link** and its peer. -/
structure OneSide (p q : Party) : Prop where
  numbers : EventNumbering p.localSessionId p.nextMessageId p.pending p.history.sessions
    p.history.offers p.history.sent
  /-- What was put on the wire, or is held back, is true. -/
  speaks : ∀ d, d ∈ p.out ∨ p.held = some d →
    Tells p.history.sessions p.history.offers p.history.deliveries d
  /-- What is remembered was delivered between the two current sessions. -/
  remembers : ∀ key ∈ p.recent, ∃ d ∈ p.history.deliveries, d.localSession = p.localSessionId
    ∧ d.remoteSession = p.remoteSessionId ∧ d.messageId = key.messageId
  /-- What was accepted since the link was last cleared was taken or is there. -/
  stores : ∀ d ∈ p.history.deliveries, d.life = p.history.life →
    d ∈ p.history.taken ∨ p.history.slot = some d ∨ d ∈ p.history.queue
  lives : ∀ d ∈ p.history.deliveries, d.life ≤ p.history.life
  wellFormed : p.reassembly.Sized
  /-- What arrived was sent by the peer. -/
  hears : ∀ d, p.current = some d → d ∈ q.out
  /-- What was accepted was offered by the peer. -/
  delivered : ∀ d ∈ p.history.deliveries, d.offer ∈ q.history.offers
  explained : p.reassembly.active = true → ∃ offer packet,
    Explains p.reassembly p.remoteSessionId q.history.offers q.out offer packet
  /-- What was acknowledged was accepted by the session it was sent to. -/
  acknowledged : ∀ a ∈ p.history.acknowledged, ∃ d ∈ q.history.deliveries,
    d.localSession = a.remoteSession ∧ d.offer = a.offer

/-- **The invariant of a link** whose ends may be restarted. -/
def Sound (p q : Party) : Prop := OneSide p q ∧ OneSide q p

/-- A party that has done more. -/
structure Grows (q q' : Party) : Prop where
  out : q.out ⊆ q'.out
  offers : q.history.offers ⊆ q'.history.offers
  deliveries : q.history.deliveries ⊆ q'.history.deliveries

/-- What the peer does more does not matter. -/
theorem OneSide.mono {p q q' : Party} (h : OneSide p q) (hq : Grows q q') : OneSide p q' where
  numbers := h.numbers
  speaks := h.speaks
  remembers := h.remembers
  stores := h.stores
  lives := h.lives
  wellFormed := h.wellFormed
  hears := fun d hd => hq.out (h.hears d hd)
  delivered := fun d hd => hq.offers (h.delivered d hd)
  explained := fun hactive => by
    obtain ⟨offer, packet, hexp⟩ := h.explained hactive
    refine ⟨offer, packet, hq.offers hexp.offered, hexp.session, hexp.messageId, hexp.event,
      hexp.total, hexp.terminator, hexp.ackRequired, fun p hcov hp => ?_⟩
    obtain ⟨hdata, d, hd, hpiece⟩ := hexp.data p hcov hp
    exact ⟨hdata, d, hq.out hd, hpiece⟩
  acknowledged := fun a ha => by
    obtain ⟨d, hd, hsession, hoffer⟩ := h.acknowledged a ha
    exact ⟨d, hq.deliveries hd, hsession, hoffer⟩

/-- Every act is one that does more. -/
theorem Act.grows {window : Party → Bytes → Prop} {p p' q : Party}
    (h : Act window q p p') : Grows p p' := by
  cases h with
  | emit => exact ⟨List.subset_append_left _ _, List.Subset.refl _, List.Subset.refl _⟩
  | offer => exact ⟨List.Subset.refl _, List.subset_append_left _ _, List.Subset.refl _⟩
  | acceptWhole | acceptReassembled | acceptTimeCode =>
    exact ⟨List.Subset.refl _, List.Subset.refl _, List.subset_append_left _ _⟩
  | _ => exact ⟨List.Subset.refl _, List.Subset.refl _, List.Subset.refl _⟩

/-! ## Acts keep the invariant -/

theorem Party.mem_recentAfter_cases {p : Party} {ackRequired : Bool} {type : UInt8}
    {messageId : UInt32} {key : DeliveredKey} (h : key ∈ p.recentAfter ackRequired type messageId) :
    key ∈ p.recent ∨ key = ⟨type, messageId⟩ := by
  unfold recentAfter rememberKey at h
  split_ifs at h
  · simpa using h
  · rw [List.mem_append, List.mem_singleton] at h
    exact h.imp_left List.mem_of_mem_tail
  · exact Or.inl h

namespace OneSide

/-- What holds of every delivery holds of one more. -/
theorem forall_delivery {p : Party} {P : Delivery → Prop} {messageId : UInt32} {event : Event}
    (hold : ∀ d ∈ p.history.deliveries, P d) (hnew : P (p.delivery messageId event)) :
    ∀ d ∈ p.history.deliveries ++ [p.delivery messageId event], P d := by
  intro d hd
  rcases List.mem_append.mp hd with hd | hd
  · exact hold d hd
  · rw [List.mem_singleton] at hd
    rwa [hd]

variable {p q : Party} {header : Header} {payload : Bytes} (h : OneSide p q)

include h

/-- What may be put on the wire is true. -/
theorem tells (hs : p.localSessionId ≠ 0) {d : Bytes}
    (hem : p.Emittable d) : Tells p.history.sessions p.history.offers p.history.deliveries d := by
  cases hem with
  | keepalive header payload hd htype hsession =>
    exact .keepalive header payload hd htype (hsession ▸ h.numbers.known hs)
  | ack header payload hd htype hsession hack type hrecent =>
    obtain ⟨delivery, hdelivery, hlocal, hremote, hid⟩ := h.remembers _ hrecent
    exact .ack header payload hd htype delivery hdelivery (hlocal.trans hsession.symm)
      (hremote ▸ hack) hid
  | piece offer hpending hd =>
    obtain ⟨header, payload, hdec, hcarries⟩ := hd
    exact .piece header payload hdec offer (h.numbers.pending offer hpending).1 hcarries
  | held hheld => exact h.speaks d (Or.inr hheld)

/-- **The datagram that is handled was sent by the peer and is true.** -/
theorem heard (hq : OneSide q p) (hh : p.Heard header payload) :
    ∃ d ∈ q.out, Decodes d header payload
      ∧ Tells q.history.sessions q.history.offers q.history.deliveries d := by
  obtain ⟨d, hcurrent, hdec⟩ := hh.decodes
  exact ⟨d, h.hears d hcurrent, hdec, hq.speaks d (Or.inl (h.hears d hcurrent))⟩

/-- An event that is handled is one the peer has offered. -/
theorem heard_event (hq : OneSide q p) (hh : p.Heard header payload)
    (htype : header.type = typeData ∨ header.type = typeTimeCode) :
    ∃ d ∈ q.out, Decodes d header payload ∧ ∃ offer ∈ q.history.offers,
      offer.session = p.remoteSessionId ∧ Carries offer header payload := by
  obtain ⟨d, hd, hdec, htells⟩ := h.heard hq hh
  obtain ⟨offer, hoffer, hcarries⟩ := htells.of_event hdec htype
  exact ⟨d, hd, hdec, offer, hoffer, hcarries.session.symm.trans hh.session, hcarries⟩

/-- **A whole packet is the one offered.** -/
theorem heard_whole (hq : OneSide q p) (hh : p.Heard header payload)
    (htype : header.type = typeData) (hwhole : header.totalSize.toNat = header.payloadSize.toNat) :
    ⟨p.remoteSessionId, header.messageId, .data ⟨payload, terminatorOfFlags header.flags⟩⟩
      ∈ q.history.offers := by
  obtain ⟨_, _, _, offer, hoffer, hsession, hcarries⟩ := h.heard_event hq hh (Or.inl htype)
  obtain ⟨packet, hevent, hpiece⟩ := hcarries.pieceOf htype
  have hpacket : packet = ⟨payload, terminatorOfFlags header.flags⟩ := by
    rw [(hpiece.fragment hwhole).2, terminatorOfFlags_eq_of_and hpiece.terminator]
  rwa [← hsession, hcarries.messageId, ← hpacket, ← hevent]

/-- **A time code is the one offered.** -/
theorem heard_timeCode (hq : OneSide q p) (hh : p.Heard header payload)
    (htype : header.type = typeTimeCode) :
    ⟨p.remoteSessionId, header.messageId,
      .timeCode ⟨BigEndian.byteAt payload 0, BigEndian.byteAt payload 1⟩⟩ ∈ q.history.offers := by
  obtain ⟨_, _, _, offer, hoffer, hsession, hcarries⟩ := h.heard_event hq hh (Or.inr htype)
  obtain ⟨code, hevent, hcode⟩ := hcarries.timeCodeOf htype
  have heq : code = ⟨BigEndian.byteAt payload 0, BigEndian.byteAt payload 1⟩ := by
    rw [hcode.payload]
    rfl
  rwa [← hsession, hcarries.messageId, ← heq, ← hevent]

/-- **A packet put together is the one offered.** -/
theorem heard_reassembled (hactive : p.reassembly.active = true)
    (hall : p.reassembly.coveredBytes = p.reassembly.totalSize.toNat) :
    ⟨p.remoteSessionId, p.reassembly.messageId, .data p.reassembly.packet⟩
      ∈ q.history.offers := by
  obtain ⟨offer, packet, hexp⟩ := h.explained hactive
  rw [hexp.packet_eq ((h.wellFormed.coveredBytes_eq_iff hactive).mp hall), ← hexp.session,
    ← hexp.messageId, ← hexp.event]
  exact hexp.offered

/-- What a side remembers once one more message is accepted. -/
theorem remembers_recentAfter (ackRequired : Bool) (type : UInt8)
    (messageId : UInt32) (event : Event) :
    ∀ key ∈ p.recentAfter ackRequired type messageId,
      ∃ d ∈ p.history.deliveries ++ [p.delivery messageId event],
        d.localSession = p.localSessionId ∧ d.remoteSession = p.remoteSessionId
          ∧ d.messageId = key.messageId := by
  intro key hkey
  obtain hold | rfl := Party.mem_recentAfter_cases hkey
  · obtain ⟨d, hd, hrest⟩ := h.remembers key hold
    exact ⟨d, List.mem_append_left _ hd, hrest⟩
  · exact ⟨p.delivery messageId event, List.mem_append_right _ (List.mem_singleton_self _), rfl,
      rfl, rfl⟩

theorem acceptPacket {ackRequired : Bool} {messageId : UInt32} {packet : Packet}
    (hslot : p.history.slot = none)
    (hoffer : ⟨p.remoteSessionId, messageId, .data packet⟩ ∈ q.history.offers) :
    OneSide (p.acceptPacket ackRequired messageId packet) q where
  numbers := h.numbers
  speaks := fun d hd => (h.speaks d hd).mono (List.Subset.refl _) (List.Subset.refl _)
    (List.subset_append_left _ _)
  remembers := h.remembers_recentAfter ackRequired typeData messageId _
  stores := forall_delivery
    (fun d hd hlife => (h.stores d hd hlife).imp_right (fun h' => h'.elim
      (fun hd' => absurd (hslot.symm.trans hd') (by simp)) Or.inr))
    (fun _ => Or.inr (Or.inl rfl))
  lives := forall_delivery h.lives (Nat.le_refl _)
  wellFormed := h.wellFormed
  hears := h.hears
  delivered := forall_delivery h.delivered hoffer
  explained := h.explained
  acknowledged := h.acknowledged

theorem acceptTimeCode {ackRequired : Bool} {messageId : UInt32} {code : TimeCode}
    (hoffer : ⟨p.remoteSessionId, messageId, .timeCode code⟩ ∈ q.history.offers) :
    OneSide (p.acceptTimeCode ackRequired messageId code) q where
  numbers := h.numbers
  speaks := fun d hd => (h.speaks d hd).mono (List.Subset.refl _) (List.Subset.refl _)
    (List.subset_append_left _ _)
  remembers := h.remembers_recentAfter ackRequired typeTimeCode messageId _
  stores := forall_delivery
    (fun d hd hlife => (h.stores d hd hlife).imp_right (fun h' => h'.imp_right
      (fun hd' => List.mem_append_left _ hd')))
    (fun _ => Or.inr (Or.inr (List.mem_append_right _ (List.mem_singleton_self _))))
  lives := forall_delivery h.lives (Nat.le_refl _)
  wellFormed := h.wellFormed
  hears := h.hears
  delivered := forall_delivery h.delivered hoffer
  explained := h.explained
  acknowledged := h.acknowledged

theorem forget : OneSide p.forget q :=
  ⟨h.numbers, h.speaks, h.remembers, h.stores, h.lives, h.wellFormed.reset, h.hears, h.delivered,
    fun hactive => absurd hactive Bool.false_ne_true, h.acknowledged⟩

/-- **What clears the pending event is its acknowledgement by the peer's
session.** -/
theorem acknowledge (hq : OneSide q p) {offer : Offer}
    (hh : p.Heard header payload) (htype : header.type = typeAck)
    (hack : decodeAckPayload payload = some p.localSessionId) (hpending : p.pending = some offer)
    (hid : header.messageId = offer.messageId) : OneSide (p.acknowledge offer) q := by
  refine ⟨h.numbers.idle, h.speaks, h.remembers, h.stores, h.lives, h.wellFormed, h.hears,
    h.delivered, h.explained, fun a ha => ?_⟩
  rcases List.mem_append.mp ha with ha | ha
  · exact h.acknowledged a ha
  rw [List.mem_singleton] at ha
  subst ha
  obtain ⟨d, _, hdec, htells⟩ := h.heard hq hh
  obtain ⟨delivery, hdelivery, hlocal, hremote, hmessage⟩ := htells.of_ack hdec htype
  obtain ⟨hoffer, hsession⟩ := h.numbers.pending offer hpending
  -- the delivery is of an event this side has offered, and the number says of which
  refine ⟨delivery, hdelivery, hlocal.trans hh.session, ?_⟩
  refine h.numbers.unique _ (hq.delivered delivery hdelivery) _ hoffer ?_ (hmessage.trans hid)
  rw [hsession]
  exact (Option.some.inj (hack.symm.trans hremote)).symm

/-- **Every act of a side keeps what holds of it.** -/
theorem act {window : Party → Bytes → Prop} {p' : Party} (hq : OneSide q p)
    (hs : p.localSessionId ≠ 0) (hact : Act window q p p') : OneSide p' q := by
  cases hact with
  | @emit d hem =>
    refine ⟨h.numbers, fun d' hd' => ?_, h.remembers, h.stores, h.lives, h.wellFormed, h.hears,
      h.delivered, h.explained, h.acknowledged⟩
    obtain hd' | hd' := hd'
    · rcases List.mem_append.mp hd' with hd' | hd'
      · exact h.speaks d' (Or.inl hd')
      · rw [List.mem_singleton] at hd'
        exact hd'.symm ▸ h.tells hs hem
    · exact h.speaks d' (Or.inr hd')
  | hold hem _ =>
    refine ⟨h.numbers, fun d' hd' => ?_, h.remembers, h.stores, h.lives, h.wellFormed, h.hears,
      h.delivered, h.explained, h.acknowledged⟩
    obtain hd' | hd' := hd'
    · exact h.speaks d' (Or.inl hd')
    · exact Option.some.inj hd' ▸ h.tells hs hem
  | release =>
    refine ⟨h.numbers, fun d' hd' => ?_, h.remembers, h.stores, h.lives, h.wellFormed, h.hears,
      h.delivered, h.explained, h.acknowledged⟩
    obtain hd' | hd' := hd'
    · exact h.speaks d' (Or.inl hd')
    · exact absurd hd' (by simp)
  | @receive d hd _ =>
    refine ⟨h.numbers, h.speaks, h.remembers, h.stores, h.lives, h.wellFormed, fun d' hd' => ?_,
      h.delivered, h.explained, h.acknowledged⟩
    rw [Party.current, Party.receive, List.getLast?_concat] at hd'
    exact Option.some.inj hd' ▸ hd
  | adopt =>
    exact ⟨h.numbers, h.speaks, fun key hkey => absurd hkey List.not_mem_nil, h.stores, h.lives,
      h.wellFormed.reset, h.hears, h.delivered, fun hactive => absurd hactive Bool.false_ne_true,
      h.acknowledged⟩
  | push hh htype hpart hnew =>
    refine ⟨h.numbers, h.speaks, h.remembers, h.stores, h.lives, h.wellFormed.push _ _, h.hears,
      h.delivered, fun hactive => ?_, h.acknowledged⟩
    obtain ⟨d, hd, hdec, offer, hoffer, hsession, hcarries⟩ := h.heard_event hq hh (Or.inl htype)
    exact explains_push h.wellFormed hq.numbers.unique h.explained hd hdec htype hh.session hoffer
      hcarries hactive
  | acceptWhole hh htype hwhole hnew hslot =>
    exact h.acceptPacket hslot (h.heard_whole hq hh htype hwhole)
  | acceptReassembled hh htype hnew hslot hactive hid hack hall =>
    exact (h.acceptPacket hslot (h.heard_reassembled hactive hall)).forget
  | acceptTimeCode hh htype hnew hroom => exact h.acceptTimeCode (h.heard_timeCode hq hh htype)
  | acknowledge hh htype hack hpending hid hsent =>
    exact h.acknowledge hq hh htype hack hpending hid
  | offer hidle hnext =>
    refine ⟨h.numbers.offer hs hnext _, fun d' hd' => (h.speaks d' hd').mono (List.Subset.refl _)
      (List.subset_append_left _ _) (List.Subset.refl _), h.remembers, h.stores, h.lives,
      h.wellFormed, h.hears, h.delivered, h.explained, h.acknowledged⟩
  | noteSent hpending hnew =>
    exact ⟨h.numbers.noteSent hpending, h.speaks, h.remembers, h.stores, h.lives, h.wellFormed,
      h.hears, h.delivered, h.explained, h.acknowledged⟩
  | fail hpending hnew hout =>
    exact ⟨h.numbers.idle, h.speaks, h.remembers, h.stores, h.lives, h.wellFormed, h.hears,
      h.delivered, h.explained, h.acknowledged⟩

theorem takePacket : OneSide p.takePacket q := by
  refine ⟨h.numbers, h.speaks, h.remembers, fun d hd hlife => ?_, h.lives, h.wellFormed, h.hears,
    h.delivered, h.explained, h.acknowledged⟩
  show d ∈ p.history.taken ++ p.history.slot.toList ∨ _
  obtain htaken | hslot | hqueue := h.stores d hd hlife
  · exact Or.inl (List.mem_append_left _ htaken)
  · exact Or.inl (List.mem_append_right _ (by simp [hslot]))
  · exact Or.inr (Or.inr hqueue)

theorem takeTimeCode : OneSide p.takeTimeCode q := by
  refine ⟨h.numbers, h.speaks, h.remembers, fun d hd hlife => ?_, h.lives, h.wellFormed, h.hears,
    h.delivered, h.explained, h.acknowledged⟩
  show d ∈ p.history.taken ++ p.history.queue.head?.toList ∨ _ ∨ d ∈ p.history.queue.tail
  obtain htaken | hslot | hqueue := h.stores d hd hlife
  · exact Or.inl (List.mem_append_left _ htaken)
  · exact Or.inr (Or.inl hslot)
  · cases hlist : p.history.queue with
    | nil =>
      rw [hlist] at hqueue
      exact absurd hqueue List.not_mem_nil
    | cons first rest =>
      rw [hlist, List.mem_cons] at hqueue
      obtain rfl | hrest := hqueue
      · exact Or.inl (List.mem_append_right _ (by simp))
      · exact Or.inr (Or.inr hrest)

/-- A cleared link holds nothing, and its next life has no deliveries yet. -/
theorem clearLink : OneSide p.clearLink q where
  numbers := h.numbers.idle
  speaks := fun d hd => h.speaks d (hd.imp_right
    (fun hd' => absurd hd' (by simp [Party.clearLink])))
  remembers := fun key hkey => absurd hkey List.not_mem_nil
  stores := fun d hd hlife => by
    have hle := h.lives d hd
    have hlife' : d.life = p.history.life + 1 := hlife
    omega
  lives := fun d hd => (h.lives d hd).trans (Nat.le_succ _)
  wellFormed := h.wellFormed.reset
  hears := h.hears
  delivered := h.delivered
  explained := fun hactive => absurd hactive Bool.false_ne_true
  acknowledged := h.acknowledged

theorem start {session : UInt64} (hne : session ≠ 0)
    (hnew : session ∉ p.history.sessions) : OneSide (p.start session) q := by
  have hclear := h.clearLink
  exact ⟨h.numbers.start hne hnew, fun d hd => (hclear.speaks d hd).mono
    (List.subset_append_left _ _) (List.Subset.refl _) (List.Subset.refl _),
    fun key hkey => absurd hkey List.not_mem_nil, hclear.stores, hclear.lives, hclear.wellFormed,
    hclear.hears, hclear.delivered, hclear.explained, hclear.acknowledged⟩

end OneSide

/-- What happens without a session concerns the history of the peer in nothing. -/
theorem Sound.of_quiet {p p' q : Party} (h : Sound p q) (h' : OneSide p' q)
    (hout : p'.out = p.out) (hoffers : p'.history.offers = p.history.offers)
    (hdeliveries : p'.history.deliveries = p.history.deliveries) : Sound p' q :=
  ⟨h', h.2.mono ⟨hout ▸ List.Subset.refl _, hoffers ▸ List.Subset.refl _,
    hdeliveries ▸ List.Subset.refl _⟩⟩

theorem Sound.symm {p q : Party} (h : Sound p q) : Sound q p := ⟨h.2, h.1⟩

theorem Sound.clearLink {p q : Party} (h : Sound p q) : Sound p.clearLink q :=
  h.of_quiet h.1.clearLink rfl rfl rfl

theorem Sound.start {p q : Party} (h : Sound p q) {session : UInt64} (hne : session ≠ 0)
    (hnew : session ∉ p.history.sessions) : Sound (p.start session) q :=
  h.of_quiet (h.1.start hne hnew) rfl rfl rfl

/-- **The invariant of a link is kept by whatever its ends do**, whichever
datagrams of the past arrive. -/
theorem stable_sound : Stable (fun _ _ => True) Sound where
  act hs h hact := ⟨h.1.act h.2 hs hact, h.2.mono hact.grows⟩
  forget h := h.of_quiet h.1.forget rfl rfl rfl
  takePacket h := h.of_quiet h.1.takePacket rfl rfl rfl
  takeTimeCode h := h.of_quiet h.1.takeTimeCode rfl rfl rfl
  fresh {p q} h hnext event := by
    refine ⟨fun d hd hpiece => ?_, fun hsent => ?_⟩
    · obtain ⟨header, payload, hdec, hcarries⟩ := hpiece
      obtain ⟨offer, hoffer, hcarries'⟩ := (h.1.speaks d (Or.inl hd)).of_event hdec hcarries.type
      exact h.1.numbers.fresh hnext hoffer ⟨hcarries'.session.symm.trans hcarries.session,
        hcarries'.messageId.symm.trans hcarries.messageId⟩
    · exact h.1.numbers.fresh hnext (h.1.numbers.sent _ hsent) ⟨rfl, rfl⟩

/-! ## Every run -/

/-- A backend that has just been constructed has done nothing. -/
theorem oneSide_of_construct {config : UdpConfig} {object : UInt64} {socketOk bindOk : Bool}
    {b : UdpBackend} (h : udpConstruct config object socketOk bindOk = (.ok, b)) (q : Party) :
    OneSide (b.party []) q := by
  have hwf := (wf_of_construct h).reassembly
  obtain ⟨_, rfl⟩ := udpConstruct_ok h
  exact {
    numbers := .unstarted
    speaks := fun d hd => hd.elim (fun hd => absurd hd List.not_mem_nil) (fun hd => by cases hd)
    remembers := fun _ hkey => absurd hkey List.not_mem_nil
    stores := fun _ hd => absurd hd List.not_mem_nil
    lives := fun _ hd => absurd hd List.not_mem_nil
    wellFormed := hwf
    hears := fun d hd => by cases hd
    delivered := fun _ hd => absurd hd List.not_mem_nil
    explained := fun hactive => by cases hactive
    acknowledged := fun _ ha => absurd ha List.not_mem_nil }

theorem UdpLink.kept_sound : UdpLink.Kept (fun _ _ => True) (fun _ _ => True) Sound where
  a := stable_sound
  b := {
    act := fun hs h hact => (stable_sound.act hs h.symm hact).symm
    forget := fun h => (stable_sound.forget h.symm).symm
    takePacket := fun h => (stable_sound.takePacket h.symm).symm
    takeTimeCode := fun h => (stable_sound.takeTimeCode h.symm).symm
    fresh := fun h hnext => stable_sound.fresh h.symm hnext }
  nextA h hfew := h.1.numbers.next_ne_zero hfew
  nextB h hfew := h.2.numbers.next_ne_zero hfew

/-- **The invariant holds in every state of every run**, whatever is started,
stopped and reset. -/
theorem UdpLink.sound_of_run {configA configB : UdpConfig} {objectA objectB : UInt64}
    {a b : UdpBackend} (ha : udpConstruct configA objectA true true = (.ok, a))
    (hb : udpConstruct configB objectB true true = (.ok, b)) {moves : List (Side × Deed)}
    {link : UdpLink} (hrun : (UdpLink.connect a b).run (fun _ _ _ => true) moves = some link) :
    link.Holds (fun _ _ => True) (fun _ _ => True) Sound False := by
  have hadmissible : ∀ p deed, Admissible (fun _ _ => True) Sound p deed := fun p deed =>
    ⟨fun _ _ q session o h hne hnew _ => h.start hne hnew, fun _ _ q o h => h.clearLink,
      fun _ _ _ _ _ _ => trivial⟩
  have hadmissible' : ∀ p deed, Admissible (fun _ _ => True) (fun p q => Sound q p) p deed :=
    fun p deed => ⟨fun _ _ q session o h hne hnew _ => (h.symm.start hne hnew).symm,
      fun _ _ q o h => h.symm.clearLink.symm, fun _ _ _ _ _ _ => trivial⟩
  refine Holds.run kept_sound (fun link deed _ => hadmissible link.a deed)
    (fun link deed _ => hadmissible' link.b deed) ?_ hrun
  refine holds_connect (wf_of_construct ha) (wf_of_construct hb) ?_ ?_ (fun h => h.elim)
    ⟨oneSide_of_construct ha _, oneSide_of_construct hb _⟩
  · rw [(udpConstruct_ok ha).2, (udpConstruct_ok hb).2]
    exact ⟨rfl, rfl⟩
  · rw [(udpConstruct_ok ha).2, (udpConstruct_ok hb).2]
    exact ⟨rfl, rfl⟩

/-- What `process_ack` clears is noted with the session it was cleared by. -/
theorem UdpBackend.processAck_clears {s : UdpBackend} {header : Header} {payload : Bytes}
    {offer : Offer} (hpending : s.pendingOffer = some offer)
    (hcleared : (s.processAck header payload).pendingOffer = none) :
    (s.processAck header payload).history.acknowledged
      = s.history.acknowledged ++ [⟨offer, s.remoteSessionId⟩] := by
  have hkept : s.countDropped.pendingOffer = s.pendingOffer := rfl
  unfold processAck at hcleared ⊢
  split at hcleared
  · rw [hkept, hpending] at hcleared
    exact absurd hcleared (by simp)
  · split_ifs at hcleared with hsession hmatch
    · rw [hpending] at hcleared
      exact absurd hcleared (by simp)
    · rw [if_neg hsession, if_pos hmatch]
      show s.history.acknowledged ++ (s.pendingOffer.map _).toList = _
      rw [hpending]
      rfl
    · rw [hpending] at hcleared
      exact absurd hcleared (by simp)

/-- **An application can get an accepted event**: in a calm environment receiving
without waiting returns it, a time code after those ahead of it in the queue. -/
def UdpBackend.Retrievable (b : UdpBackend) (out : List Bytes) (d : Delivery) : Prop :=
  ∀ oracle fuel, Calm out oracle →
    match d.event with
    | .data packet => ∀ buffer : ReceiveBuffer, packet.bytes.length ≤ buffer.capacity →
        (packet.bytes ≠ [] → buffer.hasData = true) →
          ∃ s, ((udpReceive (fuel + 1) buffer timeoutImmediate b).replay oracle 0).2
            = some (s, .packet packet) ∧ d ∈ s.history.taken
    | .timeCode code => ∃ k < udpTimeCodeQueueDepth, ∃ s,
        ((receiveTimeCodeBehind (fuel + 1) k b).replay oracle 0).2 = some (s, .ok code)
          ∧ d ∈ s.history.taken

/-- What is held for an application can be received. -/
theorem UdpBackend.retrievable_of_stored {s : UdpBackend} {o : List Bytes} {q : Party}
    (hinv : (linkSetting (fun _ _ => True) (fun p q => Sound q p)).inv s o q) (hs : AtRest s)
    {d : Delivery} (hd : s.history.slot = some d ∨ d ∈ s.history.queue) :
    s.Retrievable q.out d := by
  intro oracle fuel hcalm
  obtain hslot | hqueue := hd
  · rw [hinv.1.slot d hslot]
    intro buffer hcapacity hdata
    obtain ⟨s', hreplay, htaken⟩ := udpReceive_returns hcalm fuel UdpLink.kept_sound.b
      (List.Subset.refl _) hinv hs hslot (hinv.1.slot d hslot) hcapacity hdata
    exact ⟨s', hreplay, by rw [htaken]; simp⟩
  · obtain ⟨k, hk⟩ := List.mem_iff_getElem?.mp hqueue
    have hlength : k < udpTimeCodeQueueDepth :=
      (List.getElem?_eq_some_iff.mp hk).1.trans_le (hinv.1.queue_length ▸ s.timeCodes.count_le)
    obtain ⟨code, _, hcode⟩ := hinv.1.queued hqueue
    rw [hcode]
    obtain ⟨s', r, _, hreplay, rfl, htaken⟩ := (ends_receiveTimeCodeBehind hcalm fuel
      UdpLink.kept_sound.b (List.Subset.refl _) hcode hinv hs hk 0).replay
    exact ⟨k, hlength, s', hreplay, htaken⟩

/-- **Acknowledgements are sound across restarts.** In every state of every run of
a link whose ends are started, stopped and reset at will, what `process_ack` has
cleared at one end was accepted at the other, by the very session it was cleared
for. And what was accepted since that end was last started, stopped or reset was
handed to the application, or is in the packet slot or the time-code queue and can
be received. -/
theorem UdpLink.acknowledged_accepted {configA configB : UdpConfig} {objectA objectB : UInt64}
    {a b : UdpBackend} (ha : udpConstruct configA objectA true true = (.ok, a))
    (hb : udpConstruct configB objectB true true = (.ok, b)) {moves : List (Side × Deed)}
    {link : UdpLink} (hrun : (UdpLink.connect a b).run (fun _ _ _ => true) moves = some link) :
    (∀ (s : UdpBackend) (header : Header) (payload : Bytes) (offer : Offer),
        s.pendingOffer = some offer → (s.processAck header payload).pendingOffer = none →
          (s.processAck header payload).history.acknowledged
            = s.history.acknowledged ++ [⟨offer, s.remoteSessionId⟩])
    ∧ (∀ x ∈ link.a.state.history.acknowledged, ∃ d ∈ link.b.state.history.deliveries,
        d.localSession = x.remoteSession ∧ d.remoteSession = x.offer.session
          ∧ d.messageId = x.offer.messageId ∧ d.event = x.offer.event)
    ∧ (∀ d ∈ link.b.state.history.deliveries, d.life = link.b.state.history.life →
        d ∉ link.b.state.history.taken →
          ((link.b.state.pendingPacketValid = true ∧ d.event
              = .data ⟨link.b.state.pendingPacket, link.b.state.pendingPacketTerminator⟩)
            ∨ ∃ code ∈ link.b.state.timeCodes.toList, d.event = .timeCode code)
          ∧ (link.b.isIdle = true → link.b.state.Retrievable link.a.out d))
    ∧ (link.b.isIdle = true → link.b.state.history.taken.map Delivery.event
        = link.b.log.filterMap (fun entry => entry.1.receivedEvent entry.2)) := by
  have hholds := sound_of_run ha hb hrun
  have hwf := hholds.b.inv.1
  refine ⟨fun s header payload offer => UdpBackend.processAck_clears, fun x hx => ?_,
    fun d hd hlife htaken => ?_, fun hidle => (hholds.b.rest hidle).taken⟩
  · obtain ⟨d, hd, hsession, hoffer⟩ := hholds.inv.1.acknowledged x hx
    exact ⟨d, hd, hsession, congrArg Offer.session hoffer, congrArg Offer.messageId hoffer,
      congrArg Offer.event hoffer⟩
  · have hstored := (hholds.inv.2.stores d hd hlife).resolve_left htaken
    refine ⟨?_, fun hidle => UdpBackend.retrievable_of_stored hholds.b.inv
      (hholds.b.rest hidle).rest hstored⟩
    refine hstored.imp (fun hslot => ⟨?_, hwf.slot d hslot⟩) hwf.queued
    rw [hwf.valid]
    exact Option.isSome_iff_exists.mpr ⟨d, hslot⟩

/-- The exchange, after which the second end is started again and the first sends a third time
code to its new session. -/
def sampleRestart : List (Side × Deed) :=
  sampleExchange ++ sampleCall .b 12000 .reset 0 .wouldBlock
    ++ sampleCall .b 12000 .start 4 .wouldBlock
    ++ sampleCall .a 12000 .getLinkState 8 (sampleKeepalive 2 143073)
    ++ sampleCall .b 12000 .getLinkState 8 (sampleKeepalive 1 66537)
    ++ sampleCall .a 12000 (.sendTimeCode ⟨7, 0⟩ timeoutImmediate) 14 .wouldBlock
    ++ sampleCall .b 12000 .getLinkState 10 (sampleTimeCode 9 3 7)
    ++ sampleCall .a 12000 .getLinkState 8 (sampleAck 143073 2 3)

/-- What is acknowledged, each by the session that has accepted it. -/
def sampleAcknowledged : List Acknowledged :=
  [⟨⟨66537, 1, .timeCode ⟨5, 0⟩⟩, 132073⟩, ⟨⟨66537, 2, .timeCode ⟨6, 0⟩⟩, 132073⟩,
    ⟨⟨66537, 3, .timeCode ⟨7, 0⟩⟩, 143073⟩]

/-- Three time codes are acknowledged, and the one since the restart can be received. -/
theorem UdpLink.acknowledged_accepted_sample :
    ∃ link, (UdpLink.connect (sampleEnd .a) (sampleEnd .b)).run (fun _ _ _ => true) sampleRestart
        = some link
      ∧ link.a.state.history.acknowledged = sampleAcknowledged
      ∧ ∃ d ∈ link.b.state.history.deliveries, d.localSession = 143073 ∧ d.messageId = 3
        ∧ link.b.state.Retrievable link.a.out d := by
  obtain ⟨link, hrun, hfacts⟩ := Option.map_eq_some_iff.mp (show
    ((UdpLink.connect (sampleEnd .a) (sampleEnd .b)).run (fun _ _ _ => true) sampleRestart).map
      (fun link => (link.a.state.history.acknowledged, link.b.state.history.taken, link.b.isIdle,
        link.b.state.history.deliveries.all fun d =>
          d.messageId = 3 → d.life = link.b.state.history.life))
      = some (sampleAcknowledged, [], true, true) by decide +kernel)
  simp only [Prod.mk.injEq] at hfacts
  obtain ⟨hacknowledged, htaken, hidle, hlife⟩ := hfacts
  obtain ⟨_, haccepted, hstored, _⟩ := acknowledged_accepted
    (show udpConstruct .sample 0 true true = (.ok, sampleEnd .a) from rfl)
    (show udpConstruct { UdpConfig.sample with localPort := 2, remotePort := 1 } 0 true true
      = (.ok, sampleEnd .b) from rfl) hrun
  obtain ⟨d, hd, hsession, _, hid, _⟩ := haccepted _
    (by rw [hacknowledged]; exact List.mem_of_getElem? (i := 2) rfl)
  refine ⟨link, hrun, hacknowledged, d, hd, hsession, hid, (hstored d hd ?_ ?_).2 hidle⟩
  · exact of_decide_eq_true (List.all_eq_true.mp hlife d hd) hid
  · rw [htaken]
    exact List.not_mem_nil
