import Mathlib.Data.List.DropRight
import SpwKit.Ethernet.AckSoundness

/-!
# Reliable delivery

Between two ends that are started once and have no fault rules, the network may
lose, delay, duplicate and reorder datagrams, and yet what one end accepts is
what the other has sent, in order and once each.

The sender has one event in flight. An event whose call failed was never sent
completely, so nothing of it can be accepted (`Sender.fate`); an event that was
sent is pending until the receiver has it. The receiver therefore only ever
accepts the pending event – provided that it does not accept an old one again.
That is what it remembers its last 32 deliveries for, and why a datagram must not
arrive after 32 later events were accepted (`Within`).
-/

open VspwTp FragmentReassembler Interactive

/-! ## Lists in order -/

section

variable {α : Type} {r : α → α → Prop}

variable {l : List α}

/-- A list that remembers the last `n + 1` elements, given one more. -/
theorem rtake_concat_eq (l : List α) (n : Nat) (x : α) :
    (l ++ [x]).rtake (n + 1) = (if (l.rtake (n + 1)).length < n + 1 then l.rtake (n + 1)
      else (l.rtake (n + 1)).tail) ++ [x] := by
  rw [List.rtake_concat_succ]
  congr 1
  unfold List.rtake
  rw [List.length_drop]
  split_ifs with h
  · rw [show l.length - n = 0 by omega, show l.length - (n + 1) = 0 by omega]
  · rw [List.tail_drop]
    congr 1
    omega

/-- **Among the last.** In an ordered list, an element that fewer than `n` come
after is one of the last `n`. -/
theorem mem_rtake_of_countP_lt [DecidableRel r] (hl : l.Pairwise r) {x : α} (hx : x ∈ l) {n : Nat}
    (hfew : l.countP (fun y => r x y) < n) : x ∈ l.rtake n := by
  unfold List.rtake
  rw [← List.take_append_drop (l.length - n) l, List.mem_append] at hx
  refine hx.resolve_left (fun hearly => ?_)
  rw [← List.take_append_drop (l.length - n) l] at hl
  have hlater : ∀ y ∈ l.drop (l.length - n), r x y :=
    fun y hy => (List.pairwise_append.mp hl).2.2 x hearly y hy
  -- everything behind the cut comes after `x`, and there is enough of it
  have hcount : l.length - (l.length - n) ≤ l.countP (fun y => r x y) := by
    calc l.length - (l.length - n) = (l.drop (l.length - n)).length := List.length_drop.symm
      _ = (l.drop (l.length - n)).countP (fun y => r x y) :=
        (List.countP_eq_length.mpr (fun y hy => decide_eq_true (hlater y hy))).symm
      _ ≤ l.countP (fun y => r x y) := (List.drop_sublist _ _).countP_le
  have hshort : l.length - n ≠ 0 := fun h0 => by
    rw [h0] at hearly
    exact absurd hearly List.not_mem_nil
  omega

/-- Two lists in order with the same elements are the same. -/
theorem eq_of_pairwise_of_mem_iff (hasymm : ∀ x y, r x y → ¬ r y x) {l' : List α}
    (hl : l.Pairwise r) (hl' : l'.Pairwise r) (h : ∀ x, x ∈ l ↔ x ∈ l') : l = l' := by
  have hnodup : ∀ {l : List α}, l.Pairwise r → l.Nodup := fun hl =>
    List.Pairwise.imp (fun {x y} hxy (heq : x = y) => by
      subst heq
      exact hasymm x x hxy hxy) hl
  refine List.Perm.eq_of_pairwise (fun x y _ _ hxy hyx => absurd hyx (hasymm x y hxy)) hl hl' ?_
  exact (List.perm_ext_iff_of_nodup (hnodup hl) (hnodup hl')).mpr h

end

/-! ## The sender -/

/-- One event was offered before another. -/
def Offer.Before (o o' : Offer) : Prop := o.messageId < o'.messageId

/-- **What holds of the sender**, given the events that were accepted. -/
structure Sender (p : Party) (accepted : List Offer) : Prop where
  quiet : p.quiet
  held : p.held = none
  once : p.history.sessions.length ≤ 1
  ordered : p.history.sent.Pairwise Offer.Before
  /-- The pending event is the last one that was offered. -/
  last : ∀ o, p.pending = some o → ∀ o' ∈ p.history.offers, o'.messageId ≤ o.messageId
  /-- What was offered was sent, is pending, or was never sent completely. -/
  fate : ∀ o ∈ p.history.offers, o ∈ p.history.sent ∨ p.pending = some o ∨ Incomplete p.out o
  /-- What was sent is pending or accepted. -/
  arrived : ∀ o ∈ p.history.sent, p.pending = some o ∨ o ∈ accepted
  /-- What was accepted was sent, or is about to be. -/
  meant : ∀ o ∈ accepted, (o ∈ p.history.sent ∨ p.pending = some o) ∧ ¬ Incomplete p.out o

/-- What has been sent stays sent. -/
theorem Incomplete.of_append {out : List Bytes} {o : Offer} {d : Bytes}
    (h : Incomplete (out ++ [d]) o) : Incomplete out o := by
  refine h.imp (fun hnone x hx => hnone x (List.mem_append_left _ hx)) ?_
  rintro ⟨packet, hevent, position, hlt, hat⟩
  exact ⟨packet, hevent, position, hlt, fun x hx => hat x (List.mem_append_left _ hx)⟩

namespace Sender

variable {p q : Party} {accepted : List Offer}

variable {d : Bytes} {o : Offer} (h : Sender p accepted)

include h

/-- All events are of the one session. -/
theorem session_eq {s s' : UInt64} (hs : s ∈ p.history.sessions)
    (hs' : s' ∈ p.history.sessions) : s = s' := by
  obtain ⟨i, hi, rfl⟩ := List.mem_iff_getElem.mp hs
  obtain ⟨j, hj, rfl⟩ := List.mem_iff_getElem.mp hs'
  have hone := h.once
  obtain rfl : i = j := by omega
  rfl

/-- The number says which event it is. -/
theorem offer_eq (hp : OneSide p q) {o' : Offer} (ho : o ∈ p.history.offers)
    (ho' : o' ∈ p.history.offers) (hid : o.messageId = o'.messageId) : o = o' :=
  hp.numbers.unique o ho o' ho'
    (h.session_eq (hp.numbers.offered o ho) (hp.numbers.offered o' ho')) hid

/-- What is put on the wire is of no event but the pending one. -/
theorem emit_not_piece (hp : OneSide p q) (hem : p.Emittable d)
    (ho : o ∈ p.history.offers) (hne : p.pending ≠ some o) : ¬ Piece o d := by
  rintro ⟨header, payload, hdec, hcarries⟩
  cases hem with
  | keepalive header' payload' hdec' htype | ack header' payload' hdec' htype =>
    rw [← (hdec.unique hdec').1] at htype
    obtain h | h := hcarries.type <;> exact absurd (h.symm.trans htype) (by decide)
  | piece o' hpending hpiece =>
    obtain ⟨header', payload', hdec', hcarries'⟩ := hpiece
    obtain ⟨rfl, rfl⟩ := hdec.unique hdec'
    refine hne (hpending.trans (congrArg some ?_))
    exact h.offer_eq hp (hp.numbers.pending o' hpending).1 ho
      (hcarries'.messageId.symm.trans hcarries.messageId)
  | held hheld => exact absurd (h.held.symm.trans hheld) (by simp)

/-- What a sender does that concerns nothing it sends. -/
theorem of_same {p' : Party} (hquiet : p'.quiet = p.quiet)
    (hheld : p'.held = p.held) (hpending : p'.pending = p.pending) (hout : p'.out = p.out)
    (hsessions : p'.history.sessions = p.history.sessions)
    (hoffers : p'.history.offers = p.history.offers)
    (hsent : p'.history.sent = p.history.sent) : Sender p' accepted := by
  obtain ⟨quiet, held, once, ordered, last, fate, arrived, meant⟩ := h
  constructor <;> simpa only [hquiet, hheld, hpending, hout, hsessions, hoffers, hsent]

/-- A datagram goes out. -/
theorem emit (hp : OneSide p q) (hem : p.Emittable d) :
    Sender (p.emit d) accepted := by
  refine ⟨h.quiet, h.held, h.once, h.ordered, h.last, fun o ho => ?_, h.arrived, fun o ho => ?_⟩
  · by_cases hpending : p.pending = some o
    · exact Or.inr (Or.inl hpending)
    · exact (h.fate o ho).imp_right (fun h' => h'.imp_right
        (fun hinc => hinc.append (h.emit_not_piece hp hem ho hpending)))
  · exact ⟨(h.meant o ho).1, fun hinc => (h.meant o ho).2 hinc.of_append⟩

/-- **An event is offered** while none is pending. -/
theorem offer (hp : OneSide p q) (hidle : p.pending = none)
    (hnext : p.nextMessageId ≠ 0) (hs : p.localSessionId ≠ 0) (event : Event) :
    Sender (p.offer event) accepted := by
  have hnone : ∀ o, p.pending ≠ some o := fun o ho => absurd (hidle.symm.trans ho) (by simp)
  refine ⟨h.quiet, h.held, h.once, h.ordered, fun o ho => ?_, fun o ho => ?_,
    fun o ho => Or.inr ((h.arrived o ho).resolve_left (hnone o)),
    fun o ho => ⟨Or.inl ((h.meant o ho).1.resolve_right (hnone o)), (h.meant o ho).2⟩⟩
  · obtain rfl := Option.some.inj ho
    intro o' ho'
    rcases List.mem_append.mp ho' with ho' | ho'
    · refine UInt32.le_of_lt (hp.numbers.below_next hnext ho' ?_)
      exact h.session_eq (hp.numbers.offered o' ho') (hp.numbers.known hs)
    · rw [List.mem_singleton] at ho'
      rw [ho']
      exact UInt32.le_refl _
  · rcases List.mem_append.mp ho with ho | ho
    · exact (h.fate o ho).imp_right (fun h' => Or.inr (h'.resolve_left (hnone o)))
    · rw [List.mem_singleton] at ho
      rw [ho]
      exact Or.inr (Or.inl rfl)

/-- **The call that offered the pending event succeeds.** -/
theorem noteSent (hp : OneSide p q) (hpending : p.pending = some o)
    (hnew : o ∉ p.history.sent) : Sender (p.noteSent o) accepted := by
  have hoffered := (hp.numbers.pending o hpending).1
  refine ⟨h.quiet, h.held, h.once, ?_, h.last,
    fun o' ho' => (h.fate o' ho').imp_left (List.mem_append_left _), fun o' ho' => ?_,
    fun o' ho' => ⟨(h.meant o' ho').1.imp_left (List.mem_append_left _), (h.meant o' ho').2⟩⟩
  · refine List.pairwise_append.mpr ⟨h.ordered, List.pairwise_singleton _ _, fun x hx y hy => ?_⟩
    rw [List.mem_singleton] at hy
    rw [hy]
    have hle := h.last o hpending x (hp.numbers.sent x hx)
    refine UInt32.lt_of_le_of_ne hle (fun heq => hnew ?_)
    rwa [← h.offer_eq hp (hp.numbers.sent x hx) hoffered heq]
  · rcases List.mem_append.mp ho' with ho' | ho'
    · exact h.arrived o' ho'
    · rw [List.mem_singleton] at ho'
      exact Or.inl (ho' ▸ hpending)

/-- **The call that offered the pending event fails**: some of it was never sent,
so it was not accepted. -/
theorem fail (hpending : p.pending = some o) (hnew : o ∉ p.history.sent)
    (hout : Incomplete p.out o) : Sender { p with pending := none } accepted := by
  have hgone : ∀ {o'}, p.pending = some o' → o' = o := fun ho' =>
    (Option.some.inj (hpending.symm.trans ho')).symm
  refine ⟨h.quiet, h.held, h.once, h.ordered, fun o' ho' => absurd ho' (by simp),
    fun o' ho' => ?_, fun o' ho' => ?_, fun o' ho' => ?_⟩
  · obtain hsent | hpend | hinc := h.fate o' ho'
    · exact Or.inl hsent
    · exact Or.inr (Or.inr (hgone hpend ▸ hout))
    · exact Or.inr (Or.inr hinc)
  · refine Or.inr ((h.arrived o' ho').resolve_left (fun hpend => hnew ?_))
    rwa [← hgone hpend]
  · obtain ⟨hmeant, hcomplete⟩ := h.meant o' ho'
    refine ⟨Or.inl (hmeant.resolve_right (fun hpend => hcomplete ?_)), hcomplete⟩
    rwa [hgone hpend]

/-- **The pending event is acknowledged**, which the receiver has accepted. -/
theorem acknowledge (hpending : p.pending = some o)
    (hsent : o ∈ p.history.sent) (haccepted : o ∈ accepted) :
    Sender (p.acknowledge o) accepted := by
  have hgone : ∀ {o'}, p.pending = some o' → o' = o := fun ho' =>
    (Option.some.inj (hpending.symm.trans ho')).symm
  refine ⟨h.quiet, h.held, h.once, h.ordered, fun o' ho' => absurd ho'
    (by simp [Party.acknowledge]),
    fun o' ho' => ?_, fun o' ho' => Or.inr ?_, fun o' ho' => ⟨Or.inl ?_, (h.meant o' ho').2⟩⟩
  · obtain hsent' | hpend | hinc := h.fate o' ho'
    · exact Or.inl hsent'
    · exact Or.inl (hgone hpend ▸ hsent)
    · exact Or.inr (Or.inr hinc)
  · exact (h.arrived o' ho').elim (fun hpend => hgone hpend ▸ haccepted) id
  · exact (h.meant o' ho').1.elim id (fun hpend => hgone hpend ▸ hsent)

/-- **The pending event is accepted.** -/
theorem accept (hpending : p.pending = some o)
    (hcomplete : ¬ Incomplete p.out o) : Sender p (accepted ++ [o]) := by
  refine ⟨h.quiet, h.held, h.once, h.ordered, h.last, h.fate,
    fun o' ho' => (h.arrived o' ho').imp_right (List.mem_append_left _), fun o' ho' => ?_⟩
  rcases List.mem_append.mp ho' with ho' | ho'
  · exact h.meant o' ho'
  · rw [List.mem_singleton] at ho'
    rw [ho']
    exact ⟨Or.inr hpending, hcomplete⟩

/-- **Only the pending event can be accepted**: it was sent completely, and it was
not accepted before. -/
theorem pending_of_new (ho : o ∈ p.history.offers)
    (hcomplete : ¬ Incomplete p.out o) (hnew : o ∉ accepted) : p.pending = some o := by
  obtain hsent | hpending | hinc := h.fate o ho
  · exact (h.arrived o hsent).resolve_right hnew
  · exact hpending
  · exact absurd hinc hcomplete

end Sender

/-! ## Events that were sent completely -/

section

variable {out : List Bytes} {o : Offer} {d : Bytes} {header : Header}
  {payload : Bytes}

/-- A packet in one datagram. -/
theorem not_incomplete_of_whole (hd : d ∈ out) (hdec : Decodes d header payload)
    (hcarries : Carries o header payload) (htype : header.type = typeData)
    (hwhole : header.totalSize.toNat = header.payloadSize.toNat) : ¬ Incomplete out o := by
  rintro (hnone | ⟨packet, hevent, position, hlt, hat⟩)
  · exact hnone d hd ⟨header, payload, hdec, hcarries⟩
  · obtain ⟨packet', hevent', hpiece⟩ := hcarries.pieceOf htype
    obtain rfl := Event.data.inj (hevent.symm.trans hevent')
    have hzero := (hpiece.fragment hwhole).1
    have htotal := hpiece.total
    exact hat d hd ⟨header, payload, hdec, hcarries, by omega, by omega⟩

/-- A time code. -/
theorem not_incomplete_of_timeCode (hd : d ∈ out) (hdec : Decodes d header payload)
    (hcarries : Carries o header payload) (htype : header.type = typeTimeCode) :
    ¬ Incomplete out o := by
  rintro (hnone | ⟨packet, hevent, _⟩)
  · exact hnone d hd ⟨header, payload, hdec, hcarries⟩
  · obtain ⟨code, hcode, _⟩ := hcarries.timeCodeOf htype
    exact absurd (hevent.symm.trans hcode) (by simp)

/-- A packet that was put together. -/
theorem not_incomplete_of_explains {r : FragmentReassembler} {session : UInt64}
    {offers : List Offer} {packet : Packet} (h : Explains r session offers out o packet)
    (hall : ∀ p < r.totalSize.toNat, r.covered p = true) (hd : d ∈ out)
    (hdec : Decodes d header payload) (hcarries : Carries o header payload) :
    ¬ Incomplete out o := by
  rintro (hnone | ⟨packet', hevent, position, hlt, hat⟩)
  · exact hnone d hd ⟨header, payload, hdec, hcarries⟩
  · obtain rfl := Event.data.inj (hevent.symm.trans h.event)
    obtain ⟨_, d', hd', hpiece⟩ := h.data position (hall position (h.total ▸ hlt)) hlt
    exact hat d' hd' hpiece

end

/-! ## The receiver -/

/-- What a delivery is remembered by. -/
def Delivery.key (d : Delivery) : DeliveredKey :=
  ⟨match d.event with
    | .data _ => typeData
    | .timeCode _ => typeTimeCode, d.messageId⟩

/-- **A datagram is not too late**: fewer events than are remembered were accepted
after the one it belongs to. -/
def Within (q : Party) (datagram : Bytes) : Prop :=
  ∀ header payload, Decodes datagram header payload →
    header.type = typeData ∨ header.type = typeTimeCode →
      q.history.deliveries.countP (fun d => header.messageId < d.messageId)
        < udpRecentMessageDepth

/-- **What holds of the receiver**, given the sessions of the sender. -/
structure Receiver (q : Party) (sessions : List UInt64) : Prop where
  once : q.history.sessions.length ≤ 1
  own : ∀ d ∈ q.history.deliveries, d.localSession ∈ q.history.sessions
  /-- Nothing was accepted before the sender was known. -/
  remote : (q.remoteSessionId = 0 ∧ q.history.deliveries = []) ∨ q.remoteSessionId ∈ sessions
  ordered : q.history.deliveries.Pairwise (fun d d' => d.messageId < d'.messageId)
  /-- The last deliveries are remembered. -/
  recent : q.recent = (q.history.deliveries.rtake udpRecentMessageDepth).map Delivery.key
  within : ∀ d, q.current = some d → Within q d

namespace Receiver

variable {q q' : Party} {sessions : List UInt64} {header : Header} {payload : Bytes}

/-- **What is not remembered was not accepted.** -/
theorem new_of_unseen (h : Receiver q sessions)
    (hfew : q.history.deliveries.countP (fun d => header.messageId < d.messageId)
      < udpRecentMessageDepth) {type : UInt8} (hunseen : ⟨type, header.messageId⟩ ∉ q.recent)
    {d : Delivery} (hd : d ∈ q.history.deliveries) : d.key ≠ ⟨type, header.messageId⟩ := by
  intro hkey
  have hid : d.messageId = header.messageId := congrArg DeliveredKey.messageId hkey
  rw [← hid] at hfew
  rw [h.recent, ← hkey] at hunseen
  exact hunseen (List.mem_map_of_mem (mem_rtake_of_countP_lt h.ordered hd hfew))

/-- **One more event is accepted**, later than all before. -/
theorem accept (h : Receiver q sessions) (hs : q.localSessionId ∈ q.history.sessions)
    (hh : q.Heard header payload) (hremote : q.remoteSessionId ∈ sessions) {event : Event}
    {type : UInt8} (hkey : (q.delivery header.messageId event).key = ⟨type, header.messageId⟩)
    (hid : header.messageId ≠ 0) (hunseen : ⟨type, header.messageId⟩ ∉ q.recent)
    (hlater : ∀ d ∈ q.history.deliveries, d.messageId < header.messageId)
    (hsessions : q'.history.sessions = q.history.sessions)
    (hdeliveries : q'.history.deliveries
      = q.history.deliveries ++ [q.delivery header.messageId event])
    (hremote' : q'.remoteSessionId = q.remoteSessionId)
    (hrecent : q'.recent = q.recentAfter true type header.messageId)
    (hcurrent : q'.current = q.current) : Receiver q' sessions := by
  refine ⟨hsessions ▸ h.once, ?_, Or.inr (hremote' ▸ hremote), ?_, ?_, fun d hd header' payload'
    hdec htype => ?_⟩
  · rw [hdeliveries, hsessions]
    exact OneSide.forall_delivery h.own hs
  · rw [hdeliveries]
    refine List.pairwise_append.mpr ⟨h.ordered, List.pairwise_singleton _ _, fun d hd d' hd' => ?_⟩
    rw [List.mem_singleton] at hd'
    rw [hd']
    exact hlater d hd
  · rw [hrecent, hdeliveries, Party.recentAfter, if_pos ⟨rfl, hid, hunseen⟩, Party.rememberKey,
      h.recent, udpRecentMessageDepth, rtake_concat_eq, List.map_append, List.map_singleton, hkey,
      List.length_map]
    split_ifs
    · rfl
    · rw [List.map_tail]
  · -- the datagram at hand is of the event that was accepted
    rw [hcurrent] at hd
    obtain ⟨d', hd', hdec'⟩ := hh.decodes
    obtain rfl := Option.some.inj (hd.symm.trans hd')
    have hin := h.within d hd header' payload' hdec htype
    rw [hdeliveries, List.countP_append]
    have hself : ¬ header'.messageId < (q.delivery header.messageId event).messageId := by
      rw [(hdec.unique hdec').1]
      exact UInt32.lt_irrefl _
    simpa [List.countP_cons, hself] using hin

end Receiver

/-! ## The invariant -/

/-- **The invariant of a reliable link** from `p` to `q`. -/
structure Reliable (p q : Party) : Prop where
  sound : Sound p q
  sender : Sender p (q.history.deliveries.map Delivery.offer)
  receiver : Receiver q p.history.sessions

namespace Reliable

variable {p q p' q' : Party}

variable {window : Party → Bytes → Prop}

/-- No act starts a session. -/
theorem sessions_of_act (hact : Act window q p p') : p'.history.sessions = p.history.sessions := by
  cases hact <;> rfl

variable (h : Reliable p q)

include h

/-- **Every act of the sender keeps the invariant.** -/
theorem act_sender (hs : p.localSessionId ≠ 0) (hact : Act window q p p') :
    Reliable p' q := by
  have hsound : Sound p' q := ⟨h.sound.1.act h.sound.2 hs hact, h.sound.2.mono hact.grows⟩
  refine ⟨hsound, ?_, by rw [sessions_of_act hact]; exact h.receiver⟩
  have hsender := h.sender
  cases hact with
  | emit hem => exact hsender.emit h.sound.1 hem
  | hold _ hq => exact absurd hsender.quiet hq
  | release =>
    exact hsender.of_same rfl hsender.held.symm rfl rfl rfl rfl rfl
  | acknowledge _ _ _ hpending _ hsent =>
    obtain ⟨d, hd, _, hoffer⟩ := hsound.1.acknowledged _
      (List.mem_append_right _ (List.mem_singleton_self _))
    exact hsender.acknowledge hpending hsent (List.mem_map.mpr ⟨d, hd, hoffer⟩)
  | offer hidle hnext => exact hsender.offer h.sound.1 hidle hnext hs _
  | noteSent hpending hnew => exact hsender.noteSent h.sound.1 hpending hnew
  | fail hpending hnew hout => exact hsender.fail hpending hnew (hout hsender.quiet)
  -- what the sender receives does not matter to what it sends
  | receive | adopt | push | acceptWhole | acceptReassembled | acceptTimeCode =>
    exact hsender.of_same rfl rfl rfl rfl rfl rfl rfl

/-- **The receiver accepts an event.** It is the sender's pending one, for it was
sent completely and not accepted before; so it is later than all before. -/
theorem accept (hs : q.localSessionId ≠ 0) {header : Header}
    {payload : Bytes} (hh : q.Heard header payload)
    (htype : header.type = typeData ∨ header.type = typeTimeCode) {event : Event} {type : UInt8}
    (hoffer : ⟨q.remoteSessionId, header.messageId, event⟩ ∈ p.history.offers)
    (hcomplete : ∀ d ∈ p.out, Decodes d header payload →
      Carries ⟨q.remoteSessionId, header.messageId, event⟩ header payload →
        ¬ Incomplete p.out ⟨q.remoteSessionId, header.messageId, event⟩)
    (hkey : (q.delivery header.messageId event).key = ⟨type, header.messageId⟩)
    (hnew : q.Unseen (hasFlag header.flags flagAckRequired) type header.messageId)
    (hsound : Sound p q') (hsessions : q'.history.sessions = q.history.sessions)
    (hdeliveries : q'.history.deliveries
      = q.history.deliveries ++ [q.delivery header.messageId event])
    (hremote : q'.remoteSessionId = q.remoteSessionId)
    (hrecent : q'.recent
      = q.recentAfter (hasFlag header.flags flagAckRequired) type header.messageId)
    (hcurrent : q'.current = q.current) : Reliable p q' := by
  obtain ⟨d, hd, hdec, o, ho, hsession, hcarries⟩ := h.sound.2.heard_event h.sound.1 hh htype
  obtain rfl : o = ⟨q.remoteSessionId, header.messageId, event⟩ :=
    h.sender.offer_eq h.sound.1 ho hoffer hcarries.messageId.symm
  have hid : header.messageId ≠ 0 := h.sound.1.numbers.positive _ hoffer
  have hunseen := hnew hcarries.ackRequired hid
  -- it was not accepted before
  have hfirst : ⟨q.remoteSessionId, header.messageId, event⟩
      ∉ q.history.deliveries.map Delivery.offer := by
    intro hmem
    obtain ⟨x, hx, hxo⟩ := List.mem_map.mp hmem
    obtain ⟨d', hd', hdec'⟩ := hh.decodes
    refine h.receiver.new_of_unseen (h.receiver.within d' hd' header payload hdec' htype)
      hunseen hx ?_
    rw [← hkey]
    have hevent : x.event = event := congrArg Offer.event hxo
    have hmessage : x.messageId = header.messageId := congrArg Offer.messageId hxo
    simp only [Delivery.key, Party.delivery, hevent, hmessage]
  have hpending := h.sender.pending_of_new hoffer (hcomplete d hd hdec hcarries) hfirst
  have hlater : ∀ x ∈ q.history.deliveries, x.messageId < header.messageId := fun x hx => by
    have hxo := h.sound.2.delivered x hx
    refine UInt32.lt_of_le_of_ne (h.sender.last _ hpending _ hxo) (fun heq => hfirst ?_)
    rw [← h.sender.offer_eq h.sound.1 hxo hoffer heq]
    exact List.mem_map_of_mem hx
  refine ⟨hsound, ?_, ?_⟩
  · rw [hdeliveries, List.map_append]
    exact h.sender.accept hpending (hcomplete d hd hdec hcarries)
  · refine h.receiver.accept (h.sound.2.numbers.known hs) hh ?_ hkey hid hunseen hlater hsessions
      hdeliveries hremote ?_ hcurrent
    · exact h.receiver.remote.resolve_left (fun h0 => hh.known h0.1)
    · rw [hrecent, hcarries.ackRequired]

/-- What the receiver does that changes neither its deliveries nor what it
remembers of them. -/
theorem of_same (hsound : Sound p q')
    (hsessions : q'.history.sessions = q.history.sessions)
    (hdeliveries : q'.history.deliveries = q.history.deliveries)
    (hremote : q'.remoteSessionId = q.remoteSessionId) (hrecent : q'.recent = q.recent)
    (hcurrent : ∀ d, q'.current = some d → Within q d) : Reliable p q' := by
  refine ⟨hsound, hdeliveries ▸ h.sender, hsessions ▸ h.receiver.once, ?_, ?_, ?_, ?_, ?_⟩
  · rw [hdeliveries, hsessions]
    exact h.receiver.own
  · rw [hdeliveries, hremote]
    exact h.receiver.remote
  · rw [hdeliveries]
    exact h.receiver.ordered
  · rw [hrecent, hdeliveries]
    exact h.receiver.recent
  · intro d hd
    unfold Within
    rw [hdeliveries]
    exact hcurrent d hd

/-- **Every act of the receiver keeps the invariant**, if no datagram is too
late. -/
theorem act_receiver (hs : q.localSessionId ≠ 0) (hact : Act Within p q q') :
    Reliable p q' := by
  have hsound : Sound p q' := ⟨h.sound.1.mono hact.grows, h.sound.2.act h.sound.1 hs hact⟩
  have hwithin := h.receiver.within
  cases hact with
  | @receive d hd hw =>
    refine h.of_same hsound rfl rfl rfl rfl (fun d' hd' => ?_)
    rw [Party.current, Party.receive, List.getLast?_concat] at hd'
    exact Option.some.inj hd' ▸ hw
  | adopt hcur hd htype hne =>
    -- the sender has but one session, so this is the first one heard of
    have hknown := (h.sound.1.speaks _ (Or.inl (h.sound.2.hears _ hcur))).of_keepalive hd htype
    obtain ⟨_, hnone⟩ := h.receiver.remote.resolve_right
      (fun hmem => hne (h.sender.session_eq hknown hmem))
    refine ⟨hsound, h.sender, h.receiver.once, h.receiver.own, Or.inr hknown,
      h.receiver.ordered, ?_,
      hwithin⟩
    show [] = (q.history.deliveries.rtake _).map Delivery.key
    rw [hnone]
    rfl
  | acceptWhole hh htype hwhole hnew hslot =>
    exact h.accept hs hh (Or.inl htype) (h.sound.2.heard_whole h.sound.1 hh htype hwhole)
      (fun d hd hdec hcarries => not_incomplete_of_whole hd hdec hcarries htype hwhole) rfl hnew
      hsound rfl rfl rfl rfl rfl
  | acceptReassembled hh htype hnew hslot hactive hid hack hall =>
    have hoffer := h.sound.2.heard_reassembled hactive hall
    obtain ⟨o, packet, hexp⟩ := h.sound.2.explained hactive
    have hcovered := (h.sound.2.wellFormed.coveredBytes_eq_iff hactive).mp hall
    rw [hid] at hoffer
    refine h.accept hs hh (Or.inl htype) hoffer
      (fun d hd hdec hcarries => ?_) rfl hnew hsound rfl ?_
      rfl ?_ rfl
    · obtain rfl := h.sender.offer_eq h.sound.1 hexp.offered hoffer (hexp.messageId.trans hid)
      exact not_incomplete_of_explains hexp hcovered hd hdec hcarries
    · rw [← hid]
      rfl
    · rw [← hid, ← hack]
      rfl
  | acceptTimeCode hh htype hnew hroom =>
    exact h.accept hs hh (Or.inr htype) (h.sound.2.heard_timeCode h.sound.1 hh htype)
      (fun d hd hdec hcarries => not_incomplete_of_timeCode hd hdec hcarries htype) rfl hnew
      hsound rfl rfl rfl rfl rfl
  | emit | hold | release | push | acknowledge | offer | noteSent | fail =>
    exact h.of_same hsound rfl rfl rfl rfl hwithin

/-- A link that has not been started has nothing to show. -/
theorem unstarted_sender (hnone : p.history.sessions = []) :
    p.history.offers = [] ∧ q.history.deliveries = [] := by
  have hoffers : p.history.offers = [] := List.eq_nil_iff_forall_not_mem.mpr (fun o ho => by
    have := h.sound.1.numbers.offered o ho
    rw [hnone] at this
    exact absurd this List.not_mem_nil)
  refine ⟨hoffers, List.eq_nil_iff_forall_not_mem.mpr (fun d hd => ?_)⟩
  have := h.sound.2.delivered d hd
  rw [hoffers] at this
  exact absurd this List.not_mem_nil

/-- **The sender is started**, for the first time. -/
theorem start_sender (hnone : p.history.sessions = []) {session : UInt64}
    (hne : session ≠ 0) : Reliable (p.start session) q := by
  obtain ⟨hoffers, hdeliveries⟩ := h.unstarted_sender hnone
  have hsent : p.history.sent = [] := List.eq_nil_iff_forall_not_mem.mpr (fun o ho => by
    have := h.sound.1.numbers.sent o ho
    rw [hoffers] at this
    exact absurd this List.not_mem_nil)
  refine ⟨h.sound.start hne (by rw [hnone]; exact List.not_mem_nil), ?_, ?_⟩
  · refine ⟨h.sender.quiet, rfl, ?_, h.sender.ordered, (fun o ho => by cases ho), fun o ho => ?_,
      fun o ho => ?_, fun o ho => ?_⟩
    · show (p.history.sessions ++ [session]).length ≤ 1
      rw [hnone]
      exact Nat.le_refl _
    · exact absurd (hoffers ▸ ho) List.not_mem_nil
    · exact absurd (hsent ▸ ho) List.not_mem_nil
    · rw [hdeliveries] at ho
      exact absurd ho List.not_mem_nil
  · obtain ⟨once, own, remote, ordered, recent, within⟩ := h.receiver
    refine ⟨once, own, remote.imp_right (fun hmem => ?_), ordered, recent, within⟩
    exact List.mem_append_left _ hmem

/-- **The receiver is started**, for the first time. -/
theorem start_receiver (hnone : q.history.sessions = []) {session : UInt64}
    (hne : session ≠ 0) : Reliable p (q.start session) := by
  have hdeliveries : q.history.deliveries = [] := List.eq_nil_iff_forall_not_mem.mpr (fun d hd => by
    have := h.receiver.own d hd
    rw [hnone] at this
    exact absurd this List.not_mem_nil)
  refine ⟨(h.sound.symm.start hne (by rw [hnone]; exact List.not_mem_nil)).symm, h.sender, ?_, ?_,
    Or.inl ⟨rfl, hdeliveries⟩, h.receiver.ordered, ?_, h.receiver.within⟩
  · show (q.history.sessions ++ [session]).length ≤ 1
    rw [hnone]
    exact Nat.le_refl _
  · exact fun d hd => List.mem_append_left _ (h.receiver.own d hd)
  · show [] = (q.history.deliveries.rtake _).map Delivery.key
    rw [hdeliveries]
    rfl

end Reliable

/-- **The invariant of a reliable link is kept by whatever its ends do.** -/
theorem UdpLink.kept_reliable : UdpLink.Kept (fun _ _ => True) Within Reliable where
  a := {
    act := fun hs h hact => h.act_sender hs hact
    forget := fun h => ⟨stable_sound.forget h.sound,
      h.sender.of_same rfl rfl rfl rfl rfl rfl rfl, h.receiver⟩
    takePacket := fun h => ⟨stable_sound.takePacket h.sound,
      h.sender.of_same rfl rfl rfl rfl rfl rfl rfl, h.receiver⟩
    takeTimeCode := fun h => ⟨stable_sound.takeTimeCode h.sound,
      h.sender.of_same rfl rfl rfl rfl rfl rfl rfl, h.receiver⟩
    fresh := fun h hnext => stable_sound.fresh h.sound hnext }
  b := {
    act := fun hs h hact => h.act_receiver hs hact
    forget := fun h => h.of_same (kept_sound.b.forget h.sound) rfl rfl rfl rfl h.receiver.within
    takePacket := fun h =>
      h.of_same (kept_sound.b.takePacket h.sound) rfl rfl rfl rfl h.receiver.within
    takeTimeCode := fun h =>
      h.of_same (kept_sound.b.takeTimeCode h.sound) rfl rfl rfl rfl h.receiver.within
    fresh := fun h hnext => kept_sound.b.fresh h.sound hnext }
  nextA h hfew := h.sound.1.numbers.next_ne_zero hfew
  nextB h hfew := h.sound.2.numbers.next_ne_zero hfew

/-- **What was sent is what was accepted**, but for an event that is on its way. -/
theorem Reliable.sent_eq {p q : Party} (h : Reliable p q)
    (hrest : ∀ o, p.pending = some o → o ∈ p.history.sent) :
    p.history.sent = q.history.deliveries.map Delivery.offer
      ∨ ∃ o, p.pending = some o
        ∧ p.history.sent = q.history.deliveries.map Delivery.offer ++ [o] := by
  have hasymm : ∀ o o' : Offer, o.Before o' → ¬ o'.Before o := fun o o' => UInt32.lt_asymm
  have haccepted : (q.history.deliveries.map Delivery.offer).Pairwise Offer.Before :=
    List.pairwise_map.mpr h.receiver.ordered
  have hmeant : ∀ o ∈ q.history.deliveries.map Delivery.offer, o ∈ p.history.sent :=
    fun o ho => (h.sender.meant o ho).1.elim id (hrest o)
  by_cases hway : ∃ o, p.pending = some o ∧ o ∉ q.history.deliveries.map Delivery.offer
  · obtain ⟨o, hpending, hnew⟩ := hway
    have hoffered := (h.sound.1.numbers.pending o hpending).1
    refine Or.inr ⟨o, hpending, eq_of_pairwise_of_mem_iff hasymm h.sender.ordered ?_ (fun x => ?_)⟩
    · refine List.pairwise_append.mpr ⟨haccepted, List.pairwise_singleton _ _, fun x hx y hy => ?_⟩
      rw [List.mem_singleton] at hy
      subst hy
      have hxo := h.sound.1.numbers.sent x (hmeant x hx)
      refine UInt32.lt_of_le_of_ne (h.sender.last y hpending x hxo) (fun heq => hnew ?_)
      rwa [← h.sender.offer_eq h.sound.1 hxo hoffered heq]
    · rw [List.mem_append, List.mem_singleton]
      refine ⟨fun hx => (h.sender.arrived x hx).symm.imp_right (fun hpend => ?_), fun hx => ?_⟩
      · exact Option.some.inj (hpend.symm.trans hpending)
      · obtain hx | rfl := hx
        · exact hmeant x hx
        · exact hrest x hpending
  · refine Or.inl (eq_of_pairwise_of_mem_iff hasymm h.sender.ordered haccepted (fun x =>
      ⟨fun hx => ?_, hmeant x⟩))
    refine (h.sender.arrived x hx).elim (fun hpend => ?_) id
    exact by_contra fun hnew => hway ⟨x, hpend, hnew⟩

/-! ## Every run -/

namespace UdpLink

/-- One end of a link. -/
def side (link : UdpLink) : Side → UdpEndpoint
  | .a => link.a
  | .b => link.b

/-- A datagram is not of an event that 32 accepted ones are later than. -/
def notTooLate (b : UdpBackend) (bytes : Bytes) : Bool :=
  match decodeHeader bytes with
  | .ok header => (header.type != typeData && header.type != typeTimeCode)
      || decide (b.history.deliveries.countP (fun d => header.messageId < d.messageId)
        < udpRecentMessageDepth)
  | .error _ => true

/-- **Runs of a link whose ends are started once**, and to whose second end no
datagram comes too late. -/
def admitsOnce (link : UdpLink) (side : Side) : Deed → Bool
  | .call _ .start => (link.side side).state.history.sessions.isEmpty
  | .call _ .stop => false
  | .call _ .reset => false
  | .call _ _ => true
  | .answer reply => side = .a ||
    match reply .recvfrom with
    | .datagram source bytes =>
      !sourceMatches link.b.state.config source || notTooLate link.b.state bytes
    | _ => true

variable {b : UdpBackend} {deed : Deed}

theorem within_of_notTooLate {bytes : Bytes} (h : notTooLate b bytes = true)
    (out : List Bytes) : Within (b.party out) bytes := by
  intro header payload hdec htype
  unfold notTooLate at h
  rw [hdec.decoded] at h
  simp only [Bool.or_eq_true, Bool.and_eq_true, bne_iff_ne, decide_eq_true_eq] at h
  exact h.resolve_left (fun hother => htype.elim hother.1 hother.2)

/-- What such a run does is what the invariant needs. -/
theorem admissible_a {link : UdpLink} (h : admitsOnce link .a deed = true) :
    Admissible (fun _ _ => True) Reliable link.a deed where
  start fuel hdeed q session o hinv hne hnew hnew' := by
    rw [hdeed] at h
    exact hinv.start_sender (List.isEmpty_iff.mp h) hne
  clear fuel hdeed := by
    obtain rfl | rfl := hdeed <;> exact absurd h (by simp [admitsOnce])
  window _ _ _ _ _ _ := trivial

theorem admissible_b {link : UdpLink} (h : admitsOnce link .b deed = true) :
    Admissible Within (fun p q => Reliable q p) link.b deed where
  start fuel hdeed q session o hinv hne hnew hnew' := by
    rw [hdeed] at h
    exact hinv.start_receiver (List.isEmpty_iff.mp h) hne
  clear fuel hdeed := by
    obtain rfl | rfl := hdeed <;> exact absurd h (by simp [admitsOnce])
  window reply hdeed source bytes hreply hsource := by
    rw [hdeed] at h
    simp only [admitsOnce, hreply, hsource, Bool.not_true, Bool.false_or, Bool.or_eq_true] at h
    exact within_of_notTooLate (h.resolve_left (by decide)) _

/-- Two backends that have just been constructed. -/
theorem reliable_of_construct {configA configB : UdpConfig} {objectA objectB : UInt64}
    {a : UdpBackend} (ha : udpConstruct configA objectA true true = (.ok, a))
    (hb : udpConstruct configB objectB true true = (.ok, b)) (hquiet : a.faultInjector.Quiet) :
    Reliable (a.party []) (b.party []) := by
  refine ⟨⟨oneSide_of_construct ha _, oneSide_of_construct hb _⟩, ?_, ?_⟩
  · obtain ⟨_, rfl⟩ := udpConstruct_ok ha
    obtain ⟨_, rfl⟩ := udpConstruct_ok hb
    exact ⟨hquiet, rfl, Nat.zero_le _, List.Pairwise.nil, (fun o ho => by cases ho),
      fun _ ho => absurd ho List.not_mem_nil, fun _ ho => absurd ho List.not_mem_nil,
      fun _ ho => absurd ho List.not_mem_nil⟩
  · obtain ⟨_, rfl⟩ := udpConstruct_ok hb
    exact ⟨Nat.zero_le _, fun _ hd => absurd hd List.not_mem_nil, Or.inl ⟨rfl, rfl⟩,
      List.Pairwise.nil, rfl, fun d hd => by cases hd⟩

/-- **Reliable delivery.** Between two ends without fault rules that are started
once, over every run – every interleaving of their calls, every loss, delay,
duplication and reordering of datagrams, every clock and every failure of
`sendto` – in which no datagram of an event reaches the second end after it has
accepted 32 later ones: between the calls of the first end, the events the second
has accepted are those of the first end's sending calls that succeeded, in order,
but for the pending event, which may be on its way. -/
theorem accepted_eq_sent {configA configB : UdpConfig} {objectA objectB : UInt64} {a b : UdpBackend}
    (ha : udpConstruct configA objectA true true = (.ok, a))
    (hb : udpConstruct configB objectB true true = (.ok, b))
    (hquietA : ∀ i < faultRuleCount, (configA.faultRules i).action = FaultAction.none)
    (hquietB : ∀ i < faultRuleCount, (configB.faultRules i).action = FaultAction.none)
    {moves : List (Side × Deed)} {link : UdpLink}
    (hrun : (UdpLink.connect a b).run admitsOnce moves = some link) (hidle : link.a.isIdle = true) :
    link.a.log.filterMap (fun entry => entry.1.sentEvent entry.2)
        = link.b.state.history.deliveries.map Delivery.event
      ∨ ∃ event, link.a.state.pendingEvent = some event
        ∧ link.a.log.filterMap (fun entry => entry.1.sentEvent entry.2)
          = link.b.state.history.deliveries.map Delivery.event ++ [event] := by
  have hqa : a.faultInjector.Quiet := by
    rw [(udpConstruct_ok ha).2]
    exact hquietA
  have hqb : b.faultInjector.Quiet := by
    rw [(udpConstruct_ok hb).2]
    exact hquietB
  have hbegin : (UdpLink.connect a b).Holds (fun _ _ => True) Within Reliable True := by
    refine holds_connect (wf_of_construct ha) (wf_of_construct hb) ?_ ?_ (fun _ => ⟨hqa, hqb⟩)
      (reliable_of_construct ha hb hqa)
    · rw [(udpConstruct_ok ha).2, (udpConstruct_ok hb).2]
      exact ⟨rfl, rfl⟩
    · rw [(udpConstruct_ok ha).2, (udpConstruct_ok hb).2]
      exact ⟨rfl, rfl⟩
  have hholds := hbegin.run kept_reliable (fun _ _ => admissible_a) (fun _ _ => admissible_b) hrun
  have hlog := hholds.a.rest hidle
  have hevents : (link.b.state.history.deliveries.map Delivery.offer).map Offer.event
      = link.b.state.history.deliveries.map Delivery.event := by
    rw [List.map_map]
    rfl
  rw [← hlog.sent trivial, ← hevents]
  refine (hholds.inv.sent_eq hlog.rest).imp (fun heq => congrArg (List.map Offer.event) heq) ?_
  rintro ⟨o, hpending, heq⟩
  refine ⟨o.event, ?_, ?_⟩
  · obtain ⟨event, hevent, rfl⟩ := Option.map_eq_some_iff.mp hpending
    exact hevent
  · rw [show link.a.state.history.sent = _ from heq, List.map_append]
    rfl

/-- Two time codes are sent, and each of them is accepted once. -/
theorem accepted_eq_sent_sample :
    ∃ link, (UdpLink.connect (sampleEnd .a) (sampleEnd .b)).run admitsOnce sampleExchange
      = some link
      ∧ link.b.state.history.deliveries.map Delivery.event
        = [.timeCode ⟨5, 0⟩, .timeCode ⟨6, 0⟩]
      ∧ link.a.log.filterMap (fun entry => entry.1.sentEvent entry.2)
        = [.timeCode ⟨5, 0⟩, .timeCode ⟨6, 0⟩] := by
  obtain ⟨link, hrun, hfacts⟩ := Option.map_eq_some_iff.mp (show
    ((UdpLink.connect (sampleEnd .a) (sampleEnd .b)).run admitsOnce sampleExchange).map
      (fun link => (link.b.state.history.deliveries.map Delivery.event, link.a.isIdle,
        link.a.state.pendingEvent))
      = some ([.timeCode ⟨5, 0⟩, .timeCode ⟨6, 0⟩], true, none) by decide +kernel)
  simp only [Prod.mk.injEq] at hfacts
  obtain ⟨hdeliveries, hidle, hpending⟩ := hfacts
  refine ⟨link, hrun, hdeliveries, ?_⟩
  rw [← hdeliveries]
  refine (accepted_eq_sent (show udpConstruct .sample 0 true true = (.ok, sampleEnd .a) from rfl)
    (show udpConstruct { UdpConfig.sample with localPort := 2, remotePort := 1 } 0 true true
      = (.ok, sampleEnd .b) from rfl) (fun _ _ => rfl) (fun _ _ => rfl) hrun hidle).resolve_right ?_
  rintro ⟨event, hevent, _⟩
  exact absurd (hpending.symm.trans hevent) (by simp)

end UdpLink
