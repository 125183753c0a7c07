import SpwKit.Ethernet.UdpChanges

/-!
# Following the code of the UDP backend

The code of every call, followed once. A part of it that keeps an invariant and a property
is a `Tends`; where more is known of how it ends, it is a triple. Sending a datagram
changes nothing but counters and what a rule holds back (`During`); handling one is one of
the changes of the background; and the waits of the public calls only repeat this. In the
end stands `tends_run`: what survives every change survives every call.
-/

open VspwTp Interactive FragmentReassembler

namespace UdpBackend

/-! ## Rules -/

section

variable {O E : Type} {S : UdpSetting O E}
  {P Q : UdpBackend → O → Prop} {α β : Type}

/-- A part of the code that keeps the invariant of a setting and a property. -/
def Tends (S : UdpSetting O E) (P : UdpBackend → O → Prop)
    (p : Udp α) : Prop :=
  Triple S P p (fun s _ o => P s o)

namespace Tends

variable {o₀ : O} {p : Udp α} {s₀ : UdpBackend}

theorem ret {a : α} : Tends S P (pure a) := Triple.ret (fun _ _ hs => hs)

theorem bind {f : α → Udp β} (hp : Tends S P p) (hf : ∀ a, Tends S P (f a)) :
    Tends S P (p >>= f) := Triple.bind hp hf

theorem ite {c : Prop} [Decidable c] {q : Udp α} (hp : c → Tends S P p) (hq : ¬ c → Tends S P q) :
    Tends S P (if c then p else q) := Triple.ite hp hq

theorem hang : Tends S P (Process.hang : Udp α) := Triple.hang

/-- Reading the state, and going on in the state that was read. -/
theorem get_bind {f : UdpBackend → Udp α}
    (h : ∀ s₀ o₀, P s₀ o₀ → Triple S (Here s₀ o₀) (f s₀) (fun s _ o => P s o)) :
    Tends S P (get >>= f) :=
  Triple.get_bind (fun s₀ o₀ _ hs _ => h s₀ o₀ hs)

/-- Code that does not need what was read. -/
theorem at_state (h : Tends S P p) (hs : P s₀ o₀) :
    Triple S (Here s₀ o₀) p (fun s _ o => P s o) :=
  h.pre (fun _ _ heq => heq.1 ▸ heq.2 ▸ hs)

theorem ask (h : Asks S P) {q : UdpRequest} (hq : q.isSend = false) : Tends S P (udpAsk q) :=
  Triple.request (fun _ _ _ hs hi _ _ hr => h hq hi hs hr)

theorem change {f : UdpBackend → UdpBackend}
    (hf : ∀ {s o e}, S.inv s o e → P s o → S.inv (f s) o e ∧ P (f s) o) :
    Tends S P (modify f) := fun _ _ _ hs hi => hf hi hs

/-- A new state in the place of the one that was read. -/
theorem assign {s' : UdpBackend} {f : PUnit → Udp α}
    (hset : ∀ {e}, S.inv s₀ o₀ e → S.inv s' o₀ e ∧ P s' o₀) (hf : Tends S P (f ())) :
    Triple S (Here s₀ o₀) (set s' >>= f) (fun s _ o => P s o) := by
  refine Triple.bind (Q := fun s _ o => P s o) ?_ (fun _ => hf)
  rintro s o e ⟨rfl, rfl⟩ hi
  exact hset hi

end Tends

/-! ### Questions -/

section

variable (h : Asks S P)
include h

theorem tends_nowUs : Tends S P nowUs := .ask h rfl

theorem tends_deadlineMake (timeoutUs : Timeout) : Tends S P (deadlineMake timeoutUs) :=
  .ite (fun _ => .ret) (fun _ => (tends_nowUs h).bind (fun _ => .ret))

theorem tends_deadlineRemaining (deadline : UdpDeadline) : Tends S P (deadlineRemaining deadline) :=
  .ite (fun _ => .ret) (fun _ => (tends_nowUs h).bind (fun _ => .ret))

theorem tends_deadlineExpired (deadline : UdpDeadline) : Tends S P (deadlineExpired deadline) :=
  .ite (fun _ => .ret) (fun _ => (tends_nowUs h).bind (fun _ => .ret))

theorem tends_peerIsCurrent : Tends S P peerIsCurrent :=
  (tends_nowUs h).bind (fun _ => .get_bind (fun _ _ hs => Tends.ret.at_state hs))

theorem tends_pollInLoop (timeout : Int) (n : Nat) : Tends S P (pollInLoop timeout n) := by
  induction n with
  | zero => exact .hang
  | succ n ih =>
    refine (Tends.ask (q := .pollIn timeout) h rfl).bind (fun answer => ?_)
    cases answer with
    | interrupted => exact ih
    | timedOut | ready requested | error => exact .ret

theorem tends_waitReadable (fuel : Nat) (timeoutUs : Timeout) :
    Tends S P (waitReadable fuel timeoutUs) :=
  (tends_pollInLoop h _ _).bind (fun _ => .ret)

theorem tends_pollOutLoop (deadline : UdpDeadline) (n : Nat) :
    Tends S P (pollOutLoop deadline n) := by
  induction n with
  | zero => exact .hang
  | succ n ih =>
    refine (tends_deadlineRemaining h deadline).bind (fun _ =>
      (Tends.ask h rfl).bind (fun answer => ?_))
    cases answer with
    | interrupted => exact ih
    | timedOut | ready requested | error => exact .ret

theorem tends_waitTransportFaultDelay (fuel : Nat) (delayUs : UInt32) (timeoutUs : Timeout) :
    Tends S P (waitTransportFaultDelay fuel delayUs timeoutUs) := by
  have hsleep : ∀ n, Tends S P (sleepLoop delayUs n) := by
    intro n
    induction n with
    | zero => exact .hang
    | succ n ih =>
      refine (Tends.ask (q := .nanosleep delayUs) h rfl).bind (fun answer => ?_)
      cases answer with
      | slept | error => exact .ret
      | interrupted => exact ih
  exact .ite (fun _ => .ret) (fun _ => .ite (fun _ => .ret) (fun _ => hsleep fuel))

end

/-! ### A datagram -/

/-- **What a `sendto` leads to**: `Q` if the datagram is on the wire, and `P` goes on to
hold otherwise. -/
structure Ships (S : UdpSetting O E) (d : Bytes)
    (P Q : UdpBackend → O → Prop) : Prop where
  asks : Asks S P
  sent : ∀ {s o e o'}, S.inv s o e → P s o → S.answers s o e (.sendto d) SendAnswer.sent o' →
    S.inv s o' e ∧ Q s o'
  unsent : ∀ {s o e r o'}, r ≠ SendAnswer.sent → S.inv s o e → P s o →
    S.answers s o e (.sendto d) r o' → S.inv s o' e ∧ P s o'

/-- `Q` after a success, `P` after a failure. -/
def Outcome (P Q : UdpBackend → O → Prop) (s : UdpBackend) (r : Result) (o : O) : Prop :=
  (r = .ok ∧ Q s o) ∨ (r ≠ .ok ∧ P s o)

variable {d : Bytes} {o : O} {s₀ : UdpBackend}

theorem Outcome.fails {result : Result} (hne : result ≠ .ok) :
    Triple S P (pure result : Udp Result) (Outcome P Q) :=
  Triple.ret (fun _ _ hs => Or.inr ⟨hne, hs⟩)

theorem triple_sendLoop (h : Ships S d P Q) (fuel : Nat) (deadline : UdpDeadline) (n : Nat) :
    Triple S P (sendLoop fuel d deadline n) (Outcome P Q) := by
  induction n with
  | zero => exact Triple.hang
  | succ n ih =>
    refine Triple.ask (fun s o e hs hi r o' hr => ?_)
    by_cases hsent : r = SendAnswer.sent
    · subst hsent
      exact (h.sent hi hs hr).imp_right (fun hq => Or.inl ⟨rfl, hq⟩)
    obtain ⟨hi', hs'⟩ := h.unsent hsent hi hs hr
    cases r with
    | sent => exact absurd rfl hsent
    | short | error => exact Outcome.fails (by decide) s o' e hs' hi'
    | interrupted =>
      exact Triple.bind (tends_deadlineExpired h.asks deadline) (fun _ => Triple.ite
        (fun _ => Outcome.fails (by decide)) (fun _ => ih)) s o' e hs' hi'
    | wouldBlock =>
      refine Triple.bind (tends_pollOutLoop h.asks deadline fuel) (fun polled => ?_) s o' e hs' hi'
      split
      · exact ih
      · next hne => exact Outcome.fails hne

theorem triple_sendDatagramRaw (h : Ships S d P Q) (fuel : Nat) (timeoutUs : Timeout) :
    Triple S P (sendDatagramRaw fuel d timeoutUs) (Outcome P Q) := by
  refine Triple.get_bind (fun s o e hs _ => Triple.pre (P := P) ?_ (fun _ _ heq =>
    heq.1 ▸ heq.2 ▸ hs))
  exact Triple.ite (fun _ => Outcome.fails (by decide)) (fun _ => Triple.ite
    (fun _ => Outcome.fails (by decide)) (fun _ => Triple.bind (tends_deadlineMake h.asks timeoutUs)
      (fun deadline => triple_sendLoop h fuel deadline fuel)))

/-- A datagram that may be sent or not, which is the same to `P`. -/
theorem tends_sendDatagramRaw (h : Ships S d P P) (fuel : Nat) (timeoutUs : Timeout) :
    Tends S P (sendDatagramRaw fuel d timeoutUs) :=
  (triple_sendDatagramRaw h fuel timeoutUs).post (fun _ _ _ hs => hs.elim And.right And.right)

/-- A property, in the states in which the backend talks. -/
def Talking (L : UdpBackend → O → Prop) (s : UdpBackend) (o : O) : Prop :=
  L s o ∧ s.state.talks = true

/-- **While something is sent** from a state. -/
def During (L : UdpBackend → O → Prop) (s₀ s : UdpBackend) (o : O) : Prop :=
  L s o ∧ s.state.talks = true ∧ Alike s₀ s

variable {L : UdpBackend → O → Prop}

theorem During.begin (h : Talking L s₀ o) : During L s₀ s₀ o :=
  ⟨h.1, h.2, .refl s₀⟩

theorem During.talking {s : UdpBackend} (h : During L s₀ s o) : Talking L s o :=
  ⟨h.1, h.2.1⟩

section

variable (h : Upkeep S L) {s₀ : UdpBackend}
include h

variable {d : Bytes} {o : O}

variable (fuel : Nat) (timeoutUs : Timeout)

theorem Upkeep.asks_talking : Asks S (Talking L) :=
  fun hq hi hs hr => (h.asks hq hi hs.1 hr).imp_right (fun hl => ⟨hl, hs.2⟩)

theorem Upkeep.asks_during : Asks S (During L s₀) :=
  fun hq hi hs hr => (h.asks hq hi hs.1 hr).imp_right (fun hl => ⟨hl, hs.2⟩)

theorem Upkeep.during {s s' : UdpBackend} {e : E} (hsend : Sending s s') (hi : S.inv s o e)
    (hs : During L s₀ s o) : S.inv s' o e ∧ During L s₀ s' o :=
  (h.sending hs.2.1 hsend hi hs.1).imp_right (fun hl =>
    ⟨hl, hsend.alike.state ▸ hs.2.1, hs.2.2.trans hsend.alike⟩)

/-- A datagram that the backend may send, whatever else is known of its state. -/
theorem Upkeep.ships (P : UdpBackend → Prop) (hd : ∀ s o, During L s₀ s o → P s → s.Emits d) :
    Ships S d (fun s o => During L s₀ s o ∧ P s) (fun s o => During L s₀ s o ∧ P s) where
  asks := fun hq hi hs hr => (h.asks_during hq hi hs.1 hr).imp_right (fun hl => ⟨hl, hs.2⟩)
  sent := fun hi hs hr => (h.emit hs.1.2.1 (hd _ _ hs.1 hs.2) hi hs.1.1 hr).imp_right
    (fun hl => ⟨⟨hl, hs.1.2⟩, hs.2⟩)
  unsent := fun _ hi hs hr => (h.emit hs.1.2.1 (hd _ _ hs.1 hs.2) hi hs.1.1 hr).imp_right
    (fun hl => ⟨⟨hl, hs.1.2⟩, hs.2⟩)

theorem tends_raw (hd : s₀.Owns d) (fuel : Nat) (timeoutUs : Timeout) :
    Tends S (During L s₀) (sendDatagramRaw fuel d timeoutUs) :=
  (tends_sendDatagramRaw (h.ships (fun _ => True) (fun s _ hs _ => hd s hs.2.2.core)) fuel
    timeoutUs).consequence (fun _ _ hs => ⟨hs, trivial⟩) (fun _ _ _ hs => hs.1)

theorem tends_sendDecided {decision : FaultDecision}
    (hd : s₀.Owns d) (hquiet : s₀.faultInjector.Quiet → decision.action = FaultAction.none) :
    Tends S (During L s₀) (sendDecided fuel decision d timeoutUs) := by
  have hraw := tends_raw h hd fuel timeoutUs
  refine .ite (fun _ => ?_) (fun _ => .ite (fun _ => ?_) (fun _ => .ite (fun hreorder =>
    .ite (fun _ => ?_) (fun _ => ?_)) (fun _ => .ite (fun _ => ?_) (fun _ => hraw))))
  · exact (Tends.change (fun hi hs => h.during (.countDrop _) hi hs)).bind (fun _ => .ret)
  · exact (Tends.change (fun hi hs => h.during (.countDuplicate _) hi hs)).bind (fun _ =>
      hraw.bind (fun _ => .ite (fun _ => hraw) (fun _ => .ret)))
  · exact (Tends.change (fun hi hs => h.during (.countReorder _) hi hs)).bind (fun _ => .ret)
  · -- an action other than none is a rule's
    refine (Tends.change (fun hi hs => h.during (.hold _ (hd _ hs.2.2.core) (fun hq => ?_)) hi
      hs)).bind (fun _ => .ret)
    have hnone := hquiet (quiet_congr hs.2.2.rules.symm hq)
    rw [hreorder] at hnone
    exact absurd hnone (by decide)
  · exact (Tends.change (fun hi hs => h.during (.countDelay _) hi hs)).bind (fun _ =>
      (tends_waitTransportFaultDelay h.asks_during _ _ _).bind (fun _ =>
        .ite (fun _ => hraw) (fun _ => .ret)))

theorem tends_sendDatagram (hd : s₀.Owns d) :
    Tends S (During L s₀) (sendDatagram fuel d timeoutUs) := by
  refine .get_bind (fun s o hs => Triple.ite (fun hheld => ?_) (fun _ => ?_))
  · -- what is held back goes out after the datagram, in the state that was read
    have hraw : ∀ d', (∀ s' o', During L s₀ s' o' → s' = s → s'.Emits d') →
        Tends S (fun s' o' => During L s₀ s' o' ∧ s' = s) (sendDatagramRaw fuel d' timeoutUs) :=
      fun d' hd' => tends_sendDatagramRaw (h.ships (fun s' => s' = s) hd') fuel timeoutUs
    have hstart : ∀ s' o', s' = s ∧ o' = o → During L s₀ s' o' ∧ s' = s :=
      fun s' o' heq => ⟨heq.1 ▸ heq.2 ▸ hs, heq.1⟩
    refine Triple.bind ((hraw d (fun s' o' hs' _ => hd s' hs'.2.2.core)).pre hstart) (fun result =>
      Triple.ite (fun _ => Triple.ret (fun _ _ hs => hs.1)) (fun _ => ?_))
    refine Triple.get_bind (fun s' o' e' hs' _ => ?_)
    obtain ⟨hs', rfl⟩ := hs'
    refine Triple.bind ((hraw s'.reorderedDatagram (fun s o _ heq _ _ => ?_)).pre
      (fun _ _ heq => ⟨heq.1 ▸ heq.2 ▸ hs', heq.1⟩)) (fun _ => Triple.bind
        (Q := fun s _ o => During L s₀ s o) ?_ (fun _ => Tends.ret))
    · rw [heq]
      exact .held (if_pos hheld)
    · exact fun _ _ _ hs hi => h.during (.release _) hi hs.1
  · split
    · exact (tends_raw h hd _ _).at_state hs
    · next header _ =>
      refine Tends.assign (fun hi => h.during (.decide s header.type) hi hs)
        (tends_sendDecided h fuel timeoutUs hd (fun hq => ?_))
      rw [decideFault, (quiet_congr hs.2.2.rules hq : s.faultInjector.Quiet).injectTransport]

/-- A datagram that the backend owns in the state it is in. -/
theorem tends_send (hd : s₀.Owns d) (hs : Talking L s₀ o) :
    Triple S (Here s₀ o) (sendDatagram fuel d timeoutUs)
      (fun s _ o => During L s₀ s o) :=
  (tends_sendDatagram h fuel timeoutUs hd).at_state (.begin hs)

/-! ### Control datagrams -/

theorem tends_sendKeepalive : Tends S (During L s₀) (sendKeepalive fuel timeoutUs) := by
  refine .get_bind (fun s o hs => Tends.assign (fun hi => h.during (.number s) hi hs) ?_)
  split
  · exact .ret
  · next bytes hbytes =>
    have hd : s₀.Owns bytes := fun s' hcore =>
      owns_keepalive hbytes s' (hcore.trans hs.2.2.core.symm)
    exact (tends_sendDatagram h _ _ hd).bind (fun _ => .ite (fun _ =>
      (tends_nowUs h.asks_during).bind (fun now =>
        (Tends.change (fun hi hs => h.during (.keepalive _ now) hi hs)).bind (fun _ => .ret)))
      (fun _ => .ret))

omit h in
/-- Code that may begin in any state in which the backend talks. -/
theorem Tends.of_during {α : Type} {p : Udp α} (hp : ∀ s₀, Tends S (During L s₀) p) :
    Tends S (Talking L) p :=
  Triple.of_state (fun s _ _ hs _ =>
    ((hp s).at_state (.begin hs)).post (fun _ _ _ hs => hs.talking))

theorem tends_maybeSendKeepalive : Tends S L (maybeSendKeepalive fuel) := by
  refine (tends_nowUs h.asks).bind (fun now => .get_bind (fun s o hs =>
    Triple.ite (fun _ => Tends.ret.at_state hs) (fun htalks => Triple.ite (fun _ => ?_)
      (fun _ => Tends.ret.at_state hs))))
  have ht : s.state.talks = true := by
    simp only [Bool.or_eq_true, not_or, Bool.not_eq_true'] at htalks
    simpa using htalks.2
  refine Triple.bind (Q := fun s _ o => L s o) ?_ (fun _ => Tends.ret)
  exact ((Tends.of_during (fun s₀ => tends_sendKeepalive h fuel _)).at_state ⟨hs, ht⟩).post
    (fun _ _ _ hs => hs.1)

/-- A message that is remembered, if there is one of the number. -/
def Remembers (s : UdpBackend) (messageId : UInt32) : Prop :=
  messageId ≠ 0 → ∃ type, ⟨type, messageId⟩ ∈ s.recentMessages.toList

theorem tends_sendAck {messageId : UInt32} :
    Triple S (fun s o => Talking L s o ∧ s.Remembers messageId) (sendAck fuel messageId)
      (fun s _ o => Talking L s o) := by
  refine Triple.get_bind (fun s o e hs _ => Triple.ite (fun _ => Tends.ret.at_state hs.1)
    (fun hid => Triple.ite (fun _ => Tends.ret.at_state hs.1) (fun _ => ?_)))
  obtain ⟨type, hrecent⟩ := hs.2 (by simpa using hid)
  refine Triple.post (Q := fun s' _ o' => During L s s' o')
    (Tends.assign (fun hi => h.during (.number s) hi (.begin hs.1)) ?_)
    (fun _ _ _ hs => hs.talking)
  split
  · next header payload hheader hpayload =>
    exact tends_sendDatagram h _ _ (fun s' hcore => owns_ack hheader hpayload hrecent s' hcore)
  · exact .ret

theorem tends_sendAckIf (ackRequired : Bool) (messageId : UInt32) :
    Triple S (fun s o => Talking L s o ∧ (ackRequired = true → s.Remembers messageId))
      (sendAckIf fuel ackRequired messageId) (fun s _ o => Talking L s o) := by
  refine Triple.ite (fun hack => ?_) (fun _ => Triple.ret (fun _ _ hs => hs.1))
  exact Triple.bind ((tends_sendAck h fuel).pre (fun s o hs => ⟨hs.1, hs.2 hack⟩))
    (fun _ => Tends.ret)

/-! ### The pending event -/

theorem tends_transmitFragments
    (hkind : s₀.pendingTxKind = .data) (n : Nat) : ∀ offset, s₀.StartsFragment offset →
      Tends S (During L s₀) (transmitFragments fuel timeoutUs n offset) := by
  induction n with
  | zero => exact fun _ _ => .hang
  | succ n ih =>
    intro offset hstart
    refine .get_bind (fun s o hs => Tends.assign (fun hi => h.during (.number s) hi hs) ?_)
    split
    · exact .ret
    next bytes hbytes =>
    have hcore := hs.2.2.core
    obtain ⟨hsize, hpacket, -, hstarts⟩ := fragments_congr hcore offset
    have hd : s₀.Owns (bytes ++ s.fragmentPayload offset) := fun s' hcore' => owns_fragment
      ((congrArg UdpCore.pendingTxKind hcore).trans hkind) (hstarts hstart) hbytes s'
      (hcore'.trans hcore.symm)
    refine (tends_sendDatagram h _ _ hd).bind (fun _ => .ite (fun _ => .ret) (fun _ =>
      .ite (fun hmore => ih _ ?_) (fun _ => .ret)))
    rw [hsize, hpacket] at *
    exact startsFragment_next hmore

theorem tends_transmitTimeCode (hkind : s₀.pendingTxKind = .timeCode) :
    Tends S (During L s₀) (transmitTimeCode fuel timeoutUs) := by
  refine .get_bind (fun s o hs => Tends.assign (fun hi => h.during (.number s) hi hs) ?_)
  split
  · exact .ret
  · next bytes hbytes =>
    exact tends_sendDatagram h _ _ (fun s' hcore => owns_timeCode
      ((congrArg UdpCore.pendingTxKind hs.2.2.core).trans hkind) hbytes s'
      (hcore.trans hs.2.2.core.symm))

end

end

/-! ## The background -/

section

variable {O E : Type} {S : UdpSetting O E}
  {L : UdpBackend → O → Prop} (h : Tolerates S L)
include h

variable {Q : UdpBackend → Prop} {o : O} {result : Result} {s s' s₀ : UdpBackend}
  {source : SocketAddress}
variable (fuel : Nat) {header : Header} {payload : Bytes} (deadline : UdpDeadline)
  (timeoutUs : Timeout)


theorem Tolerates.talking : Tolerates S (Talking L) := h.and .talks

/-- A change of the background. -/
theorem Tolerates.background {e : E} (hback : Background s s') (hi : S.inv s o e)
    (hs : Talking L s o) : S.inv s' o e ∧ Talking L s' o :=
  h.talking.change hs.2 hback hi hs

/-- **A transmission has ended**: at most one success is noted, and nothing but that has
happened since the property held. -/
def Transmitted (L : UdpBackend → O → Prop) (s₀ s : UdpBackend) (r : Result) (o : O) : Prop :=
  (r ≠ .ok → During L s₀ s o) ∧ ∃ s₁ now, ∃ transmissions ≤ s₁.pendingTxTransmissions + 1,
    During L s₀ s₁ o ∧ s = s₁.noted now transmissions

omit h in
theorem During.transmitted (hs : During L s₀ s o) : Transmitted L s₀ s result o :=
  ⟨fun _ => hs, s, _, _, Nat.le_succ _, hs, rfl⟩

omit h in
theorem triple_transmission (h : Upkeep S L)
    (hnote : ∀ {s o e} (now : UInt64) (n : Nat), S.inv s o e → S.inv (s.noted now n) o e) :
    Triple S (During L s₀) (transmitPending fuel timeoutUs) (Transmitted L s₀) := by
  refine Triple.get_bind (fun s o _ hs _ => Triple.pre (P := During L s₀) ?_ (fun _ _ heq =>
    heq.1 ▸ heq.2 ▸ hs))
  refine Triple.ite (fun _ => Triple.ret (fun _ _ hs => hs.transmitted)) (fun hsome => ?_)
  have hkind : s.pendingTxKind = s₀.pendingTxKind := congrArg UdpCore.pendingTxKind hs.2.2.core
  have hevent : Tends S (During L s₀) (transmitEvent fuel s timeoutUs) := by
    refine .ite (fun hcode => tends_transmitTimeCode h _ _ (hkind.symm.trans hcode))
      (fun hcode => tends_transmitFragments h _ _ ?_ _ _ (Or.inl rfl))
    rw [← hkind]
    exact kind_eq_data (not_or.mp hsome).1 hcode
  refine Triple.bind hevent (fun _ => Triple.ite (fun _ => Triple.bind
    (tends_nowUs h.asks_during) (fun now s₁ o₁ e hs₁ hi => ?_))
      (fun _ => Triple.ret (fun _ _ hs => hs.transmitted)))
  exact ⟨hnote now _ hi, fun hne => absurd rfl hne, s₁, now, _, Nat.le_refl _, hs₁, rfl⟩

theorem tends_servicePendingTx : Tends S (Talking L) (servicePendingTx fuel) := by
  refine (tends_nowUs h.asks_talking).bind (fun now => .get_bind (fun s o hs =>
    Triple.ite (fun _ => Tends.ret.at_state hs) (fun hkind => Triple.ite
      (fun _ => Tends.ret.at_state hs) (fun _ => Triple.ite (fun hmax => ?_) (fun hmax => ?_)))))
  · refine Triple.bind (Q := fun s _ o => Talking L s o) ?_ (fun _ => Tends.ret)
    rintro s o e ⟨rfl, rfl⟩ hi
    exact h.background (.fail s hkind hmax) hi hs
  · refine Triple.bind (Q := Transmitted L s) ((triple_transmission fuel timeoutImmediate h.toUpkeep
      h.note).pre ?_) (fun _ => Triple.ite (fun _ => ?_) (fun hne => Triple.ret (fun _ _ hs =>
        (hs.1 hne).talking)))
    · rintro _ _ ⟨rfl, rfl⟩
      exact .begin hs
    refine Triple.bind (Q := fun s _ o => Talking L s o) ?_ (fun _ => Tends.ret)
    rintro _ o' e ⟨-, s', now, n, honce, hs', rfl⟩ hi
    have hconfig : s'.config = s.config := congrArg UdpCore.config hs'.2.2.core
    refine h.background (.retry s' now honce ?_ ?_)
      (inv_of_noted (I := (S.inv · o' e)) h.note hi) hs'.talking
    · rw [show s'.pendingTxKind = s.pendingTxKind from
        congrArg UdpCore.pendingTxKind hs'.2.2.core]
      exact hkind
    · rw [hs'.2.2.retries, hconfig]
      exact UInt16.not_le.mp hmax

/-! ### Time -/

theorem tends_expireReassembly : Tends S L expireReassembly := by
  refine (tends_nowUs h.asks).bind (fun now => .change (fun {s o e} hi hs => ?_))
  split_ifs with hidle hold
  · exact ⟨hi, hs⟩
  · simp only [Bool.or_eq_true, Bool.not_eq_true', not_or, Bool.not_eq_false] at hidle
    exact h.refresh (.expire s hidle.1) hi hs
  · exact ⟨hi, hs⟩

theorem tends_refreshPeerState : Tends S L refreshPeerState := by
  refine (tends_expireReassembly h).bind (fun _ => .get_bind (fun s o hs => ?_))
  -- the state that was read is still the state after the clock has been asked
  have hcurrent : Triple S (Here s o) peerIsCurrent
      (fun s' _ o' => L s' o' ∧ s' = s) :=
    (tends_peerIsCurrent (P := fun s' o' => L s' o' ∧ s' = s)
      (fun hq hi hs hr => (h.asks hq hi hs.1 hr).imp_right (fun hl => ⟨hl, hs.2⟩))).pre
      (fun _ _ heq => ⟨heq.1 ▸ heq.2 ▸ hs, heq.1⟩)
  refine Triple.ite (fun hrun => ?_) (fun _ => Triple.ite (fun hwait => ?_)
    (fun _ => Tends.ret.at_state hs))
  · refine hcurrent.bind (fun current => Triple.ite (fun _ s' o' e hs' hi => ?_)
      (fun _ => Triple.ret (fun _ _ hs => hs.1)))
    exact h.refresh (.lose s' (hs'.2 ▸ hrun)) hi hs'.1
  · refine hcurrent.bind (fun current => Triple.ite (fun _ s' o' e hs' hi => ?_)
      (fun _ => Triple.ret (fun _ _ hs => hs.1)))
    exact h.refresh (.recover s' (hs'.2 ▸ hwait)) hi hs'.1

/-- The peer was heard. What is known of the state it is noted in has to survive only both
assignments. -/
theorem triple_notePeerActivity {o₀ : O} (hs : ∀ now, L (s₀.notice now) o₀)
    (hQ : ∀ now, Q (s₀.notice now)) :
    Triple S (Here s₀ o₀) notePeerActivity (fun s _ o => L s o ∧ Q s) := by
  refine Triple.bind (Q := fun s _ o => s = { s₀ with peerSeen := true } ∧ o = o₀) ?_ (fun _ => ?_)
  · rintro s o e ⟨rfl, rfl⟩ hi
    exact ⟨h.see hi, rfl, rfl⟩
  · refine Triple.bind (Q := fun s _ o => s = { s₀ with peerSeen := true }
      ∧ ∀ now, L (s₀.notice now) o) (Triple.request ?_) (fun now => ?_)
    · rintro s o e ⟨rfl, rfl⟩ hi r o' hr
      exact ⟨h.ask rfl hi hr, rfl, fun now => h.lasts rfl hr _ (hs now)⟩
    · rintro s o e ⟨rfl, hs⟩ hi
      exact ⟨h.hear now hi, hs now, hQ now⟩

/-! ### What arrives -/

omit h in
theorem recentlyDelivered_iff (s : UdpBackend) (type : UInt8) (messageId : UInt32) :
    s.recentlyDelivered type messageId = true
      ↔ messageId ≠ 0 ∧ ⟨type, messageId⟩ ∈ s.recentMessages.toList := by
  unfold recentlyDelivered
  by_cases hid : messageId = 0
  · simp [hid]
  · rw [if_neg (by simpa using hid), List.any_eq_true]
    refine ⟨fun ⟨key, hkey, heq⟩ => ⟨hid, ?_⟩, fun h => ⟨_, h.2, by simp⟩⟩
    simp only [Bool.and_eq_true, beq_iff_eq] at heq
    rwa [← heq.1, ← heq.2]

omit h in
/-- A message that asks for an acknowledgement is remembered once it is delivered. -/
theorem remembers_rememberIf (s : UdpBackend) {ackRequired : Bool} (type : UInt8)
    (messageId : UInt32) (hack : ackRequired = true) :
    (s.rememberIf ackRequired type messageId).Remembers messageId := by
  intro hid
  refine ⟨type, ?_⟩
  unfold rememberIf rememberDelivered
  rw [if_pos hack]
  split_ifs with hseen
  · simp only [Bool.or_eq_true, beq_iff_eq, hid, false_or] at hseen
    exact ((recentlyDelivered_iff s type messageId).mp hseen).2
  · rw [RingBuffer.toList_remember]
    exact List.mem_append_right _ (List.mem_singleton_self _)

/-- A message that is remembered already is acknowledged again. -/
theorem triple_acknowledgeAgain {type : UInt8} (hs : Talking L s o)
    (hseen : ¬ s.Fresh type header) :
    Triple S (Here s o) (do
      let _ ← sendAck fuel header.messageId
      return Result.ok) (fun s _ o => Talking L s o) := by
  rw [Fresh, not_not, Bool.and_eq_true, recentlyDelivered_iff] at hseen
  refine Triple.bind ((tends_sendAck h.toUpkeep fuel).pre (fun s' o' heq => ?_))
    (fun _ => Tends.ret)
  obtain ⟨rfl, rfl⟩ := heq
  exact ⟨hs, fun _ => ⟨type, hseen.2.2⟩⟩

/-- A message is accepted, remembered and acknowledged. -/
theorem triple_accept {ackRequired : Bool} {type : UInt8} {messageId : UInt32}
    (hs : Talking L s o) (hback : Background s (s'.rememberIf ackRequired type messageId)) :
    Triple S (Here s o) (do
      set (s'.rememberIf ackRequired type messageId)
      sendAckIf fuel ackRequired messageId) (fun s _ o => Talking L s o) := by
  refine Triple.bind (Q := fun s₁ _ o₁ => Talking L s₁ o₁
    ∧ (ackRequired = true → s₁.Remembers messageId)) ?_
    (fun _ => tends_sendAckIf h.toUpkeep fuel ackRequired messageId)
  rintro s o e ⟨rfl, rfl⟩ hi
  exact (h.background hback hi hs).imp_right (fun ht =>
    ⟨ht, fun hack => remembers_rememberIf s' type messageId hack⟩)

theorem tends_dropped : Tends S (Talking L) (do modify countDropped; return Result.ok) :=
  (Tends.change (fun hi hs => h.background (.drop _) hi hs)).bind (fun _ => .ret)

theorem triple_processTimeCode (htype : header.type = typeTimeCode) :
    Triple S (fun s o => Talking L s o ∧ s.Hears header payload)
      (processTimeCode fuel header payload) (fun s _ o => Talking L s o) := by
  refine Triple.get_bind (fun s o e hs _ => Triple.ite (fun hseen =>
    triple_acknowledgeAgain h fuel hs.1 (not_not.mpr hseen)) (fun hfresh => ?_))
  split
  · next hroom =>
    refine Triple.ite (fun _ => (tends_dropped h).at_state hs.1) (fun hvalid => ?_)
    exact triple_accept h fuel hs.1
      (.timeCode s _ ⟨hs.2, hfresh, htype⟩ rfl (by simpa using hvalid) hroom)
  · exact Tends.ret.at_state hs.1

/-- The end of a packet, while its last datagram is being handled. -/
theorem triple_completeReassembly (header : Header) (payload : Bytes) :
    Triple S (fun s o => Talking L s o ∧ s.Offers typeData header payload
        ∧ s.reassembly.active = true ∧ s.reassembly.SamePacket header
        ∧ s.reassembly.coveredBytes = s.reassembly.totalSize.toNat)
      (completeReassembly fuel) (fun s _ o => Talking L s o) :=
  Triple.get_bind (fun s o e hs _ => Triple.ite (fun _ => Tends.ret.at_state hs.1)
    (fun hfree => triple_accept h fuel hs.1 (.reassembled s hs.2.1 hs.2.2.1 hs.2.2.2.1
      hs.2.2.2.2 (by simpa using hfree))))

omit h in
theorem Offers.reassembly {type : UInt8}
    (h : s.Offers type header payload) (r : FragmentReassembler) (us : UInt64) :
    Offers { s with reassembly := r, reassemblyLastFragmentUs := us } type header payload :=
  ⟨⟨h.hears.decodes, h.hears.known, h.hears.session⟩, h.fresh, h.type⟩

theorem triple_processFragment (hpart : header.totalSize.toNat ≠ header.payloadSize.toNat) :
    Triple S (fun s o => Talking L s o ∧ s.Offers typeData header payload)
      (processFragment fuel header payload) (fun s _ o => Talking L s o) := by
  have hexpire : Tends S (fun s o => Talking L s o ∧ s.Offers typeData header payload)
      expireReassembly := by
    refine (tends_nowUs (fun hq hi hs hr => (h.asks_talking hq hi hs.1 hr).imp_right
      (fun hl => ⟨hl, hs.2⟩))).bind (fun now => .change (fun {s o e} hi hs => ?_))
    split_ifs with hidle hold
    · exact ⟨hi, hs⟩
    · simp only [Bool.or_eq_true, Bool.not_eq_true', not_or, Bool.not_eq_false] at hidle
      exact (h.talking.refresh (.expire s hidle.1) hi hs.1).imp_right (fun hl =>
        ⟨hl, hs.2.reassembly _ _⟩)
    · exact ⟨hi, hs⟩
  refine Triple.bind hexpire (fun _ => Triple.get_bind (fun s o e hs _ => ?_))
  obtain ⟨hs, hoffers⟩ := hs
  refine Triple.bind (Q := fun s' _ o' => Talking L s' o'
    ∧ s' = { s with reassembly := (s.reassembly.push header payload).2 }) ?_ (fun _ =>
      Triple.ite (fun _ => (tends_dropped h).pre (fun _ _ hs => hs.1)) (fun _ => ?_))
  · rintro s o e ⟨rfl, rfl⟩ hi
    exact (h.background (.push s hoffers hpart) hi hs).imp_right (fun hl => ⟨hl, rfl⟩)
  refine Triple.bind (tends_nowUs (fun hq hi hs hr => (h.asks_talking hq hi hs.1 hr).imp_right
    (fun hl => ⟨hl, hs.2⟩))) (fun now => ?_)
  refine Triple.bind (Q := fun s' _ o' => Talking L s' o' ∧ s' = { s with
      reassembly := (s.reassembly.push header payload).2, reassemblyLastFragmentUs := now }) ?_
    (fun _ => Triple.ite (fun _ => Triple.ret (fun _ _ hs => hs.1)) (fun hcomplete => ?_))
  · rintro s' o e ⟨hs', rfl⟩ hi
    exact (h.background (.fragment _ now) hi hs').imp_right (fun hl => ⟨hl, rfl⟩)
  · refine (triple_completeReassembly h fuel header payload).pre (fun s' o' hs' => ?_)
    obtain ⟨hs', rfl⟩ := hs'
    exact ⟨hs', hoffers.reassembly _ _, complete_of_push (not_not.mp hcomplete)⟩

theorem triple_processData (htype : header.type = typeData) :
    Triple S (fun s o => Talking L s o ∧ s.Hears header payload)
      (processData fuel header payload) (fun s _ o => Talking L s o) := by
  refine Triple.get_bind (fun s o e hs _ => Triple.ite (fun hseen =>
    triple_acknowledgeAgain h fuel hs.1 (not_not.mpr hseen)) (fun hfresh =>
      Triple.ite (fun hwhole => Triple.ite (fun _ => Tends.ret.at_state hs.1) (fun hfree => ?_))
        (fun hpart => ?_)))
  · rw [hs.2.take]
    exact triple_accept h fuel hs.1 (.whole s ⟨hs.2, hfresh, htype⟩ hwhole (by simpa using hfree))
  · refine (triple_processFragment h fuel hpart).pre (fun s' o' heq => ?_)
    obtain ⟨rfl, rfl⟩ := heq
    exact ⟨hs.1, hs.2, hfresh, htype⟩

/-- **An acknowledgement clears the pending event it is for**, and no other. -/
theorem triple_processAck (htype : header.type = typeAck) :
    Triple S (fun s o => Talking L s o ∧ s.Hears header payload)
      (modify fun b => b.processAck header payload) (fun s _ o => Talking L s o) := by
  rintro s o e ⟨hs, hhears⟩ hi
  show S.inv (s.processAck header payload) o e ∧ Talking L (s.processAck header payload) o
  unfold processAck
  rw [hhears.take]
  split
  · exact h.background (.drop s) hi hs
  · next session hsession =>
    split_ifs with hother hmatch
    · exact ⟨hi, hs⟩
    · rw [not_not.mp hother] at hsession
      exact h.background (.acknowledge s hhears htype hsession hmatch.1 hmatch.2) hi hs
    · exact ⟨hi, hs⟩

theorem triple_processMessage :
    Triple S (fun s o => Talking L s o ∧ s.Hears header payload)
      (processMessage fuel header payload) (fun s _ o => Talking L s o) :=
  Triple.ite (fun hdata => Triple.ite (fun _ => (tends_dropped h).pre (fun _ _ hs => hs.1))
      (fun _ => triple_processData h fuel hdata)) (fun _ => Triple.ite
    (fun hcode => triple_processTimeCode h fuel hcode) (fun _ => Triple.ite
      (fun hack => Triple.bind (triple_processAck h hack) (fun _ => Tends.ret))
      (fun _ => Triple.ret (fun _ _ hs => hs.1))))

/-! ### The pump -/

omit h in
/-- **A datagram has just arrived**, in a state in which the backend talks. -/
def Arrived (S : UdpSetting O E) (L : UdpBackend → O → Prop)
    (source : SocketAddress) (s : UdpBackend) (o : O) : Prop :=
  ∃ s₀ o₀ e₀ bytes, s₀.state.talks = true ∧ S.inv s₀ o₀ e₀
    ∧ S.answers s₀ o₀ e₀ .recvfrom (ReceiveAnswer.datagram source bytes) o
    ∧ s = s₀.receiveDatagram source bytes ∧ L s o

omit h in
theorem Arrived.talking (ha : Arrived S L source s o) : Talking L s o := by
  obtain ⟨s₀, o₀, e₀, bytes, ht, -, -, rfl, hs⟩ := ha
  exact ⟨hs, ht⟩

omit h in
/-- What came from the peer's address came last. -/
theorem Arrived.last (ha : Arrived S L source s o) (hmatch : sourceMatches s.config source = true) :
    s.history.received.getLast? = some s.rxDatagram := by
  obtain ⟨s₀, o₀, e₀, bytes, -, -, -, rfl, -⟩ := ha
  have hmatch' : sourceMatches s₀.config source = true := hmatch
  show List.getLast? (if sourceMatches s₀.config source then s₀.history.received ++ [bytes]
    else s₀.history.received) = some bytes
  rw [if_pos hmatch', List.getLast?_concat]

/-- **A keepalive**, right after it has arrived. -/
theorem triple_processKeepalive (ha : Arrived S L source s o)
    (hmatches : sourceMatches s.config source = true)
    (hdecode : decodeHeader s.rxDatagram = .ok header)
    (hlength : s.rxDatagram.length = headerSize + header.payloadSize.toNat)
    (hlink : header.linkId = s.config.linkId) (htype : header.type = typeKeepalive) :
    Triple S (Here s o) (processKeepalive header)
      (fun s _ o => Talking L s o) := by
  have hs := ha.talking
  have hnote : ∀ s', (∀ now, Talking L (s'.notice now) o) → Triple S
      (Here s' o) (do notePeerActivity; return true)
      (fun s _ o => Talking L s o) := fun s' hs' => Triple.bind
    ((triple_notePeerActivity h.talking (Q := fun _ => True) hs' (fun _ => trivial)).post
      (fun _ _ _ hq => hq.1)) (fun _ => Tends.ret)
  refine Triple.bind (Q := fun s _ o => Talking L s o) ?_ (fun _ => Tends.ret)
  refine Triple.get_bind (fun s' o' e heq _ => Triple.ite (fun _ => ?_) (fun hnew => ?_))
  · obtain ⟨rfl, rfl⟩ := heq
    exact Tends.ret.at_state hs
  obtain ⟨rfl, rfl⟩ := heq
  simp only [Bool.or_eq_true, beq_iff_eq, not_or] at hnew
  by_cases hsame : s'.remoteSessionId = header.sessionId
  · refine Triple.bind (Q := fun s₁ _ o₁ => s₁ = s' ∧ o₁ = o') ?_ (fun _ => hnote s' (fun now =>
      h.talking.notice now hs.2 (hsame ▸ hnew.1) hs))
    rintro s₁ o₁ e₁ ⟨rfl, rfl⟩ hi
    show S.inv (if _ then _ else _) _ _ ∧ (if _ then _ else _) = _ ∧ _
    rw [if_pos hsame]
    exact ⟨hi, rfl, rfl⟩
  · have hadopts : ∀ {b bytes}, s' = receiveDatagram b source bytes →
        Adopts b source bytes header.sessionId := fun heq => by
      subst heq
      exact ⟨hmatches, ⟨header, hdecode, hlength, hlink, htype, rfl⟩, hnew.1,
        Bool.eq_false_iff.mpr hnew.2, hsame⟩
    obtain ⟨s₀, o₀, e₀, bytes, ht, hinv, hr, heq, -⟩ := ha
    have hadopts' : Adopts s' source bytes header.sessionId := by
      obtain ⟨h₁, h₂, h₃, h₄, h₅⟩ := hadopts heq
      subst heq
      exact ⟨h₁, h₂, h₃, h₄, h₅⟩
    refine Triple.bind (Q := fun s₁ _ o₁ => s₁ = s'.adoptRemoteSession header.sessionId ∧ o₁ = o')
      ?_ (fun _ => hnote _ (fun now => h.talking.adopted now hs.2 hadopts' hs))
    rintro s₁ o₁ e₁ ⟨rfl, rfl⟩ hi
    show S.inv (if _ then _ else _) _ _ ∧ (if _ then _ else _) = _ ∧ _
    rw [if_neg hsame]
    refine ⟨?_, rfl, rfl⟩
    rw [heq] at hi ⊢
    exact h.adopt ht hinv hr (hadopts heq) hi

theorem triple_processDatagram (source : SocketAddress) :
    Triple S (Arrived S L source) (processDatagram fuel source) (fun s _ o => Talking L s o) := by
  refine Triple.get_bind (fun s o e ha hi => ?_)
  have hs := ha.talking
  refine Triple.ite (fun _ => Tends.ret.at_state hs) (fun hmatches => ?_)
  have hmatch : sourceMatches s.config source = true := by simpa using hmatches
  split
  · exact (tends_dropped h).at_state hs
  next header hdecode =>
  refine Triple.ite (fun _ => (tends_dropped h).at_state hs) (fun hlength => Triple.ite
    (fun _ => Tends.ret.at_state hs) (fun hlink => Triple.ite (fun htype => ?_) (fun _ =>
      Triple.ite (fun _ => Tends.ret.at_state hs) (fun hremote => ?_))))
  · exact triple_processKeepalive h ha hmatch hdecode (not_not.mp hlength) (not_not.mp hlink) htype
  · rw [not_or, not_not] at hremote
    have hhears : ∀ now, (s.notice now).Hears header (s.rxDatagram.drop headerSize) := fun now => by
      rw [notice_eq]
      exact ⟨⟨_, ha.last hmatch, hdecode, not_not.mp hlength, rfl⟩, hremote.1, hremote.2⟩
    exact Triple.bind (triple_notePeerActivity h.talking (fun now => h.talking.notice now hs.2
      hremote.1 hs) hhears) (fun _ => triple_processMessage h fuel)

theorem triple_receiveLoop (n : Nat) :
    Triple S (Talking L) (receiveLoop fuel deadline n)
      (fun s r o => Talking L s o ∧ ∀ source, r = .ok source → Arrived S L source s o) := by
  have hnone : ∀ result, Triple S (Talking L)
      (pure (.error result) : Udp (Except Result SocketAddress))
      (fun s r o => Talking L s o ∧ ∀ source, r = .ok source → Arrived S L source s o) :=
    fun _ => Triple.ret (fun _ _ hs => ⟨hs, fun _ hok => by cases hok⟩)
  induction n with
  | zero => exact Triple.hang
  | succ n ih =>
    refine Triple.ask (fun s o e hs hi r o' hr => ?_)
    obtain ⟨hi', hs'⟩ := h.asks_talking rfl hi hs hr
    cases r with
    | datagram source bytes =>
      obtain ⟨hreceived, hl⟩ := h.receive hs.2 hi hs.1 hr
      refine ⟨hreceived, ⟨hl, hs.2⟩, fun source' hok => ?_⟩
      obtain rfl := Except.ok.inj hok
      exact ⟨s, o, e, bytes, hs.2, hi, hr, rfl, hl⟩
    | error => exact hnone _ s o' e hs' hi'
    | interrupted =>
      exact Triple.bind (tends_deadlineExpired h.asks_talking deadline) (fun _ => Triple.ite
        (fun _ => hnone _) (fun _ => ih)) s o' e hs' hi'
    | wouldBlock =>
      refine Triple.bind (tends_deadlineRemaining h.asks_talking deadline) (fun remaining =>
        Triple.bind (tends_waitReadable h.asks_talking fuel remaining) (fun result => ?_))
        s o' e hs' hi'
      cases result with
      | ok => exact ih
      | _ => exact hnone _

/-- **`pump_one`.** -/
theorem tends_pumpOne : Tends S (Talking L) (pumpOne fuel timeoutUs) := by
  have hkeepalive := tends_maybeSendKeepalive h.talking.toUpkeep fuel
  refine hkeepalive.bind (fun _ => .get_bind (fun s _ hs => Tends.at_state
    ((tends_deadlineMake h.asks_talking _).bind (fun deadline => ?_)) hs))
  refine Triple.bind (triple_receiveLoop h fuel deadline fuel) (fun r => ?_)
  cases r with
  | ok source =>
    exact (triple_processDatagram h fuel source).pre (fun s o hs => hs.2 source rfl)
  | error result =>
    refine Triple.pre (P := Talking L) ?_ (fun s o hs => hs.1)
    cases result with
    | timeout =>
      exact hkeepalive.bind (fun _ => (tends_refreshPeerState h.talking).bind (fun _ => .ret))
    | _ => exact Tends.ret

/-! ### Waiting -/

theorem tends_linkDelayLoop (target : UInt64) (n : Nat) :
    Tends S (Talking L) (linkDelayLoop fuel deadline target n) := by
  have hasks : Asks S (Talking L) := h.asks_talking
  induction n with
  | zero => exact .hang
  | succ n ih =>
    refine (tends_nowUs hasks).bind (fun _ => .ite (fun _ => .ret)
      (fun _ => (tends_nowUs hasks).bind
      (fun _ => (tends_deadlineRemaining hasks _).bind (fun _ => (tends_pumpOne h _ _).bind
        (fun _ => .ite (fun _ => .ret) (fun _ => (tends_nowUs hasks).bind (fun _ => .ite
          (fun _ => .ret) (fun _ => (tends_deadlineExpired hasks _).bind (fun _ => ?_)))))))))
    exact .ite (fun _ => .ret) (fun _ => ih)

theorem tends_waitVirtualLinkDelay (delayUs : UInt64) (timeoutUs : Timeout) :
    Tends S (Talking L) (waitVirtualLinkDelay fuel delayUs timeoutUs) :=
  .ite (fun _ => .ret) (fun _ => .ite (fun _ => .ret) (fun _ =>
    (tends_deadlineMake h.asks_talking _).bind (fun _ => (tends_nowUs h.asks_talking).bind
      (fun _ => tends_linkDelayLoop h _ _ _ _))))

omit h in
/-- A result that is no success. -/
theorem triple_fails {P : UdpBackend → O → Prop} (hne : result ≠ .ok) :
    Triple S P (pure result : Udp Result)
      (fun s r o => P s o ∧ (r = .ok → Q s)) :=
  Triple.ret (fun _ _ hs => ⟨hs, fun hok => absurd hok hne⟩)

omit h in
theorem ne_ok_of_passing (h : (!result.passing) = true) : result ≠ .ok := by
  rintro rfl
  exact absurd h (by decide)

/-- The peer is found to be there only in RUN. -/
theorem triple_peerRuns :
    Triple S L peerRuns (fun s r o => L s o ∧ (r = true → s.state = .run)) := by
  refine Triple.get_bind (fun s o e hs _ => Triple.ite (fun hrun => ?_) (fun _ =>
    Triple.ret (fun _ _ heq => ⟨heq.1 ▸ heq.2 ▸ hs, fun hfalse => by cases hfalse⟩)))
  exact (tends_peerIsCurrent (P := fun s o => L s o ∧ s.state = .run) (fun hq hi hs hr =>
    (h.asks hq hi hs.1 hr).imp_right (fun hl => ⟨hl, hs.2⟩))).consequence
      (fun s' o' heq => ⟨heq.1 ▸ heq.2 ▸ hs, heq.1 ▸ hrun⟩)
      (fun s' r o' hs' => ⟨hs'.1, fun _ => hs'.2⟩)

theorem triple_ensurePeerLoop
    (n : Nat) : Triple S (Talking L) (ensurePeerLoop fuel deadline timeoutUs n)
      (fun s r o => Talking L s o ∧ (r = .ok → s.state = .run)) := by
  induction n with
  | zero => exact Triple.hang
  | succ n ih =>
    refine Triple.bind (tends_maybeSendKeepalive h.talking.toUpkeep fuel) (fun _ =>
      Triple.bind (tends_deadlineRemaining h.asks_talking deadline) (fun _ =>
        Triple.bind (tends_pumpOne h fuel _) (fun result =>
          Triple.bind (tends_refreshPeerState h.talking) (fun _ =>
            (triple_peerRuns h.talking).bind (fun runs => ?_)))))
    refine Triple.ite (fun hruns => Triple.ret (fun s o hs => ⟨hs.1, fun _ => hs.2 hruns⟩))
      (fun _ => Triple.pre (P := Talking L) ?_ (fun _ _ hs => hs.1))
    exact Triple.ite (fun hpassing => triple_fails (ne_ok_of_passing hpassing)) (fun _ =>
      Triple.bind (tends_deadlineExpired h.asks_talking deadline) (fun _ => Triple.ite
        (fun _ => triple_fails (by decide)) (fun _ => ih)))

/-- **Waiting for the peer.** If there is one, the link is in RUN. -/
theorem triple_ensurePeer :
    Triple S L (ensurePeer fuel timeoutUs) (fun s r o => L s o ∧ (r = .ok → s.state = .run)) := by
  refine Triple.bind (tends_refreshPeerState h) (fun _ => (triple_peerRuns h).bind (fun runs =>
    Triple.ite (fun hruns => Triple.ret (fun s o hs => ⟨hs.1, fun _ => hs.2 hruns⟩)) (fun _ => ?_)))
  refine Triple.pre (P := L) (Triple.get_bind (fun s o e hs _ => Triple.ite (fun _ =>
    (triple_fails (P := L) (by decide)).pre (fun _ _ heq => heq.1 ▸ heq.2 ▸ hs))
    (fun htalks => ?_)))
    (fun _ _ hs => hs.1)
  refine Triple.consequence (P := Talking L) (Triple.bind (tends_deadlineMake h.asks_talking
    timeoutUs) (fun deadline => triple_ensurePeerLoop h fuel deadline timeoutUs fuel))
    (fun _ _ heq => heq.1 ▸ heq.2 ▸ ⟨hs, by simpa using htalks⟩) (fun _ _ _ hs => ⟨hs.1.1, hs.2⟩)

theorem triple_txSlotLoop (n : Nat) :
    Triple S (Talking L) (txSlotLoop fuel deadline timeoutUs n)
      (fun s r o => Talking L s o ∧ (r = .ok → s.pendingTxKind = .none)) := by
  have hfree : ∀ {p : UdpBackend → Udp Result}, (∀ b, Triple S (Talking L) (p b)
      (fun s r o => Talking L s o ∧ (r = .ok → s.pendingTxKind = .none))) →
      Triple S (Talking L) (get >>= fun b => if b.pendingTxKind = .none then pure .ok else p b)
        (fun s r o => Talking L s o ∧ (r = .ok → s.pendingTxKind = .none)) := fun hp =>
    Triple.get_bind (fun s o e hs _ => Triple.ite
      (fun hidle => Triple.ret (fun _ _ heq => ⟨heq.1 ▸ heq.2 ▸ hs, fun _ => heq.1 ▸ hidle⟩))
      (fun _ => (hp s).pre (fun _ _ heq => heq.1 ▸ heq.2 ▸ hs)))
  induction n with
  | zero => exact Triple.hang
  | succ n ih =>
    refine Triple.bind (tends_servicePendingTx h fuel) (fun serviced => hfree (fun b =>
      Triple.ite (fun hfailed => triple_fails hfailed.1) (fun _ => ?_)))
    refine Triple.bind (tends_deadlineRemaining h.asks_talking deadline) (fun remaining =>
      Triple.bind (tends_pumpOne h fuel _) (fun pumped => Triple.ite
        (fun hpassing => triple_fails (ne_ok_of_passing hpassing)) (fun _ => hfree (fun b => ?_))))
    exact Triple.bind (tends_deadlineExpired h.asks_talking deadline) (fun _ => Triple.ite
      (fun _ => triple_fails (by decide)) (fun _ => ih))

/-- **Waiting until no event is pending.** -/
theorem triple_waitForTxSlot :
    Triple S (Talking L) (waitForTxSlot fuel timeoutUs)
      (fun s r o => Talking L s o ∧ (r = .ok → s.pendingTxKind = .none)) :=
  Triple.get_bind (fun _ _ _ hs _ => Triple.ite
    (fun hidle => Triple.ret (fun _ _ heq => ⟨heq.1 ▸ heq.2 ▸ hs, fun _ => heq.1 ▸ hidle⟩))
    (fun _ => Triple.pre (P := Talking L) (Triple.bind (tends_deadlineMake h.asks_talking timeoutUs)
      (fun deadline => triple_txSlotLoop h fuel deadline timeoutUs fuel))
      (fun _ _ heq => heq.1 ▸ heq.2 ▸ hs)))

/-- The link is up, or has been and waits for the peer. -/
def Linked (s : UdpBackend) : Prop := s.state = .run ∨ s.state = .errorWait

omit h in
theorem Lasting.linked : Lasting Linked :=
  .state (P := fun state => state = .run ∨ state = .errorWait) (Or.inl rfl) (Or.inr rfl)

omit h in
theorem Linked.talks (h : s.Linked) : s.state.talks = true := by
  obtain h | h := h <;> rw [h] <;> rfl

/-- **What both sends wait for.** -/
theorem triple_waitToSend (event : VirtualLinkEvent) (size : Nat) :
    Triple S L (waitToSend fuel deadline event size)
      (fun s r o => L s o ∧ (r = .ok → s.Linked ∧ s.pendingTxKind = .none)) := by
  refine Triple.bind (tends_deadlineRemaining h.asks deadline) (fun _ =>
    (triple_ensurePeer h fuel _).bind (fun r => Triple.ite
      (fun hne => Triple.ret (fun _ _ hs => ⟨hs.1, fun hok => absurd hok hne⟩)) (fun hok => ?_)))
  have hlinked := h.and Lasting.linked
  refine Triple.pre (P := Talking fun s o => L s o ∧ s.Linked) ?_ (fun s o hs =>
    ⟨⟨hs.1, Or.inl (hs.2 (not_not.mp hok))⟩, Linked.talks (Or.inl (hs.2 (not_not.mp hok)))⟩)
  refine Triple.bind (tends_deadlineRemaining hlinked.asks_talking deadline) (fun _ =>
    (triple_waitForTxSlot hlinked fuel _).bind (fun r => Triple.ite
      (fun hne => Triple.ret (fun _ _ hs => ⟨hs.1.1.1, fun hok => absurd hok hne⟩))
      (fun hok => ?_)))
  have hidle := hlinked.and Lasting.idle
  refine Triple.consequence (P := Talking fun s o => (L s o ∧ s.Linked) ∧ s.pendingTxKind = .none)
    (Q := fun s _ o => Talking (fun s o => (L s o ∧ s.Linked) ∧ s.pendingTxKind = .none) s o) ?_
    (fun s o hs => ⟨⟨hs.1.1, hs.2 (not_not.mp hok)⟩, hs.1.2⟩)
    (fun s r o hs => ⟨hs.1.1.1, fun _ => ⟨hs.1.1.2, hs.1.2⟩⟩)
  exact Tends.get_bind (fun s o hs => Tends.at_state
    ((tends_deadlineRemaining hidle.asks_talking deadline).bind (fun _ =>
      tends_waitVirtualLinkDelay hidle fuel _ _)) hs)

/-- **A receive that has waited with success has something to hand out**, and one that has
something from the start waits with success. -/
theorem triple_arrivalLoop {arrived : UdpBackend → Bool} {start : Prop}
    (hstart : ∀ {s o e}, S.inv s o e → L s o → start → arrived s = true) (deadline : UdpDeadline)
    (timeoutUs : Timeout) (n : Nat) :
    Triple S (fun s o => L s o ∧ (s.state.talks = true ∨ arrived s = true))
      (arrivalLoop fuel arrived deadline timeoutUs n)
      (fun s r o => L s o ∧ (r = .ok → arrived s = true) ∧ (start → r = .ok)) := by
  induction n with
  | zero => exact Triple.hang
  | succ n ih =>
    have hthere : ∀ {P : UdpBackend → O → Prop} {p : UdpBackend → Udp Result},
        (∀ s o, P s o → L s o) → (∀ s, arrived s = false → ¬ start → ∀ o, P s o → Triple S
          (Here s o) (p s)
          (fun s r o => L s o ∧ (r = .ok → arrived s = true) ∧ (start → r = .ok))) →
        Triple S P (get >>= fun b => if arrived b = true then pure Result.ok else p b)
          (fun s r o => L s o ∧ (r = .ok → arrived s = true) ∧ (start → r = .ok)) := fun hP hp =>
      Triple.get_bind (fun s o e hs hi => Triple.ite
        (fun h => Triple.ret (fun s' o' heq => ⟨hP _ _ (heq.1 ▸ heq.2 ▸ hs), fun _ => heq.1 ▸ h,
          fun _ => rfl⟩))
        (fun hno => hp s (by simpa using hno) (fun h => hno (hstart hi (hP _ _ hs) h)) o hs))
    refine hthere (fun _ _ hs => hs.1) (fun s hno hlate o hs => ?_)
    have hs' : Talking L s o := ⟨hs.1, hs.2.resolve_right (by simp [hno])⟩
    refine Triple.consequence (P := Talking L)
      (Q := fun s r o => L s o ∧ (r = .ok → arrived s = true) ∧ (start → r = .ok)) ?_
      (fun _ _ heq =>
        heq.1 ▸ heq.2 ▸ hs') (fun _ _ _ hs => hs)
    have hfails : ∀ {result : Result}, result ≠ .ok → Triple S (Talking L)
        (pure result : Udp Result)
        (fun s r o => L s o ∧ (r = .ok → arrived s = true) ∧ (start → r = .ok)) :=
      fun hne => Triple.ret (fun _ _ hs =>
      ⟨hs.1, fun hok => absurd hok hne, fun h => absurd h hlate⟩)
    refine Triple.bind (tends_servicePendingTx h fuel) (fun serviced => Triple.ite
      (fun hgone => hfails (by rw [hgone]; decide)) (fun _ => ?_))
    refine Triple.bind (tends_deadlineRemaining h.asks_talking deadline) (fun _ =>
      Triple.bind (tends_pumpOne h fuel _) (fun pumped => Triple.ite
        (fun hpassing => hfails (ne_ok_of_passing hpassing)) (fun _ =>
          hthere (fun _ _ hs => hs.1) (fun s _ _ o hs => ?_))))
    refine Triple.pre (P := Talking L) (Triple.bind (tends_deadlineExpired h.asks_talking deadline)
      (fun _ => Triple.ite (fun _ => ?_) (fun _ => ih.pre (fun _ _ hs => ⟨hs.1, Or.inl hs.2⟩))))
      (fun _ _ heq => heq.1 ▸ heq.2 ▸ hs)
    refine Triple.bind (tends_refreshPeerState h.talking) (fun _ => Triple.get_bind
      (fun s o e hs _ => Triple.ret (fun _ _ heq => ⟨heq.1 ▸ heq.2 ▸ hs.1, fun hok => ?_,
        fun h => absurd h hlate⟩)))
    split_ifs at hok

/-- What both receives begin with. -/
theorem triple_waitToReceive {arrived : UdpBackend → Bool} {start : Prop}
    (hstart : ∀ {s o e}, S.inv s o e → L s o → start → arrived s = true) (timeoutUs : Timeout) :
    Triple S L (waitToReceive fuel arrived timeoutUs)
      (fun s r o => L s o ∧ (r = .ok → arrived s = true) ∧ (start → r = .ok)) := by
  refine Triple.bind (tends_deadlineMake h.asks timeoutUs) (fun deadline =>
    Triple.bind (tends_deadlineRemaining h.asks deadline) (fun _ =>
      Triple.bind (triple_ensurePeer h fuel _) (fun peer => Triple.get_bind
        (fun s o e hs hi => Triple.ite (fun hgone => Triple.ret (fun _ _ heq => ?_))
          (fun hsome => ?_)))))
  · refine ⟨heq.1 ▸ heq.2 ▸ hs.1, fun hok => absurd hok hgone.1, fun h => ?_⟩
    exact absurd (hgone.2.symm.trans (hstart hi hs.1 h)) Bool.false_ne_true
  · refine (triple_arrivalLoop h fuel hstart deadline timeoutUs fuel).pre (fun _ _ heq => ?_)
    obtain ⟨rfl, rfl⟩ := heq
    refine ⟨hs.1, ?_⟩
    by_cases hpeer : peer = .ok
    · exact Or.inl (Linked.talks (Or.inl (hs.2 hpeer)))
    · exact Or.inr (by simpa [hpeer] using hsome)

theorem tends_udpGetLinkState : Tends S L (udpGetLinkState fuel) := by
  refine .get_bind (fun s o hs => Triple.ite (fun htalks => ?_) (fun _ => Tends.ret.at_state hs))
  refine Triple.consequence (P := Talking L) (Q := fun s _ o => Talking L s o) ?_
    (fun _ _ heq => heq.1 ▸ heq.2 ▸ ⟨hs, htalks⟩) (fun _ _ _ hs => hs.1)
  exact Tends.bind (tends_maybeSendKeepalive h.talking.toUpkeep fuel) (fun _ =>
    (tends_pumpOne h fuel _).bind (fun _ => (tends_servicePendingTx h fuel).bind (fun _ =>
      (tends_refreshPeerState h.talking).bind (fun _ => .get_bind (fun _ _ hs =>
        Tends.ret.at_state hs)))))

end

/-! ## The calls -/

section

variable {O E : Type} {S : UdpSetting O E}
  {L : UdpBackend → O → Prop} {call : UdpCall}

variable {f : UdpBackend → UdpBackend} {o₀ : O} {s₀ : UdpBackend}

/-- A change that a call makes itself, in a state that it has read. -/
theorem triple_foreground (h : Serves S L call) {s' : UdpBackend} (hf : f s₀ = s')
    (hfore : Foreground call s₀ s') (hs : L s₀ o₀) :
    Triple S (Here s₀ o₀) (modify f : Udp PUnit) (fun s _ o => L s o ∧ s = s') := by
  rintro s o e ⟨rfl, rfl⟩ hi
  show S.inv (f s) o e ∧ L (f s) o ∧ f s = s'
  rw [hf]
  exact (h.foreground hfore hi hs).imp_right (fun hl => ⟨hl, rfl⟩)

theorem tends_modify (h : Serves S L call) (hf : ∀ s, Foreground call s (f s)) :
    Tends S L (modify f : Udp PUnit) :=
  Tends.change (fun hi hs => h.foreground (hf _) hi hs)

/-- The first transmission of an event that was offered. -/
theorem triple_offered (h : Serves S L call) (fuel : Nat) (deadline : UdpDeadline)
    {count : UdpBackend → UdpBackend} (hsends : call.sends = true)
    (hcount : ∀ s now transmissions, transmissions ≤ 1 →
      Foreground call s (count (s.noted now transmissions).noteSent))
    (hs : Talking L s₀ o₀) (hfirst : s₀.pendingTxTransmissions = 0) :
    Triple S (Here s₀ o₀) (sendOffered fuel deadline count)
      (fun s _ o => L s o) := by
  have hup : Upkeep S (fun s o => L s o ∧ s.pendingTxTransmissions = 0) :=
    h.toUpkeep.and (P := fun s => s.pendingTxTransmissions = 0) (fun hsend hs => by
      cases hsend <;> exact hs)
  refine Triple.bind ((tends_sendKeepalive hup fuel _).at_state (.begin ⟨⟨hs.1, hfirst⟩, hs.2⟩))
    (fun _ => Triple.bind (tends_deadlineRemaining hup.asks_during deadline) (fun _ =>
      Triple.bind (triple_transmission fuel _ hup h.note) (fun _ => Triple.ite
        (fun hne => ?_) (fun _ => ?_))))
  · refine Triple.bind (Q := fun s _ o => L s o) (fun s o e hs hi => ?_) (fun _ => Tends.ret)
    exact h.foreground (.giveUp s hsends) hi (hs.1 hne).1.1
  · refine Triple.bind (Q := fun s _ o => L s o) ?_ (fun _ => Tends.ret)
    rintro _ o e ⟨-, s, now, n, honce, hs, rfl⟩ hi
    exact h.foreground (hcount s now n (honce.trans_eq (by rw [hs.1.2])))
      (inv_of_noted (I := (S.inv · o e)) h.note hi) hs.1.1

/-- What both sends do once the arguments are checked, with an event that `f` makes the
pending one. -/
def sendEvent (fuel : Nat) (timeoutUs : Timeout) (event : VirtualLinkEvent) (size : Nat)
    (f count : UdpBackend → UdpBackend) : Udp Result := do
  let deadline ← deadlineMake timeoutUs
  let result ← waitToSend fuel deadline event size
  if result ≠ .ok then return result
  else
    modify f
    sendOffered fuel deadline count

theorem tends_sendEvent (h : Serves S L call) (fuel : Nat) (timeoutUs : Timeout)
    (kind : VirtualLinkEvent) (size : Nat) {count : UdpBackend → UdpBackend}
    (hsends : call.sends = true)
    (hoffer : ∀ s, s.Linked → s.pendingTxKind = .none → Foreground call s (f s))
    (hcount : ∀ s now transmissions, transmissions ≤ 1 →
      Foreground call s (count (s.noted now transmissions).noteSent))
    (htalks : ∀ s, (f s).state.talks = s.state.talks)
    (hfirst : ∀ s, (f s).pendingTxTransmissions = 0) :
    Tends S L (sendEvent fuel timeoutUs kind size f count) := by
  refine (tends_deadlineMake h.asks timeoutUs).bind (fun deadline => Triple.bind
    (triple_waitToSend h.toTolerates fuel deadline kind size) (fun r => Triple.ite
      (fun _ => Triple.ret (fun _ _ hs => hs.1)) (fun hok => ?_)))
  refine Triple.of_state (fun s o _ hs _ => ?_)
  obtain ⟨hlinked, hidle⟩ := hs.2 (not_not.mp hok)
  refine Triple.bind (triple_foreground h rfl (hoffer s hlinked hidle) hs.1) (fun _ =>
    Triple.of_state (fun s' o' _ hs' _ => ?_))
  obtain ⟨hl, rfl⟩ := hs'
  exact triple_offered h fuel deadline hsends hcount
    ⟨hl, (htalks s).trans hlinked.talks⟩ (hfirst s)

/-- **Every call keeps the invariant and the property**, whatever the answers to its
requests. -/
theorem tends_run (h : Serves S L call) (fuel : Nat) : Tends S L (call.run fuel) := by
  have hT := h.toTolerates
  cases call with
  | start =>
    refine Tends.bind (.get_bind (fun s o hs => Triple.ite (fun _ => Tends.ret.at_state hs)
      (fun hopen => ?_))) (fun _ => .ret)
    refine Triple.bind (Q := fun s' _ o' => L s' o' ∧ s' = s) (Triple.request ?_) (fun answer => ?_)
    · rintro s' o' e ⟨rfl, rfl⟩ hi r o'' hr
      exact (h.asks rfl hi hs hr).imp_right (fun hl => ⟨hl, rfl⟩)
    · refine Triple.of_state (fun s' o' _ hs' _ => ?_)
      obtain ⟨hl, rfl⟩ := hs'
      refine Triple.bind (triple_foreground h rfl (.start s' answer.1 answer.2
        (by simpa using hopen)) hl) (fun _ => ?_)
      refine Triple.consequence (P := Talking L) (Q := fun s _ o => Talking L s o) ?_
        (fun _ _ hs => ⟨hs.1, hs.2 ▸ rfl⟩) (fun _ _ _ hs => hs.1)
      exact Tends.bind (.of_during (fun _ => tends_sendKeepalive h.toUpkeep fuel _)) (fun _ => .ret)
  | stop =>
    exact Tends.bind (.get_bind (fun s o hs => Triple.ite (fun _ => Tends.ret.at_state hs)
      (fun hopen => Triple.bind (triple_foreground h rfl (.stop s (by simpa using hopen)) hs)
        (fun _ => Triple.ret (fun _ _ hs => hs.1))))) (fun _ => .ret)
  | reset =>
    exact Tends.bind (.get_bind (fun s o hs => Triple.ite (fun _ => Tends.ret.at_state hs)
      (fun hopen => Triple.bind (triple_foreground h rfl (.reset s (by simpa using hopen)) hs)
        (fun _ => Triple.ret (fun _ _ hs => hs.1))))) (fun _ => .ret)
  | send packet timeoutUs =>
    refine Tends.bind (p := udpSend fuel packet timeoutUs) ?_ (fun _ => .ret)
    unfold udpSend
    split
    · exact .ret
    next terminator _ =>
    refine .ite (fun _ => .ret) (fun hadmitted => tends_sendEvent h fuel timeoutUs .data
      packet.length rfl (fun s hlinked hidle => .offerPacket s terminator
        (not_lt.mp (not_or.mp hadmitted).2) hlinked hidle)
        (fun s now _ honce => .sentPacket s now honce)
      (fun s => (effectiveTerminator_spec s terminator).1.talks) (fun _ => rfl))
  | sendTimeCode code timeoutUs =>
    exact Tends.bind (.ite (fun _ => .ret) (fun hvalid => tends_sendEvent h fuel timeoutUs
      .timeCode timeCodePayloadSize rfl (fun s hlinked hidle => .offerTimeCode s
        (by simpa using hvalid) hlinked hidle) (fun s now _ honce => .sentTimeCode s now honce)
      (fun _ => rfl) (fun _ => rfl))) (fun _ => .ret)
  | receive buffer timeoutUs =>
    refine Tends.bind (p := udpReceive fuel buffer timeoutUs) (Triple.bind
      (triple_waitToReceive hT fuel (fun _ _ h => absurd h not_false) timeoutUs)
      (fun r => Triple.ite
        (fun _ => Triple.ret (fun _ _ hs => hs.1)) (fun hok => ?_))) (fun _ => .ret)
    refine Triple.get_bind (fun s o _ hs _ => Triple.ite (fun _ => Tends.ret.at_state hs.1)
      (fun _ => Triple.bind (triple_foreground (f := fun _ => s.takePacket) h rfl
        (.takePacket s (hs.2.1 (not_not.mp hok))) hs.1) (fun _ => Triple.ret (fun _ _ hs => hs.1))))
  | receiveTimeCode timeoutUs =>
    refine Tends.bind (p := udpReceiveTimeCode fuel timeoutUs) (Triple.bind
      (triple_waitToReceive hT fuel (fun _ _ h => absurd h not_false) timeoutUs)
      (fun r => Triple.ite
        (fun _ => Triple.ret (fun _ _ hs => hs.1)) (fun _ => ?_))) (fun _ => .ret)
    refine Triple.get_bind (fun s o _ hs _ => ?_)
    split
    · exact Triple.hang
    · next code rest hpop =>
      exact Triple.bind (triple_foreground (f := fun _ => s.takeTimeCode rest) h rfl
        (.takeTimeCode s hpop) hs.1) (fun _ => Triple.ret (fun _ _ hs => hs.1))
  | getLinkState => exact (tends_udpGetLinkState hT fuel).bind (fun _ => .ret)
  | getStatistics => exact Tends.bind (p := udpGetStatistics) (.get_bind (fun _ _ hs =>
      Tends.ret.at_state hs)) (fun _ => .ret)
  | getFaultStatistics => exact Tends.bind (p := udpGetFaultStatistics) (.get_bind (fun _ _ hs =>
      Tends.ret.at_state hs)) (fun _ => .ret)
  | clearStatistics =>
    exact ((tends_modify h (fun s => .clearStatistics s)).bind (fun _ => .ret)).bind
      (fun _ => .ret)
  | clearFaultStatistics =>
    exact ((tends_modify h (fun s => .clearFaultStatistics s)).bind (fun _ => .ret)).bind
      (fun _ => .ret)

end

end UdpBackend
