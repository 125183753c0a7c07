import SpwKit.Lib.Endpoint
import SpwKit.Ethernet.UdpCalls

/-!
# Two backends and the network between them

A link is two endpoints, each with a backend, the datagrams it has put on the
wire and a log of its calls. One step of the link is one end beginning a call or
having a request answered, so that calls on both sides interleave in every way.
The network keeps nothing: a datagram that arrives is any the peer has ever
sent, which covers loss, delay, duplication and reordering, and what comes from
other addresses is arbitrary. Clocks, polls and the outcome of every `sendto`
are arbitrary as well. A start finds a session number that neither side has
used, and a call that sends begins only while there are message numbers left.

`UdpLink.Holds.run` lifts what the calls do by themselves to every state of
every run.
-/

open VspwTp Interactive

/-! ## The system -/

/-- One end of a link. -/
abbrev UdpEndpoint :=
  Endpoint UdpRequest UdpRequest.Answer UdpBackend (List Bytes) UdpCall UdpReturn

/-- An end that has not been called yet. -/
def UdpEndpoint.fresh (b : UdpBackend) : UdpEndpoint := ⟨.idle b, [], []⟩

/-- An end as a party. -/
def UdpEndpoint.party (p : UdpEndpoint) : Party := p.state.party p.out

/-- **What the network and the host may answer**, and what that puts on the wire:
from the peer's address come only datagrams of the peer's, and session numbers
are new. -/
def networkAnswer (peer : UdpEndpoint) (b : UdpBackend) (out : List Bytes) :
    (q : UdpRequest) → q.Answer → Option (List Bytes)
  | .sendto bytes, answer => some (SendAnswer.publish answer out bytes)
  | .recvfrom, .datagram source bytes =>
    if sourceMatches b.config source = true ∧ bytes ∉ peer.out then none else some out
  | .clockAndPid, answer =>
    if makeSessionId b answer.1 answer.2 ∈ b.history.sessions
        ∨ makeSessionId b answer.1 answer.2 ∈ peer.state.history.sessions then none
    else some out
  | _, _ => some out

/-- What happens at one end: a call begins, or a request is answered. -/
inductive Deed
  | call (fuel : Nat) (call : UdpCall)
  | answer (reply : (q : UdpRequest) → q.Answer)

/-- How many events of its current session a backend has taken for sending. -/
def UdpBackend.offerCount (b : UdpBackend) : Nat :=
  b.history.offers.countP (·.session = b.localSessionId)

/-- A deed at one end. -/
def UdpEndpoint.does (p peer : UdpEndpoint) : Deed → Option UdpEndpoint
  | .call fuel call =>
    if call.sends = true ∧ ¬ p.state.offerCount + 1 < 2 ^ 32 then none
    else p.begin (UdpCall.run fuel) call
  | .answer reply => p.answer (networkAnswer peer) reply

/-- The two ends. -/
inductive Side
  | a | b
deriving DecidableEq, Repr

/-- **A link.** -/
structure UdpLink where
  a : UdpEndpoint
  b : UdpEndpoint

namespace UdpLink

/-- A link between two backends that have just been constructed. -/
def connect (a b : UdpBackend) : UdpLink := ⟨.fresh a, .fresh b⟩

/-- **One step of a link.** -/
def step (link : UdpLink) : Side → Deed → Option UdpLink
  | .a, deed => (link.a.does link.b deed).map (fun a => ⟨a, link.b⟩)
  | .b, deed => (link.b.does link.a deed).map (fun b => ⟨link.a, b⟩)

/-- **A run of a link** in which every step is admitted. -/
def run (admits : UdpLink → Side → Deed → Bool) : List (Side × Deed) → UdpLink → Option UdpLink
  | [], link => some link
  | (side, deed) :: rest, link =>
    if admits link side deed then (link.step side deed).bind (run admits rest) else none

end UdpLink

/-! ## What every run keeps -/

/-- **What the log of an end says about its state** between calls: the pending
event is one that was sent, the events taken are those the receiving calls have
returned, and without fault rules the events sent are those of the sending calls
that succeeded. -/
structure LogSays (quiet : Prop) (log : List (UdpCall × UdpReturn)) (b : UdpBackend) : Prop where
  rest : b.AtRest
  noRules : quiet → b.faultInjector.Quiet
  sent : quiet → b.history.sent.map Offer.event
    = log.filterMap (fun entry => entry.1.sentEvent entry.2)
  taken : b.history.taken.map Delivery.event
    = log.filterMap (fun entry => entry.1.receivedEvent entry.2)

/-- One more call. -/
theorem LogSays.call {quiet : Prop} {log : List (UdpCall × UdpReturn)} {s₀ s : UdpBackend}
    {call : UdpCall} {r : UdpReturn} (h : LogSays quiet log s₀)
    (hpost : UdpBackend.CallPost call s₀ s r) : LogSays quiet (log ++ [(call, r)]) s where
  rest := hpost.rest
  noRules hq := hpost.quiet (h.noRules hq)
  sent hq := by
    rw [hpost.sent (h.noRules hq), h.sent hq, List.filterMap_append, List.filterMap_cons]
    cases call.sentEvent r <;> rfl
  taken := by
    rw [hpost.taken, h.taken, List.filterMap_append, List.filterMap_cons]
    cases call.receivedEvent r <;> rfl

/-- **What has to be known of a deed** besides what the network guarantees: that
the invariant survives a start, a stop and a reset, and that what arrives is in
the window. -/
structure Admissible (window : Party → Bytes → Prop) (Inv : Party → Party → Prop)
    (p : UdpEndpoint) (deed : Deed) : Prop where
  start : ∀ fuel, deed = .call fuel .start → ∀ (q : Party) (session : UInt64)
    (o : List Bytes), Inv (p.state.party o) q → session ≠ 0 →
      session ∉ p.state.history.sessions → session ∉ q.history.sessions →
        Inv ((p.state.party o).start session) q
  clear : ∀ fuel, deed = .call fuel .stop ∨ deed = .call fuel .reset →
    ∀ (q : Party) (o : List Bytes), Inv (p.state.party o) q →
      Inv (p.state.party o).clearLink q
  window : ∀ reply, deed = .answer reply → ∀ source bytes,
    reply .recvfrom = ReceiveAnswer.datagram source bytes →
      sourceMatches p.state.config source = true → window p.party bytes

section

variable {window : Party → Bytes → Prop} {Inv : Party → Party → Prop} {quiet : Prop}

/-- What the network answers is what the code relies on. -/
theorem networkAnswer_answers {peer : UdpEndpoint} {b : UdpBackend} {out out' : List Bytes}
    {reply : (q : UdpRequest) → q.Answer} (hwindow : ∀ source bytes,
      reply .recvfrom = ReceiveAnswer.datagram source bytes →
        sourceMatches b.config source = true → window (b.party out) bytes)
    (q : UdpRequest) (h : networkAnswer peer b out q (reply q) = some out') :
    (linkSetting window Inv).answers b out peer.party q (reply q) out' := by
  cases q with
  | sendto bytes | clock | pollOut | pollIn | nanosleep => exact (Option.some.inj h).symm
  | clockAndPid =>
    simp only [networkAnswer] at h
    split_ifs at h with hused
    rw [not_or] at hused
    exact ⟨(Option.some.inj h).symm, hused⟩
  | recvfrom =>
    cases hreply : reply .recvfrom with
    | datagram source bytes =>
      rw [hreply] at h
      simp only [networkAnswer] at h
      split_ifs at h with hforged
      refine ⟨(Option.some.inj h).symm, fun source' bytes' heq hsource => ?_⟩
      obtain ⟨rfl, rfl⟩ := ReceiveAnswer.datagram.inj heq
      exact ⟨by_contra fun hout => hforged ⟨hsource, hout⟩, hwindow _ _ hreply hsource⟩
    | interrupted | wouldBlock | error =>
      rw [hreply] at h
      exact ⟨(Option.some.inj h).symm, fun _ _ heq => by cases heq⟩

/-- **A deed at one end keeps what is known of it.** -/
theorem UdpEndpoint.holds_does (hI : Stable window Inv)
    (hnext : ∀ {b : UdpBackend} {out : List Bytes} {q : Party}, Inv (b.party out) q →
      b.offerCount + 1 < 2 ^ 32 → b.nextMessageId ≠ 0)
    {p p' peer : UdpEndpoint} {deed : Deed} (hadmissible : Admissible window Inv p deed)
    (h : p.Holds (linkSetting window Inv) (fun log b _ => LogSays quiet log b) peer.party)
    (hdoes : p.does peer deed = some p') :
    p'.Holds (linkSetting window Inv) (fun log b _ => LogSays quiet log b) peer.party := by
  cases deed with
  | answer reply =>
    refine h.answer hdoes (fun q out _ hout => ?_)
    exact networkAnswer_answers (hadmissible.window reply rfl) q hout
  | call fuel call =>
    simp only [does] at hdoes
    split_ifs at hdoes with hmany
    refine h.begin hdoes (fun hidle => ?_)
    have hlog := h.rest hidle
    refine Triple.consequence (Q := fun s r _ => UdpBackend.CallPost call p.state s r) ?_
      (fun _ _ hs => hs.1) (fun s r _ hpost => hlog.call hpost)
    have hnumber : call.sends = true → p.state.nextMessageId ≠ 0 := fun hsends =>
      hnext h.inv.2 (by_contra fun hlast => hmany ⟨hsends, hlast⟩)
    by_cases hstart : call = .start
    · rw [hstart] at hadmissible ⊢
      exact UdpBackend.triple_udpStart hI fuel hlog.rest (hadmissible.start fuel rfl)
    by_cases hstop : call = .stop
    · rw [hstop] at hadmissible ⊢
      exact UdpBackend.triple_udpStop fuel hlog.rest (hadmissible.clear fuel (Or.inl rfl))
    by_cases hreset : call = .reset
    · rw [hreset] at hadmissible ⊢
      exact UdpBackend.triple_udpReset fuel hlog.rest (hadmissible.clear fuel (Or.inr rfl))
    exact UdpBackend.triple_call hI fuel call hlog.rest hnumber hstart hstop hreset

end

namespace UdpLink

/-- **What is known of a link**: the invariant, and what the logs of both ends
say. -/
structure Holds (windowA windowB : Party → Bytes → Prop) (Inv : Party → Party → Prop)
    (quiet : Prop) (link : UdpLink) : Prop where
  a : link.a.Holds (linkSetting windowA Inv) (fun log b _ => LogSays quiet log b) link.b.party
  b : link.b.Holds (linkSetting windowB (fun p q => Inv q p)) (fun log b _ => LogSays quiet log b)
    link.a.party

section

variable {windowA windowB : Party → Bytes → Prop} {Inv : Party → Party → Prop} {quiet : Prop}

theorem Holds.inv {link : UdpLink} (h : link.Holds windowA windowB Inv quiet) :
    Inv link.a.party link.b.party := h.a.inv.2

/-- **The two ends of a link.** Both keep the invariant with the message numbers
they have. -/
structure Kept (windowA windowB : Party → Bytes → Prop) (Inv : Party → Party → Prop) :
    Prop where
  a : Stable windowA Inv
  b : Stable windowB (fun p q => Inv q p)
  nextA : ∀ {s : UdpBackend} {out : List Bytes} {q : Party}, Inv (s.party out) q →
    s.offerCount + 1 < 2 ^ 32 → s.nextMessageId ≠ 0
  nextB : ∀ {s : UdpBackend} {out : List Bytes} {q : Party}, Inv q (s.party out) →
    s.offerCount + 1 < 2 ^ 32 → s.nextMessageId ≠ 0

/-- **One step.** The end that moves keeps what is known of it, and for the other
this is interference. -/
theorem Holds.step (hI : Kept windowA windowB Inv) {link link' : UdpLink} {side : Side}
    {deed : Deed} (h : link.Holds windowA windowB Inv quiet)
    (ha : side = .a → Admissible windowA Inv link.a deed)
    (hb : side = .b → Admissible windowB (fun p q => Inv q p) link.b deed)
    (hstep : link.step side deed = some link') : link'.Holds windowA windowB Inv quiet := by
  cases side with
  | a =>
    obtain ⟨a, hdoes, rfl⟩ := Option.map_eq_some_iff.mp hstep
    have hmoved := UdpEndpoint.holds_does hI.a hI.nextA (ha rfl) h.a hdoes
    exact ⟨hmoved, h.b.interfere ⟨h.b.inv.1, hmoved.inv.2⟩⟩
  | b =>
    obtain ⟨b, hdoes, rfl⟩ := Option.map_eq_some_iff.mp hstep
    have hmoved := UdpEndpoint.holds_does hI.b hI.nextB (hb rfl) h.b hdoes
    exact ⟨h.a.interfere ⟨h.a.inv.1, hmoved.inv.2⟩, hmoved⟩

/-- **A whole run.** -/
theorem Holds.run (hI : Kept windowA windowB Inv) {admits : UdpLink → Side → Deed → Bool}
    (ha : ∀ link deed, admits link .a deed = true → Admissible windowA Inv link.a deed)
    (hb : ∀ link deed, admits link .b deed = true →
      Admissible windowB (fun p q => Inv q p) link.b deed) {moves : List (Side × Deed)} :
    ∀ {link link' : UdpLink}, link.Holds windowA windowB Inv quiet →
      link.run admits moves = some link' → link'.Holds windowA windowB Inv quiet := by
  induction moves with
  | nil =>
    intro link link' h hrun
    rwa [← Option.some.inj hrun]
  | cons move rest ih =>
    intro link link' h hrun
    obtain ⟨side, deed⟩ := move
    unfold UdpLink.run at hrun
    split_ifs at hrun with hadmits
    obtain ⟨middle, hstep, hrest⟩ := Option.bind_eq_some_iff.mp hrun
    refine ih (h.step hI (fun hs => ha link deed ?_) (fun hs => hb link deed ?_) hstep) hrest
    · rwa [← hs]
    · rwa [← hs]

end

end UdpLink

/-! ## The beginning -/

/-- What a configuration must be like for `udp_construct` to succeed. -/
theorem udpConstruct_ok {config : UdpConfig} {object : UInt64} {socketOk bindOk : Bool}
    {b : UdpBackend} (h : udpConstruct config object socketOk bindOk = (.ok, b)) :
    config.valid = true
      ∧ b = { UdpBackend.zeroed config object with socketOpen := true, state := .ready } := by
  unfold udpConstruct at h
  dsimp only at h
  split_ifs at h with hinvalid hsocket
  · exact absurd (Prod.ext_iff.mp h).1 (by simp)
  · exact absurd (Prod.ext_iff.mp h).1 (by simp)
  · refine ⟨?_, (Prod.ext_iff.mp h).2.symm⟩
    simp only [Bool.or_eq_true, Bool.not_eq_true', not_or, Bool.not_eq_false] at hinvalid
    exact hinvalid.1.1

/-- A backend that has just been constructed is in order. -/
theorem wf_of_construct {config : UdpConfig} {object : UInt64} {socketOk bindOk : Bool}
    {b : UdpBackend} (h : udpConstruct config object socketOk bindOk = (.ok, b)) : b.Wf := by
  obtain ⟨hvalid, rfl⟩ := udpConstruct_ok h
  exact {
    config := hvalid
    talks := fun h => absurd (show LinkState.ready.talks = true from h) (by decide)
    reassembly := ⟨FragmentReassembler.wellFormed_init _ _ _ _ _,
      show udpMaxPacketSize < 2 ^ 32 - 63 by decide⟩
    length := Nat.zero_le _
    message := fun h => absurd rfl h
    valid := rfl
    slot := fun d hd => absurd hd (by simp [UdpBackend.zeroed])
    queue := rfl
    quiet := fun _ => rfl }

/-- **A link begins** with two backends that have just been constructed, if the
invariant holds of them. -/
theorem UdpLink.holds_connect {windowA windowB : Party → Bytes → Prop}
    {Inv : Party → Party → Prop} {quiet : Prop} {a b : UdpBackend} (ha : a.Wf) (hb : b.Wf)
    (hidle : a.history = {} ∧ b.history = {})
    (hrest : a.pendingTxKind = .none ∧ b.pendingTxKind = .none)
    (hquiet : quiet → a.faultInjector.Quiet ∧ b.faultInjector.Quiet)
    (hinv : Inv (a.party []) (b.party [])) :
    (UdpLink.connect a b).Holds windowA windowB Inv quiet := by
  have hlog : ∀ s : UdpBackend, s.history = {} → s.pendingTxKind = .none →
      (quiet → s.faultInjector.Quiet) → LogSays quiet [] s := fun s hs hkind hq =>
    ⟨fun o ho => absurd ((UdpBackend.pendingOffer_eq_none_iff s).mpr hkind ▸ ho) (by simp), hq,
      fun _ => by rw [hs]; rfl, by rw [hs]; rfl⟩
  exact ⟨⟨⟨ha, hinv⟩, hlog a hidle.1 hrest.1 (fun hq => (hquiet hq).1)⟩,
    ⟨⟨hb, hinv⟩, hlog b hidle.2 hrest.2 (fun hq => (hquiet hq).2)⟩⟩

/-! ## A run -/

/-- A host where everything goes well at one moment, with what is in the socket. -/
def replyAt (now : UInt64) (arrived : ReceiveAnswer) : (q : UdpRequest) → q.Answer
  | .clock => now
  | .clockAndPid => (now, (0 : UInt32))
  | .sendto _ => SendAnswer.sent
  | .pollOut _ => PollAnswer.timedOut
  | .recvfrom => arrived
  | .pollIn _ => PollAnswer.timedOut
  | .nanosleep _ => SleepAnswer.slept

/-- A call that makes a number of requests, at a given time. -/
def callAt (now : UInt64) (call : UdpCall) (requests : Nat) (arrived : ReceiveAnswer) : List Deed :=
  .call 3 call :: List.replicate requests (.answer (replyAt now arrived))

/-- Such a call of one end. -/
def sampleCall (side : Side) (now : UInt64) (call : UdpCall) (requests : Nat)
    (arrived : ReceiveAnswer) : List (Side × Deed) :=
  (callAt now call requests arrived).map (Prod.mk side)

/-- The two ends of the sample link. -/
def sampleEnd : Side → UdpBackend
  | .a => (udpConstruct .sample 0 true true).2
  | .b => (udpConstruct { UdpConfig.sample with localPort := 2, remotePort := 1 } 0 true true).2

/-- The first keepalive of an end, as it arrives at the other. -/
def sampleKeepalive (port : UInt16) (session : UInt64) : ReceiveAnswer :=
  .datagram ⟨true, 1, port⟩ (headerBytes { Header.initializer with
    type := typeKeepalive, linkId := 1, sessionId := session, sequence := 1 })

/-- Both ends start and hear of each other. -/
def sampleOpening : List (Side × Deed) :=
  sampleCall .a 1000 .start 4 .wouldBlock ++ sampleCall .b 1000 .start 4 .wouldBlock
    ++ sampleCall .a 1000 .getLinkState 8 (sampleKeepalive 2 132073)
    ++ sampleCall .b 1000 .getLinkState 8 (sampleKeepalive 1 66537)

/-- A time code, as it arrives at the second end. -/
def sampleTimeCode (sequence messageId : UInt32) (count : UInt8) : ReceiveAnswer :=
  .datagram ⟨true, 1, 1⟩ (headerBytes { Header.initializer with
    type := typeTimeCode, flags := flagAckRequired, payloadSize := 2, linkId := 1,
    sessionId := 66537, sequence, messageId, totalSize := 2 } ++ [count, 0])

/-- An acknowledgement, as it arrives at the first end. -/
def sampleAck (sessionId : UInt64) (sequence messageId : UInt32) : ReceiveAnswer :=
  .datagram ⟨true, 1, 2⟩ (headerBytes { Header.initializer with
    type := typeAck, payloadSize := 8, linkId := 1, sessionId, sequence, messageId,
    totalSize := 8 } ++ [0, 0, 0, 0, 0, 1, 3, 233])

/-- A time code is sent, held up and sent again. The second datagram is accepted, but its
acknowledgement is lost; the first comes late and is acknowledged once more. The next time code
goes through at once. -/
def sampleExchange : List (Side × Deed) :=
  sampleOpening ++ sampleCall .a 1000 (.sendTimeCode ⟨5, 0⟩ timeoutImmediate) 14 .wouldBlock
    ++ sampleCall .a 12000 .getLinkState 18 .wouldBlock
    ++ sampleCall .b 12000 .getLinkState 13 (sampleTimeCode 5 1 5)
    ++ sampleCall .b 12000 .getLinkState 10 (sampleTimeCode 3 1 5)
    ++ sampleCall .a 12000 .getLinkState 8 (sampleAck 132073 4 1)
    ++ sampleCall .a 12000 (.sendTimeCode ⟨6, 0⟩ timeoutImmediate) 14 .wouldBlock
    ++ sampleCall .b 12000 .getLinkState 10 (sampleTimeCode 7 2 6)
    ++ sampleCall .a 12000 .getLinkState 8 (sampleAck 132073 5 2)

/-! ## Runs of one backend -/

/-- **A backend that is watched**: a watcher notes something at every request. -/
abbrev WatchedBackend (O : Type) :=
  Endpoint UdpRequest UdpRequest.Answer UdpBackend O UdpCall UdpReturn

namespace WatchedBackend

variable {O E : Type}

/-- A call begins, or a request is answered, whatever the answer. -/
def does (note : UdpBackend → O → (q : UdpRequest) → q.Answer → O) (p : WatchedBackend O) :
    Deed → Option (WatchedBackend O)
  | .call fuel call => p.begin (UdpCall.run fuel) call
  | .answer reply => p.answer (fun s o q r => some (note s o q r)) reply

/-- **A run**, with any peer and any network. -/
def run (note : UdpBackend → O → (q : UdpRequest) → q.Answer → O) :
    List Deed → WatchedBackend O → Option (WatchedBackend O)
  | [], p => some p
  | deed :: rest, p => (p.does note deed).bind (run note rest)

/-- **An invariant and a property that every call keeps hold wherever a run comes to**, the
property between the calls. -/
theorem holds_run {S : UdpSetting O E}
    {L : UdpBackend → O → Prop} {note : UdpBackend → O → (q : UdpRequest) → q.Answer → O} {e : E}
    (hS : ∀ call, UdpBackend.Serves S L call)
    (hnote : ∀ s o q r, S.answers s o e q r (note s o q r)) {deeds : List Deed} :
    ∀ {p p' : WatchedBackend O}, p.Holds S (fun _ s o => L s o) e → p.run note deeds = some p' →
      p'.Holds S (fun _ s o => L s o) e := by
  induction deeds with
  | nil =>
    intro p p' h hrun
    rw [← Option.some.inj hrun]
    exact h
  | cons deed rest ih =>
    intro p p' h hrun
    obtain ⟨q, hdoes, hrest⟩ := Option.bind_eq_some_iff.mp hrun
    refine ih ?_ hrest
    cases deed with
    | call fuel call =>
      refine h.begin hdoes (fun hidle => ?_)
      exact Triple.pre (UdpBackend.tends_run (hS call) fuel)
        (fun s o heq => heq.1 ▸ heq.2 ▸ h.rest hidle)
    | answer reply =>
      have hanswer : p.answer (fun s o q r => some (note s o q r)) reply = some q := hdoes
      refine h.answer hanswer (fun q out _ hout => ?_)
      rw [← Option.some.inj hout]
      exact hnote _ _ _ _

end WatchedBackend
