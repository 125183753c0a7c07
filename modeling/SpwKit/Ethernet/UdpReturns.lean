import SpwKit.Ethernet.UdpCalls
import SpwKit.Ethernet.Transmission

/-!
# Calls that return

A call with an immediate timeout returns unless the host keeps it from it: no
system call is interrupted over and over, a datagram that can be sent is sent or
refused, and the clock does not run backwards (`Calm`). Together with what a call
does when it returns this is what makes an event that has arrived retrievable:
a receive returns it.
-/

open VspwTp Interactive

/-- **A calm environment** for one call: nothing is interrupted or has to be tried
again, time goes on, and the datagrams that arrive are the peer's. -/
structure Calm (out : List Bytes) (oracle : UdpOracle) : Prop where
  clock : ∀ m n, m ≤ n →
    (show UInt64 from oracle m .clock) ≤ (show UInt64 from oracle n .clock)
  sends : ∀ n bytes, oracle n (.sendto bytes) ≠ SendAnswer.interrupted
    ∧ oracle n (.sendto bytes) ≠ SendAnswer.wouldBlock
  receives : ∀ n, oracle n .recvfrom ≠ ReceiveAnswer.interrupted
  arrives : ∀ n source bytes, oracle n .recvfrom = ReceiveAnswer.datagram source bytes →
    bytes ∈ out
  polls : ∀ n timeout, oracle n (.pollIn timeout) ≠ PollAnswer.interrupted
    ∧ oracle n (.pollIn timeout) ≠ PollAnswer.ready true
  sleeps : ∀ n delay, oracle n (.nanosleep delay) ≠ SleepAnswer.interrupted

theorem Calm.takes {out : List Bytes} {oracle : UdpOracle} (h : Calm out oracle)
    (b : UdpBackend) : UdpBackend.Takes oracle b :=
  ⟨h.sends, Or.inr h.sleeps⟩

namespace UdpBackend

variable {d : Delivery}

/-- What the queue of the history holds is a time code of the queue. -/
theorem Wf.queued {s : UdpBackend} (hw : s.Wf) (hd : d ∈ s.history.queue) :
    ∃ code ∈ s.timeCodes.toList, d.event = .timeCode code := by
  have hmem := List.mem_map_of_mem (f := Delivery.event) hd
  rw [hw.queue, List.mem_map] at hmem
  exact hmem.imp (fun code h => ⟨h.1, h.2.symm⟩)

section

variable {out : List Bytes} {oracle : UdpOracle}

theorem returns_nowUs : Returns oracle Usual (nowUs : Udp UInt64) :=
  fun _ _ => ⟨by simp [Usual], trivial⟩

theorem returns_deadlineMake (timeoutUs : Timeout) :
    Returns oracle Usual (deadlineMake timeoutUs) :=
  .ite (.ret _) (returns_nowUs.bind (fun _ => .ret _))

theorem returns_deadlineRemaining (deadline : UdpDeadline) :
    Returns oracle Usual (deadlineRemaining deadline) :=
  .ite (.ret _) (returns_nowUs.bind (fun _ => .ret _))

theorem returns_deadlineExpired (deadline : UdpDeadline) :
    Returns oracle Usual (deadlineExpired deadline) :=
  .ite (.ret _) (returns_nowUs.bind (fun _ => .ret _))

theorem returns_peerIsCurrent : Returns oracle Usual peerIsCurrent :=
  returns_nowUs.bind (fun _ => Returns.getState.bind (fun _ => .ret _))

end

section

variable {out : List Bytes} {oracle : UdpOracle}
  (hcalm : Calm out oracle) (fuel : Nat)
include hcalm

/-! ## The socket -/

variable {d : Delivery} {o : List Bytes} {s₀ : UdpBackend}

theorem returns_sendDatagram (bytes : Bytes) (timeoutUs : Timeout) :
    Returns oracle Usual (sendDatagram (fuel + 1) bytes timeoutUs) :=
  fun b n => ((comes_sendDatagram (hcalm.takes b) fuel bytes timeoutUs).ends n).mono
    (fun _ _ _ _ => trivial)

theorem returns_sendKeepalive (timeoutUs : Timeout) :
    Returns oracle Usual (sendKeepalive (fuel + 1) timeoutUs) :=
  fun b n => ((comes_sendKeepalive (hcalm.takes b) fuel timeoutUs).ends n).mono
    (fun _ _ _ _ => trivial)

theorem returns_maybeSendKeepalive : Returns oracle Usual (maybeSendKeepalive (fuel + 1)) :=
  returns_nowUs.bind (fun _ => Returns.getState.bind (fun _ => .ite (.ret _) (.ite
    ((returns_sendKeepalive hcalm fuel _).bind (fun _ => .ret _)) (.ret _))))

theorem returns_sendAck (messageId : UInt32) :
    Returns oracle Usual (sendAck (fuel + 1) messageId) := by
  refine Returns.getState.bind (fun b => .ite (.ret _) (.ite (.ret _)
    ((Returns.setState _).bind (fun _ => ?_))))
  split
  · exact returns_sendDatagram hcalm fuel _ _
  · exact .ret _

theorem returns_sendAckIf (ackRequired : Bool) (messageId : UInt32) :
    Returns oracle Usual (sendAckIf (fuel + 1) ackRequired messageId) :=
  .ite ((returns_sendAck hcalm fuel messageId).bind (fun _ => .ret _)) (.ret _)

/-! ## What arrives -/

omit hcalm in
theorem returns_expireReassembly : Returns oracle Usual expireReassembly :=
  returns_nowUs.bind (fun _ => .modifyState _)

omit hcalm in
theorem returns_refreshPeerState : Returns oracle Usual refreshPeerState :=
  returns_expireReassembly.bind (fun _ => Returns.getState.bind (fun _ => .ite
    (returns_peerIsCurrent.bind (fun _ => .ite (.modifyState _) (.ret _)))
    (.ite (returns_peerIsCurrent.bind (fun _ => .ite (.modifyState _) (.ret _))) (.ret _))))

omit hcalm in
theorem returns_notePeerActivity : Returns oracle Usual notePeerActivity :=
  (Returns.modifyState _).bind (fun _ => returns_nowUs.bind (fun _ => .modifyState _))

omit hcalm in
theorem returns_processKeepalive (header : Header) :
    Returns oracle Usual (processKeepalive header) :=
  Returns.bind (Returns.getState.bind (fun _ => .ite (.ret _)
  ((Returns.modifyState _).bind (fun _ =>
    returns_notePeerActivity.bind (fun _ => .ret _))))) (fun _ => .ret _)

theorem returns_processTimeCode (header : Header) (payload : Bytes) :
    Returns oracle Usual (processTimeCode (fuel + 1) header payload) := by
  refine Returns.getState.bind (fun b => .ite ((returns_sendAck hcalm fuel _).bind
    (fun _ => .ret _)) ?_)
  split
  · exact .ite ((Returns.modifyState _).bind (fun _ => .ret _)) ((Returns.setState _).bind (fun _ =>
      returns_sendAckIf hcalm fuel _ _))
  · exact .ret _

theorem returns_completeReassembly : Returns oracle Usual (completeReassembly (fuel + 1)) :=
  Returns.getState.bind (fun _ => .ite (.ret _) ((Returns.setState _).bind (fun _ =>
    returns_sendAckIf hcalm fuel _ _)))

theorem returns_processData (header : Header) (payload : Bytes) :
    Returns oracle Usual (processData (fuel + 1) header payload) := by
  have hfragment : Returns oracle Usual (processFragment (fuel + 1) header payload) :=
    returns_expireReassembly.bind (fun _ => Returns.getState.bind (fun _ =>
      (Returns.setState _).bind (fun _ => .ite ((Returns.modifyState _).bind (fun _ => .ret _))
        (returns_nowUs.bind (fun _ => (Returns.modifyState _).bind (fun _ => .ite (.ret _)
          (returns_completeReassembly hcalm fuel)))))))
  exact Returns.getState.bind (fun _ => .ite ((returns_sendAck hcalm fuel _).bind (fun _ => .ret _))
    (.ite (.ite (.ret _) ((Returns.setState _).bind (fun _ => returns_sendAckIf hcalm fuel _ _)))
      hfragment))

theorem returns_processDatagram (source : SocketAddress) :
    Returns oracle Usual (processDatagram (fuel + 1) source) := by
  have hdrop : Returns oracle Usual
      (do modify UdpBackend.countDropped; return Result.ok : Udp Result) :=
    (Returns.modifyState _).bind (fun _ => .ret _)
  refine Returns.getState.bind (fun b => .ite (.ret _) ?_)
  split
  · exact hdrop
  · refine .ite hdrop (.ite (.ret _) (.ite (returns_processKeepalive _) (.ite (.ret _)
      (returns_notePeerActivity.bind (fun _ => .ite (.ite hdrop ?_)
      (.ite ?_ (.ite ?_ (.ret _))))))))
    · exact returns_processData hcalm fuel _ _
    · exact returns_processTimeCode hcalm fuel _ _
    · exact (Returns.modifyState _).bind (fun _ => .ret _)

/-- The receive loop takes a datagram, or waits once. -/
theorem returns_receiveLoop (deadline : UdpDeadline) :
    Returns oracle Usual (receiveLoop (fuel + 1) deadline (fuel + 1)) := by
  refine Returns.ask (by simp [Usual]) (fun n => ?_)
  cases hreceived : oracle n .recvfrom with
  | datagram source bytes => exact (Returns.modifyState _).bind (fun _ => .ret _)
  | interrupted => exact absurd hreceived (hcalm.receives n)
  | error => exact .ret _
  | wouldBlock =>
    refine (returns_deadlineRemaining deadline).bind (fun remaining s m => ⟨by simp [Usual], ?_⟩)
    -- nothing has become readable, so the wait ends the loop
    cases hpoll : oracle m (.pollIn (timeoutMs remaining)) with
    | interrupted => exact absurd hpoll (hcalm.polls m _).1
    | ready requested =>
      cases requested with
      | true => exact absurd hpoll (hcalm.polls m _).2
      | false => trivial
    | timedOut | error => trivial

theorem returns_pumpOne (timeoutUs : Timeout) :
    Returns oracle Usual (pumpOne (fuel + 1) timeoutUs) := by
  refine (returns_maybeSendKeepalive hcalm fuel).bind (fun _ => Returns.getState.bind (fun b =>
    (returns_deadlineMake _).bind (fun deadline => (returns_receiveLoop hcalm fuel deadline).bind
      (fun received => ?_))))
  split
  · exact returns_processDatagram hcalm fuel _
  · exact (returns_maybeSendKeepalive hcalm fuel).bind (fun _ =>
      returns_refreshPeerState.bind (fun _ => .ret _))
  · exact .ret _

omit hcalm in
theorem returns_peerRuns : Returns oracle Usual peerRuns :=
  Returns.getState.bind (fun _ => .ite returns_peerIsCurrent (.ret _))

/-- Waiting for the peer without time to wait. -/
theorem returns_ensurePeer : Returns oracle Usual (ensurePeer (fuel + 1) timeoutImmediate) := by
  refine returns_refreshPeerState.bind (fun _ => returns_peerRuns.bind (fun _ => .ite (.ret _)
    (Returns.getState.bind (fun b => .ite (.ret _) ((returns_deadlineMake _).bind
      (fun deadline => ?_))))))
  refine (returns_maybeSendKeepalive hcalm fuel).bind (fun _ =>
    (returns_deadlineRemaining deadline).bind (fun remaining =>
      (returns_pumpOne hcalm fuel remaining).bind (fun _ => returns_refreshPeerState.bind (fun _ =>
        returns_peerRuns.bind (fun _ => .ite (.ret _) (.ite (.ret _)
          ((returns_deadlineExpired deadline).bind (fun expired => ?_))))))))
  rw [if_pos (by simp)]
  exact .ret _

/-! ## Receiving -/

variable {Inv : Party → Party → Prop} {q : Party} (hI : Stable (fun _ _ => True) Inv)

omit fuel in
/-- A calm environment answers as the code relies on. -/
theorem calm_answers (hout : out ⊆ q.out) (n : Nat) (s : UdpBackend) (o : List Bytes)
    (r : UdpRequest) (hr : Usual r) :
    ∃ o', (linkSetting (fun _ _ => True) Inv).answers s o q r (oracle n r) o' := by
  cases r with
  | clockAndPid => exact absurd rfl hr
  | recvfrom =>
    refine ⟨o, rfl, fun source bytes hbytes _ =>
      ⟨hout (hcalm.arrives n source bytes hbytes), trivial⟩⟩
  | sendto bytes => exact ⟨_, rfl⟩
  | clock | pollOut | pollIn | nanosleep => exact ⟨o, rfl⟩

omit fuel in
/-- A deadline that is over at once leaves no time. -/
theorem ends_deadline_immediate {α : Type} {f : UdpDeadline → Timeout → Udp α} {s : UdpBackend}
    {Q : UdpBackend → α → Nat → Prop}
    {n : Nat} (h : ∀ deadline, (f deadline timeoutImmediate s).Ends oracle Usual Q (n + 2)) :
    Step.Ends oracle Usual Q n ((do
      let deadline ← deadlineMake timeoutImmediate
      f deadline (← deadlineRemaining deadline)) s) := by
  have hmake : (deadlineMake timeoutImmediate s).Ends oracle Usual (fun s' deadline m => s' = s
      ∧ m = n + 1 ∧ deadline.infinite = false ∧ deadline.endUs = oracle n .clock) n := by
    have hnever : ∀ now : UInt64, (if 0xffffffffffffffff - now < timeoutImmediate then
        0xffffffffffffffff else now + timeoutImmediate) = now := fun now => by
      rw [timeoutImmediate, if_neg (UInt64.not_lt.mpr UInt64.zero_le), UInt64.add_zero]
    exact ⟨by simp [Usual], rfl, rfl, rfl, hnever _⟩
  refine hmake.bind (fun s' deadline m hdeadline => ?_)
  obtain ⟨rfl, rfl, hfinite, hend⟩ := hdeadline
  have hremaining : (deadlineRemaining deadline s').Ends oracle Usual (fun s'' remaining m =>
      s'' = s' ∧ m = n + 2 ∧ remaining = timeoutImmediate) (n + 1) := by
    unfold deadlineRemaining
    rw [hfinite, if_neg Bool.false_ne_true]
    refine ⟨by simp [Usual], rfl, rfl, if_pos ?_⟩
    rw [hend]
    exact hcalm.clock n (n + 1) (Nat.le_succ n)
  refine hremaining.bind (fun s'' remaining m hr => ?_)
  obtain ⟨rfl, rfl, rfl⟩ := hr
  exact h deadline

include hI

/-- **What is there does not keep a receive waiting.** -/
theorem ends_waitToReceive (hout : out ⊆ q.out) {arrived : UdpBackend → Bool}
    (full : UdpBackend → Prop) (hfull : ∀ s : UdpBackend, s.Wf → (arrived s = true ↔ full s))
    (hkept : ∀ s₀ s, full s₀ → Keeps s₀ s → full s)
    (hinv : (linkSetting (fun _ _ => True) Inv).inv s₀ o q) (hs : AtRest s₀) (hthere : full s₀)
    (n : Nat) :
    (waitToReceive (fuel + 1) arrived timeoutImmediate s₀).Ends oracle Usual
      (fun s r _ => r = .ok ∧ arrived s = true) n := by
  refine ends_deadline_immediate hcalm (fun deadline => ?_)
  have hsat := triple_ensurePeer (tolerates_link hI hs) (fuel + 1) timeoutImmediate s₀ o q
    (.refl s₀)
    hinv
  refine (hsat.ends (calm_answers hcalm hout) (returns_ensurePeer hcalm fuel s₀ (n + 2))).bind
    (fun s peer m h => ?_)
  obtain ⟨_, _, ⟨hwf, _⟩, hkeeps, _⟩ := h
  have harrived : arrived s = true := (hfull s hwf).mpr (hkept s₀ s hthere hkeeps)
  show Step.Ends oracle Usual _ m ((if peer ≠ .ok ∧ arrived s = false then pure peer
    else arrivalLoop (fuel + 1) arrived deadline timeoutImmediate (fuel + 1) : Udp Result) s)
  rw [if_neg (by simp [harrived])]
  show Step.Ends oracle Usual _ m ((if arrived s = true then pure Result.ok else _ : Udp Result) s)
  rw [if_pos harrived]
  exact ⟨rfl, harrived⟩

/-- **A packet that has arrived is received.** -/
theorem udpReceive_returns (hout : out ⊆ q.out)
    (hinv : (linkSetting (fun _ _ => True) Inv).inv s₀ o q) (hs : AtRest s₀) {packet : Packet}
    (hslot : s₀.history.slot = some d) (hevent : d.event = .data packet) {buffer : ReceiveBuffer}
    (hcapacity : packet.bytes.length ≤ buffer.capacity)
    (hdata : packet.bytes ≠ [] → buffer.hasData = true) :
    ∃ s, ((udpReceive (fuel + 1) buffer timeoutImmediate s₀).replay oracle 0).2
        = some (s, .packet packet) ∧ s.history.taken = s₀.history.taken ++ [d] := by
  have hends : (udpReceive (fuel + 1) buffer timeoutImmediate s₀).Ends oracle Usual
      (fun _ _ _ => True) 0 := by
    refine (ends_waitToReceive hcalm fuel hI hout (fun s => ∃ d, s.history.slot = some d)
      (fun s hw => by rw [hw.valid, Option.isSome_iff_exists])
      (fun s₀ s ⟨d, hd⟩ h => ⟨d, h.slot d hd⟩) hinv hs ⟨d, hslot⟩ 0).bind (fun s result m h => ?_)
    exact (Returns.ite (.ret _) (Returns.getState.bind (fun _ => .ite (.ret _)
      ((Returns.setState _).bind (fun _ => .ret _))))) s m
  have hsat := triple_udpReceive hI (fuel + 1) buffer timeoutImmediate hs s₀ o q rfl hinv
  obtain ⟨s, r, m, hreplay, _, _, _, hpost⟩ := (hsat.ends (calm_answers hcalm hout) hends).replay
  obtain ⟨rfl, htaken⟩ := hpost.full d packet hslot hevent hcapacity hdata
  exact ⟨s, hreplay, htaken⟩

/-- The oldest time code is received, and those behind it move up. -/
theorem ends_udpReceiveTimeCode (hout : out ⊆ q.out)
    (hinv : (linkSetting (fun _ _ => True) Inv).inv s₀ o q) (hs : AtRest s₀)
    {rest : List Delivery} (hqueue : s₀.history.queue = d :: rest) (n : Nat) :
    (udpReceiveTimeCode (fuel + 1) timeoutImmediate s₀).Ends oracle Usual
      (fun s r _ => (∀ code, d.event = .timeCode code → r = .ok code) ∧ rest <+: s.history.queue
        ∧ s.history.taken = s₀.history.taken ++ [d] ∧ AtRest s
        ∧ ∃ o', (linkSetting (fun _ _ => True) Inv).inv s o' q) n := by
  obtain ⟨code, _, hcode⟩ := hinv.1.queued (d := d) (by simp [hqueue])
  have hends : (udpReceiveTimeCode (fuel + 1) timeoutImmediate s₀).Ends oracle Usual
      (fun _ _ _ => True) n := by
    refine (ends_waitToReceive hcalm fuel hI hout (fun s => s.history.queue ≠ [])
      (fun s hw => by rw [bne_iff_ne, ← hw.queue_length, ne_eq, List.length_eq_zero_iff])
      (fun s₀ s hne h hnil => hne (List.prefix_nil.mp (hnil ▸ h.queue))) hinv hs
      (by rw [hqueue]; exact List.cons_ne_nil _ _) n).bind (fun s result m h => ?_)
    obtain ⟨rfl, harrived⟩ := h
    beta_reduce
    rw [if_neg (by decide), Process.bind_apply, Process.get_apply, Step.bind_done]
    obtain ⟨_, hnil⟩ | ⟨code, ring, hpop, _⟩ := RingBuffer.pop_cases s.timeCodes
    · rw [← RingBuffer.toList_length, hnil] at harrived
      exact absurd harrived (by simp)
    · rw [hpop]
      trivial
  have hsat := triple_udpReceiveTimeCode hI (fuel + 1) timeoutImmediate hs s₀ o q rfl hinv
  refine (hsat.ends (calm_answers hcalm hout) hends).mono (fun s r m h => ?_)
  obtain ⟨_, o', hinv', hpost⟩ := h
  obtain ⟨hr, htaken, hrest⟩ := hpost.full d rest code hqueue hcode
  refine ⟨fun code' hcode' => ?_, hrest, htaken, hpost.rest, o', hinv'⟩
  rw [hr, Event.timeCode.inj (hcode.symm.trans hcode')]

end

/-- An application that receives one time code after another until it has the one
that `k` others are ahead of. -/
def receiveTimeCodeBehind (fuel : Nat) : Nat → Udp (Except Result TimeCode)
  | 0 => udpReceiveTimeCode fuel timeoutImmediate
  | k + 1 => do
    let _ ← udpReceiveTimeCode fuel timeoutImmediate
    receiveTimeCodeBehind fuel k

/-- **A time code that has arrived is received** once those ahead of it are. -/
theorem ends_receiveTimeCodeBehind {out : List Bytes}
    {oracle : UdpOracle} (hcalm : Calm out oracle) (fuel : Nat)
    {Inv : Party → Party → Prop} {q : Party} (hI : Stable (fun _ _ => True) Inv)
    (hout : out ⊆ q.out) {code : TimeCode} (hevent : d.event = .timeCode code) {k : Nat} :
    ∀ {s₀ : UdpBackend} {o : List Bytes},
      (linkSetting (fun _ _ => True) Inv).inv s₀ o q → AtRest s₀ → s₀.history.queue[k]? = some d →
        ∀ n, (receiveTimeCodeBehind (fuel + 1) k s₀).Ends oracle Usual
          (fun s r _ => r = .ok code ∧ d ∈ s.history.taken) n := by
  induction k with
  | zero =>
    intro s₀ o hinv hs hd n
    obtain ⟨rest, hqueue⟩ : ∃ rest, s₀.history.queue = d :: rest := by
      cases hlist : s₀.history.queue with
      | nil => simp [hlist] at hd
      | cons first rest => exact ⟨rest, by simpa [hlist] using hd⟩
    refine (ends_udpReceiveTimeCode hcalm fuel hI hout hinv hs hqueue n).mono (fun s r m h => ?_)
    exact ⟨h.1 code hevent, by rw [h.2.2.1]; simp⟩
  | succ k ih =>
    intro s₀ o hinv hs hd n
    cases hlist : s₀.history.queue with
    | nil => simp [hlist] at hd
    | cons first rest =>
      refine (ends_udpReceiveTimeCode hcalm fuel hI hout hinv hs hlist n).bind
        (fun s r m h => ?_)
      obtain ⟨_, ⟨new, hnew⟩, _, hrest, o', hinv'⟩ := h
      rw [hlist, List.getElem?_cons_succ] at hd
      refine ih hinv' hrest ?_ m
      rw [← hnew, List.getElem?_append_left (List.getElem?_eq_some_iff.mp hd).1, hd]

end UdpBackend
