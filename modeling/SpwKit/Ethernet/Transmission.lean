import SpwKit.Ethernet.UdpChanges

/-!
# What a transmission comes to

How a call goes against given answers of the host (`Comes`): what it returns, and the
datagrams it hands to the socket on the way. Sending returns on every host that lets
a datagram go or refuses it, whatever the fault rules do to the datagrams. Without rules
the datagrams go out as they are, and a transmission hands over the fragments of the
pending packet, in their order and no others (`transmitPending_replay`).
-/

open VspwTp Interactive

/-- The datagrams among the requests of a call. -/
def sentDatagrams (requests : List UdpRequest) : List Bytes :=
  requests.filterMap (fun
    | .sendto bytes => some bytes
    | _ => none)

/-- A call returns, with `Q`, and hands these datagrams to the socket. -/
def Replays {α : Type} (oracle : UdpOracle) (p : Udp α) (b : UdpBackend)
    (Q : UdpBackend → α → Prop) (datagrams : List Bytes) : Prop :=
  ∀ n, ∃ qs s a, (p b).replay oracle n = (qs, some (s, a)) ∧ Q s a
    ∧ sentDatagrams qs = datagrams

/-- What a call asks for that does not start a session. -/
def Usual (q : UdpRequest) : Prop := q ≠ .clockAndPid

theorem usual_clock : Usual .clock := by
  rintro ⟨⟩

namespace UdpBackend

/-! ## How a call goes -/

section

variable {oracle : UdpOracle} {A : UdpRequest → Prop} {reads : Option Nat} {α β : Type}

/-- A call that waits for a datagram, and goes on by processing the one it gets. -/
def AwaitsDatagram (fuel : Nat) (x : UdpStep α) : Prop :=
  ∃ (s : UdpBackend) (k : ReceiveAnswer → UdpStep α) (rest : Result → UdpBackend → UdpStep α),
    x = .ask s .recvfrom k ∧ ∀ source bytes, k (.datagram source bytes)
      = (processDatagram fuel source (s.receiveDatagram source bytes)).bind rest

theorem AwaitsDatagram.bind {fuel : Nat} {x : UdpStep α} (h : AwaitsDatagram fuel x)
    (f : α → UdpBackend → UdpStep β) : AwaitsDatagram fuel (x.bind f) := by
  obtain ⟨s, k, rest, rfl, hgoes⟩ := h
  refine ⟨s, fun r => (k r).bind f, fun r s' => (rest r s').bind f, rfl, fun source bytes => ?_⟩
  exact (congrArg (fun x => x.bind f) (hgoes source bytes)).trans (Step.bind_assoc _ _ _)

/-- A call returns with `Q`, which is told the datagrams it sent, and asks nothing but what
`A` says. With a fuel for `reads`, it may also come to where it waits for a datagram. -/
def Comes (oracle : UdpOracle) (A : UdpRequest → Prop) (reads : Option Nat) (p : Udp α)
    (b : UdpBackend) (Q : UdpBackend → α → List Bytes → Prop) : Prop :=
  ∀ n, Step.Reaches oracle A (fun x => ∃ fuel ∈ reads, AwaitsDatagram fuel x)
    (fun s a qs => Q s a (sentDatagrams qs)) n (p b)

variable {Q : UdpBackend → α → List Bytes → Prop} {R : UdpBackend → β → List Bytes → Prop}
  {a : α} {b s : UdpBackend} {f : PUnit → Udp β} {p : Udp α}

theorem Comes.ret (h : Q b a []) : Comes oracle A reads (pure a) b Q := fun _ => h

theorem Comes.mono {Q' : UdpBackend → α → List Bytes → Prop} (h : Comes oracle A reads p b Q)
    (hQ : ∀ s a ds, Q s a ds → Q' s a ds) : Comes oracle A reads p b Q' :=
  fun n => (h n).mono (fun s a _ => hQ s a _)

theorem Comes.bind {f : α → Udp β} (hp : Comes oracle A reads p b Q)
    (hf : ∀ s a ds, Q s a ds →
      Comes oracle A reads (f a) s (fun s' a' ds' => R s' a' (ds ++ ds'))) :
    Comes oracle A reads (p >>= f) b R :=
  fun n => (hp n).bind (fun _ ⟨fuel, hfuel, h⟩ => ⟨fuel, hfuel, h.bind _⟩)
    (fun s a qs m hq => (hf s a _ hq m).mono (fun s' a' qs' hr => by
      rw [sentDatagrams, List.filterMap_append]
      exact hr))

theorem Comes.get {f : UdpBackend → Udp β} (h : Comes oracle A reads (f b) b R) :
    Comes oracle A reads (MonadState.get >>= f) b R := h

theorem Comes.set {b' : UdpBackend} (h : Comes oracle A reads (f ()) b' R) :
    Comes oracle A reads (MonadState.set b' >>= f) b R := h

theorem Comes.change {g : UdpBackend → UdpBackend} (h : Comes oracle A reads (f ()) (g b) R) :
    Comes oracle A reads (modify g >>= f) b R := h

theorem Comes.ends (h : Comes oracle A none p b Q) (n : Nat) :
    Step.Ends oracle A (fun s a _ => ∃ ds, Q s a ds) n (p b) :=
  ((h n).ends (fun _ ⟨_, hnone, _⟩ => Option.not_mem_none _ hnone)).mono
    (fun _ _ _ ⟨qs, hq⟩ => ⟨sentDatagrams qs, hq⟩)

theorem Comes.replays {Q : UdpBackend → α → Prop} {datagrams : List Bytes}
    (h : Comes oracle A none p b (fun s a ds => Q s a ∧ ds = datagrams)) :
    Replays oracle p b Q datagrams :=
  fun n => (h n).replay (fun _ ⟨_, hnone, _⟩ => Option.not_mem_none _ hnone)

variable (hclock : A .clock) {b : UdpBackend}
include hclock

theorem comes_now : Comes oracle A reads nowUs b
    (fun s now ds => s = b ∧ ds = [] ∧ ∃ n, now = oracle n .clock) :=
  fun n => Or.inr ⟨hclock, rfl, rfl, n, rfl⟩

theorem comes_deadlineMake (timeoutUs : Timeout) :
    Comes oracle A reads (deadlineMake timeoutUs) b (fun s _ ds => s = b ∧ ds = []) := by
  unfold deadlineMake
  split_ifs
  · exact .ret ⟨rfl, rfl⟩
  · refine (comes_now hclock).bind (fun s now ds hs => ?_)
    obtain ⟨rfl, rfl, -⟩ := hs
    exact .ret ⟨rfl, rfl⟩

theorem comes_deadlineRemaining (deadline : UdpDeadline) :
    Comes oracle A reads (deadlineRemaining deadline) b (fun s _ _ => s = b) := by
  unfold deadlineRemaining
  split_ifs
  · exact .ret rfl
  · exact (comes_now hclock).bind (fun s now ds hs => .ret hs.1)

end

/-! ## Sending -/

section

variable {oracle : UdpOracle} {reads : Option Nat} {b s : UdpBackend}

/-- The datagrams go out as they are. -/
def Plain (b : UdpBackend) : Prop :=
  b.socketOpen = true ∧ b.config.remoteAddress.isSome = true ∧ b.faultInjector.Quiet
    ∧ b.reorderedDatagramValid = false

/-- **The host takes what is sent**, or refuses it, and does not interrupt a delay that a
rule asks for. -/
structure Takes (oracle : UdpOracle) (b : UdpBackend) : Prop where
  sends : ∀ n bytes, oracle n (.sendto bytes) ≠ SendAnswer.interrupted
    ∧ oracle n (.sendto bytes) ≠ SendAnswer.wouldBlock
  sleeps : b.Plain ∨ ∀ n delayUs, oracle n (.nanosleep delayUs) ≠ SleepAnswer.interrupted

theorem Takes.of (h : Takes oracle b) (hplain : b.Plain → s.Plain) : Takes oracle s :=
  ⟨h.sends, h.sleeps.imp_left hplain⟩

/-- Every datagram goes out. -/
abbrev SendsAll (oracle : UdpOracle) : Prop :=
  ∀ n bytes, oracle n (.sendto bytes) = SendAnswer.sent

theorem SendsAll.takes (h : SendsAll oracle) (hsleep : b.Plain
    ∨ ∀ n delayUs, oracle n (.nanosleep delayUs) ≠ SleepAnswer.interrupted) : Takes oracle b :=
  ⟨fun n bytes => by
    rw [show oracle n (.sendto bytes) = SendAnswer.sent from h n bytes]
    exact ⟨by rintro ⟨⟩, by rintro ⟨⟩⟩, hsleep⟩

/-- **What sending comes to**: it does not touch the core and does not blame the link, and
without rules it succeeds, having sent `datagrams`, if what is sent is well formed. -/
structure Sent (oracle : UdpOracle) (formed : Prop) (datagrams : List Bytes)
    (b s : UdpBackend) (r : Result) (ds : List Bytes) : Prop where
  core : s.core = b.core
  available : r ≠ .linkUnavailable
  plain : b.Plain → s.Plain
  through : b.Plain → formed → SendsAll oracle → r = .ok ∧ ds = datagrams

theorem comes_sendDatagramRaw (h : Takes oracle b) (fuel : Nat) (bytes : Bytes)
    (timeoutUs : Timeout) :
    Comes oracle Usual reads (sendDatagramRaw (fuel + 1) bytes timeoutUs) b (fun s r ds =>
      s = b ∧ r ≠ .linkUnavailable ∧ (b.Plain → SendsAll oracle → r = .ok ∧ ds = [bytes])) := by
  refine .get ?_
  split_ifs with hclosed hnowhere
  · exact .ret ⟨rfl, by decide, fun hp => by simp [hp.1] at hclosed⟩
  · exact .ret ⟨rfl, by decide, fun hp => by simp [Option.isSome_iff_ne_none.mp hp.2.1] at hnowhere⟩
  · refine (comes_deadlineMake usual_clock timeoutUs).bind (fun s deadline ds hs => ?_)
    obtain ⟨rfl, rfl⟩ := hs
    refine Comes.bind (Q := fun s' r ds => s' = s ∧ ds = [bytes] ∧ (r ≠ SendAnswer.interrupted
      ∧ r ≠ SendAnswer.wouldBlock) ∧ (SendsAll oracle → r = SendAnswer.sent))
      (fun n => Or.inr ⟨by rintro ⟨⟩, rfl, rfl, h.sends n bytes, fun hall => hall n bytes⟩)
      (fun s' r ds hr => ?_)
    obtain ⟨rfl, rfl, ⟨hinterrupted, hblock⟩, hsent⟩ := hr
    cases r with
    | sent => exact .ret ⟨rfl, by decide, fun _ _ => ⟨rfl, rfl⟩⟩
    | short | error =>
      exact .ret ⟨rfl, by decide, fun _ hall => by cases hsent hall⟩
    | interrupted => exact absurd rfl hinterrupted
    | wouldBlock => exact absurd rfl hblock

theorem comes_waitTransportFaultDelay
    (hsleep : ∀ n delayUs, oracle n (.nanosleep delayUs) ≠ SleepAnswer.interrupted) (fuel : Nat)
    (delayUs : UInt32) (timeoutUs : Timeout) :
    Comes oracle Usual reads (waitTransportFaultDelay (fuel + 1) delayUs timeoutUs) b
      (fun s r _ => s = b ∧ r ≠ .linkUnavailable) := by
  unfold waitTransportFaultDelay
  split_ifs
  · exact .ret ⟨rfl, by decide⟩
  · exact .ret ⟨rfl, by decide⟩
  · refine Comes.bind (Q := fun s r _ => s = b ∧ r ≠ SleepAnswer.interrupted)
      (fun n => Or.inr ⟨by rintro ⟨⟩, rfl, hsleep n delayUs⟩) (fun s r _ hr => ?_)
    obtain ⟨rfl, hr⟩ := hr
    cases r with
    | slept | error => exact .ret ⟨rfl, by decide⟩
    | interrupted => exact absurd rfl hr

/-- Without rules a datagram goes straight to the socket. -/
theorem comes_sendDatagram_plain (h : Takes oracle b) (hplain : b.Plain) (fuel : Nat)
    (bytes : Bytes) (timeoutUs : Timeout) :
    Comes oracle Usual reads (sendDatagram (fuel + 1) bytes timeoutUs) b (fun s r ds =>
      s = b ∧ r ≠ .linkUnavailable ∧ (b.Plain → SendsAll oracle → r = .ok ∧ ds = [bytes])) := by
  refine .get ?_
  rw [if_neg (by simp [hplain.2.2.2])]
  split
  · exact comes_sendDatagramRaw h fuel bytes timeoutUs
  · next header _ =>
    have hdecide : b.decideFault header.type = (⟨FaultAction.none, 0⟩, b) := by
      rw [decideFault, hplain.2.2.1.injectTransport]
    rw [hdecide]
    exact .set (comes_sendDatagramRaw h fuel bytes timeoutUs)

/-- Whatever the rules make of a datagram, the link is not blamed. -/
theorem comes_sendDatagram_ruled (h : Takes oracle b)
    (hsleep : ∀ n delayUs, oracle n (.nanosleep delayUs) ≠ SleepAnswer.interrupted) (fuel : Nat)
    (bytes : Bytes) (timeoutUs : Timeout) :
    Comes oracle Usual reads (sendDatagram (fuel + 1) bytes timeoutUs) b
      (fun s r _ => s.core = b.core ∧ r ≠ .linkUnavailable) := by
  have hraw : ∀ (s : UdpBackend) (bytes : Bytes), s.core = b.core →
      Comes oracle Usual reads (sendDatagramRaw (fuel + 1) bytes timeoutUs) s
        (fun s r _ => s.core = b.core ∧ r ≠ .linkUnavailable) := fun s bytes hs =>
    (comes_sendDatagramRaw ⟨h.sends, Or.inr hsleep⟩ fuel bytes timeoutUs).mono
      (fun s' r _ hr => ⟨hr.1 ▸ hs, hr.2.1⟩)
  have hnext : ∀ {s : UdpBackend} {r : Result}, s.core = b.core ∧ r ≠ .linkUnavailable →
      Comes oracle Usual reads (if r = .ok then sendDatagramRaw (fuel + 1) bytes timeoutUs
        else pure r) s (fun s r _ => s.core = b.core ∧ r ≠ .linkUnavailable) := fun hs => by
    split_ifs
    · exact hraw _ _ hs.1
    · exact .ret hs
  refine .get ?_
  split_ifs
  · refine (hraw b bytes rfl).bind (fun s r _ hs => ?_)
    split_ifs
    · exact .ret hs
    · exact .get ((hraw s _ hs.1).bind (fun s' r' _ hs' => .change (.ret hs')))
  split
  · exact hraw b bytes rfl
  refine .set ?_
  unfold sendDecided
  split_ifs
  · exact .change (.ret ⟨rfl, by decide⟩)
  · exact .change ((hraw _ bytes (by rfl)).bind (fun s r _ hs => hnext hs))
  · exact .change (.ret ⟨rfl, by decide⟩)
  · exact .change (.ret ⟨rfl, by decide⟩)
  · exact .change ((comes_waitTransportFaultDelay hsleep fuel _ timeoutUs).bind
      (fun s r _ hs => hnext ⟨hs.1 ▸ rfl, hs.2⟩))
  · exact hraw _ bytes rfl

theorem comes_sendDatagram (h : Takes oracle b) (fuel : Nat) (bytes : Bytes)
    (timeoutUs : Timeout) :
    Comes oracle Usual reads (sendDatagram (fuel + 1) bytes timeoutUs) b
      (fun s r ds => Sent oracle True [bytes] b s r ds ∧ (b.Plain → s = b)) := by
  by_cases hplain : b.Plain
  · refine (comes_sendDatagram_plain h hplain fuel bytes timeoutUs).mono (fun s r ds hs => ?_)
    obtain ⟨rfl, hne, hok⟩ := hs
    exact ⟨⟨rfl, hne, id, fun hp _ => hok hp⟩, fun _ => rfl⟩
  · have hsleep := h.sleeps.resolve_left hplain
    exact (comes_sendDatagram_ruled h hsleep fuel bytes timeoutUs).mono (fun s r _ hs =>
      ⟨⟨hs.1, hs.2, fun hp => absurd hp hplain, fun hp => absurd hp hplain⟩,
        fun hp => absurd hp hplain⟩)

theorem comes_sendKeepalive (h : Takes oracle b) (fuel : Nat) (timeoutUs : Timeout) :
    Comes oracle Usual reads (sendKeepalive (fuel + 1) timeoutUs) b
      (fun s _ _ => s.core = b.core ∧ (b.Plain → s.Plain)) := by
  refine .get (.set ?_)
  split
  · exact .ret ⟨rfl, id⟩
  · refine (comes_sendDatagram (b := b.takeSequence.2) (h.of id) fuel _ timeoutUs).bind
      (fun s r _ hs => ?_)
    split_ifs
    · refine (comes_now usual_clock).bind (fun s' now _ hs' => ?_)
      obtain ⟨rfl, -⟩ := hs'
      exact .change (.ret ⟨hs.1.core, hs.1.plain⟩)
    · exact .ret ⟨hs.1.core, hs.1.plain⟩

/-! ## Transmitting -/

theorem encodeHeader_of_valid {header : Header} (h : validate header = true) :
    encodeHeader header maxUdpPayload = some (headerBytes header) := by
  rw [encodeHeader, h, if_neg (by decide)]

theorem timeCodeHeader_valid (hsession : b.localSessionId ≠ 0) :
    validate b.timeCodeHeader = true := by
  -- the checks of the flags and of the fragment read constants only
  have hflags : ∀ header : Header, header.flags = flagAckRequired → header.type = typeTimeCode →
      validateFlags header = true := fun header hf ht => by
    simp only [validateFlags, hf, ht]
    decide
  have hfragment : ∀ header : Header, header.flags = flagAckRequired →
      header.type = typeTimeCode → header.fragmentOffset = 0 → header.payloadSize = 2 →
      header.totalSize = 2 → validateFragment header = true := fun header hf ht ho hp hs => by
    simp only [validateFragment, hf, ht, ho, hp, hs]
    decide
  exact (validate_iff _).mpr ⟨rfl, UInt8.le_refl _, rfl, rfl, hsession, hflags _ rfl rfl,
    hfragment _ rfl rfl rfl rfl rfl, rfl⟩

/-- A fragment that is not the last one is not empty. -/
theorem fragmentSize_pos_of_more {offset : Nat} (hlimit : 0 < b.fragmentLimit)
    (hmore : offset + b.fragmentSize offset < b.pendingTxPacket.length) :
    0 < b.fragmentSize offset := by
  by_cases hf : b.fragmented = true
  · rw [fragmentSize_of_fragmented hf] at hmore ⊢
    omega
  · rw [fragmentSize_of_whole hf] at hmore
    omega

/-- The datagrams from an offset of the pending packet on, in so many turns. -/
def datagramsFrom (b : UdpBackend) : Nat → Nat → List Bytes
  | 0, _ => []
  | n + 1, offset => (headerBytes (b.fragmentHeader offset) ++ b.fragmentPayload offset)
    :: if offset + b.fragmentSize offset < b.pendingTxPacket.length then
        b.takeSequence.2.datagramsFrom n (offset + b.fragmentSize offset)
      else []

/-- They are the fragments that are left. -/
theorem datagramsFrom_eq (hs : b.Sendable) :
    ∀ k i n, i + (k + 1) = b.fragmentCount → k < n →
      (b.advance i).datagramsFrom n (i * b.fragmentLimit) = (List.range' i (k + 1)).map
        (fun j => headerBytes (b.fragment j).1 ++ (b.fragment j).2) := by
  have hturn : ∀ i n, (b.advance i).datagramsFrom (n + 1) (i * b.fragmentLimit)
      = (headerBytes (b.fragment i).1 ++ (b.fragment i).2)
        :: if i * b.fragmentLimit + b.fragmentSize (i * b.fragmentLimit) < b.pendingTxPacket.length
          then (b.advance (i + 1)).datagramsFrom n
            (i * b.fragmentLimit + b.fragmentSize (i * b.fragmentLimit)) else [] := fun i n => by
    -- a sequence number that was taken shows in the headers only
    have hreads : (b.advance i).fragmentSize = b.fragmentSize
        ∧ (b.advance i).pendingTxPacket = b.pendingTxPacket
        ∧ (b.advance i).fragmentPayload = b.fragmentPayload := by
      rw [advance_eq]
      exact ⟨rfl, rfl, rfl⟩
    rw [datagramsFrom, hreads.1, hreads.2.1, hreads.2.2]
    rfl
  intro k
  induction k with
  | zero =>
    intro i n hi hn
    obtain ⟨n, rfl⟩ : ∃ m, n = m + 1 := ⟨n - 1, by omega⟩
    obtain ⟨hmore, -⟩ := fragment_next hs (i := i) (by omega)
    rw [hturn, if_neg (fun h => by have := hmore.mp h; omega)]
    rfl
  | succ k ih =>
    intro i n hi hn
    obtain ⟨n, rfl⟩ : ∃ m, n = m + 1 := ⟨n - 1, by omega⟩
    obtain ⟨hmore, hnext⟩ := fragment_next hs (i := i) (by omega)
    rw [List.range'_succ, List.map_cons, hturn, if_pos (hmore.mpr (by omega)), hnext (by omega)]
    exact congrArg (List.cons _) (ih (i + 1) n (by omega) (by omega))

/-- **The loop over the fragments comes to an end.** By induction on the turns, which
suffice for what is left of the packet. -/
theorem comes_transmitFragments (fuel : Nat) (timeoutUs : Timeout) (n : Nat) :
    ∀ {b : UdpBackend} (offset : Nat), Takes oracle b → 0 < b.fragmentLimit →
      b.StartsFragment offset → b.pendingTxPacket.length < n + offset →
      Comes oracle Usual reads (transmitFragments (fuel + 1) timeoutUs n offset) b
        (Sent oracle b.Sendable (b.datagramsFrom n offset) b) := by
  induction n with
  | zero =>
    intro b offset _ _ hstart hturns
    have := hstart.le
    omega
  | succ n ih =>
    intro b offset h hlimit hstart hturns
    have hencodes := fun hs => encodeHeader_of_valid (fragmentHeader_valid (b := b) hs hstart)
    refine .get (.set ?_)
    split
    · next hnone =>
      exact .ret ⟨rfl, by decide, id, fun _ hs => by rw [hencodes hs] at hnone; cases hnone⟩
    next header hheader =>
    refine (comes_sendDatagram (b := b.takeSequence.2) (h.of id) fuel _ timeoutUs).bind
      (fun s r ds hs => ?_)
    obtain ⟨hs, hsame⟩ := hs
    have hds : b.Plain → b.Sendable → SendsAll oracle → r = .ok
        ∧ ds = [headerBytes (b.fragmentHeader offset) ++ b.fragmentPayload offset] :=
        fun hp hb ha =>
      ⟨(hs.through hp trivial ha).1, (hs.through hp trivial ha).2.trans (by
        rw [Option.some.inj (hheader.symm.trans (hencodes hb))])⟩
    split_ifs with hne hmore
    · exact .ret ⟨hs.core, hs.available, hs.plain, fun hp hb ha =>
        absurd (hs.through hp trivial ha).1 hne⟩
    · obtain ⟨-, hpacket, hsendable, hstarts⟩ :=
        fragments_congr (s := b) hs.core (offset + b.fragmentSize offset)
      have hsize := fragmentSize_pos_of_more hlimit hmore
      refine (ih _ (h.of hs.plain) ?_ (hstarts (startsFragment_next hmore)) ?_).mono
        (fun s' r' ds' hs' => ⟨hs'.core.trans hs.core, hs'.available,
          fun hp => hs'.plain (hs.plain hp), fun hp hb ha => ?_⟩)
      · rwa [fragmentLimit, show s.config = b.config from congrArg UdpCore.config hs.core]
      · rw [hpacket]
        omega
      · obtain ⟨hok, hrest⟩ := hs'.through (hs.plain hp) (hsendable hb) ha
        rw [hrest, (hds hp hb ha).2, hsame hp, datagramsFrom, if_pos hmore]
        exact ⟨hok, rfl⟩
    · refine .ret ⟨hs.core, by decide, hs.plain, fun hp hb ha => ?_⟩
      rw [(hds hp hb ha).2, datagramsFrom, if_neg hmore]
      exact ⟨rfl, rfl⟩

/-- An event with a session, and a packet that was let in if it is one. -/
def Formed (b : UdpBackend) : Prop :=
  b.localSessionId ≠ 0 ∧ (b.pendingTxKind = .data → b.Sendable)

theorem Formed.congr (h : b.Formed) (hcore : s.core = b.core) : s.Formed :=
  ⟨(congrArg UdpCore.localSessionId hcore).trans_ne h.1, fun hkind =>
    (fragments_congr hcore 0).2.2.1 (h.2 ((congrArg UdpCore.pendingTxKind hcore).symm.trans hkind))⟩

/-- The datagrams of the pending event. -/
def datagrams (b : UdpBackend) : List Bytes :=
  if b.pendingTxKind = .none ∨ b.pendingTxMessageId = 0 then []
  else if b.pendingTxKind = .timeCode then [headerBytes b.timeCodeHeader ++ b.timeCodePayload]
  else b.datagramsFrom (b.pendingTxPacket.length + 1) 0

theorem comes_transmitPending (h : Takes oracle b) (hlimit : 0 < b.fragmentLimit) (fuel : Nat)
    (timeoutUs : Timeout) :
    Comes oracle Usual reads (transmitPending (fuel + 1) timeoutUs) b
      (Sent oracle b.Formed b.datagrams b) := by
  refine .get ?_
  by_cases hidle : b.pendingTxKind = .none ∨ b.pendingTxMessageId = 0
  · rw [if_pos hidle, datagrams, if_pos hidle]
    exact .ret ⟨rfl, by decide, id, fun _ _ _ => ⟨rfl, rfl⟩⟩
  have hevent : Comes oracle Usual reads (transmitEvent (fuel + 1) b timeoutUs) b
      (Sent oracle b.Formed b.datagrams b) := by
    rw [datagrams, if_neg hidle, transmitEvent]
    split_ifs with hcode
    · refine .get (.set ?_)
      split
      · next hnone =>
        exact .ret ⟨rfl, by decide, id, fun _ hf => by
          rw [encodeHeader_of_valid (timeCodeHeader_valid hf.1)] at hnone
          cases hnone⟩
      · next header hheader =>
        refine (comes_sendDatagram (b := b.takeSequence.2) (h.of id) fuel _ timeoutUs).mono
          (fun s r ds hs => ⟨hs.1.core, hs.1.available, hs.1.plain, fun hp hf ha => ?_⟩)
        rw [encodeHeader_of_valid (timeCodeHeader_valid hf.1), Option.some.injEq] at hheader
        rw [hheader]
        exact hs.1.through hp trivial ha
    · exact (comes_transmitFragments fuel timeoutUs _ 0 h hlimit (Or.inl rfl) (by omega)).mono
        (fun s r ds hs => ⟨hs.core, hs.available, hs.plain, fun hp hf =>
          hs.through hp (hf.2 (kind_eq_data (not_or.mp hidle).1 hcode))⟩)
  rw [if_neg hidle]
  refine hevent.bind (fun s r ds hs => ?_)
  split_ifs with hok
  · refine (comes_now usual_clock).bind (fun s' now ds' hs' => ?_)
    obtain ⟨rfl, rfl, -⟩ := hs'
    exact .change (.ret ⟨hs.core, by decide, hs.plain, fun hp hf ha =>
      ⟨rfl, (List.append_nil _).trans (hs.through hp hf ha).2⟩⟩)
  · exact .ret ⟨hs.core, hs.available, hs.plain, fun hp hf ha =>
      absurd (hs.through hp hf ha).1 hok⟩

/-- **A transmission over a socket that takes every datagram hands over the
fragments of the pending packet**, in order, and succeeds. -/
theorem transmitPending_replay {fuel : Nat} (hsend : SendsAll oracle) (hfuel : 0 < fuel)
    (timeoutUs : Timeout) (hs : b.Sendable) (hplain : b.Plain) (hkind : b.pendingTxKind = .data)
    (hmessage : b.pendingTxMessageId ≠ 0) :
    Replays oracle (transmitPending fuel timeoutUs) b (fun _ r => r = .ok)
      (b.fragments.map (fun f => headerBytes f.1 ++ f.2)) := by
  obtain ⟨m, rfl⟩ : ∃ m, fuel = m + 1 := ⟨fuel - 1, by omega⟩
  have hlimit := hs.limit_pos
  have hdatagrams : b.datagrams = b.fragments.map (fun f => headerBytes f.1 ++ f.2) := by
    obtain ⟨k, hk⟩ : ∃ k, 0 + (k + 1) = b.fragmentCount :=
      ⟨b.fragmentCount - 1, by have := fragmentCount_pos hs; omega⟩
    have hfrom := datagramsFrom_eq hs k 0 (b.pendingTxPacket.length + 1) hk
      (by have := fragmentCount_le hs; omega)
    rw [Nat.zero_mul] at hfrom
    rw [datagrams, if_neg (by simp [hkind, hmessage]), if_neg (by simp [hkind]), fragments,
      List.map_map, ← hk, Nat.zero_add, List.range_eq_range']
    exact hfrom
  exact ((comes_transmitPending (hsend.takes (Or.inl hplain)) (by omega) m timeoutUs).mono
    (fun s r ds hr => hdatagrams ▸ hr.through hplain ⟨hs.session, fun _ => hs⟩ hsend)).replays

end

end UdpBackend
