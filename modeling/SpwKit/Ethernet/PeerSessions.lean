import SpwKit.Ethernet.UdpLink

/-!
# Sessions of the peer

Every start of a link begins a new session, which keepalives announce. The backend
takes the datagrams of one session of its peer, the current one, and remembers the last
eight that were superseded; a keepalive that comes late from one of these does not bring
it back.

`stale_datagrams_ignored` is about one datagram: what does not come from the peer's current
session changes nothing but a counter, and only a keepalive of a session that is not
retired can replace the current one. `superseded_sessions_stay_dead` is about runs: a
watcher writes down the session that is current at every request, and the ring of the
retired sessions is read off what it has written.
A session bounds how often an event is sent (`transmissions_bounded`).
-/

open VspwTp Interactive

namespace UdpBackend

/-! ## Datagrams without effect -/

/-- The header of a well-formed datagram. -/
def wellFormed (bytes : Bytes) : Option Header :=
  match decodeHeader bytes with
  | .ok header =>
    if bytes.length = headerSize + header.payloadSize.toNat then some header else none
  | .error _ => none

/-- **A datagram that is none of the backend's business**: from another address, malformed,
of another link, of another session than the current one, or a keepalive of a session that
is retired. -/
inductive Stale (b : UdpBackend) (source : SocketAddress) (bytes : Bytes) : Prop
  | foreign (h : sourceMatches b.config source = false)
  | malformed (h : wellFormed bytes = none)
  | link {header : Header} (h : wellFormed bytes = some header)
      (hlink : header.linkId ≠ b.config.linkId)
  | session {header : Header} (h : wellFormed bytes = some header)
      (htype : header.type ≠ typeKeepalive) (hother : header.sessionId ≠ b.remoteSessionId)
  | retired {header : Header} (h : wellFormed bytes = some header)
      (htype : header.type = typeKeepalive)
      (hretired : header.sessionId ∈ b.retiredSessions.toList)

/-- **A keepalive of the peer that is not of a retired session.** -/
structure LiveKeepalive (b : UdpBackend) (source : SocketAddress) (bytes : Bytes) : Prop where
  source : sourceMatches b.config source = true
  keepalive : ∃ header, wellFormed bytes = some header ∧ header.type = typeKeepalive
    ∧ header.linkId = b.config.linkId ∧ header.sessionId ∉ b.retiredSessions.toList

/-- **Nothing has changed** but what sending a keepalive changes (the fault injector may drop
or hold it back) and the receive buffer. -/
def Unaffected (b s : UdpBackend) : Prop :=
  s = { b with
    faultInjector := s.faultInjector
    faultStatistics := s.faultStatistics
    nextSequence := s.nextSequence
    reorderedDatagram := s.reorderedDatagram
    reorderedDatagramValid := s.reorderedDatagramValid
    lastKeepaliveTxUs := s.lastKeepaliveTxUs
    rxDatagram := s.rxDatagram
    statistics := { b.statistics with droppedPackets := s.statistics.droppedPackets }
    history := { b.history with received := s.history.received } }

variable {b s s' : UdpBackend} {ids : List UInt64} {sessionId : UInt64} {source : SocketAddress}
  {α : Type}

theorem Unaffected.refl (b : UdpBackend) : Unaffected b b := rfl

theorem Unaffected.sending (h : Unaffected b s) (hsend : Sending s s') : Unaffected b s' := by
  unfold Unaffected at h ⊢
  cases hsend <;> rw [h] <;> rfl

theorem Unaffected.receive (h : Unaffected b s) (source : SocketAddress) (bytes : Bytes) :
    Unaffected b (s.receiveDatagram source bytes) := by
  unfold Unaffected at h ⊢
  rw [h]
  rfl

theorem Unaffected.config (h : Unaffected b s) : s.config = b.config := by
  rw [h]

theorem Unaffected.remote (h : Unaffected b s) : s.remoteSessionId = b.remoteSessionId := by
  rw [h]

theorem Unaffected.retired (h : Unaffected b s) : s.retiredSessions = b.retiredSessions := by
  rw [h]

/-- The first part of `pump_one`, until a datagram has arrived: how long it waits, and the
source of the datagram. -/
def pumpWait (fuel : Nat) (timeoutUs : Timeout) : Udp (Timeout × Except Result SocketAddress) := do
  maybeSendKeepalive fuel
  let b ← get
  let waitTimeout := minTimeout timeoutUs b.serviceSlice
  let deadline ← deadlineMake waitTimeout
  let received ← receiveLoop fuel deadline fuel
  return (waitTimeout, received)

/-- The second part. -/
def pumpHandle (fuel : Nat) (timeoutUs : Timeout) :
    Timeout × Except Result SocketAddress → Udp Result
  | (_, .ok source) => processDatagram fuel source
  | (waitTimeout, .error .timeout) => do
    maybeSendKeepalive fuel
    refreshPeerState
    return if timeoutUs = timeoutInfinite ∨ waitTimeout < timeoutUs then .ok else .timeout
  | (_, .error result) => return result

theorem pumpOne_eq (fuel : Nat) (timeoutUs : Timeout) :
    pumpOne fuel timeoutUs = pumpWait fuel timeoutUs >>= pumpHandle fuel timeoutUs := by
  funext b
  simp only [pumpOne, pumpWait, Process.bind_apply, Step.bind_assoc, Process.pure_apply,
    Step.bind_done]
  refine congrArg _ (funext fun _ => funext fun s => ?_)
  refine congrArg _ (funext fun _ => funext fun s => ?_)
  refine congrArg _ (funext fun _ => funext fun s => ?_)
  refine congrArg _ (funext fun received => funext fun s => ?_)
  cases received with
  | ok source => rfl
  | error result => cases result <;> rfl

/-- A setting in which every answer may come. -/
def anySetting : UdpSetting Unit Unit :=
  ⟨fun _ _ _ => True, fun _ _ _ _ _ _ => True⟩

/-- What holds when a program returns, holds of everything it may return. -/
theorem yields_of_triple {P : UdpBackend → Prop} {p : Udp α} {Q : UdpBackend → α → Prop}
    (h : Triple anySetting (fun s _ => P s) p (fun s a _ => Q s a)) {a : α} (hb : P b)
    (hy : (p b).Yields s a) : Q s a := by
  obtain ⟨_, _, hq⟩ := Step.Sat.yields (fun _ _ _ _ => ⟨(), trivial⟩) hy (h b () () hb trivial)
  exact hq

/-- **Until a datagram has arrived, nothing changes** but what a keepalive does. -/
theorem triple_pumpWait (b : UdpBackend) (fuel : Nat) (timeoutUs : Timeout) :
    Triple anySetting (fun s _ => s = b) (pumpWait fuel timeoutUs)
      (fun s _ _ => Unaffected b s) := by
  have hS : Upkeep anySetting (fun s _ => Unaffected b s) :=
    ⟨fun _ _ _ => trivial, fun _ _ _ hs => hs, fun _ _ _ hs _ => ⟨trivial, hs⟩,
      fun _ hsend _ hs => ⟨trivial, hs.sending hsend⟩⟩
  have hloop : ∀ deadline n, Tends anySetting (fun s _ => Unaffected b s)
      (receiveLoop fuel deadline n) := by
    intro deadline n
    induction n with
    | zero => exact .hang
    | succ n ih =>
      refine (Tends.ask hS.asks rfl).bind (fun answer => ?_)
      cases answer with
      | datagram source bytes =>
        exact Tends.bind (.change (fun _ hs => ⟨trivial, hs.receive source bytes⟩)) (fun _ => .ret)
      | error => exact .ret
      | interrupted =>
        exact (tends_deadlineExpired hS.asks deadline).bind
          (fun _ => .ite (fun _ => .ret) (fun _ => ih))
      | wouldBlock =>
        refine (tends_deadlineRemaining hS.asks deadline).bind (fun remaining =>
          (tends_waitReadable hS.asks fuel remaining).bind (fun result => ?_))
        cases result with
        | ok => exact ih
        | _ => exact .ret
  refine Triple.pre (P := fun s _ => Unaffected b s) ?_ (fun s _ heq => heq ▸ Unaffected.refl s)
  exact (tends_maybeSendKeepalive hS fuel).bind (fun _ => .get_bind (fun s o hs => Tends.at_state
    ((tends_deadlineMake hS.asks _).bind (fun deadline => (hloop deadline fuel).bind
    (fun _ => .ret))) hs))

theorem decodeHeader_of_wellFormed {bytes : Bytes} {header : Header}
    (h : wellFormed bytes = some header) :
    decodeHeader bytes = .ok header
      ∧ bytes.length = headerSize + header.payloadSize.toNat := by
  unfold wellFormed at h
  cases hdecode : decodeHeader bytes with
  | error e =>
    rw [hdecode] at h
    cases h
  | ok header' =>
    rw [hdecode] at h
    dsimp only at h
    split_ifs at h with hlength
    obtain rfl := Option.some.inj h
    exact ⟨rfl, hlength⟩

theorem isRetiredSession_iff (b : UdpBackend) (sessionId : UInt64) :
    b.isRetiredSession sessionId = true
      ↔ sessionId ≠ 0 ∧ sessionId ∈ b.retiredSessions.toList := by
  unfold isRetiredSession
  by_cases hzero : sessionId = 0
  · simp [hzero]
  · simp [hzero]

/-- A keepalive of a retired session is ignored. -/
theorem processKeepalive_retired {header : Header}
    (h : header.sessionId ∈ s.retiredSessions.toList) :
    processKeepalive header s = .done s .ok := by
  have hreturn : (header.sessionId == 0 || s.isRetiredSession header.sessionId) = true := by
    by_cases hzero : header.sessionId = 0
    · simp [hzero]
    · rw [(isRetiredSession_iff s _).mpr ⟨hzero, h⟩, Bool.or_true]
  show ((if _ then pure false else _ : Udp Bool) s).bind _ = _
  rw [if_pos hreturn]
  rfl

/-- **Handling a stale datagram takes no time and has no effect**, other than that it may be
counted. -/
theorem processDatagram_stale (h : Unaffected b s) (fuel : Nat)
    (hstale : Stale b source s.rxDatagram) :
    ∃ s', processDatagram fuel source s = .done s' .ok ∧ (s' = s ∨ s' = s.countDropped) := by
  show ∃ s', (if !sourceMatches s.config source then pure Result.ok else _ : Udp Result) s
    = .done s' .ok ∧ _
  by_cases hsource : sourceMatches s.config source = true
  · rw [if_neg (by simp [hsource])]
    cases hstale with
    | foreign hforeign =>
      rw [← h.config, hsource] at hforeign
      cases hforeign
    | malformed hform =>
      unfold wellFormed at hform
      split at hform
      · next header hdecode =>
        split_ifs at hform with hlength
        rw [hdecode]
        dsimp only
        rw [if_pos hlength]
        exact ⟨_, rfl, .inr rfl⟩
      · next hdecode =>
        rw [hdecode]
        exact ⟨_, rfl, .inr rfl⟩
    | link hform hlink =>
      obtain ⟨hdecode, hlength⟩ := decodeHeader_of_wellFormed hform
      rw [hdecode]
      dsimp only
      rw [if_neg (not_not.mpr hlength), if_pos (h.config ▸ hlink)]
      exact ⟨s, rfl, .inl rfl⟩
    | session hform htype hother =>
      obtain ⟨hdecode, hlength⟩ := decodeHeader_of_wellFormed hform
      rw [hdecode]
      dsimp only
      rw [if_neg (not_not.mpr hlength), if_neg htype, if_pos (Or.inr (h.remote ▸ hother))]
      split_ifs
      · exact ⟨s, rfl, .inl rfl⟩
      · exact ⟨s, rfl, .inl rfl⟩
    | retired hform htype hretired =>
      obtain ⟨hdecode, hlength⟩ := decodeHeader_of_wellFormed hform
      rw [hdecode]
      dsimp only
      rw [if_neg (not_not.mpr hlength), if_pos htype]
      split_ifs
      · exact ⟨s, rfl, .inl rfl⟩
      · exact ⟨s, processKeepalive_retired (h.retired ▸ hretired), .inl rfl⟩
  · rw [if_pos (by simpa using hsource)]
    exact ⟨s, rfl, .inl rfl⟩

/-! ## What changes the session -/

/-- What the changes of the background leave alone. -/
structure SameSessions (s s' : UdpBackend) : Prop where
  config : s'.config = s.config
  remote : s'.remoteSessionId = s.remoteSessionId
  retired : s'.retiredSessions = s.retiredSessions

theorem SameSessions.rememberIf (s : UdpBackend) (ackRequired : Bool) (type : UInt8)
    (messageId : UInt32) : SameSessions s (s.rememberIf ackRequired type messageId) := by
  rw [rememberIf_eq]
  exact ⟨rfl, rfl, rfl⟩

theorem SameSessions.trans {s'' : UdpBackend} (h : SameSessions s s') (h' : SameSessions s' s'') :
    SameSessions s s'' :=
  ⟨h'.config.trans h.config, h'.remote.trans h.remote, h'.retired.trans h.retired⟩

theorem Sending.sessions (h : Sending s s') : SameSessions s s' := by
  cases h <;> exact ⟨rfl, rfl, rfl⟩

theorem Refreshing.sessions (h : Refreshing s s') : SameSessions s s' := by
  cases h with
  | lose h =>
    rw [markPeerLost_eq]
    exact ⟨rfl, rfl, rfl⟩
  | _ => exact ⟨rfl, rfl, rfl⟩

theorem SameSessions.noteHeard (s : UdpBackend) (now : UInt64) :
    SameSessions s (s.noteHeard now) := by
  unfold UdpBackend.noteHeard
  dsimp only
  split_ifs <;> exact ⟨rfl, rfl, rfl⟩

theorem Background.sessions (h : Background s s') : SameSessions s s' := by
  cases h with
  | fail hkind h =>
    rw [failPending_eq]
    exact ⟨rfl, rfl, rfl⟩
  | timeCode | whole | reassembled =>
    refine SameSessions.trans ?_ (.rememberIf _ _ _ _)
    exact ⟨rfl, rfl, rfl⟩
  | _ => exact ⟨rfl, rfl, rfl⟩

/-- The calls that forget the peer. -/
def forgets : UdpCall → Bool
  | .start => true
  | .stop => true
  | .reset => true
  | _ => false

theorem forgets_of_sends {call : UdpCall} (h : call.sends = true) : forgets call = false := by
  cases call with
  | send packet timeoutUs | sendTimeCode code timeoutUs => rfl
  | _ => cases h

theorem Foreground.sessions {call : UdpCall} (h : Foreground call s s')
    (hcall : forgets call = false) : SameSessions s s' := by
  cases h with
  | start _ now pid h | stop _ h | reset _ h => cases hcall
  | offerPacket _ terminator hlength hstate hidle =>
    have hterminator : SameSessions s (s.effectiveTerminator terminator).2 := by
      unfold effectiveTerminator
      split_ifs
      · split <;> exact ⟨rfl, rfl, rfl⟩
      · exact ⟨rfl, rfl, rfl⟩
    exact hterminator.trans ⟨rfl, rfl, rfl⟩
  | _ => exact ⟨rfl, rfl, rfl⟩

/-- The datagram of an answer, if it is one. -/
def datagramOf : (q : UdpRequest) → q.Answer → Option (SocketAddress × Bytes)
  | .recvfrom, .datagram source bytes => some (source, bytes)
  | _, _ => none

/-- **A state that a call rests in**, and the datagrams it has received until then. -/
inductive RestsAfter {α : Type} : UdpStep α →
    List (SocketAddress × Bytes) → UdpBackend → Prop
  | here (x) : RestsAfter x [] x.rest
  | answer {s s' : UdpBackend} {q : UdpRequest}
      {k : q.Answer → UdpStep α}
      {ds : List (SocketAddress × Bytes)} (r : q.Answer) (h : RestsAfter (k r) ds s') :
      RestsAfter (.ask s q k) ((datagramOf q r).toList ++ ds) s'

/-- The peer's session is that of `b`, unless a live keepalive has arrived. -/
def remoteSetting (b : UdpBackend) :
    UdpSetting (List (SocketAddress × Bytes)) Unit where
  inv s o _ := (∀ d ∈ o, ¬ LiveKeepalive b d.1 d.2) → SameSessions b s
  answers _ o _ q r o' := o' = o ++ (datagramOf q r).toList

theorem inv_rests {Q : UdpBackend → α → List (SocketAddress × Bytes) → Unit → Prop}
    (hQ : ∀ s a o e, Q s a o e → (remoteSetting b).inv s o e)
    {x : UdpStep α} {ds : List (SocketAddress × Bytes)}
    (hrests : RestsAfter x ds s) :
    ∀ {o}, x.Sat (remoteSetting b) Q o () → (remoteSetting b).inv s (o ++ ds) () := by
  induction hrests with
  | here x =>
    intro o h
    rw [List.append_nil]
    exact h.inv_rest hQ
  | answer r _ ih =>
    intro o h
    rw [← List.append_assoc]
    exact ih (h.2 () h.1 r _ rfl)

theorem serves_remoteSetting (b : UdpBackend) {call : UdpCall} (hcall : forgets call = false) :
    Serves (remoteSetting b) (fun _ _ => True) call where
  ask := by
    rintro s o e q r o' - hi rfl hnone
    exact hi (fun d hd => hnone d (List.mem_append_left _ hd))
  lasts := fun _ _ _ hs => hs
  emit := by
    rintro s o e d r o' - - hi - rfl
    exact ⟨fun hnone => hi (fun d hd => hnone d (List.mem_append_left _ hd)), trivial⟩
  sending := fun _ hsend hi _ => ⟨fun hnone => (hi hnone).trans hsend.sessions, trivial⟩
  refresh := fun hchange hi _ => ⟨fun hnone => (hi hnone).trans hchange.sessions, trivial⟩
  change := fun _ hback hi _ => ⟨fun hnone => (hi hnone).trans hback.sessions, trivial⟩
  see := fun hi hnone => (hi hnone).trans ⟨rfl, rfl, rfl⟩
  hear := fun now hi hnone => (hi hnone).trans (.noteHeard _ now)
  note := fun _ _ hi hnone => (hi hnone).trans ⟨rfl, rfl, rfl⟩
  notice := fun _ _ _ _ => trivial
  receive := by
    rintro s o e source bytes o' - hi - rfl
    refine ⟨fun hnone => ?_, trivial⟩
    exact (hi (fun d hd => hnone d (List.mem_append_left _ hd))).trans ⟨rfl, rfl, rfl⟩
  adopted := fun _ _ _ _ => trivial
  foreground := fun hfore hi _ => ⟨fun hnone => (hi hnone).trans (hfore.sessions hcall), trivial⟩
  adopt := by
    rintro s o o' e e' source bytes sessionId - hi rfl hadopts - hnone
    have hsame := hi (fun d hd => hnone d (List.mem_append_left _ hd))
    obtain ⟨header, hdecode, hlength, hlink, htype, rfl⟩ := hadopts.keepalive
    refine absurd (hnone (source, bytes) (List.mem_append_right _ (List.mem_singleton_self _)))
      (not_not.mpr ⟨hsame.config ▸ hadopts.source, header, ?_, htype, hsame.config ▸ hlink, ?_⟩)
    · simp [wellFormed, hdecode, hlength]
    · intro hmem
      have hretired := (isRetiredSession_iff s header.sessionId).mpr
        ⟨hadopts.nonzero, hsame.retired ▸ hmem⟩
      rw [hadopts.current] at hretired
      cases hretired

/-- **Stale and foreign datagrams have no effect.** While `pump_one` waits for a datagram it
may send a keepalive. If the one that arrives is stale, handling it ends the call with
nothing changed, or only counted as dropped. And a call, other than one that forgets the
peer, that has received no live keepalive rests with the session of the peer it began
with. -/
theorem stale_datagrams_ignored (b : UdpBackend) (fuel : Nat) :
    (∀ timeoutUs, pumpOne fuel timeoutUs = pumpWait fuel timeoutUs >>= pumpHandle fuel timeoutUs)
    ∧ (∀ timeoutUs s source waitTimeout,
      (pumpWait fuel timeoutUs b).Yields s (waitTimeout, .ok source) →
      Stale b source s.rxDatagram →
      Unaffected b s ∧ ∃ s', pumpHandle fuel timeoutUs (waitTimeout, .ok source) s = .done s' .ok
        ∧ (s' = s ∨ s' = s.countDropped))
    ∧ ∀ call, forgets call = false → ∀ ds s, RestsAfter (call.run fuel b) ds s →
      (∀ d ∈ ds, ¬ LiveKeepalive b d.1 d.2) → s.remoteSessionId = b.remoteSessionId := by
  refine ⟨pumpOne_eq fuel, fun timeoutUs s source waitTimeout hyields hstale => ?_,
    fun call hcall ds s hrests hnone => ?_⟩
  · have hwait := yields_of_triple (triple_pumpWait b fuel timeoutUs) rfl hyields
    exact ⟨hwait, processDatagram_stale hwait fuel hstale⟩
  · have hcode := tends_run (serves_remoteSetting b hcall) fuel b [] () trivial
      (fun _ => ⟨rfl, rfl, rfl⟩)
    exact (inv_rests (fun _ _ _ _ hq => hq.1) hrests hcode hnone).remote

/-- A backend in RUN whose peer has had one session before its current one. -/
def staleSample : UdpBackend :=
  { (udpConstruct .sample 0 true true).2 with
    state := .run, localSessionId := 1, remoteSessionId := 7, lastKeepaliveTxUs := 1000
    retiredSessions := (udpConstruct .sample 0 true true).2.retiredSessions.remember 6 }

/-- A keepalive of that session. -/
def staleKeepalive : Bytes :=
  headerBytes { Header.initializer with
    type := typeKeepalive, linkId := 1, sessionId := 6, sequence := 1 }

theorem stale_datagrams_ignored_retired :
    (∃ s, (pumpWait 3 timeoutImmediate staleSample).Yields s (0, .ok ⟨true, 1, 2⟩)
      ∧ Unaffected staleSample s
      ∧ ∃ s', pumpHandle 3 timeoutImmediate (0, .ok ⟨true, 1, 2⟩) s = .done s' .ok
        ∧ (s' = s ∨ s' = s.countDropped))
    ∧ (UdpCall.getLinkState.run 3 staleSample).rest.remoteSessionId = 7 := by
  have hyields : (pumpWait 3 timeoutImmediate staleSample).Yields
      (staleSample.receiveDatagram ⟨true, 1, 2⟩ staleKeepalive) (0, .ok ⟨true, 1, 2⟩) :=
    .ask (1000 : UInt64) (.ask (1000 : UInt64)
      (.ask (ReceiveAnswer.datagram ⟨true, 1, 2⟩ staleKeepalive) (.done _ _)))
  obtain ⟨-, hhandle, hsession⟩ := stale_datagrams_ignored staleSample 3
  have hform : wellFormed staleKeepalive = some { Header.initializer with
      type := typeKeepalive, linkId := 1, sessionId := 6, sequence := 1 } := by decide +kernel
  exact ⟨⟨_, hyields, hhandle timeoutImmediate _ _ _ hyields
      (.retired hform rfl (by decide +kernel))⟩,
    hsession .getLinkState rfl [] _ (.here _) (fun d hd => absurd hd List.not_mem_nil)⟩

/-! ## The sessions of a run -/

/-- **The sessions of the peer** since the link was started last: the current one, and
those that were superseded, oldest first. -/
structure SessionLog where
  current : UInt64
  superseded : List UInt64

/-- The current session is found to be `id`; it is 0 when the peer has been forgotten. -/
def SessionLog.note (log : SessionLog) (id : UInt64) : SessionLog where
  current := id
  superseded :=
    if id = 0 then []
    else if id = log.current ∨ log.current = 0 then log.superseded
    else log.superseded ++ [log.current]

/-- The sessions, as read off what a watcher has written down. -/
def sessionLog (ids : List UInt64) : SessionLog := ids.foldl SessionLog.note ⟨0, []⟩

@[simp] theorem sessionLog_concat (ids : List UInt64) (id : UInt64) :
    sessionLog (ids ++ [id]) = (sessionLog ids).note id := by
  simp [sessionLog]

/-- The watcher writes down the current session at every request. -/
def noteSession (s : UdpBackend) (ids : List UInt64) (q : UdpRequest) (_ : q.Answer) :
    List UInt64 :=
  ids ++ [s.remoteSessionId]

/-- **The ring holds the last sessions that were superseded**, all different, and the
current one is none of them. -/
structure Retires (s : UdpBackend) (log : SessionLog) : Prop where
  ring : s.retiredSessions.toList
    = log.superseded.drop (log.superseded.length - udpRetiredSessionDepth)
  nodup : s.retiredSessions.toList.Nodup
  nonzero : 0 ∉ s.retiredSessions.toList
  other : s.remoteSessionId ∉ s.retiredSessions.toList

/-- What the watcher relies on. -/
def sessionSetting : UdpSetting (List UInt64) Unit where
  inv s ids _ := Retires s (sessionLog (ids ++ [s.remoteSessionId]))
  answers s ids _ _ _ ids' := ids' = ids ++ [s.remoteSessionId]

theorem note_note (log : SessionLog) (id : UInt64) : (log.note id).note id = log.note id := by
  unfold SessionLog.note
  by_cases h : id = 0 <;> simp [h]

variable {log : SessionLog}

theorem Retires.same (h : Retires s log) (hsame : SameSessions s s') : Retires s' log := by
  refine ⟨?_, ?_, ?_, ?_⟩
  · rw [hsame.retired]
    exact h.ring
  · rw [hsame.retired]
    exact h.nodup
  · rw [hsame.retired]
    exact h.nonzero
  · rw [hsame.retired, hsame.remote]
    exact h.other

/-- When the peer is forgotten, so are its sessions. -/
theorem Retires.forgotten (hremote : s.remoteSessionId = 0)
    (hretired : s.retiredSessions.toList = []) :
    Retires s (sessionLog (ids ++ [s.remoteSessionId])) := by
  rw [sessionLog_concat, hremote]
  refine ⟨?_, ?_, ?_, ?_⟩
  · rw [hretired]
    rfl
  · rw [hretired]
    exact List.nodup_nil
  · rw [hretired]
    exact List.not_mem_nil
  · rw [hretired]
    exact List.not_mem_nil

/-- What the ring holds after one more. -/
theorem drop_concat (l : List α) (x : α) (n : Nat) (hn : 0 < n) :
    (l ++ [x]).drop ((l ++ [x]).length - n)
      = (if (l.drop (l.length - n)).length < n then l.drop (l.length - n)
          else (l.drop (l.length - n)).tail) ++ [x] := by
  rw [List.length_append, List.length_singleton, List.length_drop]
  by_cases hlong : n ≤ l.length
  · rw [if_neg (by omega), List.tail_drop,
      show l.length + 1 - n = l.length - n + 1 from by omega, List.drop_append_of_le_length
        (by omega)]
  · rw [if_pos (by omega), show l.length + 1 - n = 0 from by omega,
      show l.length - n = 0 from by omega, List.drop_zero, List.drop_zero]

theorem adoptRemoteSession_remote (s : UdpBackend) (sessionId : UInt64) :
    (s.adoptRemoteSession sessionId).remoteSessionId = sessionId := by
  rw [adoptRemoteSession_eq]

theorem adoptRemoteSession_retired (s : UdpBackend) (sessionId : UInt64) :
    (s.adoptRemoteSession sessionId).retiredSessions = s.retireRemoteSession.retiredSessions := by
  rw [adoptRemoteSession_eq]

/-- **A session is superseded.** -/
theorem Retires.adopt (h : Retires s log) (hcurrent : log.current = s.remoteSessionId)
    (hnonzero : sessionId ≠ 0) (hlive : sessionId ∉ s.retiredSessions.toList)
    (hother : s.remoteSessionId ≠ sessionId) :
    Retires (s.adoptRemoteSession sessionId) (log.note sessionId) := by
  by_cases hzero : s.remoteSessionId = 0
  · have hretired : (s.adoptRemoteSession sessionId).retiredSessions = s.retiredSessions := by
      rw [adoptRemoteSession_retired]
      simp [retireRemoteSession, hzero]
    have hlog : (log.note sessionId).superseded = log.superseded := by
      simp [SessionLog.note, hnonzero, hcurrent, hzero]
    refine ⟨?_, ?_, ?_, ?_⟩
    · rw [hretired, hlog]
      exact h.ring
    · rw [hretired]
      exact h.nodup
    · rw [hretired]
      exact h.nonzero
    · rw [hretired, adoptRemoteSession_remote]
      exact hlive
  · have hretired : (s.adoptRemoteSession sessionId).retiredSessions
        = s.retiredSessions.remember s.remoteSessionId := by
      have hnew : s.isRetiredSession s.remoteSessionId = false := by
        rw [Bool.eq_false_iff, ne_eq, isRetiredSession_iff]
        exact fun hretired => h.other hretired.2
      rw [adoptRemoteSession_retired]
      simp [retireRemoteSession, rememberRetiredSession, hzero, hnew]
    have hlog : (log.note sessionId).superseded = log.superseded ++ [s.remoteSessionId] := by
      simp [SessionLog.note, hnonzero, hcurrent, hzero, Ne.symm hother]
    have hring : (s.adoptRemoteSession sessionId).retiredSessions.toList
        = (if s.retiredSessions.count < udpRetiredSessionDepth then s.retiredSessions.toList
            else s.retiredSessions.toList.tail) ++ [s.remoteSessionId] := by
      rw [hretired, RingBuffer.toList_remember]
    have hsub : ∀ x ∈ (if s.retiredSessions.count < udpRetiredSessionDepth
        then s.retiredSessions.toList else s.retiredSessions.toList.tail),
        x ∈ s.retiredSessions.toList := by
      intro x hx
      split_ifs at hx
      · exact hx
      · exact List.mem_of_mem_tail hx
    refine ⟨?_, ?_, ?_, ?_⟩
    · rw [hring, hlog, drop_concat _ _ _ (by decide), ← h.ring, RingBuffer.toList_length]
    · rw [hring]
      refine List.Nodup.append ?_ (List.nodup_singleton _) ?_
      · split_ifs
        · exact h.nodup
        · exact h.nodup.tail
      · intro x hx hx'
        rw [List.mem_singleton] at hx'
        exact h.other (hx' ▸ hsub x hx)
    · rw [hring, List.mem_append, List.mem_singleton, not_or]
      exact ⟨fun hx => h.nonzero (hsub 0 hx), fun heq => hzero heq.symm⟩
    · rw [hring, adoptRemoteSession_remote, List.mem_append, List.mem_singleton, not_or]
      exact ⟨fun hx => hlive (hsub _ hx), Ne.symm hother⟩

/-- What the watcher writes down of a session that stays changes nothing. -/
theorem inv_watched (hsame : SameSessions s s') (hi : sessionSetting.inv s ids ()) :
    sessionSetting.inv s' ids () := by
  show Retires s' (sessionLog (ids ++ [s'.remoteSessionId]))
  rw [hsame.remote]
  exact Retires.same hi hsame

theorem inv_written (hi : sessionSetting.inv s ids ()) :
    sessionSetting.inv s (ids ++ [s.remoteSessionId]) () := by
  show Retires s (sessionLog (ids ++ [s.remoteSessionId] ++ [s.remoteSessionId]))
  rw [sessionLog_concat, sessionLog_concat, note_note, ← sessionLog_concat]
  exact hi

theorem serves_sessionSetting (call : UdpCall) : Serves sessionSetting (fun _ _ => True) call where
  ask := by
    rintro s ids e q r ids' - hi rfl
    exact inv_written hi
  lasts := fun _ _ _ hs => hs
  emit := by
    rintro s ids e d r ids' - - hi - rfl
    exact ⟨inv_written hi, trivial⟩
  sending := fun _ hsend hi _ => ⟨inv_watched hsend.sessions hi, trivial⟩
  refresh := fun hchange hi _ => ⟨inv_watched hchange.sessions hi, trivial⟩
  change := fun _ hback hi _ => ⟨inv_watched hback.sessions hi, trivial⟩
  see := fun {s _ _} hi => inv_watched (s := s) ⟨rfl, rfl, rfl⟩ hi
  hear := fun now hi => inv_watched (.noteHeard _ now) hi
  note := fun {s _ _} _ _ hi => inv_watched (s := s) ⟨rfl, rfl, rfl⟩ hi
  notice := fun _ _ _ _ => trivial
  receive := by
    rintro s ids e source bytes ids' - hi - rfl
    exact ⟨inv_watched (s := s) ⟨rfl, rfl, rfl⟩ (inv_written hi), trivial⟩
  adopted := fun _ _ _ _ => trivial
  foreground := by
    intro s s' ids e hfore hi _
    refine ⟨?_, trivial⟩
    by_cases hcall : forgets call = false
    · exact inv_watched (hfore.sessions hcall) hi
    · cases hfore with
      | start _ now pid h | stop _ h | reset _ h => exact .forgotten rfl rfl
      | giveUp _ h => exact absurd (forgets_of_sends h) hcall
      | _ => exact absurd rfl hcall
  adopt := by
    rintro s ids ids' e e' source bytes sessionId - hi rfl hadopts -
    show Retires _ (sessionLog (ids ++ [s.remoteSessionId] ++ [_]))
    rw [sessionLog_concat, adoptRemoteSession_remote]
    have hreceived : SameSessions s (s.receiveDatagram source bytes) := ⟨rfl, rfl, rfl⟩
    refine Retires.adopt (Retires.same hi hreceived) ?_ hadopts.nonzero
      (fun hmem => ?_) hadopts.other
    · rw [sessionLog_concat]
      rfl
    · have hretired := (isRetiredSession_iff s sessionId).mpr ⟨hadopts.nonzero, hmem⟩
      rw [hadopts.current] at hretired
      cases hretired

/-- **How a session begins**: without a packet in progress, without remembered messages and
with the pending event to be sent from the start, but with what has been received. -/
structure Begins (s : UdpBackend) (sessionId : UInt64) (a : UdpBackend) : Prop where
  session : a.remoteSessionId = sessionId
  reassembly : a.reassembly.active = false
  recent : a.recentMessages.toList = []
  pending : a.pendingTxKind = s.pendingTxKind
  restarted : a.pendingTxKind ≠ .none → a.pendingTxRetries = 0 ∧ a.pendingTxFailed = false
  packet : a.pendingPacketValid = s.pendingPacketValid ∧ a.pendingPacket = s.pendingPacket
    ∧ a.pendingPacketTerminator = s.pendingPacketTerminator
  timeCodes : a.timeCodes = s.timeCodes

/-- **A keepalive of a new session adopts it at once.** -/
theorem processDatagram_adopts {bytes : Bytes} (h : Adopts s source bytes sessionId) (fuel : Nat) :
    ∃ a k, processDatagram fuel source (s.receiveDatagram source bytes) = .ask a .clock k
      ∧ Begins s sessionId a := by
  obtain ⟨header, hdecode, hlength, hlink, htype, rfl⟩ := h.keepalive
  obtain ⟨s', hs'⟩ : ∃ s', s' = s.receiveDatagram source bytes := ⟨_, rfl⟩
  have hsame : SameSessions s s' := hs' ▸ ⟨rfl, rfl, rfl⟩
  have hrx : s'.rxDatagram = bytes := by rw [hs']; rfl
  have hlive : ¬ (header.sessionId == 0 || s'.isRetiredSession header.sessionId) = true := by
    rw [Bool.or_eq_true, beq_iff_eq, not_or, isRetiredSession_iff, hsame.retired,
      ← isRetiredSession_iff]
    exact ⟨h.nonzero, Bool.eq_false_iff.mp h.current⟩
  have hhandled : processDatagram fuel source s' = processKeepalive header s' := by
    show (if !sourceMatches s'.config source then pure Result.ok else _ : Udp Result) s' = _
    rw [hsame.config, if_neg (by simp [h.source]), hrx, hdecode]
    dsimp only
    rw [if_neg (not_not.mpr hlength), if_neg (not_not.mpr hlink), if_pos htype]
  -- the session is adopted before the clock is read
  have hadopted : ∃ k, processKeepalive header s' = .ask
      { (if s'.remoteSessionId = header.sessionId then s'
          else s'.adoptRemoteSession header.sessionId) with peerSeen := true } .clock k := by
    show ∃ k, ((if (header.sessionId == 0 || s'.isRetiredSession header.sessionId) = true
      then pure false else _ : Udp Bool) s').bind _ = _
    rw [if_neg hlive]
    exact ⟨_, rfl⟩
  obtain ⟨k, hk⟩ := hadopted
  rw [hsame.remote, if_neg h.other, adoptRemoteSession_eq] at hk
  rw [← hs', hhandled]
  refine ⟨_, k, hk, ?_⟩
  refine ⟨rfl, rfl, rfl, ?_, fun hkind => ⟨if_pos hkind, if_pos hkind⟩, ?_, ?_⟩
  · rw [hs']
    rfl
  · rw [hs']
    exact ⟨rfl, rfl, rfl⟩
  · rw [hs']
    rfl

/-- **Superseded sessions stay dead.** In every run of a backend, the ring holds the last
eight sessions of the peer that were superseded since the link was started, and so a
session comes back only after eight others were superseded after it; and every session
begins with nothing left of the one before. -/
theorem superseded_sessions_stay_dead {config : UdpConfig} {object : UInt64}
    {socketOk bindOk : Bool} {b : UdpBackend}
    (hb : udpConstruct config object socketOk bindOk = (.ok, b)) {deeds : List Deed}
    {p : WatchedBackend (List UInt64)}
    (hrun : WatchedBackend.run noteSession deeds ⟨.idle b, [], []⟩ = some p) :
    Retires p.state (sessionLog (p.out ++ [p.state.remoteSessionId]))
      ∧ (∀ older younger, (sessionLog (p.out ++ [p.state.remoteSessionId])).superseded
          = older ++ p.state.remoteSessionId :: younger → udpRetiredSessionDepth ≤ younger.length)
      ∧ ∀ fuel source bytes sessionId, Adopts p.state source bytes sessionId →
        ∃ a k, processDatagram fuel source (p.state.receiveDatagram source bytes) = .ask a .clock k
          ∧ Begins p.state sessionId a := by
  have hretires : Retires p.state (sessionLog (p.out ++ [p.state.remoteSessionId])) := by
    refine (WatchedBackend.holds_run (S := sessionSetting) (e := ()) serves_sessionSetting
      (fun _ _ _ _ => rfl) ?_ hrun).inv
    refine ⟨?_, trivial⟩
    obtain rfl := (udpConstruct_ok hb).2
    exact .forgotten rfl rfl
  refine ⟨hretires, fun older younger hlog => ?_, fun fuel source bytes sessionId hadopts =>
    processDatagram_adopts hadopts fuel⟩
  by_contra hfew
  have hring := hretires.ring
  rw [hlog] at hring
  refine hretires.other ?_
  rw [hring, List.length_append, List.length_cons, List.drop_append_of_le_length (by omega)]
  exact List.mem_append_right _ List.mem_cons_self

/-- A backend is started and hears of two sessions of its peer. -/
def twoSessions : List Deed :=
  callAt 1000 .start 4 .wouldBlock ++ callAt 1000 .getLinkState 8 (sampleKeepalive 2 5)
    ++ callAt 1000 .getLinkState 8 (sampleKeepalive 2 7)

theorem superseded_sessions_stay_dead_two :
    ∃ p, WatchedBackend.run noteSession twoSessions
        ⟨.idle (udpConstruct .sample 0 true true).2, [], []⟩ = some p
      ∧ p.state.remoteSessionId = 7 ∧ p.state.retiredSessions.toList = [5]
      ∧ Retires p.state (sessionLog (p.out ++ [p.state.remoteSessionId])) := by
  have hrun : (WatchedBackend.run noteSession twoSessions
      ⟨.idle (udpConstruct .sample 0 true true).2, [], []⟩).map
        (fun p => (p.state.remoteSessionId, p.state.retiredSessions.toList)) = some (7, [5]) := by
    decide +kernel
  obtain ⟨p, hp, heq⟩ := Option.map_eq_some_iff.mp hrun
  obtain ⟨hremote, hretired⟩ := Prod.mk.inj heq
  exact ⟨p, hp, hremote, hretired, (superseded_sessions_stay_dead
    (show udpConstruct .sample 0 true true = (.ok, _) from rfl) hp).1⟩

/-! ## Sending an event within a session -/

/-- **The slot of the pending event.** The event went out at most once more than it was
retried, and one that has failed has used up its retries. -/
def Retried (s : UdpBackend) : Prop :=
  s.pendingTxRetries ≤ s.config.maxRetries
    ∧ s.pendingTxTransmissions ≤ s.pendingTxRetries.toNat + 1
    ∧ (s.pendingTxFailed = true →
      s.pendingTxKind ≠ .none ∧ s.pendingTxRetries = s.config.maxRetries)

theorem Retried.anew (hretries : s.pendingTxRetries = 0) (hsent : s.pendingTxTransmissions = 0)
    (hfailed : s.pendingTxFailed = false) : s.Retried := by
  simp [Retried, hretries, hsent, hfailed]

theorem Lasting.retried : Lasting Retried where
  sending := fun h hs => by cases h <;> exact hs
  refresh := fun h hs => by
    cases h with
    | lose =>
      rw [markPeerLost_eq]
      exact hs
    | _ => exact hs
  change := fun {s _} h hs => by
    cases h with
    | retry _ honce _ h =>
      have hnext : (s.pendingTxRetries + 1).toNat = s.pendingTxRetries.toNat + 1 :=
        (UInt16.toNat_add ..).trans
          (Nat.mod_eq_of_lt (Nat.lt_of_le_of_lt h s.config.maxRetries.toNat_lt))
      exact ⟨UInt16.le_iff_toNat_le.mpr (hnext.trans_le h),
        honce.trans (Nat.add_le_add_right (hs.2.1.trans_eq hnext.symm) 1),
        fun hfailed => absurd (hs.2.2 hfailed).2 (UInt16.ne_of_lt h)⟩
    | fail hkind h =>
      rw [failPending_eq]
      exact ⟨hs.1, hs.2.1, fun _ => ⟨hkind, UInt16.le_antisymm hs.1 h⟩⟩
    | acknowledge => exact .anew rfl rfl rfl
    | timeCode | whole | reassembled =>
      rw [rememberIf_eq]
      exact hs
    | _ => exact hs
  notice := fun now hs => by
    rw [notice_eq]
    exact hs
  receive := fun _ _ hs => hs
  adopt := fun {s} _ hs => by
    rw [adoptRemoteSession_eq]
    by_cases hkind : s.pendingTxKind = .none
    · simpa [Retried, hkind] using hs
    · exact .anew (if_pos hkind) (if_pos hkind) (if_pos hkind)

theorem serves_retried (call : UdpCall) :
    Serves sessionSetting (fun s _ => True ∧ s.Retried) call where
  toTolerates := (serves_sessionSetting call).toTolerates.and .retried
  foreground := fun {s _ _ _} h hi hs => by
    refine ⟨((serves_sessionSetting call).foreground h hi hs.1).1, trivial, ?_⟩
    -- a send leaves the flag of a failure alone, which is not set while the slot is empty
    have hfree : s.pendingTxKind = .none → s.pendingTxFailed = false := fun hidle =>
      Bool.eq_false_iff.mpr fun hfailed => (hs.2.2.2 hfailed).1 hidle
    cases h with
    | start | stop | reset | giveUp => exact .anew rfl rfl rfl
    | offerPacket _ terminator _ _ hidle =>
      refine .anew rfl rfl (Eq.trans ?_ (hfree hidle))
      show (s.effectiveTerminator terminator).2.pendingTxFailed = _
      unfold effectiveTerminator
      repeat' split
      all_goals rfl
    | offerTimeCode _ _ _ hidle => exact .anew rfl rfl (hfree hidle)
    | sentPacket _ _ honce | sentTimeCode _ _ honce =>
      exact ⟨hs.2.1, honce.trans (Nat.le_add_left ..), hs.2.2.2⟩
    | _ => exact hs.2

/-- **An event goes out a bounded number of times.** Between the calls of every run, the
pending event was sent at most once and then as often as it may be retried, since it was
offered or the peer began its present session. -/
theorem transmissions_bounded {config : UdpConfig} {object : UInt64} {socketOk bindOk : Bool}
    {deeds : List Deed} {p : WatchedBackend (List UInt64)}
    (hrun : WatchedBackend.run noteSession deeds
      ⟨.idle (udpConstruct config object socketOk bindOk).2, [], []⟩ = some p)
    (hidle : p.isIdle = true) : p.state.Retried := by
  refine ((WatchedBackend.holds_run (S := sessionSetting) (e := ()) serves_retried
    (fun _ _ _ _ => rfl) ?_ hrun).rest hidle).2
  unfold udpConstruct
  dsimp only
  split_ifs <;> exact ⟨.forgotten rfl rfl, trivial, .anew rfl rfl rfl⟩

/-- A time code is sent that nobody acknowledges. -/
def unanswered : List Deed :=
  twoSessions ++ callAt 1000 (.sendTimeCode ⟨5, 0⟩ 0) 14 .wouldBlock

theorem transmissions_bounded_unanswered :
    ∃ p, WatchedBackend.run noteSession unanswered
        ⟨.idle (udpConstruct .sample 0 true true).2, [], []⟩ = some p
      ∧ p.isIdle = true ∧ p.state.Retried := by
  have hrun : (WatchedBackend.run noteSession unanswered
      ⟨.idle (udpConstruct .sample 0 true true).2, [], []⟩).map (fun p => p.isIdle)
        = some true := by decide +kernel
  obtain ⟨p, hp, hidle⟩ := Option.map_eq_some_iff.mp hrun
  exact ⟨p, hp, hidle, transmissions_bounded hp hidle⟩

end UdpBackend
