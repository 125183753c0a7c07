import SpwKit.Virtual.Atomic

/-!
# The registry and the states of its links

Nothing recomputes the state of a link: each operation patches the states of the
two ends as it goes, and entries of the registry are taken and given back in any
order. `RegistryInvariant` says that all of it fits together in every world that
can be reached: the entries are those of the links that are in use, each endpoint
that is attached is that of one port, a port that cannot be opened is told so for
one of two reasons, and the state of an endpoint says which ends are started.
-/

open Interactive Core

namespace Simulator

/-! ## The states of the two ends -/

/-- **The state of an endpoint** fits which ends run: its own and the other one. -/
structure StateFits (own peer : EndpointState) : Prop where
  run : own.state = .run ↔ own.available = true ∧ peer.available = true
  connecting : own.state = .connecting ↔ own.available = true ∧ peer.available = false
  rest : own.available = false → own.state = .ready ∨ own.state = .errorReset

variable (link : VirtualLink)

/-- The states of a link fit. -/
def VirtualLink.StatesFit : Prop :=
  ∀ e, StateFits (link.endpoints e) (link.endpoints (peerIndex e))

variable {a b c : VirtualLink} {e : EndpointIndex} {f : EndpointState → EndpointState}
  {i : LinkIndex} {linkId : UInt64} {own' : EndpointState} {registry : Registry} {w : World}

variable {own peer : EndpointState}

theorem stateFits_run (hstate : own.state = .run)
    (hown : own.available = true) (hpeer : peer.available = true) : StateFits own peer := by
  refine ⟨?_, ?_, ?_⟩ <;> simp [hstate, hown, hpeer]

theorem stateFits_connecting (hstate : own.state = .connecting)
    (hown : own.available = true) (hpeer : peer.available = false) : StateFits own peer := by
  refine ⟨?_, ?_, ?_⟩ <;> simp [hstate, hown, hpeer]

theorem stateFits_rest (hown : own.available = false)
    (hstate : own.state = .ready ∨ own.state = .errorReset) : StateFits own peer := by
  rcases hstate with hstate | hstate <;> refine ⟨?_, ?_, ?_⟩ <;> simp [hstate, hown]

theorem statesFit_of_ends {link : VirtualLink} (e : EndpointIndex)
    (hown : StateFits (link.endpoints e) (link.endpoints (peerIndex e)))
    (hpeer : StateFits (link.endpoints (peerIndex e)) (link.endpoints e)) : link.StatesFit := by
  intro e'
  rcases eq_or_eq_peerIndex e e' with rfl | rfl
  · exact hown
  · rw [peerIndex_peerIndex]
    exact hpeer

/-- `refresh_link_states` sets the states of the ends that run. -/
theorem statesFit_refresh {link : VirtualLink}
    (h : ∀ e, (link.endpoints e).available = false →
      (link.endpoints e).state = .ready ∨ (link.endpoints e).state = .errorReset) :
    link.refreshLinkStates.StatesFit := by
  intro e
  have hstate : (link.refreshLinkStates.endpoints e).state
      = refreshedState (link.endpoints e) (link.endpoints (peerIndex e)) := rfl
  by_cases hown : (link.endpoints e).available = true
  · by_cases hpeer : (link.endpoints (peerIndex e)).available = true
    · exact stateFits_run (by rw [hstate]; simp [refreshedState, hown, hpeer]) hown hpeer
    · rw [Bool.not_eq_true] at hpeer
      exact stateFits_connecting (by rw [hstate]; simp [refreshedState, hown, hpeer]) hown hpeer
  · rw [Bool.not_eq_true] at hown
    refine stateFits_rest hown ?_
    rw [hstate]
    simpa [refreshedState, hown] using h e hown

/-- The end that stays when the other one stops. -/
theorem stateFits_disconnect (h : StateFits peer own)
    (hown : own'.available = false) : StateFits peer.disconnect own' := by
  unfold EndpointState.disconnect
  split_ifs with hpeer
  · exact stateFits_connecting rfl hpeer hown
  · rw [Bool.not_eq_true] at hpeer
    exact stateFits_rest hpeer (h.rest hpeer)

/-- The end that stays when the other one is reset or goes. -/
theorem stateFits_lose (h : StateFits peer own)
    (hown : own'.available = false) : StateFits peer.lose own' := by
  unfold EndpointState.lose
  split_ifs with hpeer
  · exact stateFits_connecting rfl hpeer hown
  · rw [Bool.not_eq_true] at hpeer
    exact stateFits_rest hpeer (h.rest hpeer)

theorem attached_disconnect (peer : EndpointState) : peer.disconnect.attached = peer.attached := by
  unfold EndpointState.disconnect
  split_ifs <;> rfl

theorem attached_lose (peer : EndpointState) : peer.lose.attached = peer.attached := by
  unfold EndpointState.lose
  split_ifs <;> rfl

/-! ## What a call does to the states -/

/-- The link is in the same entry, and the same ends are attached to it. -/
structure SameEntry (link link' : VirtualLink) : Prop where
  allocated : link'.allocated = link.allocated
  linkId : link'.linkId = link.linkId
  attached (e : EndpointIndex) : (link'.endpoints e).attached = (link.endpoints e).attached

theorem SameEntry.refl : SameEntry link link := ⟨rfl, rfl, fun _ => rfl⟩

theorem SameEntry.trans (h : SameEntry a b) (h' : SameEntry b c) : SameEntry a c :=
  ⟨h'.allocated.trans h.allocated, h'.linkId.trans h.linkId,
    fun e => (h'.attached e).trans (h.attached e)⟩

theorem SameEntry.update (e : EndpointIndex) (hf : ∀ x, (f x).attached = x.attached) :
    SameEntry link (link.update e f) := by
  refine ⟨rfl, rfl, fun e' => ?_⟩
  rcases eq_or_eq_peerIndex e e' with rfl | rfl
  · rw [VirtualLink.update_own, hf]
  · rw [VirtualLink.update_peer]

theorem SameEntry.refresh : SameEntry link link.refreshLinkStates :=
  ⟨rfl, rfl, fun _ => rfl⟩

/-- A change of an end that is not about its state. -/
theorem StatesFit.update {link : VirtualLink} (h : link.StatesFit) (e : EndpointIndex)
    (hstate : ∀ x, (f x).state = x.state) (havailable : ∀ x, (f x).available = x.available) :
    (link.update e f).StatesFit := by
  have hown := h e
  have hpeer := h (peerIndex e)
  rw [peerIndex_peerIndex] at hpeer
  refine statesFit_of_ends e ?_ ?_
  · rw [VirtualLink.update_own, VirtualLink.update_peer]
    exact ⟨by rw [hstate, havailable]; exact hown.run,
      by rw [hstate, havailable]; exact hown.connecting,
      by rw [hstate, havailable]; exact hown.rest⟩
  · rw [VirtualLink.update_own, VirtualLink.update_peer]
    exact ⟨by rw [havailable]; exact hpeer.run, by rw [havailable]; exact hpeer.connecting,
      hpeer.rest⟩

/-- The operation of a link keeps what is known of it. -/
structure Keeps (link link' : VirtualLink) : Prop where
  entry : SameEntry link link'
  states : link.StatesFit → link'.StatesFit

theorem Keeps.refl : Keeps link link := ⟨.refl link, id⟩

theorem Keeps.trans (h : Keeps a b) (h' : Keeps b c) : Keeps a c :=
  ⟨h.entry.trans h'.entry, h'.states ∘ h.states⟩

theorem Keeps.update (e : EndpointIndex) (hf : ∀ x, (f x).attached = x.attached
      ∧ (f x).started = x.started ∧ (f x).state = x.state) : Keeps link (link.update e f) :=
  ⟨.update link e fun x => (hf x).1, fun h => StatesFit.update h e (fun x => (hf x).2.2)
    fun x => by rw [EndpointState.available, (hf x).1, (hf x).2.1]; rfl⟩

theorem keeps_start {link : VirtualLink} (hattached : (link.endpoints e).attached = true) :
    Keeps link (link.start e).2 := by
  unfold VirtualLink.start
  rw [if_neg (by simp [hattached])]
  refine ⟨(SameEntry.update link e (by intro x; rfl)).trans (.refresh _),
    fun h => statesFit_refresh ?_⟩
  intro e'
  rcases eq_or_eq_peerIndex e e' with rfl | rfl
  · simp [EndpointState.available, hattached]
  · rw [VirtualLink.update_peer]
    exact (h (peerIndex e)).rest

theorem keeps_stop {link : VirtualLink} (hattached : (link.endpoints e).attached = true) :
    Keeps link (link.stop e).2 := by
  unfold VirtualLink.stop
  rw [if_neg (by simp [hattached])]
  refine ⟨(SameEntry.update link e (by intro x; rfl)).trans
    (.update _ _ attached_disconnect), fun h => statesFit_of_ends e ?_ ?_⟩
  · simp only [VirtualLink.update_peer_own, VirtualLink.update_own]
    exact stateFits_rest (by simp [EndpointState.available]) (.inl rfl)
  · simp only [VirtualLink.update_peer_own, VirtualLink.update_own, VirtualLink.update_peer]
    exact stateFits_disconnect (h (peerIndex e)) (by simp [EndpointState.available])

theorem keeps_reset {link : VirtualLink} (hattached : (link.endpoints e).attached = true) :
    Keeps link (link.reset e).2 := by
  unfold VirtualLink.reset
  rw [if_neg (by simp [hattached])]
  refine ⟨(SameEntry.update link e (by intro x; rfl)).trans
    (.update _ _ attached_lose), fun h => statesFit_of_ends e ?_ ?_⟩
  · simp only [VirtualLink.update_peer_own, VirtualLink.update_own]
    exact stateFits_rest (by simp [EndpointState.available]) (.inr rfl)
  · simp only [VirtualLink.update_peer_own, VirtualLink.update_own, VirtualLink.update_peer]
    exact stateFits_lose (h (peerIndex e)) (by simp [EndpointState.available])

theorem keeps_sendPacket (e : EndpointIndex) (packet : Packet) :
    Keeps link (link.sendPacket e packet) := by
  refine (Keeps.update link (peerIndex e) ?_).trans (.update _ e ?_)
  all_goals exact fun _ => ⟨rfl, rfl, rfl⟩

theorem keeps_takePacket (e : EndpointIndex) : Keeps link (link.takePacket e) :=
  .update link e fun _ => ⟨rfl, rfl, rfl⟩

theorem keeps_sendTimeCode (e : EndpointIndex) (code : TimeCode) :
    Keeps link (link.sendTimeCode e code) := by
  refine (Keeps.update link (peerIndex e) ?_).trans (.update _ e ?_)
  all_goals exact fun _ => ⟨rfl, rfl, rfl⟩

theorem keeps_takeTimeCode (e : EndpointIndex) : Keeps link (link.takeTimeCode e) :=
  .update link e fun _ => ⟨rfl, rfl, rfl⟩

/-- **A call keeps what is known of its link.** -/
theorem Effect.keeps {o o' : Opened Context} {call : Call} {reply : Reply}
    (h : Effect o call reply o') : Keeps o.context.link o'.context.link := by
  cases h with
  | start hattached => exact keeps_start hattached
  | stop hattached => exact keeps_stop hattached
  | reset hattached => exact keeps_reset hattached
  | clearStatistics =>
    exact .update _ _ (f := fun own => { own with statistics := {} }) fun _ => ⟨rfl, rfl, rfl⟩
  | sent | submitted => exact keeps_sendPacket _ _ _
  | received | acquiredRx => exact keeps_takePacket _ _
  | timeCodeSent => exact keeps_sendTimeCode _ _ _
  | timeCodeReceived => exact keeps_takeTimeCode _ _
  | _ => exact .refl _

/-! ## Entries of the registry -/

namespace Registry

variable (registry : Registry)

/-- An endpoint of an entry is attached. -/
def AttachedAt (i : LinkIndex) (e : EndpointIndex) : Prop :=
  ((registry i).endpoints e).attached = true

/-- A link has no entry. -/
def Unknown (linkId : UInt64) : Prop :=
  ∀ i, (registry i).allocated = true → (registry i).linkId ≠ linkId

/-- **The entries are those of the links that are in use**, and their states fit. -/
structure Sound : Prop where
  distinct (i j : LinkIndex) : (registry i).allocated = true → (registry j).allocated = true →
    (registry i).linkId = (registry j).linkId → i = j
  allocated (i : LinkIndex) : (registry i).allocated = true ↔ ∃ e, registry.AttachedAt i e
  states (i : LinkIndex) : (registry i).StatesFit

end Registry

/-- What attaching a backend comes to. -/
inductive Attaches (registry : Registry) (linkId : UInt64) (e : EndpointIndex) :
    Except Result LinkIndex × Registry → Prop
  /-- The endpoint of the link is another port's. -/
  | taken (i : LinkIndex) (hallocated : (registry i).allocated = true)
      (hid : (registry i).linkId = linkId) (hattached : registry.AttachedAt i e) :
      Attaches registry linkId e (.error .resourceExhausted, registry)
  /-- The link has no entry, and there is none for it. -/
  | full (hunknown : registry.Unknown linkId) (hfull : ∀ i, (registry i).allocated = true) :
      Attaches registry linkId e (.error .resourceExhausted, registry)
  /-- The link has an entry already. -/
  | joined (i : LinkIndex) (hallocated : (registry i).allocated = true)
      (hid : (registry i).linkId = linkId) (hattached : ¬ registry.AttachedAt i e) :
      Attaches registry linkId e
        (.ok i, Function.update registry i ((registry i).attach e))
  /-- The link gets an entry. -/
  | fresh (i : LinkIndex) (hunknown : registry.Unknown linkId)
      (hfree : (registry i).allocated = false) :
      Attaches registry linkId e (.ok i, Function.update registry i
        (VirtualLink.attach ⟨true, linkId, fun _ => resetEndpoint⟩ e))

theorem find_eq_some (h : registry.find linkId = some i) :
    (registry i).allocated = true ∧ (registry i).linkId = linkId := by
  simpa using List.find?_some h

theorem find_eq_none (h : registry.find linkId = none) : registry.Unknown linkId := by
  intro i hallocated hid
  have hnot := List.find?_eq_none.mp h i (List.mem_finRange i)
  simp [hallocated, hid] at hnot

theorem freeSlot_eq_some (h : registry.freeSlot = some i) : (registry i).allocated = false := by
  simpa using List.find?_some h

theorem freeSlot_eq_none (h : registry.freeSlot = none) (i : LinkIndex) :
    (registry i).allocated = true := by
  simpa using List.find?_eq_none.mp h i (List.mem_finRange i)

/-- `attach_backend`, by cases. -/
theorem attachBackend_attaches (registry : Registry) (linkId : UInt64) (e : EndpointIndex) :
    Attaches registry linkId e (attachBackend registry linkId e) := by
  unfold attachBackend
  cases hfind : registry.find linkId with
  | some i =>
    obtain ⟨hallocated, hid⟩ := find_eq_some hfind
    have htarget : (registry i).allocate linkId = registry i := by
      rw [VirtualLink.allocate, if_pos hallocated]
    simp only [Option.some_or, htarget, Function.update_eq_self]
    split_ifs with hattached
    · exact .taken i hallocated hid hattached
    · exact .joined i hallocated hid hattached
  | none =>
    have hunknown := find_eq_none hfind
    cases hslot : registry.freeSlot with
    | none => exact .full hunknown (freeSlot_eq_none hslot)
    | some i =>
      have hfree := freeSlot_eq_some hslot
      have htarget : (registry i).allocate linkId = ⟨true, linkId, fun _ => resetEndpoint⟩ := by
        rw [VirtualLink.allocate, if_neg (by simp [hfree])]
      simp only [Option.none_or, htarget]
      exact .fresh i hunknown hfree

/-! ## Attaching and detaching an end -/

section Ends

variable {link : VirtualLink} {e : EndpointIndex}

theorem statesFit_unused (linkId : UInt64) (allocated : Bool) :
    VirtualLink.StatesFit ⟨allocated, linkId, fun _ => resetEndpoint⟩ :=
  fun _ => stateFits_rest rfl (.inr rfl)

theorem statesFit_attach (h : link.StatesFit) : (link.attach e).StatesFit := by
  refine statesFit_refresh fun e' => ?_
  rcases eq_or_eq_peerIndex e e' with rfl | rfl
  · rw [VirtualLink.update_own]
    exact fun _ => .inr rfl
  · rw [VirtualLink.update_peer]
    exact (h (peerIndex e)).rest

theorem attached_attach (e' : EndpointIndex) : ((link.attach e).endpoints e').attached = true
    ↔ e' = e ∨ (link.endpoints e').attached = true := by
  show ((link.update e _).endpoints e').attached = true ↔ _
  rcases eq_or_eq_peerIndex e e' with rfl | rfl
  · simp
  · simp [peerIndex_ne]

/-- The link that an end has left, before it is given back. -/
def VirtualLink.left (link : VirtualLink) (e : EndpointIndex) : VirtualLink :=
  (link.update e fun _ => resetEndpoint).update (peerIndex e) EndpointState.lose

theorem left_own : (link.left e).endpoints e = resetEndpoint := by
  simp [VirtualLink.left]

theorem left_peer :
    (link.left e).endpoints (peerIndex e) = (link.endpoints (peerIndex e)).lose := by
  simp [VirtualLink.left]

/-- A link is given back where its other end is not attached. -/
theorem detach_eq : link.detach e =
    if (link.endpoints (peerIndex e)).attached = true then link.left e
    else VirtualLink.initial := by
  have hgone : (((link.left e).endpoints 0).attached = false
      ∧ ((link.left e).endpoints 1).attached = false)
        ↔ (link.endpoints (peerIndex e)).attached = false := by
    rw [both_ends (fun e' => ((link.left e).endpoints e').attached = false) e, left_own,
      left_peer, attached_lose]
    exact and_iff_right rfl
  show (if _ ∧ _ then VirtualLink.initial else link.left e) = _
  by_cases hpeer : (link.endpoints (peerIndex e)).attached = true
  · rw [if_pos hpeer, if_neg]
    exact fun h => by simp [hgone.mp h] at hpeer
  · rw [if_neg hpeer, if_pos]
    exact hgone.mpr (by simpa using hpeer)

theorem attached_detach (e' : EndpointIndex) : ((link.detach e).endpoints e').attached = true
    ↔ e' ≠ e ∧ (link.endpoints e').attached = true := by
  rw [detach_eq]
  rcases eq_or_eq_peerIndex e e' with rfl | rfl
  · split_ifs <;> simp [left_own, resetEndpoint, VirtualLink.initial]
  · split_ifs with hpeer
    · simp [left_peer, attached_lose, hpeer, peerIndex_ne]
    · simp [VirtualLink.initial, resetEndpoint, hpeer]

theorem statesFit_detach (h : link.StatesFit) : (link.detach e).StatesFit := by
  rw [detach_eq]
  split_ifs with hpeer
  · refine statesFit_of_ends e ?_ ?_
    · rw [left_own]
      exact stateFits_rest rfl (.inr rfl)
    · rw [left_own, left_peer]
      exact stateFits_lose (h (peerIndex e)) rfl
  · exact statesFit_unused 0 false

end Ends

/-! ## What keeps the registry sound -/

namespace Registry.Sound

variable {registry : Registry} (h : registry.Sound)

include h

variable {i : LinkIndex}

/-- An entry that is free has nobody attached. -/
theorem not_attachedAt_of_free (hfree : (registry i).allocated = false) (e : EndpointIndex) :
    ¬ registry.AttachedAt i e := by
  intro hattached
  have := (h.allocated i).mpr ⟨e, hattached⟩
  simp [hfree] at this

theorem keeps {link : VirtualLink} (hkeeps : Keeps (registry i) link) :
    Sound (Function.update registry i link) := by
  have hentry : ∀ j, SameEntry (registry j) (Function.update registry i link j) := by
    intro j
    by_cases hj : j = i
    · subst hj
      simpa using hkeeps.entry
    · simpa [hj] using SameEntry.refl (registry j)
  refine ⟨fun j k hj hk hid => ?_, fun j => ?_, fun j => ?_⟩
  · rw [(hentry j).allocated] at hj
    rw [(hentry k).allocated] at hk
    rw [(hentry j).linkId, (hentry k).linkId] at hid
    exact h.distinct j k hj hk hid
  · rw [(hentry j).allocated, h.allocated j]
    refine exists_congr fun e => ?_
    rw [AttachedAt, AttachedAt, (hentry j).attached]
  · by_cases hj : j = i
    · subst hj
      simpa using hkeeps.states (h.states j)
    · simpa [hj] using h.states j

/-- An endpoint is attached to an entry that its link has or gets. -/
theorem attach {link : VirtualLink} (e : EndpointIndex) (hallocated : link.allocated = true)
    (hstates : link.StatesFit)
    (hid : ∀ j, j ≠ i → (registry j).allocated = true → (registry j).linkId ≠ link.linkId) :
    Sound (Function.update registry i (link.attach e)) := by
  refine ⟨fun j k hj hk heq => ?_, fun j => ?_, fun j => ?_⟩
  · by_cases hji : j = i <;> by_cases hki : k = i
    · rw [hji, hki]
    · simp only [hji, Function.update_self, Function.update_of_ne hki] at heq hk
      exact absurd heq.symm (hid k hki hk)
    · simp only [hki, Function.update_self, Function.update_of_ne hji] at heq hj
      exact absurd heq (hid j hji hj)
    · simp only [Function.update_of_ne hji, Function.update_of_ne hki] at heq hj hk
      exact h.distinct j k hj hk heq
  · by_cases hji : j = i
    · subst hji
      simp only [AttachedAt, Function.update_self, attached_attach]
      exact ⟨fun _ => ⟨e, .inl rfl⟩, fun _ => hallocated⟩
    · simpa only [AttachedAt, Function.update_of_ne hji] using h.allocated j
  · by_cases hji : j = i
    · subst hji
      simpa using statesFit_attach hstates
    · simpa [hji] using h.states j

/-- An endpoint leaves its entry. -/
theorem detach (i : LinkIndex) (e : EndpointIndex) : Sound (detachBackend registry i e) := by
  have hentry : ∀ j, (detachBackend registry i e j).allocated = true →
      (registry j).allocated = true
        ∧ (detachBackend registry i e j).linkId = (registry j).linkId := by
    intro j hj
    by_cases hji : j = i
    · subst hji
      simp only [detachBackend, Function.update_self, detach_eq] at hj ⊢
      split_ifs at hj ⊢ with hpeer
      · exact ⟨hj, rfl⟩
      · exact absurd hj Bool.false_ne_true
    · simp only [detachBackend, Function.update_of_ne hji] at hj ⊢
      exact ⟨hj, trivial⟩
  refine ⟨fun j k hj hk heq => ?_, fun j => ?_, fun j => ?_⟩
  · obtain ⟨hj, hjid⟩ := hentry j hj
    obtain ⟨hk, hkid⟩ := hentry k hk
    rw [hjid, hkid] at heq
    exact h.distinct j k hj hk heq
  · by_cases hji : j = i
    · subst hji
      simp only [AttachedAt, detachBackend, Function.update_self, detach_eq]
      split_ifs with hpeer
      · refine ⟨fun _ => ⟨peerIndex e, ?_⟩, fun _ => (h.allocated j).mpr ⟨peerIndex e, hpeer⟩⟩
        rw [left_peer, attached_lose]
        exact hpeer
      · simp [VirtualLink.initial, resetEndpoint]
    · simpa only [AttachedAt, detachBackend, Function.update_of_ne hji] using h.allocated j
  · by_cases hji : j = i
    · subst hji
      simpa [detachBackend] using statesFit_detach (h.states j)
    · simpa [detachBackend, hji] using h.states j

end Registry.Sound

/-! ## Which port an endpoint is of -/

namespace Machine

/-- A port is at an endpoint of an entry. -/
def PortAt (m : Machine) (port : Nat) (i : LinkIndex) (e : EndpointIndex) : Prop :=
  ∃ o, m.ports port = some o ∧ o.context.backend.link = some i
    ∧ o.context.backend.endpointIndex = e

/-- **The registry is sound, and every endpoint that is attached is that of one port.** -/
structure Ordered (m : Machine) : Prop where
  sound : m.registry.Sound
  owned (i : LinkIndex) (e : EndpointIndex) : m.registry.AttachedAt i e ↔ ∃ port, m.PortAt port i e
  unique {i : LinkIndex} {e : EndpointIndex} {port port' : Nat} (h : m.PortAt port i e)
    (h' : m.PortAt port' i e) : port = port'

variable {i : LinkIndex} {m m' : Machine} {o : Opened Context} {registry : Registry}

theorem ordered_initial : initial.Ordered where
  sound := ⟨fun _ _ h => absurd h Bool.false_ne_true,
    fun _ => ⟨fun h => absurd h Bool.false_ne_true, fun ⟨_, h⟩ => absurd h Bool.false_ne_true⟩,
    fun _ => statesFit_unused 0 false⟩
  owned _ _ := ⟨fun h => absurd h Bool.false_ne_true, fun ⟨_, _, h, _⟩ => nomatch h⟩
  unique := fun ⟨_, h, _⟩ => nomatch h

/-- Ports that stay where they are. -/
theorem Ordered.keep (h : m.Ordered) (hsound : m'.registry.Sound)
    (hattached : ∀ i e, m'.registry.AttachedAt i e ↔ m.registry.AttachedAt i e)
    (hports : ∀ port i e, m'.PortAt port i e ↔ m.PortAt port i e) : m'.Ordered where
  sound := hsound
  owned i e := by
    rw [hattached, h.owned]
    exact exists_congr fun port => (hports port i e).symm
  unique {i e port port'} hp hp' := h.unique ((hports port i e).mp hp) ((hports port' i e).mp hp')

theorem portAt_update {port : Nat} {o : Option (Opened Context)} (p : Nat) (i : LinkIndex)
    (e : EndpointIndex) :
    PortAt ⟨registry, Function.update m.ports port o⟩ p i e ↔
      if p = port then ∃ o', o = some o' ∧ o'.context.backend.link = some i
        ∧ o'.context.backend.endpointIndex = e
      else m.PortAt p i e := by
  unfold PortAt
  split_ifs with hp
  · subst hp
    simp
  · simp [hp]

/-- A port that is replaced by one at the same place. -/
theorem portAt_samePlace {port : Nat} {o' : Opened Context} (hport : m.ports port = some o)
    (hplace : SamePlace o.context.backend o'.context.backend) (p : Nat) (i : LinkIndex)
    (e : EndpointIndex) :
    PortAt ⟨registry, Function.update m.ports port (some o')⟩ p i e ↔ m.PortAt p i e := by
  rw [portAt_update]
  split_ifs with hp
  · subst hp
    simp [PortAt, hport, hplace.link, hplace.endpointIndex]
  · rfl

/-- A port is opened at an endpoint that nobody had. -/
theorem Ordered.join (h : m.Ordered) {port : Nat} {e : EndpointIndex}
    (hport : m.ports port = none) (hlink : o.context.backend.link = some i)
    (hend : o.context.backend.endpointIndex = e) (hfree : ¬ m.registry.AttachedAt i e)
    (hsound : registry.Sound) (hattached : ∀ i' e', registry.AttachedAt i' e'
      ↔ (i' = i ∧ e' = e) ∨ m.registry.AttachedAt i' e') :
    Ordered ⟨registry, Function.update m.ports port (some o)⟩ := by
  have hat : ∀ p i' e', PortAt ⟨registry, Function.update m.ports port (some o)⟩ p i' e'
      ↔ (p = port ∧ i' = i ∧ e' = e) ∨ m.PortAt p i' e' := by
    intro p i' e'
    rw [portAt_update]
    split_ifs with hp
    · subst hp
      simp [PortAt, hport, hlink, hend, eq_comm]
    · simp [hp]
  refine ⟨hsound, fun i' e' => ?_, fun {i' e' p p'} hp hp' => ?_⟩
  · rw [hattached, h.owned]
    simp only [hat]
    constructor
    · rintro (hplace | ⟨p, hp⟩)
      · exact ⟨port, .inl ⟨rfl, hplace⟩⟩
      · exact ⟨p, .inr hp⟩
    · rintro ⟨p, ⟨-, hplace⟩ | hp⟩
      · exact .inl hplace
      · exact .inr ⟨p, hp⟩
  · rw [hat] at hp hp'
    rcases hp with ⟨rfl, rfl, rfl⟩ | hp <;> rcases hp' with ⟨rfl, hplace⟩ | hp'
    · rfl
    · exact absurd ((h.owned _ _).mpr ⟨p', hp'⟩) hfree
    · obtain ⟨rfl, rfl⟩ := hplace
      exact absurd ((h.owned _ _).mpr ⟨p, hp⟩) hfree
    · exact h.unique hp hp'

/-- A port leaves its endpoint. -/
theorem Ordered.leave (h : m.Ordered) {port : Nat} (hport : m.ports port = some o)
    (hlink : o.context.backend.link = some i) :
    Ordered ⟨detachBackend m.registry i o.context.backend.endpointIndex,
      Function.update m.ports port none⟩ := by
  have hat : ∀ p i' e', PortAt ⟨detachBackend m.registry i o.context.backend.endpointIndex,
      Function.update m.ports port none⟩ p i' e' ↔ p ≠ port ∧ m.PortAt p i' e' := by
    intro p i' e'
    rw [portAt_update]
    split_ifs with hp <;> simp [hp]
  have hattached : ∀ i' e',
      Registry.AttachedAt (detachBackend m.registry i o.context.backend.endpointIndex) i' e'
        ↔ ¬ (i' = i ∧ e' = o.context.backend.endpointIndex) ∧ m.registry.AttachedAt i' e' := by
    intro i' e'
    by_cases hi : i' = i
    · subst hi
      simp [Registry.AttachedAt, detachBackend, attached_detach]
    · simp [Registry.AttachedAt, detachBackend, hi]
  have hown : m.PortAt port i o.context.backend.endpointIndex := ⟨o, hport, hlink, rfl⟩
  refine ⟨h.sound.detach _ _, fun i' e' => ?_, fun hp hp' => ?_⟩
  · rw [hattached, h.owned]
    simp only [hat]
    constructor
    · rintro ⟨hother, p, hp⟩
      refine ⟨p, fun hpp => hother ?_, hp⟩
      subst hpp
      obtain ⟨o', ho', hlink', hend'⟩ := hp
      obtain rfl : o = o' := Option.some.inj (hport.symm.trans ho')
      exact ⟨Option.some.inj (hlink'.symm.trans hlink), hend'.symm⟩
    · rintro ⟨p, hne, hp⟩
      refine ⟨?_, p, hp⟩
      rintro ⟨rfl, rfl⟩
      exact hne (h.unique hp hown)
  · exact h.unique ((hat _ _ _).mp hp).2 ((hat _ _ _).mp hp').2

/-- **Every action keeps the machine in order.** -/
theorem Ordered.step (h : m.Ordered) {a : Action} {outcome : Outcome}
    (hstep : m.Step a outcome m') : m'.Ordered := by
  cases hstep with
  | silent => exact h
  | opened port linkId e i registry hport hattach =>
    have hcases := attachBackend_attaches m.registry linkId e
    rw [hattach] at hcases
    cases hcases with
    | joined _ hallocated hid hfree =>
      refine h.join (e := e) hport rfl rfl hfree
        (h.sound.attach e hallocated (h.sound.states i) ?_) ?_
      · exact fun j hji hj heq => hji (h.sound.distinct j i hj hallocated heq)
      · intro i' e'
        by_cases hi : i' = i
        · subst hi
          simp [Registry.AttachedAt, attached_attach]
        · simp [Registry.AttachedAt, hi]
    | fresh _ hunknown hfree =>
      have hnobody := h.sound.not_attachedAt_of_free hfree
      refine h.join (e := e) hport rfl rfl (hnobody e)
        (h.sound.attach e rfl (statesFit_unused linkId true) fun j _ => hunknown j) ?_
      intro i' e'
      by_cases hi : i' = i
      · subst hi
        have hnone := hnobody e'
        simp only [Registry.AttachedAt, Function.update_self, attached_attach] at hnone ⊢
        simp [hnone, resetEndpoint]
      · simp [Registry.AttachedAt, hi]
  | notOpened port linkId e result registry hport hattach =>
    have hcases := attachBackend_attaches m.registry linkId e
    rw [hattach] at hcases
    cases hcases <;> exact h
  | closed port o i hport hlink => exact h.leave hport hlink
  | returned a port call reply o o' i hport hlink heffect =>
    have hkeeps : Keeps (m.registry i) o'.context.link := heffect.keeps
    refine h.keep (h.sound.keeps hkeeps) (fun i' e' => ?_)
      (portAt_samePlace hport heffect.samePlace)
    by_cases hi : i' = i
    · subst hi
      simp [Registry.AttachedAt, hkeeps.entry.attached]
    · simp [Registry.AttachedAt, hi]
  | filled port ref data o hport howned =>
    exact h.keep h.sound (fun _ _ => Iff.rfl)
      (portAt_samePlace hport ((SamePlace.refl _).store ref _))

theorem Reachable.ordered (h : m.Reachable) : m.Ordered := by
  induction h with
  | initial => exact ordered_initial
  | step _ hstep ih => exact ih.step hstep

end Machine

/-! ## The ports with their waits -/

variable {fuel : Nat}

/-- A port that is open, in a call or not, is at an endpoint of an entry. -/
def World.PortAt (w : World) (port : Nat) (i : LinkIndex) (e : EndpointIndex) : Prop :=
  ∃ activity, w.ports port = some activity
    ∧ activity.state.context.backend.link = some i
    ∧ activity.state.context.backend.endpointIndex = e

theorem World.Fits.portAt_iff (h : w.Fits) (port : Nat) (i : LinkIndex) (e : EndpointIndex) :
    w.PortAt port i e ↔ w.machine.PortAt port i e := by
  unfold World.PortAt Machine.PortAt World.machine World.before
  cases hw : w.ports port with
  | none => simp [hw]
  | some activity =>
    have hplace := (h port activity hw).samePlace
    simp [hw, hplace.link, hplace.endpointIndex]

/-- **The registry and the states of its links.** -/
structure RegistryInvariant (fuel : Nat) (w : World) : Prop where
  /-- No two entries are of one link. -/
  distinct (i j : LinkIndex) : (w.registry i).allocated = true →
    (w.registry j).allocated = true → (w.registry i).linkId = (w.registry j).linkId → i = j
  /-- An entry is taken while one of its ends is attached. -/
  allocated (i : LinkIndex) : (w.registry i).allocated = true
    ↔ ∃ e, ((w.registry i).endpoints e).attached = true
  /-- An endpoint that is attached is that of one port. -/
  owner (i : LinkIndex) (e : EndpointIndex) : ((w.registry i).endpoints e).attached = true →
    ∃! port, w.PortAt port i e
  /-- A port cannot be opened where its endpoint is another's or there is no entry left. -/
  exhausted (port : Nat) (linkId : UInt64) (e : EndpointIndex) : w.ports port = none →
    ((w.step fuel (.open port linkId e)).2 = .opened port .resourceExhausted ↔
      (∃ i, (w.registry i).allocated = true ∧ (w.registry i).linkId = linkId
        ∧ ((w.registry i).endpoints e).attached = true)
      ∨ ((∀ i, (w.registry i).allocated = true → (w.registry i).linkId ≠ linkId)
        ∧ ∀ i, (w.registry i).allocated = true))
  /-- An endpoint runs where both ends are attached and started. -/
  run (i : LinkIndex) (e : EndpointIndex) : ((w.registry i).endpoints e).state = .run
    ↔ ∀ e', ((w.registry i).endpoints e').attached = true
      ∧ ((w.registry i).endpoints e').started = true
  /-- It connects where it is attached and started, and the other end is not. -/
  connecting (i : LinkIndex) (e : EndpointIndex) :
    ((w.registry i).endpoints e).state = .connecting
      ↔ (((w.registry i).endpoints e).attached = true ∧ ((w.registry i).endpoints e).started = true)
        ∧ ¬ (((w.registry i).endpoints (peerIndex e)).attached = true
          ∧ ((w.registry i).endpoints (peerIndex e)).started = true)
  /-- Otherwise it is ready or in reset. -/
  rest (i : LinkIndex) (e : EndpointIndex) :
    ¬ (((w.registry i).endpoints e).attached = true ∧ ((w.registry i).endpoints e).started = true) →
      ((w.registry i).endpoints e).state = .ready ∨ ((w.registry i).endpoints e).state = .errorReset

theorem exhausted_iff (h : w.machine.Ordered) {port : Nat} (linkId : UInt64) (e : EndpointIndex)
    (hport : w.ports port = none) :
    (w.step fuel (.open port linkId e)).2 = .opened port .resourceExhausted ↔
      (∃ i, (w.registry i).allocated = true ∧ (w.registry i).linkId = linkId
        ∧ ((w.registry i).endpoints e).attached = true)
      ∨ ((∀ i, (w.registry i).allocated = true → (w.registry i).linkId ≠ linkId)
        ∧ ∀ i, (w.registry i).allocated = true) := by
  have hstep : (w.step fuel (.open port linkId e)).2 = (w.openPort port linkId e).2 := by
    rw [World.step, hport]
  rw [hstep, World.openPort]
  have hcases := attachBackend_attaches w.registry linkId e
  generalize attachBackend w.registry linkId e = out at hcases ⊢
  cases hcases with
  | taken i hallocated hid hattached =>
    exact ⟨fun _ => .inl ⟨i, hallocated, hid, hattached⟩, fun _ => rfl⟩
  | full hunknown hfull => exact ⟨fun _ => .inr ⟨hunknown, hfull⟩, fun _ => rfl⟩
  | joined i hallocated hid hfree =>
    refine ⟨fun heq => by simp at heq, ?_⟩
    rintro (⟨j, hj, hjid, hattached⟩ | ⟨hunknown, -⟩)
    · obtain rfl : j = i := h.sound.distinct j i hj hallocated (hjid.trans hid.symm)
      exact absurd hattached hfree
    · exact absurd hid (hunknown i hallocated)
  | fresh i hunknown hfree =>
    refine ⟨fun heq => by simp at heq, ?_⟩
    rintro (⟨j, hj, hjid, -⟩ | ⟨-, hfull⟩)
    · exact absurd hjid (hunknown j hj)
    · simp [hfull i] at hfree

theorem available_iff (endpoint : EndpointState) :
    endpoint.available = true ↔ endpoint.attached = true ∧ endpoint.started = true := by
  simp [EndpointState.available]

theorem available_eq_false_iff (endpoint : EndpointState) :
    endpoint.available = false ↔ ¬ (endpoint.attached = true ∧ endpoint.started = true) := by
  rw [← available_iff, Bool.not_eq_true]

/-- **In every world that ports can reach**, opened, closed, started, stopped and reset in any
order, in calls that wait and are overtaken, the registry and the states of its links fit
together. -/
theorem registry_invariant {w : World} (hreachable : Reachable fuel w) :
    RegistryInvariant fuel w := by
  have h := hreachable.machine.ordered
  have hports := hreachable.fits.portAt_iff
  refine ⟨h.sound.distinct, h.sound.allocated, ?_,
    fun port linkId e hport => exhausted_iff h linkId e hport, ?_, ?_, ?_⟩
  · intro i e hattached
    obtain ⟨port, hport⟩ := (h.owned i e).mp hattached
    refine ⟨port, (hports port i e).mpr hport, fun port' hport' => ?_⟩
    exact h.unique ((hports port' i e).mp hport') hport
  · intro i e
    refine (h.sound.states i e).run.trans ?_
    rw [available_iff, available_iff]
    constructor
    · rintro ⟨hown, hpeer⟩ e'
      rcases eq_or_eq_peerIndex e e' with rfl | rfl
      · exact hown
      · exact hpeer
    · exact fun hall => ⟨hall e, hall (peerIndex e)⟩
  · intro i e
    refine (h.sound.states i e).connecting.trans ?_
    rw [available_iff, available_eq_false_iff]
    rfl
  · intro i e hown
    exact (h.sound.states i e).rest ((available_eq_false_iff _).mpr hown)

/-- Two ports that are started run. -/
theorem registry_invariant_startPair :
    Reachable 1 (World.after 1 startPair) ∧ RegistryInvariant 1 (World.after 1 startPair)
      ∧ (((World.after 1 startPair).registry ⟨0, by decide⟩).endpoints 1).state = .run :=
  ⟨reachable_after 1 startPair, registry_invariant (reachable_after 1 startPair), by decide +kernel⟩

end Simulator
