import SpwKit.Virtual.Fifos

/-!
# Zero-copy buffers of the simulator have one owner

A backend has eight descriptors for sending and one for receiving. Who owns one is
written in its state, which six calls change, one of them marking it as the
backend's while it waits for the other port. Between its calls a port has each of
them free, with the application, or completed (`BuffersFit`); what a call does to
them is `OwnershipStep`; and over a whole run every packet that was submitted
comes back as one completion, unless a reset comes first (`Tally`).
-/

open Interactive Core

namespace Simulator

/-! ## Between calls -/

/-- A descriptor of a port. -/
def bufferOf (o : Opened Context) (ref : BufferRef) : Buffer Storage := o.context.backend.load ref

/-- The application owns a descriptor, as the port decides it. -/
def owns (o : Opened Context) (ref : BufferRef) : Bool :=
  o.port.applicationOwned (bufferOf o ref)

/-- What a descriptor is for. -/
def BufferRef.direction : BufferRef → BufferDirection
  | .tx _ => .tx
  | .rx => .rx

/-- The states a descriptor has between calls. -/
def BufferRef.AtRest (acquired : Bool) : BufferRef → BufferState → Prop
  | .tx _, state => state ≠ .backend
  | .rx, state => state = if acquired then .application else .free

/-- **What is known of a descriptor** between calls. -/
structure BufferFits (port : Port) (acquired : Bool) (ref : BufferRef) (buffer : Buffer Storage) :
    Prop where
  owner : buffer.owner = true
  direction : buffer.direction = some ref.direction
  rest : ref.AtRest acquired buffer.state
  bound : buffer.state = .application →
    buffer.ownerEpoch = true ∧ buffer.epoch = port.ownershipEpoch

/-- What is known of the descriptors of a port. -/
def BuffersFit (o : Opened Context) : Prop :=
  ∀ ref, BufferFits o.port o.context.backend.rxBufferAcquired ref (bufferOf o ref)

section Fits

variable {o : Opened Context} (h : BuffersFit o)

include h

variable {ref : BufferRef}

/-- What is in the application's state is the application's. -/
theorem BuffersFit.owns_iff (ref : BufferRef) :
    owns o ref = true ↔ (bufferOf o ref).state = .application := by
  constructor
  · intro howns
    simp only [owns, Port.applicationOwned, Bool.and_eq_true, decide_eq_true_eq] at howns
    exact howns.1.1
  · intro hstate
    obtain ⟨howner, hepoch⟩ := (h ref).bound hstate
    simp [owns, Port.applicationOwned, hstate, howner, hepoch]

theorem BuffersFit.rx_iff : owns o .rx = true ↔ o.context.backend.rxBufferAcquired = true := by
  have hrest : (bufferOf o .rx).state
      = if o.context.backend.rxBufferAcquired then .application else .free := (h .rx).rest
  rw [h.owns_iff, hrest]
  cases o.context.backend.rxBufferAcquired <;> simp

theorem BuffersFit.rx_free (hfree : o.context.backend.rxBufferAcquired = false) :
    (bufferOf o .rx).state = .free := by
  have hrest : (bufferOf o .rx).state
      = if o.context.backend.rxBufferAcquired then .application else .free := (h .rx).rest
  rw [hrest, hfree]
  rfl

theorem BuffersFit.tx_cases (i : Fin packetQueueDepth) :
    (bufferOf o (.tx i)).state = .free ∨ owns o (.tx i) = true
      ∨ (bufferOf o (.tx i)).state = .completed := by
  have hrest : (bufferOf o (.tx i)).state ≠ .backend := (h (.tx i)).rest
  rw [h.owns_iff]
  cases hstate : (bufferOf o (.tx i)).state with
  | free => exact .inl rfl
  | application => exact .inr (.inl rfl)
  | backend => exact absurd hstate hrest
  | completed => exact .inr (.inr rfl)

/-- Only a descriptor for sending is held for sending. -/
theorem BuffersFit.tx_of_direction (hdirection : (bufferOf o ref).direction = some .tx) :
    ∃ i, ref = .tx i := by
  rw [(h ref).direction] at hdirection
  cases ref with
  | tx i => exact ⟨i, rfl⟩
  | rx => exact absurd hdirection (by decide)

theorem BuffersFit.tx_of_heldFor (hheld : heldFor .tx (o.context.backend.load ref) = true) :
    ∃ i, ref = .tx i := by
  refine h.tx_of_direction ?_
  simp only [heldFor, Bool.and_eq_true, decide_eq_true_eq] at hheld
  exact hheld.1.2

end Fits

/-! ## What a call does -/

/-- A call that has to do with descriptors and may change them. -/
def touchesBuffers : Call → Bool
  | .reset | .setPacket _ _ _ | .acquireTx _ _ | .submitTx _ _ | .reclaimTx _ | .releaseTx _
  | .acquireRx _ | .releaseRx _ => true
  | _ => false

/-- The other descriptors are as they were. -/
def OthersSame (o o' : Opened Context) (ref : BufferRef) : Prop :=
  ∀ ref', ref' ≠ ref → bufferOf o' ref' = bufferOf o ref'

/-- **What a call does to the descriptors.** -/
inductive OwnershipStep (o o' : Opened Context) : Call → Reply → Prop
  /-- A call that fails leaves every descriptor, who owns it and the caller's pointer. -/
  | failed (call : Call) (reply : Reply) (hresult : reply.result ≠ .ok)
      (hbuffers : ∀ ref, bufferOf o' ref = bufferOf o ref) (howns : ∀ ref, owns o' ref = owns o ref)
      (hhandle : reply.handle = call.handedIn) : OwnershipStep o o' call reply
  | acquired (minCapacity : Nat) (timeoutUs : Timeout) (i : Fin packetQueueDepth)
      (hfree : (bufferOf o (.tx i)).state = .free) (hnot : owns o (.tx i) = false)
      (howned : owns o' (.tx i) = true) (hothers : OthersSame o o' (.tx i)) :
      OwnershipStep o o' (.acquireTx minCapacity timeoutUs)
        { result := .ok, handle := some (.own (.tx i)) }
  | submitted (i : Fin packetQueueDepth) (timeoutUs : Timeout) (howned : owns o (.tx i) = true)
      (hcompleted : bufferOf o' (.tx i) = { bufferOf o (.tx i) with state := .completed })
      (hothers : OthersSame o o' (.tx i)) :
      OwnershipStep o o' (.submitTx (some (.own (.tx i))) timeoutUs) { result := .ok }
  | reclaimed (timeoutUs : Timeout) (i : Fin packetQueueDepth)
      (hcompleted : (bufferOf o (.tx i)).state = .completed) (hnot : owns o (.tx i) = false)
      (howned : owns o' (.tx i) = true) (hothers : OthersSame o o' (.tx i)) :
      OwnershipStep o o' (.reclaimTx timeoutUs)
        { result := .ok, handle := some (.own (.tx i)) }
  | released (i : Fin packetQueueDepth) (howned : owns o (.tx i) = true)
      (hfree : (bufferOf o' (.tx i)).state = .free) (hothers : OthersSame o o' (.tx i)) :
      OwnershipStep o o' (.releaseTx (some (.own (.tx i)))) { result := .ok }
  | acquiredRx (timeoutUs : Timeout) (hfree : (bufferOf o .rx).state = .free)
      (hnot : owns o .rx = false) (howned : owns o' .rx = true) (hothers : OthersSame o o' .rx) :
      OwnershipStep o o' (.acquireRx timeoutUs) { result := .ok, handle := some (.own .rx) }
  | releasedRx (howned : owns o .rx = true) (hfree : (bufferOf o' .rx).state = .free)
      (hothers : OthersSame o o' .rx) :
      OwnershipStep o o' (.releaseRx (some (.own .rx))) { result := .ok }
  | written (i : Fin packetQueueDepth) (length : Nat) (terminator : UInt8)
      (howned : owns o (.tx i) = true)
      (hwritten : bufferOf o' (.tx i)
        = { bufferOf o (.tx i) with length := length, terminator := terminator })
      (hothers : OthersSame o o' (.tx i)) :
      OwnershipStep o o' (.setPacket (.tx i) length terminator) { result := .ok }
  | reset (hfree : ∀ ref, (bufferOf o' ref).state = .free) :
      OwnershipStep o o' .reset { result := .ok }
  /-- A call that is not about descriptors leaves them. -/
  | other (call : Call) (reply : Reply) (hcall : touchesBuffers call = false)
      (hbuffers : ∀ ref, bufferOf o' ref = bufferOf o ref)
      (howns : ∀ ref, owns o' ref = owns o ref) : OwnershipStep o o' call reply

/-! ## A descriptor is changed -/

section Stores

variable {o : Opened Context} {c : Context} {ref : BufferRef} {x : Buffer Storage}

variable {o' : Opened Context}

theorem bufferOf_setBuffer (port : Port) : bufferOf ⟨port, c.setBuffer ref x⟩ ref = x :=
  load_store_self c.backend ref x

theorem othersSame_setBuffer (hc : c.backend = o.context.backend) :
    OthersSame o ⟨o.port, c.setBuffer ref x⟩ ref := by
  intro ref' href
  rw [bufferOf, bufferOf, ← hc]
  exact load_store_of_ne c.backend x href

theorem BuffersFit.setBuffer (h : BuffersFit o) (hc : c.backend = o.context.backend)
    (hx : BufferFits o.port o.context.backend.rxBufferAcquired ref x) :
    BuffersFit ⟨o.port, c.setBuffer ref x⟩ := by
  have hacquired : (c.setBuffer ref x).backend.rxBufferAcquired
      = o.context.backend.rxBufferAcquired := by
    rw [← hc]
    cases ref <;> rfl
  intro ref'
  rw [hacquired]
  by_cases href : ref' = ref
  · subst href
    rw [bufferOf_setBuffer]
    exact hx
  · rw [othersSame_setBuffer hc ref' href]
    exact h ref'

theorem othersSame_setRx (acquired : Bool) (port : Port) (link : VirtualLink) :
    OthersSame o ⟨port, ⟨o.context.backend.setRx acquired x, link⟩⟩ .rx := by
  intro ref' href
  cases ref' with
  | tx i => rfl
  | rx => exact absurd rfl href

theorem BuffersFit.setRx (h : BuffersFit o) {acquired : Bool} (link : VirtualLink)
    (hx : BufferFits o.port acquired .rx x) :
    BuffersFit ⟨o.port, ⟨o.context.backend.setRx acquired x, link⟩⟩ := by
  intro ref'
  cases ref' with
  | rx => exact hx
  | tx i =>
    have htx := h (.tx i)
    exact ⟨htx.owner, htx.direction, htx.rest, htx.bound⟩

/-- The descriptors are not touched, and the epoch is the same. -/
theorem BuffersFit.same (h : BuffersFit o) (hbackend : o'.context.backend = o.context.backend)
    (hepoch : o'.port.ownershipEpoch = o.port.ownershipEpoch) :
    BuffersFit o' ∧ (∀ ref, bufferOf o' ref = bufferOf o ref)
      ∧ ∀ ref, owns o' ref = owns o ref := by
  have hbuffers : ∀ ref, bufferOf o' ref = bufferOf o ref := fun ref => by
    rw [bufferOf, bufferOf, hbackend]
  refine ⟨fun ref => ?_, hbuffers, fun ref => ?_⟩
  · rw [hbackend, hbuffers]
    exact ⟨(h ref).owner, (h ref).direction, (h ref).rest, by rw [hepoch]; exact (h ref).bound⟩
  · rw [owns, owns, hbuffers, Port.applicationOwned, Port.applicationOwned, hepoch]

/-- A call that is not about descriptors. -/
theorem BuffersFit.other (h : BuffersFit o) {call : Call} {reply : Reply}
    (hcall : touchesBuffers call = false) (hbackend : o'.context.backend = o.context.backend)
    (hepoch : o'.port.ownershipEpoch = o.port.ownershipEpoch) :
    BuffersFit o' ∧ OwnershipStep o o' call reply := by
  obtain ⟨hfit, hbuffers, howns⟩ := h.same hbackend hepoch
  exact ⟨hfit, .other call reply hcall hbuffers howns⟩

/-- A descriptor that is bound to the port is the application's. -/
theorem owns_bind (hstate : x.state = .application) :
    owns ⟨o.port, c.setBuffer ref (o.port.bindBufferEpoch x)⟩ ref = true := by
  rw [owns, bufferOf_setBuffer]
  simp [Port.applicationOwned, Port.bindBufferEpoch, hstate]

theorem not_owns_of_state {state : BufferState} (hstate : (bufferOf o ref).state = state)
    (hne : state ≠ .application) : owns o ref = false := by
  simp [owns, Port.applicationOwned, hstate, hne]

end Stores

variable {a : Action} {fuel : Nat} {i j : Fin packetQueueDepth} {log : List Outcome}
  {m m' : Machine} {o o' : Opened Context} {outcome : Outcome} {ref : BufferRef} {w : World}

theorem buffersFit_initialize (o : Opened Context) (port : Port) (link : VirtualLink) :
    BuffersFit ⟨port, ⟨o.context.backend.initializeZeroCopyBuffers, link⟩⟩
      ∧ ∀ ref, (bufferOf ⟨port, ⟨o.context.backend.initializeZeroCopyBuffers, link⟩⟩ ref).state
        = .free := by
  refine ⟨fun ref => ?_, fun ref => by cases ref <;> rfl⟩
  cases ref with
  | tx i => exact ⟨rfl, rfl, nofun, nofun⟩
  | rx => exact ⟨rfl, rfl, rfl, nofun⟩

/-- **A call keeps the descriptors in order**, and does to them what it should. -/
theorem Effect.ownership {link : VirtualLink} {call : Call} {reply : Reply}
    (h : Effect (seeing o link) call reply o') (hfit : BuffersFit o) :
    BuffersFit o' ∧ OwnershipStep o o' call reply := by
  cases h with
  | refused _ _ hresult hhandle =>
    exact ⟨hfit, .failed _ _ hresult (fun _ => rfl) (fun _ => rfl) hhandle⟩
  | rxReturned timeoutUs result hresult hfree =>
    -- the buffer was free already
    replace hfree : o.context.backend.rxBufferAcquired = false := hfree
    have hrest : o.context.backend.rxBuffer.state = .free := hfit.rx_free hfree
    have hsame : o.context.backend.setRx false { o.context.backend.rxBuffer with state := .free }
        = o.context.backend := by
      have hback : { o.context.backend.rxBuffer with state := .free }
          = o.context.backend.rxBuffer := by
        rw [← hrest]
      rw [hback, ← hfree]
      rfl
    obtain ⟨hfit', hbuffers, howns⟩ := hfit.same
      (show (Opened.mk o.port (Context.mk _ link)).context.backend = _ from hsame) rfl
    exact ⟨hfit', .failed _ _ hresult hbuffers howns rfl⟩
  | linkState | statistics | view | start | stop | clearStatistics | sent | received
  | timeCodeSent | timeCodeReceived => exact hfit.other rfl rfl rfl
  | reset =>
    obtain ⟨hfit', hfree⟩ := buffersFit_initialize o _ _
    exact ⟨hfit', .reset hfree⟩
  | setPacket ref length terminator howned hdirection =>
    obtain ⟨i, rfl⟩ := hfit.tx_of_direction hdirection
    have hold := hfit (.tx i)
    exact ⟨hfit.setBuffer rfl ⟨hold.owner, hold.direction, hold.rest, hold.bound⟩,
      .written i length terminator howned (bufferOf_setBuffer _) (othersSame_setBuffer rfl)⟩
  | acquiredTx minCapacity timeoutUs i hfree =>
    have hold := hfit (.tx i)
    exact ⟨hfit.setBuffer rfl ⟨hold.owner, hold.direction, by rintro ⟨⟩, fun _ => ⟨rfl, rfl⟩⟩,
      .acquired minCapacity timeoutUs i hfree (not_owns_of_state hfree (by decide))
        (owns_bind rfl) (othersSame_setBuffer rfl)⟩
  | submitted ref timeoutUs howned hheld =>
    obtain ⟨i, rfl⟩ := hfit.tx_of_heldFor hheld
    have hold := hfit (.tx i)
    exact ⟨hfit.setBuffer rfl ⟨hold.owner, hold.direction, by rintro ⟨⟩, by rintro ⟨⟩⟩,
      .submitted i timeoutUs howned (bufferOf_setBuffer _) (othersSame_setBuffer rfl)⟩
  | reclaimed timeoutUs i hcompleted =>
    have hold := hfit (.tx i)
    exact ⟨hfit.setBuffer rfl ⟨hold.owner, hold.direction, by rintro ⟨⟩, fun _ => ⟨rfl, rfl⟩⟩,
      .reclaimed timeoutUs i hcompleted (not_owns_of_state hcompleted (by decide))
        (owns_bind rfl) (othersSame_setBuffer rfl)⟩
  | releasedTx ref howned hheld =>
    obtain ⟨i, rfl⟩ := hfit.tx_of_heldFor hheld
    have hold := hfit (.tx i)
    refine ⟨hfit.setBuffer rfl ⟨hold.owner, hold.direction, by rintro ⟨⟩, by rintro ⟨⟩⟩,
      .released i howned ?_ (othersSame_setBuffer rfl)⟩
    rw [bufferOf_setBuffer]
    rfl
  | acquiredRx timeoutUs hfree =>
    have hold := hfit .rx
    have hrest := hfit.rx_free hfree
    exact ⟨hfit.setRx _ ⟨hold.owner, hold.direction, rfl, fun _ => ⟨rfl, rfl⟩⟩,
      .acquiredRx timeoutUs hrest (not_owns_of_state hrest (by decide))
        (by simp [owns, bufferOf, SimulatorBackend.load, SimulatorBackend.setRx,
          Port.applicationOwned, Port.bindBufferEpoch, rxFilled])
        (othersSame_setRx _ _ _)⟩
  | releasedRx howned hheld hacquired =>
    have hold := hfit .rx
    exact ⟨hfit.setRx _ ⟨hold.owner, hold.direction, rfl, by rintro ⟨⟩⟩,
      .releasedRx howned rfl (othersSame_setRx _ _ _)⟩

/-! ## Completions over a run -/

/-- How often a descriptor was submitted and came back. -/
structure Tally where
  submitted : Nat
  reclaimed : Nat
deriving DecidableEq, Repr

/-- Count what an action has shown, since the port was opened or reset. -/
def Tally.count (port : Nat) (i : Fin packetQueueDepth) (tally : Tally) : Outcome → Tally
  | .opened p result => if p = port ∧ result = .ok then ⟨0, 0⟩ else tally
  | .returned p call reply =>
    if p = port ∧ reply.result = .ok then
      match call with
      | .reset => ⟨0, 0⟩
      | .submitTx handle _ =>
        if handle = some (.own (.tx i)) then { tally with submitted := tally.submitted + 1 }
        else tally
      | .reclaimTx _ =>
        if reply.handle = some (.own (.tx i)) then { tally with reclaimed := tally.reclaimed + 1 }
        else tally
      | _ => tally
    else tally
  | .nothing => tally

/-- The count of a run. -/
def Tally.of (port : Nat) (i : Fin packetQueueDepth) (log : List Outcome) : Tally :=
  log.foldl (Tally.count port i) ⟨0, 0⟩

/-- Whether a descriptor waits to be reclaimed, as a number. -/
def due (o : Opened Context) (i : Fin packetQueueDepth) : Nat :=
  if (bufferOf o (.tx i)).state = .completed then 1 else 0

/-- **A descriptor that was submitted came back once, or waits to.** -/
def Tally.Balances (tally : Tally) (o : Opened Context) (i : Fin packetQueueDepth) : Prop :=
  tally.submitted = tally.reclaimed + due o i

theorem due_of_state {state : BufferState} (h : (bufferOf o (.tx i)).state = state) :
    due o i = if state = .completed then 1 else 0 := by
  rw [due, h]

theorem due_congr (h : bufferOf o' (.tx i) = bufferOf o (.tx i)) : due o' i = due o i := by
  rw [due, due, h]

theorem state_of_owns (h : owns o ref = true) : (bufferOf o ref).state = .application := by
  simp only [owns, Port.applicationOwned, Bool.and_eq_true, decide_eq_true_eq] at h
  exact h.1.1

/-- A descriptor that neither was nor is completed makes no difference. -/
theorem due_of_others (hothers : OthersSame o o' ref)
    (hbefore : (bufferOf o ref).state ≠ .completed) (hafter : (bufferOf o' ref).state ≠ .completed)
    (i : Fin packetQueueDepth) : due o' i = due o i := by
  by_cases href : .tx i = ref
  · subst href
    rw [due, due, if_neg hbefore, if_neg hafter]
  · exact due_congr (hothers (.tx i) href)

/-- **A call keeps the balance** of its port. -/
theorem OwnershipStep.balances {call : Call} {reply : Reply} (h : OwnershipStep o o' call reply)
    (port : Nat) (i : Fin packetQueueDepth) {tally : Tally} (hbalance : tally.Balances o i) :
    (tally.count port i (.returned port call reply)).Balances o' i := by
  unfold Tally.Balances at hbalance ⊢
  cases h with
  | failed _ _ hresult hbuffers =>
    simp only [Tally.count, hresult, and_false, if_false]
    rw [due_congr (hbuffers _), hbalance]
  | other _ _ hcall hbuffers =>
    have hcount : tally.count port i (.returned port call reply) = tally := by
      cases call <;> simp_all [Tally.count, touchesBuffers]
    rw [hcount, due_congr (hbuffers _), hbalance]
  | acquired minCapacity timeoutUs j hfree hnot howned hothers =>
    rw [due_of_others hothers (by simp [hfree]) (by simp [state_of_owns howned]) i]
    simpa [Tally.count] using hbalance
  | submitted j timeoutUs howned hcompleted hothers =>
    by_cases hj : j = i
    · subst hj
      rw [due_of_state (state_of_owns howned)] at hbalance
      rw [due, hcompleted]
      simpa [Tally.count] using hbalance
    · rw [due_congr (hothers (.tx i) (by simpa using Ne.symm hj))]
      simpa [Tally.count, hj] using hbalance
  | reclaimed timeoutUs j hcompleted hnot howned hothers =>
    by_cases hj : j = i
    · subst hj
      rw [due_of_state hcompleted] at hbalance
      rw [due_of_state (state_of_owns howned)]
      simpa [Tally.count] using hbalance
    · rw [due_congr (hothers (.tx i) (by simpa using Ne.symm hj))]
      simpa [Tally.count, hj] using hbalance
  | released j howned hfree hothers =>
    rw [due_of_others hothers (by simp [state_of_owns howned]) (by simp [hfree]) i]
    simpa [Tally.count] using hbalance
  | acquiredRx _ hfree hnot howned hothers | releasedRx howned hfree hothers =>
    rw [due_congr (hothers (.tx i) nofun)]
    simpa [Tally.count] using hbalance
  | written j length terminator howned hwritten hothers =>
    have hstate := state_of_owns howned
    rw [due_of_others hothers (by simp [hstate]) (by rw [hwritten]; simp [hstate]) i]
    simpa [Tally.count] using hbalance
  | reset hfree =>
    rw [due_of_state (hfree (.tx i))]
    simp [Tally.count]

/-! ## Runs -/

/-- **The runs of the ports**, with what each action has shown. -/
inductive Run (fuel : Nat) : List Outcome → World → Prop
  | initial : Run fuel [] World.initial
  | step {log : List Outcome} {w : World} (h : Run fuel log w) (a : Action) :
      Run fuel (log ++ [(w.step fuel a).2]) (w.step fuel a).1

theorem Run.reachable (h : Run fuel log w) : Reachable fuel w := by
  induction h with
  | initial => exact .initial
  | step _ a ih => exact ih.step a

/-- What a list of actions shows. -/
def World.outcomes (fuel : Nat) (w : World) : List Action → List Outcome
  | [] => []
  | a :: actions => (w.step fuel a).2 :: (w.step fuel a).1.outcomes fuel actions

theorem Run.append (h : Run fuel log w) (actions : List Action) :
    Run fuel (log ++ w.outcomes fuel actions)
      (actions.foldl (fun w a => (w.step fuel a).1) w) := by
  induction actions generalizing log w with
  | nil => simpa [World.outcomes] using h
  | cons a actions ih => simpa [World.outcomes] using ih (h.step a)

/-- The descriptors of every port are in order. -/
def Machine.BuffersFit (m : Machine) : Prop := ∀ port o, m.ports port = some o →
  Simulator.BuffersFit o

/-- The counts of every port balance. -/
def Machine.Balances (m : Machine) (log : List Outcome) : Prop :=
  ∀ port o i, m.ports port = some o → (Tally.of port i log).Balances o i

/-- What was shown is about a port: it was opened, or a call on it has returned. -/
def Outcome.At (port : Nat) : Outcome → Prop
  | .opened p result => p = port ∧ result = .ok
  | .returned p _ _ => p = port
  | .nothing => False

/-- **A step as one port sees it** that is open afterwards. -/
inductive PortStep (m : Machine) (port : Nat) : Outcome → Opened Context → Prop
  /-- The step is not about this port. -/
  | same (outcome : Outcome) (o : Opened Context) (hport : m.ports port = some o)
      (hother : ¬ outcome.At port) : PortStep m port outcome o
  | opened (registry : Registry) (linkId : UInt64) (e : EndpointIndex) (i : LinkIndex) :
      PortStep m port (.opened port .ok) (Machine.openedPort registry linkId e i)
  | returned (call : Call) (reply : Reply) (o o' : Opened Context) (i : LinkIndex)
      (hport : m.ports port = some o)
      (heffect : Effect (seeing o (m.registry i)) call reply o') :
      PortStep m port (.returned port call reply) o'
  | filled (ref : BufferRef) (data : Storage) (o : Opened Context)
      (hport : m.ports port = some o) (howned : owns o ref = true) :
      PortStep m port .nothing
        ⟨o.port, o.context.setBuffer ref { bufferOf o ref with data := data }⟩

/-- Every step is one of these. -/
theorem Machine.Step.portStep (hstep : m.Step a outcome m') {port : Nat}
    (hport : m'.ports port = some o) : PortStep m port outcome o := by
  cases hstep with
  | silent => exact .same _ o hport id
  | notOpened p linkId e result registry hp hattach =>
    have hcases := attachBackend_attaches m.registry linkId e
    rw [hattach] at hcases
    have hresult : result ≠ .ok := by cases hcases <;> decide
    exact .same _ o hport fun hat => hresult hat.2
  | opened p linkId e j registry hp hattach =>
    by_cases hpp : port = p
    · subst hpp
      obtain rfl : Machine.openedPort registry linkId e j = o := by simpa using hport
      exact .opened registry linkId e j
    · exact .same _ o (by simpa [hpp] using hport) fun hat => hpp hat.1.symm
  | closed p x j hp hlink =>
    have hpp : port ≠ p := by
      rintro rfl
      simp at hport
    exact .same _ o (by simpa [hpp] using hport) id
  | returned _ p call reply x x' j hp hlink heffect =>
    by_cases hpp : port = p
    · subst hpp
      obtain rfl : x' = o := by simpa using hport
      exact .returned call reply x x' j hp heffect
    · exact .same _ o (by simpa [hpp] using hport) fun hat => hpp hat.symm
  | filled p ref data x hp howned =>
    by_cases hpp : port = p
    · subst hpp
      obtain rfl := Option.some.inj ((Function.update_self port _ m.ports).symm.trans hport)
      exact .filled ref data x hp howned
    · exact .same _ o (by simpa [hpp] using hport) id

theorem buffersFit_opened (registry : Registry) (linkId : UInt64) (e : EndpointIndex)
    (i : LinkIndex) : BuffersFit (Machine.openedPort registry linkId e i) := by
  intro ref
  cases ref with
  | tx i => exact ⟨rfl, rfl, nofun, nofun⟩
  | rx => exact ⟨rfl, rfl, rfl, nofun⟩

theorem Machine.Step.buffersFit (hstep : m.Step a outcome m') (h : m.BuffersFit) :
    m'.BuffersFit := by
  intro port o hport
  cases hstep.portStep hport with
  | same _ _ hbefore => exact h port o hbefore
  | opened registry linkId e i => exact buffersFit_opened registry linkId e i
  | returned call reply x _ i hbefore heffect => exact (heffect.ownership (h port x hbefore)).1
  | filled ref data x hbefore howned =>
    have hold := h port x hbefore ref
    exact (h port x hbefore).setBuffer rfl ⟨hold.owner, hold.direction, hold.rest, hold.bound⟩

theorem Machine.Reachable.buffersFit (h : m.Reachable) : m.BuffersFit := by
  induction h with
  | initial => exact fun _ _ hport => nomatch hport
  | step _ hstep ih => exact hstep.buffersFit ih

/-- What is not about a port is not counted. -/
theorem Tally.count_other {port : Nat} (hother : ¬ outcome.At port) (i : Fin packetQueueDepth)
    (tally : Tally) : tally.count port i outcome = tally := by
  cases outcome with
  | nothing => rfl
  | opened p result => exact if_neg hother
  | returned p call reply => exact if_neg fun hat => hother hat.1

/-- **Every action keeps the counts balanced.** -/
theorem Machine.Step.balances (hstep : m.Step a outcome m') (hfit : m.BuffersFit)
    (h : m.Balances log) : m'.Balances (log ++ [outcome]) := by
  intro port o i hport
  rw [Tally.of, List.foldl_append, List.foldl_cons, List.foldl_nil]
  cases hstep.portStep hport with
  | same _ _ hbefore hother =>
    rw [Tally.count_other hother]
    exact h port o i hbefore
  | opened registry linkId e j =>
    simp only [Tally.count, and_self, if_true]
    rfl
  | returned call reply x _ j hbefore heffect =>
    exact (heffect.ownership (hfit port x hbefore)).2.balances port i (h port x i hbefore)
  | filled ref data x hbefore howned =>
    have hstate := state_of_owns howned
    have hothers : OthersSame x ⟨x.port, x.context.setBuffer ref
        { bufferOf x ref with data := data }⟩ ref := othersSame_setBuffer rfl
    have hdue := due_of_others hothers (by simp [hstate])
      (by rw [bufferOf_setBuffer]; exact fun hc => absurd (hstate.symm.trans hc) (by decide)) i
    rw [Tally.Balances, hdue]
    exact h port x i hbefore

theorem Run.balances (h : Run fuel log w) : w.machine.Balances log := by
  induction h with
  | initial => exact fun _ _ _ hport => nomatch hport
  | step hrun a ih =>
    exact (hrun.reachable.fits.step fuel a).1.balances hrun.reachable.machine.buffersFit ih

theorem simulatorReclaimTxBuffer_done (fuel : Nat) {c : Context}
    (hfind : c.backend.findTxBuffer .completed = some j) (timeoutUs : Timeout) :
    simulatorReclaimTxBuffer fuel timeoutUs c
      = .done (c.setBuffer (.tx j) { c.backend.txBuffers j with state := .application })
          (.ok, some (.tx j)) := by
  have hready : awaitTxBuffer fuel .completed timeoutUs c = .done c true := by
    rw [awaitTxBuffer, Process.bind_apply, Process.get_apply, Step.bind_done, if_pos]
    · rfl
    · rw [hfind]
      rfl
  rw [simulatorReclaimTxBuffer, Process.bind_apply, hready]
  rw [Step.bind_done, if_neg (by decide), Process.bind_apply, Process.get_apply, Step.bind_done,
    SimulatorBackend.findCompletedTxBuffer, hfind]
  rfl

theorem code_reclaimTx_done (fuel : Nat) (hstarted : o.port.locallyStarted = true)
    (hfind : o.context.backend.findTxBuffer .completed = some j) (timeoutUs : Timeout) :
    ∃ o', code fuel (.reclaimTx timeoutUs) o
      = .done o' { result := .ok, handle := some (.own (.tx j)) } := by
  have hcall := onContext_done (o := o) (simulatorReclaimTxBuffer_done fuel hfind timeoutUs)
  show ∃ o', ((if o.port.locallyStarted = false then _ else _ :
    Process _ _ (Opened Context) (Result × Option (BufferHandle BufferRef))) o).bind _ = _
  rw [if_neg (by simp [hstarted]), if_neg (by simp [simulatorBuffers]), Process.bind_apply]
  exact ⟨_, congrArg (fun x => Step.bind (Step.bind x _) _) hcall⟩

/-- **A completion can be had at once**: where a descriptor waits to be reclaimed, a reclaim on
a port that was started returns one. -/
theorem reclaim_returns {port : Nat} (hport : w.ports port = some (.idle o))
    (hstarted : o.port.locallyStarted = true)
    (hcompleted : (bufferOf o (.tx i)).state = .completed) (timeoutUs : Timeout) :
    ∃ j, (w.step fuel (.call port (.reclaimTx timeoutUs))).2
      = .returned port (.reclaimTx timeoutUs)
          { result := .ok, handle := some (.own (.tx j)) } := by
  have hfind : ∃ j, o.context.backend.findTxBuffer .completed = some j := by
    refine Option.isSome_iff_exists.mp (List.find?_isSome.mpr ⟨i, List.mem_finRange i, ?_⟩)
    exact decide_eq_true hcompleted
  obtain ⟨j, hfind⟩ := hfind
  obtain ⟨o', hdone⟩ := code_reclaimTx_done fuel (o := w.registry.lock o) hstarted hfind
    timeoutUs
  refine ⟨j, ?_⟩
  rw [World.step, hport]
  dsimp only
  rw [hdone]
  rfl

/-- **Zero-copy ownership is linear.** -/
structure ZeroCopyLinear (fuel : Nat) (log : List Outcome) (w : World) : Prop where
  /-- Between calls a transmit descriptor is free, the application's or completed. -/
  tx (port : Nat) (o : Opened Context) (i : Fin packetQueueDepth) :
    w.ports port = some (.idle o) → (bufferOf o (.tx i)).state = .free
      ∨ owns o (.tx i) = true ∨ (bufferOf o (.tx i)).state = .completed
  /-- The receive descriptor is the application's while it is acquired. -/
  rx (port : Nat) (o : Opened Context) : w.ports port = some (.idle o) →
    (owns o .rx = true ↔ o.context.backend.rxBufferAcquired = true)
  /-- What a call does that returns. -/
  step (a : Action) (port : Nat) (call : Call) (reply : Reply) :
    (w.step fuel a).2 = .returned port call reply →
      ∃ o o', w.before port = some o ∧ (w.step fuel a).1.before port = some o'
        ∧ OwnershipStep o o' call reply
  /-- What was submitted is delivered, once. -/
  delivered (a : Action) (port : Nat) (ref : BufferRef) (timeoutUs : Timeout) (reply : Reply) :
    (w.step fuel a).2 = .returned port (.submitTx (some (.own ref)) timeoutUs) reply →
    reply.result = .ok → ∃ o i, w.before port = some o ∧ o.context.backend.link = some i
      ∧ FifoStep (w.queues i) o.context.backend.endpointIndex
          (.sent (bufferPacket (bufferOf o ref)).packet) ((w.step fuel a).1.queues i)
  /-- Every submission has come back once, or waits to. -/
  completions (port : Nat) (o : Opened Context) (i : Fin packetQueueDepth) :
    w.before port = some o →
      (Tally.of port i log).submitted = (Tally.of port i log).reclaimed
        + if (bufferOf o (.tx i)).state = .completed then 1 else 0
  /-- A completion that waits can be had. -/
  reclaim (port : Nat) (o : Opened Context) (i : Fin packetQueueDepth) (timeoutUs : Timeout) :
    w.ports port = some (.idle o) → o.port.locallyStarted = true →
    (bufferOf o (.tx i)).state = .completed →
      ∃ j, (w.step fuel (.call port (.reclaimTx timeoutUs))).2
        = .returned port (.reclaimTx timeoutUs)
            { result := .ok, handle := some (.own (.tx j)) }

/-- What a step of the machine that returns a call has done. -/
theorem Machine.Step.effect {port : Nat} {call : Call} {reply : Reply}
    (h : m.Step a (.returned port call reply) m') :
    ∃ o o' i, m.ports port = some o ∧ m'.ports port = some o'
      ∧ o.context.backend.link = some i ∧ m'.registry = Function.update m.registry i o'.context.link
      ∧ Effect (seeing o (m.registry i)) call reply o' := by
  cases h with
  | returned _ _ _ _ o o' i hport hlink heffect =>
    exact ⟨o, o', i, hport, by simp, hlink, rfl, heffect⟩

/-- **In every run of the ports of a process**, with any interleaving of calls that wait, the
zero-copy buffers of a simulator port have one owner each. -/
theorem zero_copy_linear {fuel : Nat} {log : List Outcome} {w : World} (hrun : Run fuel log w) :
    ZeroCopyLinear fuel log w := by
  have hfit := hrun.reachable.machine.buffersFit
  have hstep := hrun.reachable.fits.step fuel
  refine ⟨fun port o i hport => ?_, fun port o hport => ?_, fun a port call reply houtcome => ?_,
    fun a port ref timeoutUs reply houtcome hresult => ?_, fun port o i hport => ?_,
    fun port o i timeoutUs hport hstarted hcompleted =>
      reclaim_returns hport hstarted hcompleted timeoutUs⟩
  · exact (hfit port o (World.before_of_ports hport)).tx_cases i
  · exact (hfit port o (World.before_of_ports hport)).rx_iff
  · obtain ⟨o, o', i, hbefore, hafter, -, -, heffect⟩ := (houtcome ▸ (hstep a).1).effect
    exact ⟨o, o', hbefore, hafter, (heffect.ownership (hfit port o hbefore)).2⟩
  · obtain ⟨o, o', i, hbefore, hafter, hlink, hregistry, heffect⟩ := (houtcome ▸ (hstep a).1).effect
    refine ⟨o, i, hbefore, hlink, ?_⟩
    have hqueues : (w.step fuel a).1.queues i = o'.context.link.queues := by
      show ((w.step fuel a).1.machine.registry i).queues = _
      rw [hregistry, Function.update_self]
    obtain ⟨event, hshows, hop⟩ := heffect.linkOp
    have hfifo := (hop.fifo (hrun.reachable.machine.ringsFit i)).2
    rw [hqueues]
    cases hshows with
    | refused _ _ hrefused => exact absurd hresult hrefused
    | other _ _ hcall => exact absurd hcall Bool.false_ne_true
    | submitted => exact hfifo
  · exact hrun.balances port o i hport

/-- A buffer is acquired at one of two ports and submitted. -/
def submitOne : List Action :=
  startPair ++ [.call 0 (.acquireTx 0 0), .call 0 (.submitTx (some (.own (.tx ⟨0, by decide⟩))) 0)]

/-- A buffer that was submitted is delivered, and waits to be reclaimed. -/
theorem zero_copy_linear_submitOne :
    Run 1 (World.initial.outcomes 1 submitOne) (World.after 1 submitOne)
    ∧ ZeroCopyLinear 1 (World.initial.outcomes 1 submitOne) (World.after 1 submitOne)
    ∧ Tally.of 0 ⟨0, by decide⟩ (World.initial.outcomes 1 submitOne) = ⟨1, 0⟩ := by
  have hrun : Run 1 (World.initial.outcomes 1 submitOne) (World.after 1 submitOne) :=
    Run.initial.append submitOne
  exact ⟨hrun, zero_copy_linear hrun, by decide +kernel⟩

end Simulator
