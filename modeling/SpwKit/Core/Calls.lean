import SpwKit.Core.Port
import SpwKit.Lib.Ownership

/-!
# What a call of a port comes to, by what its backend does

`sat_run` takes a call of the public interface apart: what the port refuses by
itself, and what is left to show of the backend's function, on the backend's part
of the state (`Owes`). A proof about a backend is then one about its functions; the
checks the port makes, and what it does with an answer, are dealt with here.
-/

open Interactive

namespace Core

variable {Req : Type} {Ans : Req → Type} {σ δ β O E α : Type}

/-- A setting as the backend of a port sees it. -/
abbrev backendOf (S : Setting Req Ans (Opened σ) O E) (port : Port) : Setting Req Ans σ O E :=
  S.part (Opened.mk port)

/-- The pointer a caller hands in to give a buffer back. -/
def Call.handedIn : Call β → Option (BufferHandle β)
  | .submitTx handle _ => handle
  | .releaseTx handle => handle
  | .releaseRx handle => handle
  | _ => none

/-- The port with a buffer that its backend has handed out. -/
def Opened.bound (buffers : BufferOps Req Ans σ δ β) (o : Opened σ) (ref : β) : Opened σ :=
  o.setBuffer buffers ref (o.port.bindBufferEpoch (buffers.load o.context ref))

/-- What is left to show of a function of the backend that hands a buffer out: it returns one
and is successful, or returns none. -/
def HandsOut (buffers : BufferOps Req Ans σ δ β) (port : Port)
    (Q : Opened σ → Reply δ β → O → E → Prop) (c : σ) (r : Result × Option β) (out : O) (e : E) :
    Prop :=
  (r.2 = none ∧ Q ⟨port, c⟩ { result := r.1 } out e)
    ∨ ∃ ref, r = (.ok, some ref)
      ∧ Q (Opened.bound buffers ⟨port, c⟩ ref) { result := .ok, handle := some (.own ref) } out e

/-- What is left to show of a function of the backend that takes a buffer back. -/
def TakesBack (port : Port) (ref : β) (Q : Opened σ → Reply δ β → O → E → Prop) (c : σ)
    (result : Result) (out : O) (e : E) : Prop :=
  Q ⟨port, c⟩ { result := result, handle := if result = .ok then none else some (.own ref) } out e

section Rules

variable (S : Setting Req Ans (Opened σ) O E) (ops : BackendOps Req Ans σ)
  (buffers : BufferOps Req Ans σ δ β) (Q : Opened σ → Reply δ β → O → E → Prop) (o : Opened σ)
  (out : O) (e : E)

/-- A function of the backend, as a port calls it. -/
abbrev Calls (p : Process Req Ans σ α) (Q : σ → α → O → E → Prop) : Prop :=
  Step.Sat (backendOf S o.port) Q (p o.context) out e

/-- **What is left to show of the backend**, for a call of its port. What the port has checked
by then is known. -/
def Owes : Call β → Prop
  | .start => Calls S o out e ops.start fun c result =>
    Q ⟨if result = .ok then { o.port with locallyStarted := true } else o.port, c⟩
      { result := result }
  | .stop => Calls S o out e ops.stop fun c result =>
    Q ⟨if result = .ok then { o.port with locallyStarted := false } else o.port, c⟩
      { result := result }
  | .reset => Calls S o out e ops.reset fun c result =>
    Q ⟨if result = .ok then ⟨false, o.port.nextEpoch⟩ else o.port, c⟩ { result := result }
  | .getLinkState => Calls S o out e ops.getLinkState fun c r =>
    Q ⟨o.port, c⟩ { result := r.1, linkState := r.2 }
  | .send packet timeoutUs => ∀ p, packet = some p → o.port.locallyStarted = true →
    Calls S o out e (ops.send p timeoutUs) fun c result => Q ⟨o.port, c⟩ { result := result }
  | .receive buffer timeoutUs => ∀ b, buffer = some b → o.port.locallyStarted = true →
    Calls S o out e (ops.receive b timeoutUs) fun c r =>
      Q ⟨o.port, c⟩ { result := r.1, packet := r.2 }
  | .sendTimeCode code timeoutUs => ∀ t, code = some t → o.port.locallyStarted = true →
    Calls S o out e (ops.sendTimeCode t timeoutUs) fun c result =>
      Q ⟨o.port, c⟩ { result := result }
  | .receiveTimeCode hasCode timeoutUs => hasCode = true → o.port.locallyStarted = true →
    Calls S o out e (ops.receiveTimeCode timeoutUs) fun c r =>
      Q ⟨o.port, c⟩ { result := r.1, timeCode := r.2 }
  | .getStatistics => Calls S o out e ops.getStatistics fun c r =>
    Q ⟨o.port, c⟩ { result := r.1, statistics := r.2 }
  | .clearStatistics => Calls S o out e ops.clearStatistics fun c result =>
    Q ⟨o.port, c⟩ { result := result }
  | .getView ref => o.port.applicationOwned (buffers.load o.context ref) = true →
    Q o { result := .ok, view := some ⟨(buffers.load o.context ref).data,
      (buffers.load o.context ref).length, (buffers.load o.context ref).capacity,
      (buffers.load o.context ref).terminator⟩ } out e
  | .setPacket ref length terminator =>
    o.port.applicationOwned (buffers.load o.context ref) = true →
    (buffers.load o.context ref).direction = some .tx →
    length ≤ (buffers.load o.context ref).capacity → validTerminator terminator = true →
    Q (o.setBuffer buffers ref { buffers.load o.context ref with
      length := length, terminator := terminator }) { result := .ok } out e
  | .acquireTx minCapacity timeoutUs =>
    Calls S o out e (buffers.acquireTxBuffer minCapacity timeoutUs) (HandsOut buffers o.port Q)
  | .submitTx handle timeoutUs => ∀ ref, handle = some (.own ref) →
    o.port.applicationOwned (buffers.load o.context ref) = true →
    Calls S o out e (buffers.submitTxBuffer ref timeoutUs) (TakesBack o.port ref Q)
  | .reclaimTx timeoutUs =>
    Calls S o out e (buffers.reclaimTxBuffer timeoutUs) (HandsOut buffers o.port Q)
  | .releaseTx handle => ∀ ref, handle = some (.own ref) →
    o.port.applicationOwned (buffers.load o.context ref) = true →
    Calls S o out e (buffers.releaseTxBuffer ref) (TakesBack o.port ref Q)
  | .acquireRx timeoutUs =>
    Calls S o out e (buffers.acquireRxBuffer timeoutUs) (HandsOut buffers o.port Q)
  | .releaseRx handle => ∀ ref, handle = some (.own ref) →
    o.port.applicationOwned (buffers.load o.context ref) = true →
    Calls S o out e (buffers.releaseRxBuffer ref) (TakesBack o.port ref Q)

variable {S ops buffers Q o out e}

/-- A call of the backend. -/
theorem sat_onContext {p : Process Req Ans σ α} {Q : Opened σ → α → O → E → Prop}
    (h : Calls S o out e p fun c => Q ⟨o.port, c⟩) : Step.Sat S Q (onContext p o) out e :=
  Step.Sat.within h

/-- A call of the backend after which, if it was successful, the port is changed. -/
theorem sat_change {p : Process Req Ans σ Result} (change : Port → Port)
    (h : Calls S o out e p fun c result =>
      Q ⟨if result = .ok then change o.port else o.port, c⟩ { result := result }) :
    Step.Sat S Q (((do
      let result ← onContext p
      if result = .ok then modify fun o => { o with port := change o.port }
      return result : Process Req Ans (Opened σ) Result) o).bind
        fun result o' => .done o' { result := result }) out e := by
  rw [onContext_change, Step.bind_assoc]
  refine Step.Sat.bind ?_ (sat_onContext (Q := fun o' result out e => o'.port = o.port ∧
    Q ⟨if result = .ok then change o.port else o.port, o'.context⟩ { result := result } out e)
      (h.mono fun _ _ _ _ hq => ⟨rfl, hq⟩))
  rintro ⟨port, c⟩ result out e ⟨rfl, hq⟩
  by_cases hresult : result = .ok
  · rw [if_pos hresult] at hq ⊢
    exact hq
  · rw [if_neg hresult] at hq ⊢
    exact hq

/-- A transfer is refused on a port that was not started. -/
theorem sat_ifStarted {γ : Type} {p : Process Req Ans σ γ} {refusal : γ} {f : γ → Reply δ β}
    (hrefused : Q o (f refusal) out e)
    (h : o.port.locallyStarted = true → Calls S o out e p fun c a => Q ⟨o.port, c⟩ (f a)) :
    Step.Sat S Q ((((get : Process Req Ans (Opened σ) (Opened σ)) >>= fun o =>
      if o.port.locallyStarted = false then pure refusal else onContext p) o).bind
        fun a o' => .done o' (f a)) out e := by
  rw [Process.bind_apply, Process.get_apply, Step.bind_done]
  by_cases hstarted : o.port.locallyStarted = false
  · rw [if_pos hstarted]
    exact hrefused
  · rw [if_neg hstarted]
    exact Step.Sat.bind (fun _ _ _ _ hq => hq) (sat_onContext (h (by simpa using hstarted)))

/-- **A buffer that the backend hands out**, by what the backend's function comes to. -/
theorem sat_handOut {acquire : Process Req Ans σ (Result × Option β)}
    (hrefused : ∀ result, result ≠ .ok → Q o { result := result } out e)
    (h : Calls S o out e acquire (HandsOut buffers o.port Q)) :
    Step.Sat S Q ((handOut buffers acquire o).bind
      fun r o' => .done o' { result := r.1, handle := r.2 }) out e := by
  show Step.Sat S Q (((if o.port.locallyStarted = false then _ else _ :
    Process Req Ans (Opened σ) (Result × Option (BufferHandle β))) o).bind _) out e
  split_ifs with hlocal hsupported
  · exact hrefused .invalidState (by decide)
  · exact hrefused .unsupported (by decide)
  · rw [Process.bind_apply, Step.bind_assoc]
    refine Step.Sat.bind ?_ (sat_onContext (Q := fun o' r out e =>
      o'.port = o.port ∧ HandsOut buffers o.port Q o'.context r out e)
      (h.mono fun _ _ _ _ hq => ⟨rfl, hq⟩))
    rintro ⟨port, c⟩ ⟨result, ref⟩ out e ⟨rfl, ⟨hnone, hq⟩ | ⟨ref', href, hq⟩⟩
    · obtain rfl : ref = none := hnone
      exact hq
    · obtain ⟨rfl, rfl⟩ := Prod.mk.inj href
      exact hq

/-- **A buffer that is given back**, by what the backend's function comes to. -/
theorem sat_giveBack (handle : BufferHandle β) {give : β → Process Req Ans σ Result}
    (hrefused : ∀ result, result ≠ .ok → Q o { result := result, handle := some handle } out e)
    (h : ∀ ref, some handle = some (.own ref) →
      o.port.applicationOwned (buffers.load o.context ref) = true →
      Calls S o out e (give ref) (TakesBack o.port ref Q)) :
    Step.Sat S Q ((giveBack buffers handle give o).bind
      fun r o' => .done o' { result := r.1, handle := r.2 }) out e := by
  show Step.Sat S Q (((if ownedByPort buffers o handle = false then _ else _ :
    Process Req Ans (Opened σ) (Result × Option (BufferHandle β))) o).bind _) out e
  split_ifs with howned hsupported
  · exact hrefused .invalidState (by decide)
  · exact hrefused .unsupported (by decide)
  · rw [Bool.not_eq_false] at howned
    cases handle with
    | foreign => exact hrefused .invalidState (by decide)
    | own ref =>
      show Step.Sat S Q (((onContext (give ref) o).bind _).bind _) out e
      rw [Step.bind_assoc]
      exact Step.Sat.bind (fun _ _ _ _ hq => hq) (sat_onContext (h ref rfl howned))

/-- **What a call comes to, by what its backend does**: what the port refuses by itself changes
nothing, the caller's pointer neither. -/
theorem sat_run (call : Call β)
    (hrefused : ∀ result, result ≠ .ok → Q o { result := result, handle := call.handedIn } out e)
    (h : Owes S ops buffers Q o out e call) : Step.Sat S Q (Call.run ops buffers call o) out e := by
  have hargument := hrefused .invalidArgument (by decide)
  have hstate := hrefused .invalidState (by decide)
  cases call with
  | start => exact sat_change (fun port => { port with locallyStarted := true }) h
  | stop => exact sat_change (fun port => { port with locallyStarted := false }) h
  | reset => exact sat_change (fun port => ⟨false, port.nextEpoch⟩) h
  | getLinkState | getStatistics | clearStatistics =>
    exact Step.Sat.bind (fun _ _ _ _ hq => hq) (sat_onContext h)
  | send packet timeoutUs =>
    show Step.Sat S Q ((spwPortSend ops packet timeoutUs o).bind _) out e
    cases packet with
    | none => exact hargument
    | some p =>
      unfold spwPortSend
      dsimp only
      split_ifs with hdata hpacket
      · exact hargument
      · exact hrefused .invalidPacket (by decide)
      · exact sat_ifStarted hstate (h p rfl)
  | receive buffer timeoutUs =>
    show Step.Sat S Q ((spwPortReceive ops buffer timeoutUs o).bind _) out e
    cases buffer with
    | none => exact hargument
    | some b =>
      unfold spwPortReceive
      dsimp only
      split_ifs with hdata
      · exact hargument
      · exact sat_ifStarted hstate (h b rfl)
  | sendTimeCode code timeoutUs =>
    show Step.Sat S Q ((spwPortSendTimeCode ops code timeoutUs o).bind _) out e
    cases code with
    | none => exact hargument
    | some t =>
      unfold spwPortSendTimeCode
      dsimp only
      split_ifs with hcode
      · exact hargument
      · exact sat_ifStarted hstate (h t rfl)
  | receiveTimeCode hasCode timeoutUs =>
    cases hasCode with
    | false => exact hargument
    | true => exact sat_ifStarted hstate (h rfl)
  | getView ref =>
    show Step.Sat S Q (((if o.port.applicationOwned (buffers.load o.context ref) = false
      then _ else _ : Process Req Ans (Opened σ) (Result × Option (BufferView δ))) o).bind _) out e
    split_ifs with howned
    · exact hstate
    · exact h (by simpa using howned)
  | setPacket ref length terminator =>
    show Step.Sat S Q (((if o.port.applicationOwned (buffers.load o.context ref) = false
      then _ else _ : Process Req Ans (Opened σ) Result) o).bind _) out e
    split_ifs with howned hdirection hpacket
    · exact hstate
    · exact hstate
    · exact hrefused .invalidPacket (by decide)
    · simp only [not_or, Nat.not_lt, Bool.not_eq_false] at hpacket howned hdirection
      exact h howned (not_not.mp hdirection) hpacket.1 hpacket.2
  | acquireTx | reclaimTx | acquireRx => exact sat_handOut hrefused h
  | submitTx handle timeoutUs =>
    cases handle with
    | none => exact hargument
    | some handle =>
      show Step.Sat S Q (((if o.port.locallyStarted = false then _ else _ :
        Process Req Ans (Opened σ) (Result × Option (BufferHandle β))) o).bind _) out e
      split_ifs with hlocal
      · exact hstate
      · exact sat_giveBack handle hrefused h
  | releaseTx handle | releaseRx handle =>
    cases handle with
    | none => exact hargument
    | some handle => exact sat_giveBack handle hrefused h

end Rules

/-! ## Whose the buffers are -/

/-- **How a call that has returned moves a buffer** between the application and the backend,
as a caller sees it. -/
def transfer (call : Call β) (reply : Reply δ β) : Ownership.Transfer β :=
  if reply.result ≠ .ok then .nothing
  else match call, reply.handle with
    | .acquireTx _ _, some (.own ref) => .handOut ref .nobody
    | .acquireRx _, some (.own ref) => .handOut ref .nobody
    | .reclaimTx _, some (.own ref) => .handOut ref .service
    | .submitTx (some (.own ref)) _, _ => .handIn ref .service
    | .releaseTx (some (.own ref)), _ => .handIn ref .nobody
    | .releaseRx (some (.own ref)), _ => .handIn ref .nobody
    | .reset, _ => .takeBack
    | _, _ => .nothing

/-- A call that fails moves nothing. -/
theorem transfer_of_failed (call : Call β) {reply : Reply δ β} (h : reply.result ≠ .ok) :
    transfer call reply = .nothing := if_pos h

/-- A completion that was returned. -/
theorem transfer_reclaimed (timeoutUs : Timeout) {reply : Reply δ β} {ref : β}
    (hresult : reply.result = .ok) (hhandle : reply.handle = some (.own ref)) :
    transfer (.reclaimTx timeoutUs) reply = .handOut ref .service := by
  simp [transfer, hresult, hhandle]

/-- The calls that may move buffers. -/
def Call.movesBuffers : Call β → Bool
  | .acquireTx _ _ | .submitTx _ _ | .reclaimTx _ | .releaseTx _ | .acquireRx _ | .releaseRx _
  | .reset => true
  | _ => false

theorem transfer_of_other {call : Call β} (h : call.movesBuffers = false) (reply : Reply δ β) :
    transfer call reply = .nothing := by
  unfold transfer
  split_ifs with hresult
  · rfl
  · cases call <;> first | rfl | exact absurd h (by simp [Call.movesBuffers])

/-- The transfers of the calls that have returned. -/
def transfers (log : List (Call β × Reply δ β)) : List (Ownership.Transfer β) :=
  log.map fun entry => transfer entry.1 entry.2

end Core
