import SpwKit.Driver.SlotInvariant
import SpwKit.Virtual.ZeroCopy

/-!
# Handles from before a reset

A reset takes every zero-copy buffer back: what the application held is stale, and
no completion of a packet that was submitted before it is returned any more. The
port decides by what is written in a descriptor whether a handle is good, and a
descriptor is written again when it is handed out again. So an old handle is
rejected **as long as its descriptor is not with the application again**, and is good
while it is, since it is a pointer to the same descriptor. Both are shown for the
two backends with zero-copy, the simulator and the driver, from the ledger that
their descriptors follow (`Ownership`).
-/

open Interactive Core Ownership

namespace Core

variable {Req : Type} {Ans : Req → Type} {σ δ β : Type}

/-- A call that uses a handle. -/
def Call.Uses (ref : β) : Call β → Prop
  | .getView r => r = ref
  | .setPacket r _ _ => r = ref
  | .submitTx handle _ => handle = some (.own ref)
  | .releaseTx handle => handle = some (.own ref)
  | .releaseRx handle => handle = some (.own ref)
  | _ => False

/-- **A handle from before a reset is rejected**, and nothing changes, if by the calls since
its descriptor is not with the application. -/
def StaleRejected [DecidableEq β] (code : Call β → Process Req Ans (Opened σ) (Reply δ β))
    (log : List (Call β × Reply δ β)) (o : Opened σ) : Prop :=
  ∀ before reply since ref call, log = before ++ (.reset, reply) :: since → reply.result = .ok →
    ledger (transfers since) ref ≠ .client → call.Uses ref →
      ∃ reply', code call o = .done o reply' ∧ reply'.result = .invalidState

/-- **A completion that is returned after a reset was submitted after it.** -/
def CompletionsFresh (log : List (Call β × Reply δ β)) : Prop :=
  ∀ before reply since timeoutUs reply' after ref,
    log = before ++ (.reset, reply) :: (since ++ (.reclaimTx timeoutUs, reply') :: after) →
    reply.result = .ok → reply'.result = .ok → reply'.handle = some (.own ref) →
      ∃ timeoutUs' reply'', (.submitTx (some (.own ref)) timeoutUs', reply'') ∈ since
        ∧ reply''.result = .ok

variable {ref : β}

/-- What the application does not own is rejected. -/
theorem rejects_unowned (ops : BackendOps Req Ans σ) (buffers : BufferOps Req Ans σ δ β)
    {o : Opened σ} (h : o.port.applicationOwned (buffers.load o.context ref) = false)
    {call : Call β} (huses : call.Uses ref) :
    ∃ reply, Call.run ops buffers call o = .done o reply ∧ reply.result = .invalidState := by
  have hgive : ∀ give, giveBack buffers (.own ref) give o
      = .done o (.invalidState, some (.own ref)) := by
    intro give
    show (if ownedByPort buffers o (.own ref) = false then _ else _ :
      Process Req Ans (Opened σ) (Result × Option (BufferHandle β))) o = _
    have howned : ownedByPort buffers o (.own ref) = false := h
    rw [if_pos howned]
    rfl
  cases call with
  | getView r =>
    obtain rfl : r = ref := huses
    refine ⟨{ result := .invalidState }, ?_, rfl⟩
    show ((if o.port.applicationOwned (buffers.load o.context r) = false then _ else _ :
      Process Req Ans (Opened σ) (Result × Option (BufferView δ))) o).bind _ = _
    rw [if_pos h]
    rfl
  | setPacket r length terminator =>
    obtain rfl : r = ref := huses
    refine ⟨{ result := .invalidState }, ?_, rfl⟩
    show ((if o.port.applicationOwned (buffers.load o.context r) = false then _ else _ :
      Process Req Ans (Opened σ) Result) o).bind _ = _
    rw [if_pos h]
    rfl
  | submitTx handle timeoutUs =>
    obtain rfl : handle = some (.own ref) := huses
    refine ⟨{ result := .invalidState, handle := some (.own ref) }, ?_, rfl⟩
    show ((if o.port.locallyStarted = false then _ else _ :
      Process Req Ans (Opened σ) (Result × Option (BufferHandle β))) o).bind _ = _
    split_ifs with hstarted
    · rfl
    · rw [hgive]
      rfl
  | releaseTx handle =>
    obtain rfl : handle = some (.own ref) := huses
    refine ⟨{ result := .invalidState, handle := some (.own ref) }, ?_, rfl⟩
    show (giveBack buffers (.own ref) buffers.releaseTxBuffer o).bind _ = _
    rw [hgive]
    rfl
  | releaseRx handle =>
    obtain rfl : handle = some (.own ref) := huses
    refine ⟨{ result := .invalidState, handle := some (.own ref) }, ?_, rfl⟩
    show (giveBack buffers (.own ref) buffers.releaseRxBuffer o).bind _ = _
    rw [hgive]
    rfl
  | _ => exact huses.elim

/-- A transfer to the backend is a buffer that was submitted. -/
theorem submitted_of_transfer {call : Call β} {reply : Reply δ β}
    (h : transfer call reply = .handIn ref .service) :
    ∃ timeoutUs, call = .submitTx (some (.own ref)) timeoutUs ∧ reply.result = .ok := by
  unfold transfer at h
  split_ifs at h with hresult
  split at h <;> simp only [reduceCtorEq, Transfer.handIn.injEq, and_false] at h
  obtain ⟨rfl, -⟩ := h
  exact ⟨_, rfl, not_not.mp hresult⟩

section

variable {log : List (Call β × Reply δ β)}

theorem transfers_reset {before since : List (Call β × Reply δ β)} {reply : Reply δ β}
    (hlog : log = before ++ (.reset, reply) :: since) (hresult : reply.result = .ok) :
    transfers log = transfers before ++ .takeBack :: transfers since := by
  have hrecall : transfer (.reset : Call β) reply = .takeBack := by simp [transfer, hresult]
  rw [hlog, transfers, List.map_append, List.map_cons, hrecall]
  rfl

variable [DecidableEq β]

/-- **Stale handles**, where the descriptors follow the ledger of the calls. -/
theorem staleRejected_of_ledger (ops : BackendOps Req Ans σ) (buffers : BufferOps Req Ans σ δ β)
    {o : Opened σ} (hledger : ∀ ref, ledger (transfers log) ref ≠ .client →
      o.port.applicationOwned (buffers.load o.context ref) = false) :
    StaleRejected (Call.run ops buffers) log o := by
  intro before reply since ref call hlog hresult hsince huses
  refine rejects_unowned ops buffers (hledger ref ?_) huses
  rwa [transfers_reset hlog hresult, ledger_takeBack]

/-- **Completions**, where the calls conform. -/
theorem completionsFresh_of_conforms (hconforms : Conforms (transfers log)) :
    CompletionsFresh log := by
  intro before reply since timeoutUs reply' after ref hlog hresult hresult' hhandle
  have htransfers := transfers_reset hlog hresult
  have hsplit : transfers log = (transfers before ++ .takeBack :: transfers since)
      ++ .handOut ref .service :: transfers after := by
    rw [htransfers, ← transfer_reclaimed timeoutUs hresult' hhandle]
    simp [transfers]
  have hservice := hconforms _ _ _ hsplit
  rw [Transfer.Allowed, ledger_takeBack] at hservice
  obtain ⟨⟨call, reply''⟩, hentry, htransfer⟩ := List.mem_map.mp (handIn_of_ledger hservice)
  obtain ⟨timeoutUs', rfl, hok⟩ := submitted_of_transfer htransfer
  exact ⟨timeoutUs', reply'', hentry, hok⟩

end

end Core

namespace Driver

variable {config : DriverConfig}

/-- A slot that is not with the application is not owned by it. -/
theorem SlotsFit.not_owned {b : DriverBackend config} (h : SlotsFit b) {port : Port}
    {i : config.SlotIndex} (hi : holders b i ≠ .client) :
    port.applicationOwned (b.slots i).buffer = false := by
  by_contra hnot
  exact hi (h.applicationHas (by simpa using hnot)).holder

/-- **A driver port**, between calls, with the calls that have returned. -/
theorem stale_rejected (actions : List (Action config))
    (hidle : (DriverPort.run config actions).isIdle = true) :
    StaleRejected code (DriverPort.run config actions).log (DriverPort.run config actions).state
      ∧ CompletionsFresh (DriverPort.run config actions).log := by
  have hport := portHolds_run actions
  have haccounts := hport.holds.rest hidle
  have hfit : SlotsFit (DriverPort.run config actions).state.context := hport.holds.inv.1
  refine ⟨staleRejected_of_ledger _ _ fun i hi => ?_,
    completionsFresh_of_conforms haccounts.conforms⟩
  rw [← haccounts.holders] at hi
  exact hfit.not_owned hi

end Driver

namespace Simulator

/-! ## The simulator's descriptors follow the ledger -/

/-- Who has a descriptor, by its state. -/
def holderIn : BufferState → Holder
  | .free => .nobody
  | .application => .client
  | .backend | .completed => .service

/-- Who has which descriptor. -/
def holders (o : Opened Context) (ref : BufferRef) : Holder := holderIn (bufferOf o ref).state

variable {fuel : Nat} {log : List Outcome} {o o' : Opened Context} {outcome : Outcome}
  {ref : BufferRef} {w : World}

theorem holders_of_state {state : BufferState} (h : (bufferOf o ref).state = state) :
    holders o ref = holderIn state := by
  rw [holders, h]

theorem holders_of_owns (h : owns o ref = true) :
    holders o ref = .client := holders_of_state (state_of_owns h)

/-- One descriptor changes hands. -/
theorem holders_of_others (hothers : OthersSame o o' ref) (target : Holder)
    (htarget : holders o' ref = target) : holders o' = Function.update (holders o) ref target := by
  funext ref'
  by_cases href : ref' = ref
  · subst href
    rw [Function.update_self, htarget]
  · rw [Function.update_of_ne href, holders, hothers ref' href]
    rfl

theorem holders_congr (h : ∀ ref, bufferOf o' ref = bufferOf o ref) : holders o' = holders o := by
  funext ref
  rw [holders, h ref]
  rfl

/-- **A call moves what it says it moves**, from where it is. -/
theorem OwnershipStep.moves {call : Call} {reply : Reply} (h : OwnershipStep o o' call reply) :
    (transfer call reply).Allowed (holders o)
      ∧ holders o' = (transfer call reply).apply (holders o) := by
  cases h with
  | failed _ _ hresult hbuffers =>
    rw [transfer_of_failed _ hresult]
    exact ⟨trivial, holders_congr hbuffers⟩
  | other _ _ hcall hbuffers =>
    have hmoves : call.movesBuffers = false := by
      cases call <;> first | rfl | exact absurd hcall (by simp [touchesBuffers])
    rw [transfer_of_other hmoves]
    exact ⟨trivial, holders_congr hbuffers⟩
  | acquired minCapacity timeoutUs i hfree hnot howned hothers
  | acquiredRx timeoutUs hfree hnot howned hothers =>
    exact ⟨holders_of_state hfree, holders_of_others hothers _ (holders_of_owns howned)⟩
  | submitted i timeoutUs howned hcompleted hothers =>
    refine ⟨holders_of_owns howned, holders_of_others hothers _ ?_⟩
    rw [holders, hcompleted]
    rfl
  | reclaimed timeoutUs i hcompleted hnot howned hothers =>
    exact ⟨holders_of_state hcompleted, holders_of_others hothers _ (holders_of_owns howned)⟩
  | released i howned hfree hothers | releasedRx howned hfree hothers =>
    exact ⟨holders_of_owns howned, holders_of_others hothers _ (holders_of_state hfree)⟩
  | written i length terminator howned hwritten hothers =>
    refine ⟨trivial, (holders_of_others hothers _ ?_).trans (Function.update_eq_self _ _)⟩
    rw [holders, hwritten]
    rfl
  | reset hfree =>
    exact ⟨trivial, funext fun ref => holders_of_state (hfree ref)⟩

/-- One more thing that was shown, as a port's own history. -/
def ownHistory (port : Nat) (history : List (Call × Reply)) : Outcome → List (Call × Reply)
  | .opened p result => if p = port ∧ result = .ok then [] else history
  | .returned p call reply => if p = port then history ++ [(call, reply)] else history
  | .nothing => history

/-- The calls on a port that have returned since it was opened. -/
def historyOf (port : Nat) (log : List Outcome) : List (Call × Reply) :=
  log.foldl (ownHistory port) []

theorem historyOf_snoc (port : Nat) (log : List Outcome) (outcome : Outcome) :
    historyOf port (log ++ [outcome]) = ownHistory port (historyOf port log) outcome := by
  rw [historyOf, List.foldl_append]
  rfl

/-- What is not about a port is not its history. -/
theorem ownHistory_other {port : Nat} (hother : ¬ outcome.At port) (history : List (Call × Reply)) :
    ownHistory port history outcome = history := by
  cases outcome with
  | nothing => rfl
  | opened p result | returned p call reply => exact if_neg hother

/-- The descriptors of every port follow its ledger. -/
def Machine.Follows (m : Machine) (log : List Outcome) : Prop :=
  ∀ port o, m.ports port = some o → holders o = ledger (transfers (historyOf port log))
    ∧ Conforms (transfers (historyOf port log))

/-- **Every action keeps the descriptors at the ledger.** -/
theorem Machine.Step.follows {m m' : Machine} {a : Action} (hstep : m.Step a outcome m')
    (hfit : m.BuffersFit) (h : m.Follows log) : m'.Follows (log ++ [outcome]) := by
  intro port o hport
  rw [historyOf_snoc]
  cases hstep.portStep hport with
  | same _ _ hbefore hother =>
    rw [ownHistory_other hother]
    exact h port o hbefore
  | opened registry linkId e j =>
    rw [ownHistory, if_pos ⟨rfl, rfl⟩]
    refine ⟨funext fun ref => ?_, conforms_nil⟩
    cases ref <;> rfl
  | returned call reply x _ j hbefore heffect =>
    obtain ⟨hledger, hconforms⟩ := h port x hbefore
    obtain ⟨hallowed, hmoves⟩ := (heffect.ownership (hfit port x hbefore)).2.moves
    have htransfers : transfers (historyOf port log ++ [(call, reply)])
        = transfers (historyOf port log) ++ [transfer call reply] := by simp [transfers]
    rw [ownHistory, if_pos rfl, htransfers, ledger_snoc, ← hledger]
    exact ⟨hmoves, hconforms.snoc (hledger ▸ hallowed)⟩
  | filled ref data x hbefore howned =>
    have hothers : OthersSame x ⟨x.port, x.context.setBuffer ref
        { bufferOf x ref with data := data }⟩ ref := othersSame_setBuffer rfl
    have hsame := holders_of_others hothers (holders x ref) (by
      rw [holders, bufferOf_setBuffer]
      rfl)
    rw [hsame, Function.update_eq_self]
    exact h port x hbefore

theorem Run.follows (h : Run fuel log w) : w.machine.Follows log := by
  induction h with
  | initial => exact fun _ _ hport => nomatch hport
  | step hrun a ih =>
    exact (hrun.reachable.fits.step fuel a).1.follows hrun.reachable.machine.buffersFit ih

/-- What is not with the application is not owned by it. -/
theorem not_owned_of_holders (h : holders o ref ≠ .client) : owns o ref = false := by
  by_contra howned
  exact h (holders_of_owns (by simpa using howned))

/-- **A simulator port**, between calls, with the calls on it that have returned. -/
theorem stale_rejected (hrun : Run fuel log w) {port : Nat}
    (hport : w.ports port = some (.idle o)) :
    StaleRejected (code fuel) (historyOf port log) (w.registry.lock o)
      ∧ CompletionsFresh (historyOf port log) := by
  obtain ⟨hledger, hconforms⟩ := hrun.follows port o (World.before_of_ports hport)
  refine ⟨staleRejected_of_ledger _ _ fun ref href => ?_,
    completionsFresh_of_conforms hconforms⟩
  rw [← hledger] at href
  exact not_owned_of_holders href

end Simulator

namespace Contract

/-- **A reset makes handles stale**, on simulator and driver ports and in every run: a handle
from before it is rejected without any change, as long as its descriptor is not with the
application again, and what is reclaimed was submitted after it. -/
theorem reset_makes_stale (fuel : Nat) :
    (∀ log w port o, Simulator.Run fuel log w → w.ports port = some (.idle o) →
      StaleRejected (Simulator.code fuel) (Simulator.historyOf port log) (w.registry.lock o)
        ∧ CompletionsFresh (Simulator.historyOf port log))
    ∧ ∀ (config : Driver.DriverConfig) (actions : List (Driver.Action config)),
      (Driver.DriverPort.run config actions).isIdle = true →
        StaleRejected Driver.code (Driver.DriverPort.run config actions).log
            (Driver.DriverPort.run config actions).state
          ∧ CompletionsFresh (Driver.DriverPort.run config actions).log :=
  ⟨fun _ _ _ _ hrun hport => Simulator.stale_rejected hrun hport,
    fun _ actions hidle => Driver.stale_rejected actions hidle⟩

/-- The descriptor that is handed out first. -/
def firstBuffer : Simulator.BufferRef := .tx ⟨0, Nat.succ_pos _⟩

/-- A buffer is acquired, the port reset and started again, and the buffer acquired again. -/
def acquiredAgain : List Simulator.Action :=
  Simulator.startPair
    ++ [.call 0 (.acquireTx 0 0), .call 0 .reset, .call 0 .start, .call 0 (.acquireTx 0 0)]

/-- The first buffer has been acquired. -/
def acquired : Simulator.Call × Simulator.Reply :=
  (.acquireTx 0 0, { result := .ok, handle := some (.own firstBuffer) })

/-- The buffer is given back. -/
def givenBack : List Simulator.Action :=
  acquiredAgain ++ [.call 0 (.releaseTx (some (.own firstBuffer)))]

/-- The handle from before the reset is rejected when the buffer was acquired again and given
back. -/
theorem reset_makes_stale_acquired : ∃ o,
    (Simulator.World.after 1 givenBack).ports 0 = some (.idle o)
    ∧ ∃ reply, Simulator.code 1 (.getView firstBuffer)
        ((Simulator.World.after 1 givenBack).registry.lock o)
          = .done ((Simulator.World.after 1 givenBack).registry.lock o) reply
      ∧ reply.result = .invalidState := by
  have hrun : Simulator.Run 1 (Simulator.World.initial.outcomes 1 givenBack)
      (Simulator.World.after 1 givenBack) := Simulator.Run.initial.append givenBack
  exact ⟨_, rfl, ((reset_makes_stale 1).1 _ _ 0 _ hrun rfl).1
    [(.start, { result := .ok }), acquired]
    { result := .ok } [(.start, { result := .ok }), acquired, (.releaseTx _, { result := .ok })]
    firstBuffer _ rfl rfl (by decide) rfl⟩

/-- **A handle from before a reset is good again** once its descriptor is handed out again. -/
theorem old_handle_good_again :
    Simulator.historyOf 0 (Simulator.World.initial.outcomes 1 acquiredAgain)
      = [(.start, { result := .ok }), acquired, (.reset, { result := .ok }),
        (.start, { result := .ok }), acquired]
    ∧ ∃ view, ((Simulator.World.after 1 acquiredAgain).step 1
        (.call 0 (.getView firstBuffer))).2
      = .returned 0 (.getView firstBuffer) { result := .ok, view := some view } :=
  ⟨rfl, _, rfl⟩

end Contract
