import SpwKit.Driver.Slots

/-!
# Driver slots stay consistent for any provider

In every run of a driver port, whatever is called and whatever the provider
answers, the slots are in order, at every callback and between the calls; and
between the calls the slots that are in use are those the calls that have returned
have handed out and not got back. `slots_consistent` puts the parts together. A
provider may hand out a descriptor whose token is in use, and then the backend
gives that token back while the slot is still the application's:
`gives_own` says what holds of the releases when the provider does not.
-/

open Interactive Core Ownership

namespace Driver

variable {config : DriverConfig}

/-! ## Runs -/

/-- **What the calls that have returned say about the slots.** -/
structure Accounts (log : List (Call config × Reply config))
    (o : Opened (DriverBackend config)) : Prop where
  /-- The slots are with whom the ledger says. -/
  holders : holders o.context = ledger (transfers log)
  conforms : Conforms (transfers log)
  /-- What is shown to the application is a buffer. -/
  views : ∀ entry ∈ log, ∀ view, entry.2.view = some view →
    Shown view.data view.length view.capacity
  /-- A call that returns a buffer is successful, and it is one of this port's. -/
  handles : ∀ entry ∈ log, ∀ handle, entry.1.handedIn = none → entry.2.handle = some handle →
    entry.2.result = .ok ∧ ∃ i, handle = .own i

variable {b : DriverBackend config} {log : List (Call config × Reply config)}
  {o o' : Opened (DriverBackend config)} {p : DriverPort config}

theorem accounts_opened (config : DriverConfig) :
    Accounts [] ⟨.opened, (clearSlots : DriverBackend config)⟩ where
  holders := rfl
  conforms := conforms_nil
  views _ h := absurd h (by simp)
  handles _ h := absurd h (by simp)

variable {reply : Reply config}

/-- What a call shows. -/
theorem Effect.shown {call : Call config} (h : Effect o call reply o')
    (hfit : SlotsFit o.context) {view : BufferView Pointer} (hview : reply.view = some view) :
    Shown view.data view.length view.capacity := by
  cases h with
  | same _ _ _ _ hnone | notTaken _ _ _ _ hnone => exact absurd (hnone.symm.trans hview) (by simp)
  | view ref howned =>
    obtain rfl := Option.some.inj hview
    exact (hfit.inUse ref (hfit.applicationHas howned).1).shown
  | setPacket | reset | acquired | reclaimed | submitted | released => exact absurd hview (by simp)

/-- What a call returns a pointer to. -/
theorem Effect.handle {call : Call config} (h : Effect o call reply o')
    (hcall : call.handedIn = none) {handle : BufferHandle config.SlotIndex}
    (hhandle : reply.handle = some handle) : reply.result = .ok ∧ ∃ i, handle = .own i := by
  cases h with
  | same _ _ _ _ _ hsame | notTaken _ _ _ _ _ _ hsame =>
    exact absurd ((hsame.trans hcall).symm.trans hhandle) (by simp)
  | acquired _ i | reclaimed _ i => exact ⟨rfl, i, (Option.some.inj hhandle).symm⟩
  | view | setPacket | reset | submitted | released => exact absurd hhandle (by simp)

/-- One more call. -/
theorem Accounts.call {call : Call config} (h : Accounts log o) (hfit : SlotsFit o.context)
    (heffect : Effect o call reply o') : Accounts (log ++ [(call, reply)]) o' := by
  have htransfers : transfers (log ++ [(call, reply)])
      = transfers log ++ [transfer call reply] := by simp [transfers]
  obtain ⟨hallowed, hmoves⟩ := heffect.moves
  refine ⟨?_, ?_, ?_, ?_⟩
  · rw [htransfers, ledger_snoc, ← h.holders, hmoves]
  · rw [htransfers]
    exact h.conforms.snoc (h.holders ▸ hallowed)
  · intro entry hentry view hview
    rcases List.mem_append.mp hentry with hold | hnew
    · exact h.views entry hold view hview
    · obtain rfl := List.mem_singleton.mp hnew
      exact heffect.shown hfit hview
  · intro entry hentry handle hcall hhandle
    rcases List.mem_append.mp hentry with hold | hnew
    · exact h.handles entry hold handle hcall hhandle
    · obtain rfl := List.mem_singleton.mp hnew
      exact heffect.handle hcall hhandle

/-- What is known of a driver port: also during a call, what the calls before it say. -/
structure PortHolds (p : DriverPort config) : Prop where
  holds : p.Holds (slotSetting config fun _ => True) (fun log o _ => Accounts log o) ()
  accounts : ∃ o, Accounts p.log o

theorem portHolds_opened (config : DriverConfig) : PortHolds (DriverPort.opened config) where
  holds := ⟨⟨slotsFit_clearSlots, allInOrder_nil _⟩, accounts_opened config⟩
  accounts := ⟨_, accounts_opened config⟩

/-- A call may have returned. -/
theorem PortHolds.after {p' : DriverPort config} (h : PortHolds p)
    (hholds : p'.Holds (slotSetting config fun _ => True) (fun log o _ => Accounts log o) ())
    (hlog : p'.log = p.log ∨ p'.isIdle = true) : PortHolds p' where
  holds := hholds
  accounts := by
    rcases hlog with hlog | hidle
    · rw [hlog]
      exact h.accounts
    · exact ⟨p'.state, hholds.rest hidle⟩

/-- **Every action keeps it**, whatever the provider answers. -/
theorem PortHolds.step (h : PortHolds p) (action : Action config) : PortHolds (p.step action) := by
  cases action with
  | call call =>
    rw [DriverPort.step]
    cases hbegin : p.begin code call with
    | none => exact h
    | some p' =>
      refine h.after (Endpoint.Holds.begin h.holds hbegin fun hidle => ?_)
        (Endpoint.begin_log hbegin)
      rintro s out e ⟨rfl, -⟩ ⟨hfit, hout⟩
      refine (code_effect p.state hout hfit call fun _ _ => trivial).mono ?_
      rintro o' reply out' - ⟨heffect, hout'⟩
      exact ⟨⟨heffect.fits hfit, hout'⟩, (h.holds.rest hidle).call hfit heffect⟩
  | answer reply =>
    rw [DriverPort.step]
    cases hanswer : p.answer provides reply with
    | none => exact h
    | some p' =>
      exact h.after (Endpoint.Holds.answer h.holds hanswer fun q out _ hout =>
        (Option.some.inj hout).symm) (Endpoint.answer_log hanswer)

theorem portHolds_run (actions : List (Action config)) :
    PortHolds (DriverPort.run config actions) := by
  have hrun : ∀ p : DriverPort config, PortHolds p →
      PortHolds (actions.foldl DriverPort.step p) := by
    induction actions with
    | nil => exact fun _ h => h
    | cons action actions ih => exact fun p h => ih _ (h.step action)
  exact hrun _ (portHolds_opened config)

/-! ## The slots are consistent -/

/-- A slot is with nobody exactly when it is not in use. -/
theorem SlotsFit.holders_nobody (h : SlotsFit b) (i : config.SlotIndex) :
    holders b i = .nobody ↔ (b.slots i).active = false := by
  rw [holders, Slot.holder]
  cases hactive : (b.slots i).active with
  | false => simp
  | true => rcases (h.inUse i hactive).state with hstate | ⟨hstate, -⟩ <;> simp [hstate]

/-- A slot is not in use exactly when neither the application nor the backend has it. -/
theorem SlotsFit.inactive_iff (h : SlotsFit b) (i : config.SlotIndex) :
    (b.slots i).active = false ↔
      (b.slots i).buffer.state ≠ .application ∧ (b.slots i).buffer.state ≠ .backend := by
  constructor
  · intro hinactive
    rw [h.cleared i hinactive]
    exact ⟨by decide, by decide⟩
  · rintro ⟨happlication, hbackend⟩
    by_contra hactive
    rcases (h.inUse i (by simpa using hactive)).state with hstate | ⟨hstate, -⟩
    · exact happlication hstate
    · exact hbackend hstate

/-- **The slots of a driver port are consistent**, with the calls that have returned and the
callbacks that were made. -/
structure SlotsConsistent (p : DriverPort config) : Prop where
  /-- Tokens in use are distinct. -/
  tokens (i j : config.SlotIndex) : (p.state.context.slots i).active = true →
    (p.state.context.slots j).active = true →
    (p.state.context.slots i).driverBuffer.token = (p.state.context.slots j).driverBuffer.token →
      i = j
  /-- The slots in use at the first places are for sending, the others for receiving. -/
  directions (i : config.SlotIndex) : (p.state.context.slots i).active = true →
    (p.state.context.slots i).buffer.direction
      = some (if i.val < config.txSlotCount then .tx else .rx)
  /-- The application has buffers only. -/
  exposed (i : config.SlotIndex) : (p.state.context.slots i).buffer.state = .application →
    (p.state.context.slots i).buffer.length ≤ (p.state.context.slots i).buffer.capacity
      ∧ (0 < (p.state.context.slots i).buffer.capacity →
        (p.state.context.slots i).buffer.data ≠ none)
  /-- The application has seen buffers only. -/
  views (entry : Call config × Reply config) (view : BufferView Pointer) :
    entry ∈ p.log → entry.2.view = some view →
      view.length ≤ view.capacity ∧ (0 < view.capacity → view.data ≠ none)
  /-- A slot is not in use exactly when neither the application nor the backend has it. -/
  inactive (i : config.SlotIndex) : (p.state.context.slots i).active = false ↔
    (p.state.context.slots i).buffer.state ≠ .application
      ∧ (p.state.context.slots i).buffer.state ≠ .backend
  /-- And between calls, exactly when the calls say that it is with neither. -/
  owners (i : config.SlotIndex) : p.isIdle = true →
    ((p.state.context.slots i).active = false ↔ ledger (transfers p.log) i = .nobody)
  /-- What a reclaim returns was submitted, and was not reclaimed since. -/
  reclaims (before after : List (Call config × Reply config)) (timeoutUs : Timeout)
    (reply : Reply config) (handle : BufferHandle config.SlotIndex) :
    p.log = before ++ (.reclaimTx timeoutUs, reply) :: after → reply.handle = some handle →
      ∃ i, handle = .own i ∧ ledger (transfers before) i = .service
  /-- A handle leads to its own slot. -/
  handles (ref i : config.SlotIndex) (direction : BufferDirection) :
    p.state.context.findSlotForPublicBuffer ref direction = some i → i = ref
  /-- What is submitted to the provider is a slot for sending that the application has, right
  after it was synchronized. -/
  submits (before after : List (Exchange config)) (x : Exchange config) (d : DriverBuffer) :
    p.out = before ++ x :: after → x.request.submits = some d →
      (∃ i : config.SlotIndex, i.val < config.txSlotCount
        ∧ (x.state.context.slots i).active = true
        ∧ (x.state.context.slots i).buffer.state = .application
        ∧ (x.state.context.slots i).driverBuffer = d)
      ∧ (config.ops.syncBuffer = true →
        before.getLast? = some ⟨x.state, .syncBuffer d .toDevice, Result.ok⟩)
  /-- A reset that is successful leaves no slot in use. -/
  reset (reply : Reply config) (i : config.SlotIndex) : p.isIdle = true →
    p.log.getLast? = some (.reset, reply) → reply.result = .ok →
      (p.state.context.slots i).active = false

theorem directionOf_tx {i : config.SlotIndex} (h : directionOf i = .tx) :
    i.val < config.txSlotCount := by
  by_contra hnot
  rw [directionOf, if_neg hnot] at h
  exact absurd h (by decide)

/-- After a reset the ledger is empty. -/
theorem ledger_reset (hlast : log.getLast? = some (.reset, reply))
    (hresult : reply.result = .ok) (i : config.SlotIndex) : ledger (transfers log) i = .nobody := by
  obtain ⟨before, rfl⟩ := List.getLast?_eq_some_iff.mp hlast
  have hrecall : transfer (.reset : Call config) reply = .takeBack := by
    simp [transfer, hresult]
  rw [transfers, List.map_append, List.map_cons, List.map_nil, hrecall, ledger_snoc]
  rfl

/-- **In every run of a driver port, for any provider, the slots are consistent.** -/
theorem slots_consistent (config : DriverConfig) (actions : List (Action config)) :
    SlotsConsistent (DriverPort.run config actions) := by
  have hport := portHolds_run actions
  generalize DriverPort.run config actions = p at hport ⊢
  obtain ⟨hfit, hout⟩ : SlotsFit p.state.context ∧ AllInOrder (fun _ => True) p.out :=
    hport.holds.inv
  obtain ⟨o, haccounts⟩ := hport.accounts
  have howners : p.isIdle = true → ∀ i,
      ((p.state.context.slots i).active = false ↔ ledger (transfers p.log) i = .nobody) := by
    intro hidle i
    rw [← hfit.holders_nobody i, (hport.holds.rest hidle).holders]
  refine ⟨hfit.tokens, fun i hi => (hfit.inUse i hi).direction, fun i hi => ?_,
    fun entry view hentry hview => haccounts.views entry hentry view hview, hfit.inactive_iff,
    fun i hidle => howners hidle i, fun before after timeoutUs reply handle hlog hhandle => ?_,
    fun ref i direction hfind => (hfit.found hfind).1, fun before after x d hsplit hsubmits => ?_,
    fun reply i hidle hlast hresult => (howners hidle i).mpr (ledger_reset hlast hresult i)⟩
  · have hactive : (p.state.context.slots i).active = true := by
      by_contra hinactive
      exact ((hfit.inactive_iff i).mp (by simpa using hinactive)).1 hi
    exact (hfit.inUse i hactive).shown
  · obtain ⟨hresult, i, rfl⟩ := haccounts.handles (.reclaimTx timeoutUs, reply) (by simp [hlog])
      handle rfl hhandle
    refine ⟨i, rfl, ?_⟩
    refine haccounts.conforms (transfers before) (.handOut i .service) (transfers after) ?_
    rw [hlog, ← transfer_reclaimed timeoutUs hresult hhandle]
    simp [transfers]
  · obtain ⟨⟨i, hdirection, hhas, hslot⟩, hsync⟩ := (hout before x after hsplit).submits d hsubmits
    exact ⟨⟨i, directionOf_tx hdirection, hhas.1, hhas.2, hslot⟩, hsync⟩

/-! ## What is given back to the provider -/

/-- **The provider hands out no token twice**: no descriptor it hands out has a token of a slot
that is in use. -/
def HandsOutFresh (out : List (Exchange config)) : Prop :=
  ∀ x ∈ out, ∀ d, handedOutBy x = some d → ∀ i, (x.state.context.slots i).active = true →
    (x.state.context.slots i).driverBuffer.token ≠ d.token

/-- **A call gives back to the provider** a buffer that the application has and gives back by
this call, or one that was never exposed: it was handed out in this very call and not given
back since, and no slot in use has its token. -/
def GivesOwn (call : Call config) (before : List (Exchange config)) (x : Exchange config)
    (d : DriverBuffer) : Prop :=
  (∃ i, Releases call i ∧ ApplicationHas x.state.context i
    ∧ (x.state.context.slots i).driverBuffer = d)
  ∨ HandedOut before x.state d ∧ ∀ i, (x.state.context.slots i).active = true →
    (x.state.context.slots i).driverBuffer.token ≠ d.token

/-- An acquire that fails leaves the slots. -/
theorem Effect.rejected {call : Call config} (h : Effect o call reply o')
    (hcall : call.handedIn = none) (hresult : reply.result ≠ .ok) : o'.context = o.context := by
  cases h with
  | same | view => rfl
  | notTaken _ _ _ _ _ hsome => exact absurd (hcall.symm.trans hsome) (by simp)
  | setPacket | reset | acquired | reclaimed | submitted | released => exact absurd rfl hresult

/-- **In every run, an acquire that fails leaves all slots as they were, and a call gives back
nothing that somebody still has**, if what the provider hands out in it is fresh. -/
theorem gives_own (config : DriverConfig) (actions : List (Action config)) (call : Call config)
    {o' : Opened (DriverBackend config)} {reply : Reply config} {log : List (Exchange config)}
    (hcall : (code call (DriverPort.run config actions).state).Exchanges log o' reply) :
    ((∃ minCapacity timeoutUs, call = .acquireTx minCapacity timeoutUs)
      ∨ (∃ timeoutUs, call = .acquireRx timeoutUs) → reply.result ≠ .ok →
        o'.context = (DriverPort.run config actions).state.context)
    ∧ (HandsOutFresh log → ∀ before x after d, log = before ++ x :: after →
      x.request.gives = some d → GivesOwn call before x d) := by
  generalize hp : DriverPort.run config actions = p at hcall ⊢
  have hport := portHolds_run actions
  rw [hp] at hport
  have hsat : Step.Sat (slotSetting config (Releases call)) (Does (Releases call) p.state call)
      (code call p.state) [] () :=
    code_effect p.state (allInOrder_nil _) hport.holds.inv.1 call fun _ h => h
  obtain ⟨heffect, horder⟩ := hsat.exchanges (fun _ _ _ _ => rfl) hcall
  constructor
  · rintro (⟨minCapacity, timeoutUs, rfl⟩ | ⟨timeoutUs, rfl⟩) hresult
    · exact heffect.rejected rfl hresult
    · exact heffect.rejected rfl hresult
  · intro hfresh before x after d hlog hd
    rcases (horder before x after hlog).gives d hd with hgiven | hhanded
    · exact .inl hgiven
    · refine .inr ⟨hhanded, fun i hi => ?_⟩
      obtain ⟨first, y, rest, rfl, hstate, hy, -⟩ := hhanded
      rw [← hstate] at hi ⊢
      exact hfresh y (by simp [hlog]) d hy i hi

/-- A port with two slots for sending. -/
def twoTxSlots : DriverConfig := ⟨⟨false, false, false, false, false, true⟩, 2, 1⟩

/-- A descriptor with the token 7. -/
def descriptorSeven : DriverBuffer := ⟨some 0, 0, 8, 0, 7⟩

/-- A provider that always succeeds, and hands out one descriptor again and again. -/
def alwaysSeven : (q : Callback) → q.Answer
  | .getLinkState => (.ok, none)
  | .receive _ _ => (.ok, none)
  | .receiveTimeCode _ => (.ok, none)
  | .getStatistics => (.ok, none)
  | .acquireTxBuffer _ _ | .reclaimTxBuffer _ | .acquireRxBuffer _ => (.ok, descriptorSeven)
  | .start | .stop | .reset | .send _ _ | .sendTimeCode _ _ | .clearStatistics
  | .submitTxBuffer _ _ | .releaseTxBuffer _ | .releaseRxBuffer _ | .syncBuffer _ _ => Result.ok

/-- The port is started. -/
def startSeven : List (Action twoTxSlots) := [.call .start, .answer alwaysSeven]

/-- The port is started, and a buffer acquired. -/
def acquireSeven : List (Action twoTxSlots) :=
  startSeven ++ [.call (.acquireTx 0 0), .answer alwaysSeven]

/-- The port that has that buffer. -/
def holdsSeven : Opened (DriverBackend twoTxSlots) := (DriverPort.run twoTxSlots acquireSeven).state

/-- A provider that hands out a descriptor with the token 9. -/
def handsOutNine : (q : Callback) → q.Answer
  | .acquireTxBuffer _ _ => (.ok, { descriptorSeven with token := 9 })
  | q => alwaysSeven q

/-- What an acquire of sixteen bytes exchanges with that provider. -/
def tooSmall : List (Exchange twoTxSlots) :=
  [⟨holdsSeven, .acquireTxBuffer 16 0, handsOutNine _⟩,
    ⟨holdsSeven, .releaseTxBuffer { descriptorSeven with token := 9 }, handsOutNine _⟩]

/-- A descriptor that is too small goes back to the provider, while the application has another. -/
theorem gives_own_tooSmall : ∃ o',
    (code (.acquireTx 16 0) holdsSeven).Exchanges tooSmall o' { result := .backend }
    ∧ ApplicationHas holdsSeven.context ⟨0, by decide⟩
    ∧ HandsOutFresh tooSmall ∧ o'.context = holdsSeven.context
    ∧ ∀ before x after d, tooSmall = before ++ x :: after → x.request.gives = some d →
      GivesOwn (.acquireTx 16 0) before x d := by
  have hcall : (code (.acquireTx 16 0) holdsSeven).Exchanges tooSmall holdsSeven
      { result := .backend } :=
    .ask (handsOutNine _) (.ask (handsOutNine _) (.done _ _))
  have hseven : ∀ i, (holdsSeven.context.slots i).active = true →
      (holdsSeven.context.slots i).driverBuffer.token = 7 := by decide +kernel
  have hfresh : HandsOutFresh tooSmall := by
    intro x hx d hd i hi
    rcases List.mem_cons.mp hx with rfl | hx
    · obtain rfl := Option.some.inj hd
      rw [hseven i hi]
      decide
    · obtain rfl := List.mem_singleton.mp hx
      cases hd
  have hgives := gives_own twoTxSlots acquireSeven (.acquireTx 16 0) hcall
  exact ⟨_, hcall, ⟨rfl, rfl⟩, hfresh, hgives.1 (.inl ⟨16, 0, rfl⟩) (by simp), hgives.2 hfresh⟩

/-- **A token that is in use goes back to the provider**: the second acquire is handed the same
token, fails, and releases the buffer that the application has from the first. -/
theorem acquire_releases_live_buffer : ∃ log o',
    (code (.acquireTx 0 0) holdsSeven).Exchanges log o' { result := .backend }
    ∧ ∃ before x after d, log = before ++ x :: after ∧ x.request.gives = some d
      ∧ ¬ GivesOwn (.acquireTx 0 0) before x d
      ∧ ∃ i, ApplicationHas o'.context i ∧ (o'.context.slots i).driverBuffer.token = d.token := by
  refine ⟨_, _, .ask (alwaysSeven _) (.ask (alwaysSeven _) (.done _ _)), [_], _, [],
    descriptorSeven, rfl, rfl, ?_, ⟨0, by decide⟩, ⟨rfl, rfl⟩, rfl⟩
  rintro (⟨i, hreleases, -⟩ | ⟨-, hfresh⟩)
  · rcases hreleases with h | h <;> exact absurd h (by simp)
  · exact hfresh ⟨0, by decide⟩ rfl rfl

end Driver
