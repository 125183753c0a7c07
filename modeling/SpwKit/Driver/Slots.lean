import SpwKit.Driver.DriverBackend

/-!
# The slots of a driver port

A provider may answer anything, and the slots are still in order (`SlotsFit`): the
ones in use have tokens of their own, are for sending or for receiving as their
place says, and show the application a buffer that is one. `Effect` lists what a
call can do to them, and `code_effect` says that every call does one of these
things. What the application and the backend own is then what the calls say that
have returned: the slots refine the ledger of `Ownership`.
-/

open Interactive Core Ownership

namespace Driver

variable {config : DriverConfig}

/-! ## Slots in order -/

/-- What a slot is for, by its place. -/
def directionOf (i : config.SlotIndex) : BufferDirection :=
  if i.val < config.txSlotCount then .tx else .rx

/-- A buffer that may be shown: no longer than there is room, and somewhere if there is
room at all. -/
def Shown (data : Pointer) (length capacity : Nat) : Prop :=
  length ≤ capacity ∧ (0 < capacity → data ≠ none)

/-- **A slot in use.** -/
structure InUse (i : config.SlotIndex) (slot : Slot) : Prop where
  owner : slot.buffer.owner = true
  direction : slot.buffer.direction = some (directionOf i)
  state : slot.buffer.state = .application
    ∨ slot.buffer.state = .backend ∧ directionOf i = .tx
  token : slot.buffer.token = i.val
  shown : Shown slot.buffer.data slot.buffer.length slot.buffer.capacity

/-- **The slots are in order.** -/
structure SlotsFit (b : DriverBackend config) : Prop where
  cleared : ∀ i, (b.slots i).active = false → b.slots i = .cleared
  inUse : ∀ i, (b.slots i).active = true → InUse i (b.slots i)
  tokens : ∀ i j, (b.slots i).active = true → (b.slots j).active = true →
    (b.slots i).driverBuffer.token = (b.slots j).driverBuffer.token → i = j

variable {b : DriverBackend config} {i : config.SlotIndex} {o o' : Opened (DriverBackend config)}

theorem slotsFit_clearSlots : SlotsFit (clearSlots : DriverBackend config) where
  cleared _ _ := rfl
  inUse _ h := absurd h (by simp [clearSlots, Slot.cleared])
  tokens _ _ h := absurd h (by simp [clearSlots, Slot.cleared])

section Update

variable {b : DriverBackend config} {i : config.SlotIndex} {slot : Slot}

@[simp] theorem update_self : (b.update i slot).slots i = slot := by
  simp [DriverBackend.update]

theorem update_update (slot' : Slot) : (b.update i slot).update i slot' = b.update i slot' := by
  simp [DriverBackend.update]

theorem update_of_ne {j : config.SlotIndex} (h : j ≠ i) :
    (b.update i slot).slots j = b.slots j := by
  simp [DriverBackend.update, h]

/-- A slot is put to use, or stays in use. -/
theorem SlotsFit.update (h : SlotsFit b) (hactive : slot.active = true) (hslot : InUse i slot)
    (htoken : ∀ j, j ≠ i → (b.slots j).active = true →
      (b.slots j).driverBuffer.token ≠ slot.driverBuffer.token) : SlotsFit (b.update i slot) where
  cleared j hj := by
    by_cases hji : j = i
    · subst hji
      rw [update_self] at hj
      exact absurd hj (by simp [hactive])
    · rw [update_of_ne hji] at hj ⊢
      exact h.cleared j hj
  inUse j hj := by
    by_cases hji : j = i
    · subst hji
      rw [update_self]
      exact hslot
    · rw [update_of_ne hji] at hj ⊢
      exact h.inUse j hj
  tokens j k hj hk heq := by
    by_cases hji : j = i
    · by_cases hki : k = i
      · rw [hji, hki]
      · subst hji
        rw [update_of_ne hki] at hk heq
        rw [update_self] at heq
        exact absurd heq.symm (htoken k hki hk)
    · by_cases hki : k = i
      · subst hki
        rw [update_of_ne hji] at hj heq
        rw [update_self] at heq
        exact absurd heq (htoken j hji hj)
      · rw [update_of_ne hji] at hj heq
        rw [update_of_ne hki] at hk heq
        exact h.tokens j k hj hk heq

/-- A slot that is in use stays so, with its token. -/
theorem SlotsFit.same_token (h : SlotsFit b) (hused : (b.slots i).active = true)
    (hactive : slot.active = true) (hslot : InUse i slot)
    (htoken : slot.driverBuffer.token = (b.slots i).driverBuffer.token) :
    SlotsFit (b.update i slot) :=
  h.update hactive hslot fun j hji hj heq => hji (h.tokens j i hj hused (heq.trans htoken))

/-- The slots are in order where a length and a terminator were copied. -/
theorem SlotsFit.withMetadata (h : SlotsFit b) (hactive : (b.slots i).active = true) :
    SlotsFit (b.update i (b.slots i).withMetadata) := by
  have huse := h.inUse i hactive
  exact h.same_token hactive hactive
    ⟨huse.owner, huse.direction, huse.state, huse.token, huse.shown⟩ rfl

theorem SlotsFit.clear (h : SlotsFit b) : SlotsFit (b.update i .cleared) where
  cleared j hj := by
    by_cases hji : j = i
    · subst hji
      exact update_self
    · rw [update_of_ne hji] at hj ⊢
      exact h.cleared j hj
  inUse j hj := by
    by_cases hji : j = i
    · subst hji
      rw [update_self] at hj
      exact absurd hj (by simp [Slot.cleared])
    · rw [update_of_ne hji] at hj ⊢
      exact h.inUse j hj
  tokens j k hj hk heq := by
    have hused : ∀ l, ((b.update i .cleared).slots l).active = true → l ≠ i := by
      rintro l hl rfl
      rw [update_self] at hl
      exact absurd hl (by simp [Slot.cleared])
    have hji := hused j hj
    have hki := hused k hk
    rw [update_of_ne hji] at hj heq
    rw [update_of_ne hki] at hk heq
    exact h.tokens j k hj hk heq

end Update

/-! ## Finding a slot -/

section Find

variable {b : DriverBackend config}

variable {i : config.SlotIndex} {token : UInt64}

theorem findFreeSlot_some {first count : Nat} (h : b.findFreeSlot first count = some i) :
    first ≤ i.val ∧ i.val < first + count ∧ (b.slots i).active = false := by
  have hi := List.find?_some h
  simp only [Bool.and_eq_true, decide_eq_true_eq, Bool.not_eq_true'] at hi
  exact ⟨hi.1.1, hi.1.2, hi.2⟩

theorem tokenInUse_false (h : b.tokenInUse token = false) (j : config.SlotIndex)
    (hj : (b.slots j).active = true) : (b.slots j).driverBuffer.token ≠ token := by
  intro htoken
  have := List.any_eq_false.mp h j (List.mem_finRange j)
  simp [hj, htoken] at this

/-- **A handle leads to its own slot**, if that is in use for the same direction. -/
theorem SlotsFit.findSlotForPublicBuffer (h : SlotsFit b) (ref : config.SlotIndex)
    (direction : BufferDirection) : b.findSlotForPublicBuffer ref direction
      = if (b.slots ref).active = true ∧ directionOf ref = direction then some ref else none := by
  split_ifs with hslot
  · -- no other slot is at that place
    obtain ⟨hactive, hdirection⟩ := hslot
    have huse := h.inUse ref hactive
    have hsome : (b.findSlotForPublicBuffer ref direction).isSome = true := by
      refine List.find?_isSome.mpr ⟨ref, List.mem_finRange ref, ?_⟩
      simp [hactive, huse.owner, huse.direction, hdirection]
    obtain ⟨i, hi⟩ := Option.isSome_iff_exists.mp hsome
    have hfound := List.find?_some hi
    simp only [Bool.and_eq_true, decide_eq_true_eq] at hfound
    rw [hi, hfound.1.1.2]
  · refine List.find?_eq_none.mpr fun i _ hi => hslot ?_
    simp only [Bool.and_eq_true, decide_eq_true_eq] at hi
    obtain ⟨⟨⟨hactive, rfl⟩, -⟩, hdirection⟩ := hi
    exact ⟨hactive, Option.some.inj ((h.inUse i hactive).direction.symm.trans hdirection)⟩

theorem SlotsFit.found (h : SlotsFit b) {ref : config.SlotIndex} {direction : BufferDirection}
    (hfind : b.findSlotForPublicBuffer ref direction = some i) :
    i = ref ∧ (b.slots ref).active = true ∧ directionOf ref = direction := by
  rw [h.findSlotForPublicBuffer] at hfind
  split_ifs at hfind with hslot
  exact ⟨(Option.some.inj hfind).symm, hslot⟩

theorem findTxSlotForToken_some (h : b.findTxSlotForToken token = some i) :
    directionOf i = .tx ∧ (b.slots i).active = true
      ∧ (b.slots i).driverBuffer.token = token ∧ (b.slots i).buffer.state = .backend := by
  have hi := List.find?_some h
  simp only [Bool.and_eq_true, decide_eq_true_eq] at hi
  exact ⟨if_pos hi.1.1.1, hi.1.1.2, hi.1.2, hi.2⟩

theorem validateDriverBuffer_ok {d : DriverBuffer} {requirePacketMetadata : Bool}
    (h : validateDriverBuffer d requirePacketMetadata = .ok) :
    Shown d.data d.length d.capacity := by
  unfold validateDriverBuffer at h
  split_ifs at h with hshape hmetadata
  rw [not_or, not_and] at hshape
  exact ⟨Nat.le_of_not_lt hshape.1, fun hpos hnone => hshape.2 (by omega) (by simp [hnone])⟩

end Find

/-! ## Callbacks in order -/

/-- The application has a slot. -/
def ApplicationHas (b : DriverBackend config) (i : config.SlotIndex) : Prop :=
  (b.slots i).active = true ∧ (b.slots i).buffer.state = .application

/-- The descriptor that a callback has handed out. -/
def handedOutBy (x : Exchange config) : Option DriverBuffer :=
  match x with
  | ⟨_, .acquireTxBuffer _ _, (.ok, d)⟩ => some d
  | ⟨_, .acquireRxBuffer _, (.ok, d)⟩ => some d
  | _ => none

/-- The descriptor that a callback gives back to the provider. -/
def Callback.gives : Callback → Option DriverBuffer
  | .releaseTxBuffer d => some d
  | .releaseRxBuffer d => some d
  | _ => none

/-- The descriptor that a callback submits. -/
def Callback.submits : Callback → Option DriverBuffer
  | .submitTxBuffer d _ => some d
  | _ => none

/-- **A descriptor was handed out** to a port as it is, and was not given back since. -/
def HandedOut (before : List (Exchange config)) (o : Opened (DriverBackend config))
    (d : DriverBuffer) : Prop :=
  ∃ first y rest, before = first ++ y :: rest ∧ y.state = o ∧ handedOutBy y = some d
    ∧ ∀ z ∈ rest, z.request.gives = none

variable (giving : config.SlotIndex → Prop)

/-- **A callback is in order** after others. A submission is for a slot of the application's
for sending and, if the provider has buffers synchronized, comes right after that buffer was,
with success. What is given back was handed out just now, or is one of the application's that
may be given back. -/
structure InOrder (before : List (Exchange config))
    (x : Exchange config) : Prop where
  submits : ∀ d, x.request.submits = some d →
    (∃ i, directionOf i = .tx ∧ ApplicationHas x.state.context i
      ∧ (x.state.context.slots i).driverBuffer = d)
    ∧ (config.ops.syncBuffer = true →
      before.getLast? = some ⟨x.state, .syncBuffer d .toDevice, Result.ok⟩)
  gives : ∀ d, x.request.gives = some d →
    (∃ i, giving i ∧ ApplicationHas x.state.context i
      ∧ (x.state.context.slots i).driverBuffer = d)
    ∨ HandedOut before x.state d

theorem handedOut_last (out : List (Exchange config)) {y : Exchange config} {d : DriverBuffer}
    (h : handedOutBy y = some d) : HandedOut (out ++ [y]) y.state d :=
  ⟨out, y, [], rfl, rfl, h, List.forall_mem_nil _⟩

/-- **All callbacks are in order.** -/
def AllInOrder (out : List (Exchange config)) : Prop :=
  ∀ before x after, out = before ++ x :: after → InOrder giving before x

theorem allInOrder_nil : AllInOrder giving ([] : List (Exchange config)) :=
  fun before x after h => absurd h (by simp)

theorem AllInOrder.snoc {giving : config.SlotIndex → Prop} {out : List (Exchange config)}
    {x : Exchange config} (h : AllInOrder giving out) (hx : InOrder giving out x) :
    AllInOrder giving (out ++ [x]) := by
  intro before y after heq
  rcases List.eq_nil_or_concat after with rfl | ⟨rest, z, rfl⟩
  · obtain ⟨rfl, rfl⟩ := List.append_inj' heq rfl |>.imp_right List.singleton_inj.mp
    exact hx
  · rw [List.concat_eq_append, ← List.cons_append, ← List.append_assoc] at heq
    exact h before y rest (List.append_inj' heq rfl).1

/-- What a port keeps at every callback, and what a callback leaves behind. -/
def slotSetting (config : DriverConfig) (giving : config.SlotIndex → Prop) :
    Setting Callback Callback.Answer (Opened (DriverBackend config)) (List (Exchange config))
      Unit where
  inv o out _ := SlotsFit o.context ∧ AllInOrder giving out
  answers o out _ q r out' := out' = out ++ [⟨o, q, r⟩]

section Callbacks

variable {α : Type} {giving : config.SlotIndex → Prop} {port : Port} {b : DriverBackend config}
  {out : List (Exchange config)}
  {Q : DriverBackend config → α → List (Exchange config) → Unit → Prop}

variable {d : DriverBuffer} {q : Callback} {x : Exchange config}

/-- A callback that neither submits nor gives back. -/
theorem inOrder_other (before : List (Exchange config)) (hsubmits : x.request.submits = none)
    (hgives : x.request.gives = none) : InOrder giving before x where
  submits d hd := absurd (hsubmits.symm.trans hd) (by simp)
  gives d hd := absurd (hgives.symm.trans hd) (by simp)

/-- A callback that gives something back. -/
theorem inOrder_gives {before : List (Exchange config)} (hsubmits : x.request.submits = none)
    (hgives : x.request.gives = some d)
    (h : (∃ i, giving i ∧ ApplicationHas x.state.context i
        ∧ (x.state.context.slots i).driverBuffer = d)
      ∨ HandedOut before x.state d) : InOrder giving before x where
  submits d hd := absurd (hsubmits.symm.trans hd) (by simp)
  gives d' hd := Option.some.inj (hgives.symm.trans hd) ▸ h

/-- A callback. -/
theorem sat_callback {k : q.Answer → Drv config α} (hb : SlotsFit b)
    (hout : AllInOrder giving out) (hq : ∀ r, InOrder giving out ⟨⟨port, b⟩, q, r⟩)
    (h : ∀ r, AllInOrder giving (out ++ [⟨⟨port, b⟩, q, r⟩]) →
      Step.Sat (backendOf (slotSetting config giving) port) Q (k r b)
        (out ++ [⟨⟨port, b⟩, q, r⟩]) ()) :
    Step.Sat (backendOf (slotSetting config giving) port) Q ((callback q >>= k) b) out () := by
  refine ⟨⟨hb, hout⟩, ?_⟩
  rintro _ - r _ rfl
  exact h r (hout.snoc (hq r))

/-- A call that only passes on what the provider says. -/
theorem sat_passOn {Q : DriverBackend config → q.Answer → List (Exchange config) → Unit → Prop}
    (hb : SlotsFit b) (hout : AllInOrder giving out) (hsubmits : q.submits = none)
    (hgives : q.gives = none) (h : ∀ r out, AllInOrder giving out → Q b r out ()) :
    Step.Sat (backendOf (slotSetting config giving) port) Q (callback q b) out () := by
  refine ⟨⟨hb, hout⟩, ?_⟩
  rintro _ - r _ rfl
  exact h r _ (hout.snoc (inOrder_other out hsubmits hgives))

/-- `sync_buffer`, with what the log says afterwards. -/
theorem sat_syncBuffer (d : DriverBuffer) (direction : SyncDirection)
    {k : Result → Drv config α} (hb : SlotsFit b) (hout : AllInOrder giving out)
    (h : ∀ (result : Result) out', AllInOrder giving out' →
      (∀ o d, HandedOut out o d → HandedOut out' o d) →
      (config.ops.syncBuffer = true →
        out'.getLast? = some ⟨⟨port, b⟩, .syncBuffer d direction, result⟩) →
      Step.Sat (backendOf (slotSetting config giving) port) Q (k result b) out' ()) :
    Step.Sat (backendOf (slotSetting config giving) port) Q ((syncBuffer d direction >>= k) b) out
      () := by
  by_cases hsync : config.ops.syncBuffer = true
  · have hcall : (syncBuffer d direction : Drv config Result)
        = callback (.syncBuffer d direction) := if_pos hsync
    rw [hcall]
    refine sat_callback hb hout (fun _ => inOrder_other out rfl rfl) fun r hout' =>
      h r _ hout' (fun o d' hd => ?_) fun _ => by simp
    obtain ⟨first, y, rest, rfl, hstate, hy, hrest⟩ := hd
    refine ⟨first, y, rest ++ [⟨⟨port, b⟩, .syncBuffer d direction, r⟩], by simp, hstate, hy,
      fun z hz => ?_⟩
    rcases List.mem_append.mp hz with hold | hnew
    · exact hrest z hold
    · rw [List.mem_singleton.mp hnew]
      rfl
  · have hcall : (syncBuffer d direction : Drv config Result) = pure .ok := if_neg hsync
    rw [hcall]
    exact h .ok out hout (fun _ _ hd => hd) fun hyes => absurd hyes hsync

/-- The submission itself. -/
theorem inOrder_submit {before : List (Exchange config)} {i : config.SlotIndex}
    (hgives : x.request.gives = none) (hsubmits : x.request.submits = some d)
    (hdirection : directionOf i = .tx) (hhas : ApplicationHas x.state.context i)
    (hslot : (x.state.context.slots i).driverBuffer = d) (hsync : config.ops.syncBuffer = true →
      before.getLast? = some ⟨x.state, .syncBuffer d .toDevice, Result.ok⟩) :
    InOrder giving before x where
  submits d' hd' := by
    obtain rfl := Option.some.inj (hsubmits.symm.trans hd')
    exact ⟨⟨i, hdirection, hhas, hslot⟩, hsync⟩
  gives d' hd' := absurd (hgives.symm.trans hd') (by simp)

end Callbacks

/-! ## What a call does -/

/-- A slot with a buffer that was handed out. -/
def handedOut (port : Port) (slot : Slot) (d : DriverBuffer) (i : config.SlotIndex) : Slot :=
  { exposeSlot slot d i.val (directionOf i) .application with
    buffer := port.bindBufferEpoch (exposeSlot slot d i.val (directionOf i) .application).buffer }

/-- A slot that the backend has exposed, after the port has bound its buffer. -/
theorem bound_exposed (port : Port) (b : DriverBackend config) (d : DriverBuffer)
    {direction : BufferDirection} (hdirection : directionOf i = direction) :
    Opened.bound (driverBuffers config)
        ⟨port, b.update i (exposeSlot (b.slots i) d i.val direction .application)⟩ i
      = ⟨port, b.update i (handedOut port (b.slots i) d i)⟩ := by
  subst hdirection
  rw [Opened.bound, Opened.setBuffer]
  refine congrArg (Opened.mk port) ?_
  show (b.update i _).update i _ = _
  rw [update_update]
  refine congrArg (b.update i) ?_
  show ({ (b.update i _).slots i with
    buffer := port.bindBufferEpoch ((b.update i _).slots i).buffer } : Slot) = _
  rw [update_self]
  rfl

/-- **What a call can do to the slots.** -/
inductive Effect (o : Opened (DriverBackend config)) :
    Call config → Reply config → Opened (DriverBackend config) → Prop
  /-- Nothing. -/
  | same (call : Call config) (reply : Reply config) (port : Port)
      (htransfer : transfer call reply = .nothing) (hview : reply.view = none)
      (hhandle : reply.handle = call.handedIn) : Effect o call reply ⟨port, o.context⟩
  /-- A buffer could not be given back: the provider's descriptor has its length. -/
  | notTaken (call : Call config) (reply : Reply config) (i : config.SlotIndex)
      (hresult : reply.result ≠ .ok) (hview : reply.view = none)
      (hcall : call.handedIn = some (.own i)) (hhandle : reply.handle = call.handedIn)
      (howned : ApplicationHas o.context i) :
      Effect o call reply
        ⟨o.port, o.context.update i (o.context.slots i).withMetadata⟩
  | view (ref : config.SlotIndex)
      (howned : o.port.applicationOwned (o.context.slots ref).buffer = true) :
      Effect o (.getView ref) { result := .ok, view := some ⟨(o.context.slots ref).buffer.data,
        (o.context.slots ref).buffer.length, (o.context.slots ref).buffer.capacity,
        (o.context.slots ref).buffer.terminator⟩ } o
  | setPacket (ref : config.SlotIndex) (length : Nat) (terminator : UInt8)
      (howned : o.port.applicationOwned (o.context.slots ref).buffer = true)
      (hlength : length ≤ (o.context.slots ref).buffer.capacity) :
      Effect o (.setPacket ref length terminator) { result := .ok }
        ⟨o.port, o.context.update ref { o.context.slots ref with
          buffer := { (o.context.slots ref).buffer with
            length := length, terminator := terminator } }⟩
  | reset (port : Port) : Effect o .reset { result := .ok } ⟨port, clearSlots⟩
  /-- A slot is put to use. -/
  | acquired (call : Call config) (i : config.SlotIndex) (d : DriverBuffer)
      (htransfer : transfer call ({ result := .ok, handle := some (.own i) } : Reply config)
        = .handOut i .nobody)
      (hfree : (o.context.slots i).active = false) (hshown : Shown d.data d.length d.capacity)
      (htoken : ∀ j, (o.context.slots j).active = true →
        (o.context.slots j).driverBuffer.token ≠ d.token) :
      Effect o call { result := .ok, handle := some (.own i) }
        ⟨o.port, o.context.update i (handedOut o.port (o.context.slots i) d i)⟩
  | reclaimed (timeoutUs : Timeout) (i : config.SlotIndex) (d : DriverBuffer)
      (hdirection : directionOf i = .tx) (hactive : (o.context.slots i).active = true)
      (hstate : (o.context.slots i).buffer.state = .backend)
      (htoken : (o.context.slots i).driverBuffer.token = d.token)
      (hshown : Shown d.data d.length d.capacity) :
      Effect o (.reclaimTx timeoutUs) { result := .ok, handle := some (.own i) }
        ⟨o.port, o.context.update i (handedOut o.port (o.context.slots i) d i)⟩
  | submitted (i : config.SlotIndex) (timeoutUs : Timeout) (hdirection : directionOf i = .tx)
      (howned : ApplicationHas o.context i) :
      Effect o (.submitTx (some (.own i)) timeoutUs) { result := .ok }
        ⟨o.port, o.context.update i { (o.context.slots i).withMetadata with
          buffer := { (o.context.slots i).buffer with state := .backend } }⟩
  | released (call : Call config) (i : config.SlotIndex)
      (htransfer : transfer call ({ result := .ok } : Reply config) = .handIn i .nobody)
      (howned : ApplicationHas o.context i) :
      Effect o call { result := .ok } ⟨o.port, o.context.update i .cleared⟩

/-- What is owned, as the port decides it, is the application's. -/
theorem SlotsFit.applicationHas (h : SlotsFit b) {port : Port}
    (howned : port.applicationOwned (b.slots i).buffer = true) : ApplicationHas b i := by
  simp only [Port.applicationOwned, Bool.and_eq_true, decide_eq_true_eq] at howned
  refine ⟨?_, howned.1.1⟩
  by_contra hinactive
  rw [h.cleared i (by simpa using hinactive)] at howned
  exact absurd howned.1.1 (by decide)

section Code

variable (o : Opened (DriverBackend config)) {giving : config.SlotIndex → Prop}
  {out : List (Exchange config)}

/-- The application gives a buffer back by a call. -/
def Releases (call : Call config) (i : config.SlotIndex) : Prop :=
  call = .releaseTx (some (.own i)) ∨ call = .releaseRx (some (.own i))

/-- What is to be shown of every call. -/
def Does (giving : config.SlotIndex → Prop) (o : Opened (DriverBackend config)) (call : Call config)
    (o' : Opened (DriverBackend config)) (reply : Reply config) (out : List (Exchange config))
    (_ : Unit) : Prop :=
  Effect o call reply o' ∧ AllInOrder giving out

/-- A call that fails and changes nothing. -/
theorem does_refused (call : Call config) {reply : Reply config} (hresult : reply.result ≠ .ok)
    (hview : reply.view = none) (hhandle : reply.handle = call.handedIn)
    (hout : AllInOrder giving out) : Does giving o call o reply out () :=
  ⟨.same call reply o.port (transfer_of_failed call hresult) hview hhandle, hout⟩

/-- A buffer that was not taken, after its length was copied. -/
theorem does_notTaken (call : Call config) {i : config.SlotIndex} {result : Result}
    (hresult : result ≠ .ok) (hhandle : call.handedIn = some (.own i))
    (howned : ApplicationHas o.context i) (hout : AllInOrder giving out) :
    TakesBack o.port i (Does giving o call) (o.context.update i (o.context.slots i).withMetadata)
      result out () := by
  refine ⟨.notTaken call _ i hresult rfl hhandle ?_ howned, hout⟩
  rw [hhandle]
  exact if_neg hresult

variable (hout : AllInOrder giving out)

include hout

/-- A descriptor that the provider has handed out, in a slot that was free. -/
theorem does_acquired (call : Call config) {i : config.SlotIndex} {d : DriverBuffer}
    {direction : BufferDirection} (hdirection : directionOf i = direction)
    (htransfer : transfer call ({ result := .ok, handle := some (.own i) } : Reply config)
      = .handOut i .nobody)
    (hfree : (o.context.slots i).active = false) (hshown : Shown d.data d.length d.capacity)
    (htoken : o.context.tokenInUse d.token = false) :
    HandsOut (driverBuffers config) o.port (Does giving o call)
      (o.context.update i (exposeSlot (o.context.slots i) d i.val direction .application))
      (.ok, some i) out () := by
  refine .inr ⟨i, rfl, ?_, hout⟩
  rw [bound_exposed o.port o.context d hdirection]
  exact .acquired call i d htransfer hfree hshown (tokenInUse_false htoken)

variable (hfit : SlotsFit o.context)

include hfit

/-- A callback that may be left out. -/
theorem sat_optional (q : Callback) (absent : q.Answer) (hsubmits : q.submits = none)
    (hgives : q.gives = none) {c : Prop} [Decidable c] {port : Port}
    {Q : DriverBackend config → q.Answer → List (Exchange config) → Unit → Prop}
    (h : ∀ r out, AllInOrder giving out → Q o.context r out ()) :
    Step.Sat (backendOf (slotSetting config giving) port) Q
      ((if c then callback q else pure absent : Drv config q.Answer) o.context) out () :=
  Step.sat_ite (fun _ => sat_passOn hfit hout hsubmits hgives h) fun _ => h absent out hout

/-- A descriptor that is not taken goes back to the provider, and the call fails. -/
theorem sat_rejected {call : Call config} (hcall : call.handedIn = none) {q : Callback}
    {d : DriverBuffer} (hsubmits : q.submits = none) (hgives : q.gives = some d)
    (hd : HandedOut out o d) {result : Result} (hresult : result ≠ .ok) :
    Calls (slotSetting config giving) o out () (do
      let _ ← callback q
      return (result, none)) (HandsOut (driverBuffers config) o.port (Does giving o call)) :=
  sat_callback hfit hout (fun _ => inOrder_gives hsubmits hgives (.inr hd))
    fun _ hreleased => .inl ⟨rfl, does_refused o _ hresult rfl hcall.symm hreleased⟩

theorem sat_driverAcquireTxBuffer (minCapacity : Nat) (timeoutUs : Timeout) :
    Calls (slotSetting config giving) o out () (driverAcquireTxBuffer minCapacity timeoutUs)
      (HandsOut (driverBuffers config) o.port
        (Does giving o (.acquireTx minCapacity timeoutUs))) := by
  rw [Calls, driverAcquireTxBuffer, Process.bind_apply, Process.get_apply, Step.bind_done]
  cases hfind : o.context.findFreeSlot 0 config.txSlotCount with
  | none => exact .inl ⟨rfl, does_refused o _ (by simp) rfl rfl hout⟩
  | some i =>
    obtain ⟨-, hi, hfree⟩ := findFreeSlot_some hfind
    refine sat_callback hfit hout (fun _ => inOrder_other out rfl rfl) ?_
    rintro ⟨result, d⟩ hout'
    refine Step.sat_ite (fun hresult => .inl ⟨rfl, does_refused o _ hresult rfl rfl hout'⟩)
      fun hresult => ?_
    obtain rfl := not_not.mp hresult
    refine Step.sat_ite (fun hbad => sat_rejected o hout' hfit rfl rfl rfl
      (handedOut_last out rfl) (by simp)) fun hgood => ?_
    simp only [not_or, not_not, Bool.not_eq_true] at hgood
    obtain ⟨hvalid, -, htoken⟩ := hgood
    exact does_acquired o hout' _ (if_pos (by omega)) rfl hfree
      ⟨Nat.zero_le _, (validateDriverBuffer_ok hvalid).2⟩ htoken

theorem sat_driverAcquireRxBuffer (timeoutUs : Timeout) :
    Calls (slotSetting config giving) o out () (driverAcquireRxBuffer timeoutUs)
      (HandsOut (driverBuffers config) o.port (Does giving o (.acquireRx timeoutUs))) := by
  rw [Calls, driverAcquireRxBuffer, Process.bind_apply, Process.get_apply, Step.bind_done]
  cases hfind : o.context.findFreeSlot config.txSlotCount config.rxSlotCount with
  | none => exact .inl ⟨rfl, does_refused o _ (by simp) rfl rfl hout⟩
  | some i =>
    obtain ⟨hi, -, hfree⟩ := findFreeSlot_some hfind
    refine sat_callback hfit hout (fun _ => inOrder_other out rfl rfl) ?_
    rintro ⟨result, d⟩ hout'
    refine Step.sat_ite (fun hresult => .inl ⟨rfl, does_refused o _ hresult rfl rfl hout'⟩)
      fun hresult => ?_
    obtain rfl := not_not.mp hresult
    have hlast : HandedOut (out ++ [_]) _ d := handedOut_last out
      (y := ⟨⟨o.port, o.context⟩, .acquireRxBuffer timeoutUs, (.ok, d)⟩) rfl
    refine Step.sat_ite (fun hbad => sat_rejected o hout' hfit rfl rfl rfl hlast (by simp))
      fun hgood => ?_
    refine sat_syncBuffer d .fromDevice hfit hout' fun synced out' hsyncOut hkept _ =>
      Step.sat_ite (fun hsynced => sat_rejected o hsyncOut hfit rfl rfl rfl (hkept _ _ hlast)
        hsynced) fun hsynced => ?_
    simp only [not_or, not_not, Bool.not_eq_true] at hgood
    exact does_acquired o hsyncOut _ (if_neg (by omega)) rfl hfree
      (validateDriverBuffer_ok hgood.1) hgood.2

theorem sat_driverReclaimTxBuffer (timeoutUs : Timeout) :
    Calls (slotSetting config giving) o out () (driverReclaimTxBuffer timeoutUs)
      (HandsOut (driverBuffers config) o.port (Does giving o (.reclaimTx timeoutUs))) := by
  refine sat_callback hfit hout (fun _ => inOrder_other out rfl rfl) ?_
  rintro ⟨result, d⟩ hout'
  refine Step.sat_ite (fun hresult => .inl ⟨rfl, does_refused o _ hresult rfl rfl hout'⟩)
    fun hresult => ?_
  rw [Process.bind_apply, Process.get_apply, Step.bind_done]
  cases hfind : o.context.findTxSlotForToken d.token with
  | none => exact .inl ⟨rfl, does_refused o _ (by simp) rfl rfl hout'⟩
  | some i =>
    obtain ⟨hdirection, hactive, htoken, hstate⟩ := findTxSlotForToken_some hfind
    refine Step.sat_ite (fun hbad => .inl ⟨rfl, does_refused o _ (by simp) rfl rfl hout'⟩)
      fun hvalid => .inr ⟨i, rfl, ?_, hout'⟩
    rw [bound_exposed o.port o.context d hdirection]
    exact .reclaimed timeoutUs i d hdirection hactive hstate htoken
      (validateDriverBuffer_ok (not_not.mp hvalid))

theorem sat_driverSubmitTxBuffer (ref : config.SlotIndex) (timeoutUs : Timeout) :
    Calls (slotSetting config giving) o out () (driverSubmitTxBuffer ref timeoutUs)
      (TakesBack o.port ref (Does giving o (.submitTx (some (.own ref)) timeoutUs))) := by
  rw [Calls, driverSubmitTxBuffer, Process.bind_apply, Process.get_apply, Step.bind_done]
  cases hfind : o.context.findSlotForPublicBuffer ref .tx with
  | none => exact does_refused o _ (by simp) rfl rfl hout
  | some i =>
    obtain ⟨rfl, hactive, hdirection⟩ := hfit.found hfind
    refine Step.sat_ite (fun _ => does_refused o _ (by simp) rfl rfl hout) fun hstate => ?_
    have howns : ApplicationHas o.context i := ⟨hactive, not_not.mp hstate⟩
    have hfit' := hfit.withMetadata hactive
    refine Step.sat_ite (s := o.context.update i (o.context.slots i).withMetadata)
      (fun _ => does_notTaken o _ (by simp) rfl howns hout) fun _ => ?_
    have hslot : (o.context.update i (o.context.slots i).withMetadata).slots i
        = (o.context.slots i).withMetadata := update_self
    refine sat_syncBuffer _ .toDevice hfit' hout fun synced out' hout' _ hlast =>
      Step.sat_ite (fun hsynced => does_notTaken o _ hsynced rfl howns hout') fun hsynced => ?_
    obtain rfl := not_not.mp hsynced
    refine sat_callback hfit' hout' (fun r => inOrder_submit rfl rfl hdirection ?_
      (congrArg Slot.driverBuffer hslot) hlast) ?_
    · rw [ApplicationHas, hslot]
      exact howns
    · intro (result : Result) hsubmitted
      by_cases hresult : result = .ok
      · subst hresult
        exact ⟨.submitted i timeoutUs hdirection howns, hsubmitted⟩
      · rw [if_neg hresult]
        exact does_notTaken o _ hresult rfl howns hsubmitted

theorem sat_driverReleaseTxBuffer {ref : config.SlotIndex} (hgiving : giving ref) :
    Calls (slotSetting config giving) o out () (driverReleaseTxBuffer ref)
      (TakesBack o.port ref (Does giving o (.releaseTx (some (.own ref))))) := by
  rw [Calls, driverReleaseTxBuffer, Process.bind_apply, Process.get_apply, Step.bind_done]
  cases hfind : o.context.findSlotForPublicBuffer ref .tx with
  | none => exact does_refused o _ (by simp) rfl rfl hout
  | some i =>
    obtain ⟨rfl, hactive, hdirection⟩ := hfit.found hfind
    refine Step.sat_ite (fun _ => does_refused o _ (by simp) rfl rfl hout) fun hstate => ?_
    have howns : ApplicationHas o.context i := ⟨hactive, not_not.mp hstate⟩
    refine sat_callback (b := o.context.update i (o.context.slots i).withMetadata)
      (hfit.withMetadata hactive) hout
      (fun _ => inOrder_gives rfl rfl (.inl ⟨i, hgiving, ?_⟩)) ?_
    · rw [ApplicationHas, update_self]
      exact ⟨howns, rfl⟩
    intro (result : Result) hout'
    by_cases hresult : result = .ok
    · subst hresult
      exact ⟨.released _ i rfl howns, hout'⟩
    · rw [if_neg hresult]
      exact does_notTaken o _ hresult rfl howns hout'

theorem sat_driverReleaseRxBuffer {ref : config.SlotIndex} (hgiving : giving ref) :
    Calls (slotSetting config giving) o out () (driverReleaseRxBuffer ref)
      (TakesBack o.port ref (Does giving o (.releaseRx (some (.own ref))))) := by
  rw [Calls, driverReleaseRxBuffer, Process.bind_apply, Process.get_apply, Step.bind_done]
  cases hfind : o.context.findSlotForPublicBuffer ref .rx with
  | none => exact does_refused o _ (by simp) rfl rfl hout
  | some i =>
    obtain ⟨rfl, hactive, hdirection⟩ := hfit.found hfind
    refine Step.sat_ite (fun _ => does_refused o _ (by simp) rfl rfl hout) fun hstate => ?_
    have howns : ApplicationHas o.context i := ⟨hactive, not_not.mp hstate⟩
    refine sat_callback hfit hout
      (fun _ => inOrder_gives rfl rfl (.inl ⟨i, hgiving, howns, rfl⟩)) ?_
    intro (result : Result) hout'
    by_cases hresult : result = .ok
    · subst hresult
      exact ⟨.released _ i rfl howns, hout'⟩
    · rw [if_neg hresult]
      exact does_refused o _ hresult rfl (if_neg hresult) hout'

/-- **Every call does one of the things an effect says**, whatever the provider answers, and
keeps the slots in order at every callback. -/
theorem code_effect (call : Call config) (hgiving : ∀ i, Releases call i → giving i) :
    Step.Sat (slotSetting config giving) (Does giving o call) (code call o) out () := by
  -- a call that moves no buffer, with whatever the provider says
  have hother : call.movesBuffers = false → ∀ port (reply : Reply config) out',
      reply.view = none → reply.handle = call.handedIn → AllInOrder giving out' →
      Does giving o call ⟨port, o.context⟩ reply out' () :=
    fun hmoves port reply _ hview hhandle hout' =>
      ⟨.same call reply port (transfer_of_other hmoves reply) hview hhandle, hout'⟩
  refine sat_run call (fun _ hresult => does_refused o _ hresult rfl rfl hout) ?_
  cases call with
  | start | stop | getLinkState =>
    exact sat_passOn hfit hout rfl rfl fun _ _ => hother rfl _ _ _ rfl rfl
  | reset =>
    refine sat_callback hfit hout (fun _ => inOrder_other out rfl rfl) ?_
    intro (result : Result) hout'
    by_cases hresult : result = .ok
    · subst hresult
      exact ⟨.reset _, hout'⟩
    · rw [if_neg hresult]
      show Does giving o .reset ⟨if result = .ok then _ else o.port, o.context⟩ _ _ ()
      rw [if_neg hresult]
      exact does_refused o .reset hresult rfl rfl hout'
  | send packet timeoutUs | receive buffer timeoutUs =>
    exact fun _ _ _ => sat_passOn hfit hout rfl rfl fun _ _ => hother rfl _ _ _ rfl rfl
  | sendTimeCode timeCode timeoutUs =>
    exact fun t _ _ => sat_optional o hout hfit (.sendTimeCode t timeoutUs) .unsupported rfl rfl
      fun _ _ => hother rfl _ _ _ rfl rfl
  | receiveTimeCode hasCode timeoutUs =>
    exact fun _ _ => sat_optional o hout hfit (.receiveTimeCode timeoutUs) (.unsupported, none)
      rfl rfl fun _ _ => hother rfl _ _ _ rfl rfl
  | getStatistics =>
    exact sat_optional o hout hfit .getStatistics (.unsupported, some {}) rfl rfl
      fun _ _ => hother rfl _ _ _ rfl rfl
  | clearStatistics =>
    exact sat_optional o hout hfit .clearStatistics .unsupported rfl rfl
      fun _ _ => hother rfl _ _ _ rfl rfl
  | getView ref => exact fun howned => ⟨.view ref howned, hout⟩
  | setPacket ref length terminator =>
    exact fun howned _ hlength _ => ⟨.setPacket ref length terminator howned hlength, hout⟩
  | acquireTx minCapacity timeoutUs =>
    exact sat_driverAcquireTxBuffer o hout hfit minCapacity timeoutUs
  | submitTx handle timeoutUs =>
    rintro ref rfl -
    exact sat_driverSubmitTxBuffer o hout hfit ref timeoutUs
  | reclaimTx timeoutUs => exact sat_driverReclaimTxBuffer o hout hfit timeoutUs
  | releaseTx handle =>
    rintro ref rfl -
    exact sat_driverReleaseTxBuffer o hout hfit (hgiving ref (.inl rfl))
  | acquireRx timeoutUs => exact sat_driverAcquireRxBuffer o hout hfit timeoutUs
  | releaseRx handle =>
    rintro ref rfl -
    exact sat_driverReleaseRxBuffer o hout hfit (hgiving ref (.inr rfl))

end Code

/-! ## What calls keep -/

/-- A slot with a buffer that was handed out is in use. -/
theorem inUse_handedOut (port : Port) (slot : Slot) {d : DriverBuffer} (i : config.SlotIndex)
    (h : Shown d.data d.length d.capacity) : InUse i (handedOut port slot d i) :=
  ⟨rfl, rfl, .inl rfl, rfl, h⟩

/-- **A call keeps the slots in order.** -/
theorem Effect.fits {call : Call config} {reply : Reply config} (h : Effect o call reply o')
    (hfit : SlotsFit o.context) : SlotsFit o'.context := by
  cases h with
  | same | view => exact hfit
  | notTaken _ _ i _ _ _ _ howned => exact hfit.withMetadata howned.1
  | setPacket ref length terminator howned hlength =>
    have hactive := (hfit.applicationHas howned).1
    have huse := hfit.inUse ref hactive
    exact hfit.same_token hactive hactive
      ⟨huse.owner, huse.direction, huse.state, huse.token, hlength, huse.shown.2⟩ rfl
  | reset => exact slotsFit_clearSlots
  | acquired _ i d _ hfree hshown htoken =>
    exact hfit.update rfl (inUse_handedOut _ _ i hshown) fun j _ hj => htoken j hj
  | reclaimed _ i d _ hactive _ htoken hshown =>
    exact hfit.same_token hactive rfl (inUse_handedOut _ _ i hshown) htoken.symm
  | submitted i timeoutUs hdirection howned =>
    have huse := hfit.inUse i howned.1
    exact hfit.same_token howned.1 howned.1
      ⟨huse.owner, huse.direction, .inr ⟨rfl, hdirection⟩, huse.token, huse.shown⟩ rfl
  | released => exact hfit.clear

/-- Who has a slot. -/
def Slot.holder (slot : Slot) : Holder :=
  if slot.active then
    match slot.buffer.state with
    | .application => .client
    | .backend => .service
    | _ => .nobody
  else .nobody

/-- Who has which slot. -/
def holders (b : DriverBackend config) (i : config.SlotIndex) : Holder := (b.slots i).holder

theorem holders_update (b : DriverBackend config) (i : config.SlotIndex) (slot : Slot) :
    holders (b.update i slot) = Function.update (holders b) i slot.holder := by
  funext j
  by_cases hji : j = i
  · subst hji
    rw [Function.update_self, holders, update_self]
  · rw [Function.update_of_ne hji, holders, update_of_ne hji]
    rfl

/-- A slot changes hands, or stays where it is. -/
theorem holders_update_same {slot : Slot} (h : slot.holder = holders b i) :
    holders (b.update i slot) = holders b := by
  rw [holders_update, h, Function.update_eq_self]

theorem ApplicationHas.holder (h : ApplicationHas b i) : holders b i = .client := by
  rw [holders, Slot.holder, h.1, h.2]
  rfl

/-- **A call moves what it says it moves**, from where it is. -/
theorem Effect.moves {call : Call config} {reply : Reply config} (h : Effect o call reply o') :
    (transfer call reply).Allowed (holders o.context)
      ∧ holders o'.context = (transfer call reply).apply (holders o.context) := by
  cases h with
  | same _ _ _ htransfer =>
    rw [htransfer]
    exact ⟨trivial, rfl⟩
  | notTaken _ _ i hresult =>
    rw [transfer_of_failed _ hresult]
    exact ⟨trivial, holders_update_same rfl⟩
  | view | reset => exact ⟨trivial, rfl⟩
  | setPacket => exact ⟨trivial, holders_update_same rfl⟩
  | acquired _ i d htransfer hfree =>
    rw [htransfer]
    refine ⟨?_, holders_update _ i _⟩
    show (o.context.slots i).holder = _
    rw [Slot.holder, hfree]
    rfl
  | reclaimed _ i d _ hactive hstate =>
    refine ⟨?_, holders_update _ i _⟩
    show (o.context.slots i).holder = _
    rw [Slot.holder, hactive, hstate]
    rfl
  | submitted i timeoutUs _ howned =>
    refine ⟨howned.holder, (holders_update _ i _).trans ?_⟩
    rw [Slot.holder]
    simp only [Slot.withMetadata, howned.1, if_true]
    rfl
  | released _ i htransfer howned =>
    rw [htransfer]
    exact ⟨howned.holder, holders_update _ i _⟩

end Driver
