import SpwKit.Device.WrittenFrames

/-!
# Readiness

`device_wait` says which of the things a caller is interested in have arrived: a packet in the
buffer, a time code in the queue. A caller that hears of a packet goes on to do other things,
and then fetches it without waiting. Whether that works is not a matter of `device_wait` alone:
every other call reads events too while it waits for its response, may fail half way, and keeps
what it has read in the same buffers.

It works because nothing takes away what has arrived but three things – the receive that asks
for it, a reset, and the loss of the connection. A packet in the buffer makes the next one wait
in the socket or be refused, and time codes join the queue at its end. So what a wait has said
stays true, and stays true of the same packet and the same time code.
-/

open Vspd BigEndian Interactive

/-- A set of things that is part of another. -/
def ReadyEvents.Within (a b : ReadyEvents) : Prop :=
  (a.rxPacket = true → b.rxPacket = true) ∧ (a.rxTimeCode = true → b.rxTimeCode = true)

/-- What is in two sets of things. -/
def ReadyEvents.inter (a b : ReadyEvents) : ReadyEvents :=
  ⟨a.rxPacket && b.rxPacket, a.rxTimeCode && b.rxTimeCode⟩

namespace Device

/-! ## The states of an open port -/

/-- **What the environment may answer**: anything, but nothing is read where there is no
connection. -/
def Answerable (c : Context) : (q : Request) → q.Answer → Prop
  | .recv => fun (r : ReceiveAnswer) => match r with
    | .record _ => c.connected = true
    | _ => True
  | _ => fun _ => True

/-- A call that is made in a state and has returned. Each of its loops is entered at least. -/
def Call.Returns (call : Call) (c c' : Context) (r : Result) : Prop :=
  ∃ fuel, (call.code (fuel + 1) c).Leads Answerable c' r

/-- **The states of an open port** between its calls. -/
inductive Reached (portId : UInt32) : Context → Prop
  | opened {fuel : Nat} {c : Context}
      (h : (deviceConstruct fuel (Context.initial portId)).Leads Answerable c .ok) :
      Reached portId c
  | called {c c' : Context} {call : Call} {r : Result} (h : Reached portId c)
      (hcall : call ≠ .destroy) (hreturns : call.Returns c c' r) : Reached portId c'

/-- The calls of a port, with something that holds between any two steps. -/
def environment (I : Context → Prop) : Setting Request Request.Answer Context Unit Unit where
  inv c _ _ := I c
  answers c _ _ q r _ := Answerable c q r

variable {bits : ReadyEvents} {c c' c₁ : Context}

/-- What holds of every way a call goes holds of the way it went. -/
theorem holds_of_leads {I : Context → Prop} {α : Type} {Q : Context → α → Unit → Unit → Prop}
    {x : Step Request Request.Answer Context α} {a : α} (hx : x.Leads Answerable c a)
    (h : Step.Sat (environment I) Q x () ()) : Q c a () () := by
  obtain ⟨_, hq⟩ := Step.Sat.leads (fun _ _ _ _ hr => ⟨(), hr⟩) hx h
  exact hq

theorem afterEvent_connected (c : Context) (header : Header) (frame : Bytes) :
    (c.afterEvent header frame).connected = c.connected := by
  have hsession := processEvent_session c header (payloadOf frame)
  simp only [Context.session, Prod.mk.injEq] at hsession
  exact hsession.2.1

/-! ## Nothing is kept without a connection -/

/-- Without a connection nothing has arrived. -/
def NothingKept (c : Context) : Prop :=
  c.connected = false → c.rxReady = false ∧ c.timeCodes.count = 0

/-- Events are read on a connection, and what they brought is dropped with it. -/
def emptied (call : Call) : Client (environment NothingKept) call where
  holds _ _ _ := True
  lost _ _ := True
  idle _ hi _ _ := ⟨hi, trivial⟩
  broken _ hi _ _ := ⟨hi, trivial⟩
  request _ hi _ := ⟨hi, trivial⟩
  packet _ hi _ := ⟨hi, trivial⟩
  sentRequest _ hi _ := ⟨hi, trivial⟩
  sentFragment _ hi _ _ := ⟨hi, trivial⟩
  event {g c o e bytes header o'} _ _ _ hr _ _ _ := by
    refine ⟨fun hoff => ?_, trivial⟩
    rw [afterEvent_connected] at hoff
    have hconnected : c.connected = true := hr
    exact absurd (hconnected.symm.trans hoff) (by decide)
  response _ hi _ _ _ _ _ _ := ⟨hi, trivial⟩
  stray _ _ hi _ _ _ := ⟨hi, hi, trivial⟩
  rest _ h := h
  close _ _ _ := fun _ => ⟨rfl, rfl⟩
  closed _ _ _ := fun _ => ⟨rfl, rfl⟩
  change hchange _ hi := by
    refine ⟨fun hoff => ?_, trivial⟩
    cases hchange with
    | handOut c hready _ => exact absurd ((hi hoff).1.symm.trans hready) (by decide)
    | handOutTimeCode c h => exact absurd (hi hoff).2 h
    | _ => exact hi hoff

theorem emptied_reconnects (call : Call) (hcall : call ≠ .destroy) : (emptied call).Reconnects where
  lost _ := trivial
  refused _ _ := fun hoff => Bool.noConfusion hoff
  connect _ _ _ := ⟨fun hoff => Bool.noConfusion hoff, trivial⟩
  request _ hi _ := ⟨hi, trivial⟩
  attach _ _ := ⟨fun _ => ⟨rfl, rfl⟩, trivial⟩
  capabilities _ _ hi := ⟨hi, trivial⟩
  destroy hdestroy := absurd hdestroy hcall
  destroyed hdestroy := absurd hdestroy hcall

/-- **Between two calls nothing is kept without a connection.** -/
theorem Reached.nothingKept {portId : UInt32} (h : Reached portId c) : NothingKept c := by
  induction h with
  | @opened fuel c hc =>
    exact (holds_of_leads hc (Client.triple_deviceConstruct
      (emptied_reconnects .start (by decide)) fuel _ () () trivial
      (fun _ => ⟨rfl, rfl⟩))).1
  | called h hcall hreturns ih =>
    obtain ⟨fuel, hleads⟩ := hreturns
    exact (holds_of_leads hleads (Client.triple_code (.inl (emptied_reconnects _ hcall))
      (fun _ _ _ => ⟨fun _ => ⟨rfl, rfl⟩, trivial⟩) (fuel + 1) _ () () trivial ih)).1

/-- A wait keeps it too, and what it says is what there is. -/
theorem deviceWait_says {fuel : Nat} {interests ready : ReadyEvents} {timeoutUs : Timeout}
    (h : NothingKept c)
    (hwait : (deviceWait fuel interests timeoutUs c).Leads Answerable c' (.ok, ready)) :
    NothingKept c' ∧ ready = deviceReadyEvents c' interests ∧ ready.any = true := by
  obtain ⟨hkept, hready⟩ := holds_of_leads hwait (Client.triple_deviceWait
    (.inl (emptied_reconnects (.wait interests timeoutUs) (by nofun))) fuel interests
    timeoutUs c () () trivial h)
  exact ⟨hkept, hready rfl⟩

/-! ## Calls that do not wait -/

/-- A call that comes to `x` without waiting: it looks at the clock at most. -/
def atOnce {α : Type} (timeoutUs : Timeout) (c : Context)
    (x : Step Request Request.Answer Context α) : Step Request Request.Answer Context α :=
  if timeoutUs = timeoutInfinite then x else .ask c .clock (fun _ => x)

section AtOnce

variable {fuel capacity : Nat} {timeoutUs : Timeout} {c : Context}

variable {α : Type}

/-- A call that takes its deadline and has no use for it. -/
theorem deadlineFor_bind_atOnce {f : UInt64 → Program α}
    {x : Step Request Request.Answer Context α} (h : ∀ deadline, f deadline c = x) :
    (deadlineFor timeoutUs >>= f) c = atOnce timeoutUs c x := by
  rw [Process.bind_apply, deadlineFor, atOnce]
  split_ifs
  · exact h _
  · exact congrArg (Step.ask c .clock) (funext fun _ => h _)

theorem whenConnected_of_connected (hconnected : c.connected = true) (deadline : UInt64)
    (failed : Result → α) (body : Program α) :
    whenConnected fuel deadline failed body c = body c := by
  rw [whenConnected, Process.bind_apply, ensureConnected, Process.bind_apply, Process.get_apply,
    Step.bind_done, if_pos hconnected]
  rfl

theorem serviceLoop_of_ready {ready : Context → Bool} (hready : ready c = true)
    (refused : Program Unit) (deadline : UInt64) (n : Nat) :
    serviceLoop fuel ready refused deadline (n + 1) c = .done c .ok := by
  rw [serviceLoop, Process.bind_apply, Process.get_apply, Step.bind_done, if_pos hready]
  rfl

/-- A packet that has arrived is handed out at once, if there is room for it. -/
theorem deviceReceive_of_ready (hconnected : c.connected = true) (hready : c.rxReady = true) :
    deviceReceive (fuel + 1) capacity timeoutUs c
      = atOnce timeoutUs c (if capacity < c.rxTotalSize.toNat then
          .done c (.bufferTooSmall, some ⟨c.rxTotalSize.toNat, c.rxTerminator, none⟩)
        else .done c.handedOut
          (.ok, some ⟨c.rxTotalSize.toNat, c.rxTerminator, some c.rxPacket.bytes⟩)) := by
  refine deadlineFor_bind_atOnce (fun deadline => ?_)
  rw [whenConnected_of_connected hconnected, receivePacket, Process.bind_apply,
    serviceUntilPacket, serviceLoop_of_ready hready, Step.bind_done]
  show handOut capacity c = _
  rw [handOut, Process.bind_apply, Process.get_apply, Step.bind_done]
  split_ifs <;> rfl

/-- So is a time code. -/
theorem deviceReceiveTimeCode_of_ready (hconnected : c.connected = true)
    (hcount : c.timeCodes.count ≠ 0) :
    deviceReceiveTimeCode (fuel + 1) timeoutUs c
      = atOnce timeoutUs c (.done (c.handedOutTimeCode hcount) (.ok, c.timeCodes.front)) := by
  refine deadlineFor_bind_atOnce (fun deadline => ?_)
  rw [whenConnected_of_connected hconnected, receiveTimeCode, Process.bind_apply,
    serviceLoop_of_ready (by simpa using hcount), Step.bind_done]
  show handOutTimeCode c = _
  rw [handOutTimeCode, Process.bind_apply, Process.get_apply, Step.bind_done, dif_pos hcount,
    RingQueue.front, if_neg hcount]
  rfl

/-- And a wait for what has arrived does not wait. -/
theorem deviceWait_of_ready {interests : ReadyEvents}
    (hready : (deviceReadyEvents c interests).any = true) :
    deviceWait fuel interests timeoutUs c
      = atOnce timeoutUs c (.done c (.ok, deviceReadyEvents c interests)) := by
  refine deadlineFor_bind_atOnce (fun deadline => ?_)
  rw [Process.bind_apply, Process.get_apply, Step.bind_done, if_pos hready]
  rfl

end AtOnce

/-! ## What has arrived stays -/

/-- **What a wait has said is still so**, of the same packet and of the same time code. -/
def Kept (bits : ReadyEvents) (c₁ c : Context) : Prop :=
  (bits.rxPacket = true → c.rxReady = true ∧ c.rxTotalSize = c₁.rxTotalSize
    ∧ c.rxTerminator = c₁.rxTerminator ∧ c.rxData = c₁.rxData)
  ∧ (bits.rxTimeCode = true → c.timeCodes.count ≠ 0 ∧ c.timeCodes.front = c₁.timeCodes.front)

/-- The calls that take away what has arrived, if they succeed. -/
def Call.takes (bits : ReadyEvents) : Call → Bool
  | .receive _ _ => bits.rxPacket
  | .receiveTimeCode _ => bits.rxTimeCode
  | .reset => true
  | _ => false

theorem storeFragment_timeCodes (c : Context) (header : Header) (payload : Bytes) :
    (storeFragment c header payload).2.timeCodes = c.timeCodes := by
  unfold storeFragment
  dsimp only
  split_ifs <;> rfl

theorem admitFragment_timeCodes {header : Header} (h : admitFragment c header = some c') :
    c'.timeCodes = c.timeCodes := by
  unfold admitFragment at h
  split_ifs at h <;> (cases h; rfl)

section Kept

variable {bits : ReadyEvents} {c₁ c c' : Context}

variable {r : Result}

theorem Kept.queueTimeCode (h : Kept bits c₁ c) {payload : Bytes}
    (hqueue : queueTimeCode c payload = some c') : Kept bits c₁ c' := by
  unfold Device.queueTimeCode at hqueue
  split_ifs at hqueue with hroom
  cases hqueue
  refine ⟨h.1, fun hbit => ⟨Nat.succ_ne_zero _, ?_⟩⟩
  obtain ⟨hcount, hfront⟩ := h.2 hbit
  rw [RingQueue.front_eq_head?, RingQueue.toList_push, ← hfront, RingQueue.front_eq_head?,
    List.head?_append_of_ne_nil _ (mt (RingQueue.toList_eq_nil_iff _).mp hcount)]

/-- **An event takes nothing away**: a packet is refused where there is one, and time codes
queue up. -/
theorem Kept.processEvent (h : Kept bits c₁ c) (header : Header) (payload : Bytes) :
    Kept bits c₁ (processEvent c header payload).2 := by
  unfold Device.processEvent
  split_ifs with hstate hcode hdata hready
  · exact h
  · cases hqueue : Device.queueTimeCode c payload with
    | none => exact h
    | some c' => exact h.queueTimeCode hqueue
  · exact h
  · refine ⟨fun hbit => absurd (h.1 hbit).1 hready, fun hbit => ?_⟩
    cases hadmit : admitFragment c header with
    | none => exact h.2 hbit
    | some c' =>
      show (storeFragment c' header payload).2.timeCodes.count ≠ 0
        ∧ (storeFragment c' header payload).2.timeCodes.front = _
      rw [storeFragment_timeCodes, admitFragment_timeCodes hadmit]
      exact h.2 hbit
  · exact h

/-- As long as the connection lasts, a call that is not to take them leaves them. -/
def keeper (bits : ReadyEvents) (c₁ : Context) {call : Call}
    (hcall : call = .reset ∨ call.takes bits = false) :
    Client (environment fun c => c.connected = true → Kept bits c₁ c) call where
  holds _ c _ := c.connected = true
  lost _ _ := True
  idle hg hi _ _ := ⟨hi, hg⟩
  broken _ hi _ _ := ⟨hi, trivial⟩
  request hg hi _ := ⟨hi, hg⟩
  packet hg hi _ := ⟨hi, hg⟩
  sentRequest hg hi _ := ⟨hi, hg⟩
  sentFragment hg hi _ _ := ⟨hi, hg⟩
  event {g c o e bytes header o'} _ hg hi _ _ _ _ := by
    refine ⟨fun _ => ?_, (afterEvent_connected _ _ _).trans hg⟩
    exact Kept.processEvent (c := c.noteRead bytes) (hi hg) header _
  response hg hi _ _ _ _ _ _ := ⟨hi, hg⟩
  stray _ _ hi _ _ _ := ⟨hi, hi, trivial⟩
  rest _ h := h
  close _ _ _ := fun hon => Bool.noConfusion hon
  closed _ _ _ := fun hon => Bool.noConfusion hon
  change hchange hg hi := by
    refine ⟨fun _ => ?_, by cases hchange <;> exact hg⟩
    cases hchange with
    | handOut c hready hfits =>
      have hbit : bits.rxPacket = false := hcall.resolve_left (by nofun)
      exact ⟨fun h => absurd (hbit.symm.trans h) (by decide), (hi hg).2⟩
    | handOutTimeCode c h =>
      have hbit : bits.rxTimeCode = false := hcall.resolve_left (by nofun)
      exact ⟨(hi hg).1, fun h => absurd (hbit.symm.trans h) (by decide)⟩
    | _ => exact hi hg

theorem keeper_connected (c₁ : Context) {call : Call}
    (hcall : call = .reset ∨ call.takes bits = false) (hopen : call ≠ .destroy) :
    (keeper bits c₁ hcall).Connected where
  connected hg _ := hg
  keeps := hopen

/-- A reset that fails leaves them. -/
theorem kept_reset {fuel : Nat} (hon : c.connected = true) (h : Kept bits c₁ c)
    (hreset : (deviceReset fuel c).Leads Answerable c' r) (hr : r ≠ .ok)
    (hon' : c'.connected = true) : Kept bits c₁ c' := by
  have hmode : (keeper bits c₁ (.inl rfl)).Reconnects ∨ (keeper bits c₁ (.inl rfl)).Connected :=
    .inr (keeper_connected c₁ (.inl rfl) (by decide))
  have hrequest := Client.triple_lifecycle hmode fuel .reset .reset c () () hon (fun _ => h)
  have hcode : deviceReset fuel c = Step.bind ((do
        modify fun c => { c with desiredStarted := false }
        requestSimple fuel .reset timeoutInfinite : Program Result) c)
      (fun r => (do
        if r = .ok then
          modify Context.clearArrived
        return r : Program Result)) := rfl
  rw [hcode] at hreset
  refine holds_of_leads (Q := fun c r _ _ => r ≠ .ok → c.connected = true → Kept bits c₁ c) hreset
    (hrequest.bind (fun c r _ _ hkept => ?_)) hr hon'
  by_cases hok : r = .ok
  · rw [if_pos hok]
    exact fun hne => absurd hok hne
  · rw [if_neg hok]
    exact fun _ => hkept.1

/-- What a call returns that does not wait. -/
theorem leads_atOnce {α : Type} {timeoutUs : Timeout} {x : Step Request Request.Answer Context α}
    {f : α → Result}
    (h : Step.Leads Answerable ((atOnce timeoutUs c x).bind (fun a s => .done s (f a))) c' r) :
    Step.Leads Answerable (x.bind (fun a s => .done s (f a))) c' r := by
  unfold atOnce at h
  split_ifs at h
  · exact h
  · cases h with
    | ask _ _ h => exact h

/-- **Nothing that has arrived is lost** by a call that is not to take it, or fails to. -/
theorem kept_call {call : Call} (hon : c.connected = true) (h : Kept bits c₁ c)
    (hreturns : call.Returns c c' r) (hopen : call ≠ .destroy)
    (hspares : call.takes bits = true → r ≠ .ok) (hon' : c'.connected = true) :
    Kept bits c₁ c' := by
  obtain ⟨fuel, hleads⟩ := hreturns
  by_cases htakes : call.takes bits = true
  · have hr := hspares htakes
    cases call with
    | reset => exact kept_reset hon h hleads hr hon'
    | receive capacity timeoutUs =>
      change Step.Leads _ ((deviceReceive _ _ _ c).bind _) _ _ at hleads
      rw [deviceReceive_of_ready hon (h.1 htakes).1] at hleads
      have hdone := leads_atOnce hleads
      split_ifs at hdone
      · cases hdone
        exact h
      · cases hdone
        exact absurd rfl hr
    | receiveTimeCode timeoutUs =>
      change Step.Leads _ ((deviceReceiveTimeCode _ _ c).bind _) _ _ at hleads
      rw [deviceReceiveTimeCode_of_ready hon (h.2 htakes).1] at hleads
      cases leads_atOnce hleads
      exact absurd rfl hr
    | _ => cases htakes
  · rw [Bool.not_eq_true] at htakes
    refine (holds_of_leads hleads (Client.triple_code (.inr (keeper_connected c₁ (.inr htakes)
      hopen)) (fun hreset => ?_) (fuel + 1) c () () hon (fun _ => h))).1 hon'
    subst hreset
    cases htakes

end Kept

/-! ## From one wait on -/

/-- **The calls made since a state**, with any results, as long as the connection lasts and
what is in question is not taken. -/
inductive Since (bits : ReadyEvents) (c₁ : Context) : Context → Prop
  | now : Since bits c₁ c₁
  | call {c c' : Context} {call : Call} {r : Result} (h : Since bits c₁ c)
      (hreturns : call.Returns c c' r) (hopen : call ≠ .destroy)
      (hspares : call.takes bits = true → r ≠ .ok) (hon : c'.connected = true) :
      Since bits c₁ c'

theorem Since.kept (h : Since bits c₁ c) (hon : c₁.connected = true) (hkept : Kept bits c₁ c₁) :
    c.connected = true ∧ Kept bits c₁ c := by
  induction h with
  | now => exact ⟨hon, hkept⟩
  | call h hreturns hopen hspares hon' ih =>
    exact ⟨hon', kept_call ih.1 ih.2 hreturns hopen hspares hon'⟩

/-- **What was reported in `c₁` can be had in `c₂`**: a receive that does not wait gets it, or
is told how large it is, and a wait for it comes back at once. -/
structure Available (bits : ReadyEvents) (c₁ c₂ : Context) : Prop where
  packet : bits.rxPacket = true → ∀ fuel capacity,
    deviceReceive (fuel + 1) capacity timeoutImmediate c₂
      = atOnce timeoutImmediate c₂ (if capacity < c₁.rxTotalSize.toNat then
          .done c₂ (.bufferTooSmall, some ⟨c₁.rxTotalSize.toNat, c₁.rxTerminator, none⟩)
        else .done c₂.handedOut
          (.ok, some ⟨c₁.rxTotalSize.toNat, c₁.rxTerminator, some c₁.rxPacket.bytes⟩))
  timeCode : bits.rxTimeCode = true → ∀ fuel, ∃ code c₃, c₁.timeCodes.front = some code
    ∧ deviceReceiveTimeCode (fuel + 1) timeoutImmediate c₂
      = atOnce timeoutImmediate c₂ (.done c₃ (.ok, some code))
  wait : ∀ fuel interests timeoutUs, (bits.inter interests).any = true →
    ∃ ready, (bits.inter interests).Within ready
      ∧ deviceWait fuel interests timeoutUs c₂ = atOnce timeoutUs c₂ (.done c₂ (.ok, ready))

theorem available_of_kept {c₂ : Context} (hon : c₂.connected = true) (h : Kept bits c₁ c₂) :
    Available bits c₁ c₂ where
  packet hbit fuel capacity := by
    obtain ⟨hready, hsize, hterminator, hdata⟩ := h.1 hbit
    rw [deviceReceive_of_ready hon hready, Context.rxPacket, Context.rxPacket, hsize, hterminator,
      hdata]
  timeCode hbit fuel := by
    obtain ⟨hcount, hfront⟩ := h.2 hbit
    rw [deviceReceiveTimeCode_of_ready hon hcount, ← hfront, RingQueue.front, if_neg hcount]
    exact ⟨_, _, rfl, rfl⟩
  wait fuel interests timeoutUs hany := by
    have hwithin : (bits.inter interests).Within (deviceReadyEvents c₂ interests) := by
      constructor <;> intro hbit <;> rw [ReadyEvents.inter, Bool.and_eq_true] at hbit
      · rw [deviceReadyEvents, hbit.2, (h.1 hbit.1).1, Bool.and_self]
      · simp [deviceReadyEvents, hbit.2, (h.2 hbit.1).1]
    refine ⟨_, hwithin, deviceWait_of_ready ?_⟩
    rw [ReadyEvents.any, Bool.or_eq_true] at hany ⊢
    exact hany.imp hwithin.1 hwithin.2

/-- **Readiness is a level.** In every state of an open port, if `device_wait` succeeds, the
set it returns is not empty and within the interests; and of any part of it, whatever calls are
made from then on, as long as none of them is a receive of that part that succeeds or a reset
that succeeds, and the connection is not lost: a matching receive that does not wait gets the
packet or time code – or is told that there is no room for it – and every further wait that is
interested in it returns it at once. -/
theorem readiness_level_triggered {portId : UInt32} {fuel : Nat} {interests ready : ReadyEvents}
    {timeoutUs : Timeout} {c c₁ : Context} (h : Reached portId c)
    (hwait : (deviceWait fuel interests timeoutUs c).Leads Answerable c₁ (.ok, ready)) :
    ready.any = true ∧ ready.Within interests
      ∧ ∀ bits : ReadyEvents, bits.Within ready →
        ∀ c₂, Since bits c₁ c₂ → Available bits c₁ c₂ := by
  obtain ⟨hnothing, rfl, hany⟩ := deviceWait_says h.nothingKept hwait
  have hpacket : (deviceReadyEvents c₁ interests).rxPacket = true →
      interests.rxPacket = true ∧ c₁.rxReady = true := fun h => by
    rwa [deviceReadyEvents, Bool.and_eq_true] at h
  have htimeCode : (deviceReadyEvents c₁ interests).rxTimeCode = true →
      interests.rxTimeCode = true ∧ c₁.timeCodes.count ≠ 0 := fun h => by
    simpa [deviceReadyEvents] using h
  have hon : c₁.connected = true := by
    by_contra hoff
    obtain ⟨hempty, hnone⟩ := hnothing (Bool.not_eq_true _ ▸ hoff)
    rw [ReadyEvents.any, Bool.or_eq_true] at hany
    obtain h | h := hany
    · exact absurd (hpacket h).2 (by rw [hempty]; decide)
    · exact (htimeCode h).2 hnone
  refine ⟨hany, ⟨fun h => (hpacket h).1, fun h => (htimeCode h).1⟩,
    fun bits hbits c₂ hsince => ?_⟩
  have hkept : Kept bits c₁ c₁ :=
    ⟨fun hbit => ⟨(hpacket (hbits.1 hbit)).2, rfl, rfl, rfl⟩,
      fun hbit => ⟨(htimeCode (hbits.2 hbit)).2, rfl⟩⟩
  obtain ⟨hon₂, hkept₂⟩ := hsince.kept hon hkept
  exact available_of_kept hon₂ hkept₂

/-! ## A time code -/

instance (c : Context) : (q : Request) → (r : q.Answer) → Decidable (Answerable c q r)
  | .recv, r => match (r : ReceiveAnswer) with
    | .record _ => inferInstanceAs (Decidable (c.connected = true))
    | .ended | .interrupted | .wouldBlock | .error => isTrue trivial
  | .clock, _ | .poll _ _, _ | .send _, _ | .connect, _ | .close, _ => isTrue trivial

/-- A daemon that grants the handshake, request by request. -/
def welcome (n : Nat) : (q : Request) → q.Answer :=
  if n < 4 then granting .hello 1 helloPayload
  else if n < 6 then granting .attach 2 []
  else granting .getCapabilities 3 (encodeCapabilities ⟨0, 0, 0, 0, 0⟩)

/-- A daemon that has a time code for the port. -/
def ticking (_ : Nat) : (q : Request) → q.Answer
  | .recv => ReceiveAnswer.record
      (headerBytes { Header.ofType MessageType.timeCodeRx.toByte with payloadSize := 2 } ++ [5, 0])
  | q => granting .hello 0 [] q

/-- The port that has been opened. -/
def openedPort : Option (Context × Result) :=
  (deviceConstruct 1 (Context.initial 0)).attempt Answerable welcome 0

/-- And has waited for anything. -/
def waitedPort (c : Context) : Option (Context × Result × ReadyEvents) :=
  (deviceWait 1 ⟨true, true⟩ timeoutInfinite c).attempt Answerable ticking 0

/-- And has had its counters cleared. -/
def clearedPort (c : Context) : Option (Context × Result) :=
  (Call.code 1 .clearStatistics c).attempt Answerable (fun _ => granting .clearStatistics 4 []) 0

/-- The time code that a wait has reported can be had after another call. -/
theorem readiness_level_triggered_timeCode :
    ∃ c c₁ c₂, openedPort = some (c, .ok) ∧ waitedPort c = some (c₁, .ok, ⟨false, true⟩)
      ∧ clearedPort c₁ = some (c₂, .ok) ∧ Available ⟨false, true⟩ c₁ c₂ := by
  have hok : openedPort.map Prod.snd = some .ok := by decide +kernel
  have hready : (openedPort.bind fun p => waitedPort p.1).map Prod.snd
      = some (.ok, ⟨false, true⟩) := by decide +kernel
  have hcleared : ((openedPort.bind fun p => waitedPort p.1).bind fun p => clearedPort p.1).map
      (fun p => (p.1.connected, p.2)) = some (true, .ok) := by decide +kernel
  obtain ⟨⟨c, r⟩, hopened, rfl⟩ := Option.map_eq_some_iff.mp hok
  rw [hopened] at hready hcleared
  obtain ⟨⟨c₁, r, ready⟩, hwaited, hr⟩ := Option.map_eq_some_iff.mp hready
  obtain ⟨rfl, rfl⟩ := Prod.mk.inj hr
  obtain ⟨-, -, havailable⟩ := readiness_level_triggered
    (.opened (Step.leads_of_attempt hopened)) (Step.leads_of_attempt hwaited)
  rw [hwaited] at hcleared
  obtain ⟨⟨c₂, r⟩, hcalled, hr⟩ := Option.map_eq_some_iff.mp hcleared
  obtain ⟨hon, rfl⟩ := Prod.mk.inj hr
  exact ⟨c, c₁, c₂, hopened, hwaited, hcalled, havailable _ ⟨id, id⟩ _
    (.call .now ⟨0, Step.leads_of_attempt hcalled⟩ (by decide) (by decide) hon)⟩

end Device
