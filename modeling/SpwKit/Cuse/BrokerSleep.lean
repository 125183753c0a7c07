import SpwKit.Cuse.Spwcuse

/-!
# What the broker may sleep on

The broker goes to sleep in its main section, if there is no write and it has no
reason to ask the port. It looked for reads to answer before, under another hold of
the mutex. A read that is queued in between finds nobody waiting, so its signal is
lost; if the ring of records is full the broker has no reason to ask the port
either, and it sleeps although it has both a read and a record for it
(`sleeps_on_read`).

That is the only way: a read that comes in between while a slot is free sends the broker
to the port, with a timeout (`sleeps_only_idle`).
-/

namespace Cuse

/-- The broker has nothing to do: no read meets a record, and there is no write. -/
def State.Idle (s : State) : Prop :=
  ¬ (s.reads.count ≠ 0 ∧ s.records.count ≠ 0) ∧ s.writes.count = 0

/-- No read is queued between the broker's last look at the reads and its main section
while the ring of records is full. -/
def ReadsInTime (p : Presenter) : Action → Prop
  | .call (.read _ _) =>
    ¬ (p.broker = .decide ∧ p.state.records.count = recordQueueDepth)
  | _ => True

/-- Before the main section a read may wait for the broker only if there is a reason
to ask the port, and a broker that sleeps is idle. -/
structure Presenter.Watchful (p : Presenter) : Prop where
  decide : p.broker = .decide → p.state.reads.count ≠ 0 → p.state.records.count ≠ 0 →
    p.state.records.count < recordQueueDepth
  asleep : p.broker = .asleep → p.state.Idle

section Steps

variable {p : Presenter}

variable {callbacks : List (List Reply)} {history : History} {s : State}

theorem signal_ne_asleep (b : Broker) : b.signal ≠ .asleep := by
  cases b <;> simp [Broker.signal]

theorem signal_eq_decide {b : Broker} (h : b.signal = .decide) : b = .decide := by
  cases b <;> simp_all [Broker.signal]

/-- After a signal nobody is asleep. -/
theorem Presenter.Watchful.signalled (b : Broker) {req : Req}
    (hdecide : b = .decide → s.reads.count ≠ 0 → s.records.count ≠ 0 →
      s.records.count < recordQueueDepth) :
    Watchful ⟨s, b.signal, callbacks, req, history⟩ :=
  ⟨fun hb => hdecide (signal_eq_decide hb), fun hb => absurd hb (signal_ne_asleep b)⟩

/-- Fewer reads, and the same writes and records, keep the invariant. -/
theorem Presenter.Watchful.of_same (h : p.Watchful)
    (hreads : s.reads.count ≠ 0 → p.state.reads.count ≠ 0) (hwrites : s.writes = p.state.writes)
    (hrecords : s.records = p.state.records) {req : Req} :
    Watchful ⟨s, p.broker, callbacks, req, history⟩ := by
  refine ⟨fun hb hr => ?_, fun hb => ?_⟩
  · show s.records.count ≠ 0 → s.records.count < recordQueueDepth
    rw [hrecords]
    exact h.decide hb (hreads hr)
  · obtain ⟨hidle, hnone⟩ := h.asleep hb
    refine ⟨fun ⟨hr, hc⟩ => hidle ⟨hreads hr, ?_⟩, ?_⟩
    · rw [← hrecords]
      exact hc
    · rw [hwrites]
      exact hnone

theorem Presenter.Watchful.call (h : p.Watchful) {callback : Callback}
    (htime : ReadsInTime p (.call callback)) : (p.call callback).Watchful := by
  have heffect := callback.run_effect p.state p.nextReq
  unfold Presenter.call
  generalize callback.run p.state p.nextReq = called at heffect ⊢
  generalize acceptedBy p.state p.nextReq callback = accepted at heffect ⊢
  cases heffect with
  | answered hreads hwrites hrecords =>
    have hsame : ∀ req callbacks history, Watchful ⟨_, p.broker, callbacks, req, history⟩ :=
      fun _ _ _ => h.of_same (by rw [hreads]; exact id) hwrites hrecords
    dsimp only
    split_ifs
    · exact .signalled _ (hsame 0 [] {}).decide
    · exact hsame _ _ _
  | readQueued hreads =>
    refine .signalled _ fun hb _ _ => ?_
    exact lt_of_le_of_ne p.state.records.count_le fun hfull => htime ⟨hb, hfull⟩
  | writeQueued => exact .signalled _ h.decide
  | cancelled hreads hwrites hrecords =>
    refine h.of_same (fun hr => absurd ?_ hr) hwrites hrecords
    rw [← RingBuffer.toList_length, hreads, List.length_nil]

/-- A place of the broker that is neither of the two needs nothing. -/
theorem Presenter.Watchful.elsewhere (hdecide : p.broker ≠ .decide) (hasleep : p.broker ≠ .asleep) :
    p.Watchful :=
  ⟨fun hb => absurd hb hdecide, fun hb => absurd hb hasleep⟩

theorem Presenter.Watchful.turn (h : p.Watchful) (answers : PortAnswers) :
    (p.turn answers).Watchful := by
  have heffect := p.broker.step_effect answers p.state
  have hdecide := h.decide
  unfold Presenter.turn
  generalize p.broker.step answers p.state = turn at heffect ⊢
  generalize p.broker = b at heffect hdecide
  cases heffect with
  | noRead hnone =>
    refine ⟨fun _ hr hc => ?_, Broker.noConfusion⟩
    obtain hnil | hnil := hnone
    · exact absurd (by rw [← RingBuffer.toList_length, hnil, List.length_nil]) hr
    · exact absurd (by rw [← RingBuffer.toList_length, hnil, List.length_nil]) hc
  | sleeps hwrites hidle =>
    refine ⟨Broker.noConfusion, fun _ => ⟨fun ⟨hr, hc⟩ => hidle ⟨hdecide rfl hr hc, hr⟩, ?_⟩⟩
    rw [← RingBuffer.toList_length, hwrites, List.length_nil]
  | _ => exact .elsewhere Broker.noConfusion Broker.noConfusion

theorem Presenter.Watchful.step (h : p.Watchful) {a : Action} (htime : ReadsInTime p a) :
    (p.step a).Watchful := by
  cases a with
  | call callback => exact h.call htime
  | reply index => exact ⟨h.decide, h.asleep⟩
  | broker answers => exact h.turn answers
  | stop => exact .signalled _ h.decide

end Steps

/-- **The broker sleeps only if it is idle**, in every interleaving in which no read
slips in between its last look at the reads and its main section while the ring of
records is full. -/
theorem sleeps_only_idle {p : Presenter} (h : p.ReachableBy ReadsInTime)
    (hasleep : p.broker = .asleep) : p.state.Idle := by
  have hinv : p.Watchful := Presenter.ReachableBy.invariant
    ⟨Broker.noConfusion, Broker.noConfusion⟩ (fun _ _ hp htime => hp.step htime) h
  exact hinv.asleep hasleep

/-- A port that always has another packet. -/
def busyPort : PortAnswers where
  send := .ok
  wait := (.ok, ⟨true, false⟩)
  receive := .ok ⟨⟨[1], .eop⟩, by decide⟩
  receiveTimeCode := .error .timeout

instance (p : Presenter) : ∀ a, Decidable (ReadsInTime p a)
  | .call (.read _ _) => inferInstanceAs (Decidable (¬ _))
  | .call .open | .call (.write _ _) | .call (.poll _) | .call .release => .isTrue trivial
  | .reply _ | .broker _ | .stop => .isTrue trivial

/-- Every read of an interleaving is in time. -/
def Presenter.inTime : Presenter → List Action → Bool
  | _, [] => true
  | p, a :: actions => decide (ReadsInTime p a) && (p.step a).inTime actions

theorem Presenter.ReachableBy.run_inTime (actions : List Action) {p : Presenter}
    (h : p.ReachableBy ReadsInTime) (htime : p.inTime actions = true) :
    (p.run actions).ReachableBy ReadsInTime := by
  induction actions generalizing p with
  | nil => exact h
  | cons a actions ih =>
    rw [Presenter.inTime, Bool.and_eq_true, decide_eq_true_eq] at htime
    exact ih (.step a h htime.1) htime.2

/-- A poll makes the broker fill the ring of records and sleep. A read wakes it up and is
answered; another one, which finds the broker before its main section and a slot of the ring
free, sends it to the port once more. Then comes a write. -/
def servedSample : List Action :=
  .call (.poll (some 0)) :: List.replicate 69 (.broker busyPort)
    ++ .call (.read 64 false) :: List.replicate 3 (.broker busyPort)
    ++ .call (.read 64 true) :: List.replicate 10 (.broker busyPort)
    ++ .call (.write (recordOf (.data ⟨[2], .eep⟩)) false) :: List.replicate 5 (.broker busyPort)

theorem sleeps_only_idle_served :
    (Presenter.initial.run servedSample).broker = .asleep
      ∧ (Presenter.initial.run servedSample).state.records.count = 15
      ∧ (Presenter.initial.run servedSample).history.replies
        = [.notify 0, .destroy 0, .buf 1 (recordOf (.data ⟨[1], .eop⟩)),
          .buf 2 (recordOf (.data ⟨[1], .eop⟩)), .write 3 17]
      ∧ (Presenter.initial.run servedSample).history.sent = [.data ⟨[2], .eep⟩]
      ∧ (Presenter.initial.run servedSample).state.Idle :=
  ⟨by decide +kernel, by decide +kernel, by decide +kernel, by decide +kernel, sleeps_only_idle
    (.run_inTime _ .initial (by decide +kernel)) (by decide +kernel)⟩

/-- A poll makes the broker fill the ring of records; it looks for reads once more, a
read comes, and it goes to sleep. -/
def sleepSample : List Action :=
  .call (.poll (some 0)) :: List.replicate 68 (.broker busyPort)
    ++ [.call (.read 64 false), .broker busyPort]

/-- **A reader is left waiting with the ring of records full.** -/
theorem sleeps_on_read :
    (Presenter.initial.run sleepSample).Reachable
      ∧ (Presenter.initial.run sleepSample).broker = .asleep
      ∧ (Presenter.initial.run sleepSample).state.reads.toList = [⟨1, 64, false⟩]
      ∧ (Presenter.initial.run sleepSample).state.records.count = recordQueueDepth :=
  ⟨Presenter.ReachableBy.initial.run (fun _ _ => trivial) _, by decide +kernel, by decide +kernel,
    by decide +kernel⟩

end Cuse
