import Mathlib.Data.List.Perm.Basic
import SpwKit.Cuse.BrokerSleep

/-!
# Every request is answered once, and records keep their order

A request leaves the ring of reads at four places: the broker answers it, the broker
refuses it, a release cancels it, and a full ring turns it away. Wherever it is, it is
in one place: the requests that have been answered, those in a ring, the one in the hands of
the broker and those that callbacks have still to reply to are, taken together, all
requests so far, each once (`Presenter.Accounted`).

What the port hands over is the broker's to queue, and it takes nothing from the port
without a free slot. So the records handed to readers and those in the ring are what the
port has handed over, in its order (`Presenter.InOrder`), and likewise for writes
(`Presenter.WritesInOrder`).
-/

namespace Cuse

/-! ## Requests -/

/-- The requests in the hands of the broker. -/
def Broker.requests : Broker → List Req
  | .reply pending _ => [pending.req]
  | .write pending _ => [pending.req]
  | .refused req => [req]
  | _ => []

variable (p : Presenter)

/-- The requests that have been answered. -/
def Presenter.answered : List Req := p.history.replies.filterMap Reply.req

/-- The requests that callbacks have still to reply to. -/
def Presenter.atCallbacks : List Req := p.callbacks.flatten.filterMap Reply.req

/-- The requests that have not been answered. -/
def Presenter.held : List Req :=
  p.state.reads.toList.map PendingRead.req ++ p.state.writes.toList.map PendingWrite.req
    ++ p.broker.requests ++ p.atCallbacks

/-- **Every request is in one place.** -/
def Presenter.Accounted : Prop :=
  (p.answered ++ p.held).Perm (List.range p.nextReq)

@[simp] theorem signal_requests (b : Broker) : b.signal.requests = b.requests := by
  cases b <;> rfl

/-- Taking the next reply of a callback leaves the others. -/
theorem flatten_modify_tail {α : Type} : ∀ (callbacks : List (List α)) (index : Nat),
    ((callbacks.getD index []).head?.toList ++ (callbacks.modify index List.tail).flatten).Perm
      callbacks.flatten
  | [], index => by simp
  | [] :: callbacks, 0 => by simp
  | (reply :: replies) :: callbacks, 0 => by simp
  | replies :: callbacks, index + 1 => by
    have ih := flatten_modify_tail callbacks index
    simp only [List.getD_cons_succ, List.modify_succ_cons, List.flatten_cons]
    exact (List.perm_append_comm_assoc _ _ _).trans (ih.append_left replies)

theorem filterMap_req_notify (handle : Option PollHandle) :
    (notifyPollHandle handle).filterMap Reply.req = [] := by
  cases handle <;> rfl

theorem filterMap_data_notify (handle : Option PollHandle) :
    (notifyPollHandle handle).filterMap Reply.data = [] := by
  cases handle <;> rfl

theorem readReply_req (pending : PendingRead) (record : Option Bytes) :
    (readReply pending record).req = some pending.req := by
  cases record <;> rfl

theorem processWrite_req (pending : PendingWrite) (result : Result) :
    (processWrite pending result).2.req = some pending.req := by
  unfold processWrite
  cases validateUserRecord pending.record with
  | error errno => rfl
  | ok header =>
    dsimp only
    split_ifs <;> rfl

section Requests

variable {p : Presenter}

theorem accounted_iff_count :
    p.Accounted ↔ ∀ req, p.answered.count req + (p.state.reads.toList.map PendingRead.req).count req
      + (p.state.writes.toList.map PendingWrite.req).count req + p.broker.requests.count req
      + p.atCallbacks.count req = (List.range p.nextReq).count req := by
  simp only [Presenter.Accounted, Presenter.held, List.perm_iff_count, List.count_append,
    Nat.add_assoc]

theorem Presenter.Accounted.call (h : p.Accounted) (callback : Callback) :
    (p.call callback).Accounted := by
  have heffect := callback.run_effect p.state p.nextReq
  rw [accounted_iff_count] at h ⊢
  intro req
  have hreq := h req
  unfold Presenter.call Presenter.answered Presenter.atCallbacks
  unfold Presenter.answered Presenter.atCallbacks at hreq
  generalize callback.run p.state p.nextReq = called at heffect ⊢
  generalize acceptedBy p.state p.nextReq callback = accepted at heffect ⊢
  have hbroker : ∀ b : Bool, (if b then p.broker.signal else p.broker).requests
      = p.broker.requests := fun b => by cases b <;> simp
  simp only [hbroker, List.flatten_append, List.flatten_cons, List.flatten_nil, List.append_nil,
    List.filterMap_append, List.count_append, List.range_succ]
  cases heffect with
  | answered hreads hwrites hrecords hreqs =>
    rw [hreads, hwrites, hreqs]
    omega
  | readQueued hreads =>
    simp only [hreads, List.map_append, List.map_cons, List.map_nil, List.count_append,
      List.filterMap_nil, List.count_nil]
    omega
  | writeQueued hwrites =>
    simp only [hwrites, List.map_append, List.map_cons, List.map_nil, List.count_append,
      List.filterMap_nil, List.count_nil]
    omega
  | cancelled hreads hwrites hrecords hreqs =>
    simp only [hreads, hwrites, hreqs, List.count_append, List.map_nil, List.count_nil]
    omega

theorem Presenter.Accounted.reply (h : p.Accounted) (index : Nat) : (p.reply index).Accounted := by
  rw [accounted_iff_count] at h ⊢
  intro req
  have hreq := h req
  have hperm := ((flatten_modify_tail p.callbacks index).filterMap Reply.req).count_eq req
  unfold Presenter.answered Presenter.atCallbacks at hreq ⊢
  simp only [List.filterMap_append, List.count_append] at hperm
  simp only [Presenter.reply, Presenter.owed, List.filterMap_append, List.count_append]
  omega

/-- The broker moves requests from the rings to its hands and from there to its replies. -/
theorem Broker.Effect.requests {s : State} {b : Broker} {turn : Turn} (h : b.Effect s turn)
    (req : Req) :
    (turn.replies.filterMap Reply.req).count req
        + (turn.state.reads.toList.map PendingRead.req).count req
        + (turn.state.writes.toList.map PendingWrite.req).count req + turn.broker.requests.count req
      = (s.reads.toList.map PendingRead.req).count req
        + (s.writes.toList.map PendingWrite.req).count req + b.requests.count req := by
  cases h with
  | takesRead hreads hrecords | refusesRead hreads =>
    simp only [hreads, List.map_cons, List.count_cons, Broker.requests, List.filterMap_nil,
      List.count_nil]
    omega
  | replies =>
    simp only [Broker.requests, List.filterMap_cons, readReply_req, List.filterMap_nil,
      List.count_nil]
    omega
  | takesWrite hwrites =>
    simp only [hwrites, List.map_cons, List.count_cons, Broker.requests, List.filterMap_nil,
      List.count_nil]
    omega
  | writes =>
    simp only [Broker.requests, List.filterMap_append, filterMap_req_notify, List.filterMap_cons,
      processWrite_req, List.filterMap_nil, List.nil_append, List.count_nil]
    omega
  | refuses =>
    simp only [Broker.requests, List.filterMap_cons, Reply.req, List.filterMap_nil,
      List.count_nil]
    omega
  | more | noMore =>
    simp only [Broker.requests, filterMap_req_notify, List.count_nil]
    omega
  | _ =>
    simp only [Broker.requests, List.filterMap_nil, List.count_nil]
    omega

theorem Presenter.Accounted.turn (h : p.Accounted) (answers : PortAnswers) :
    (p.turn answers).Accounted := by
  rw [accounted_iff_count] at h ⊢
  intro req
  have hreq := h req
  have hmoved := (p.broker.step_effect answers p.state).requests req
  unfold Presenter.answered Presenter.atCallbacks at hreq ⊢
  simp only [Presenter.turn, List.filterMap_append, List.count_append]
  omega

theorem Presenter.Accounted.step (h : p.Accounted) (a : Action) : (p.step a).Accounted := by
  cases a with
  | call callback => exact h.call callback
  | reply index => exact h.reply index
  | broker answers => exact h.turn answers
  | stop =>
    rw [accounted_iff_count] at h ⊢
    intro req
    have hreq := h req
    rw [← signal_requests p.broker] at hreq
    exact hreq

theorem accounted_of_reachable (h : p.Reachable) : p.Accounted :=
  Presenter.ReachableBy.invariant (.refl _) (fun _ a hp _ => hp.step a) h

end Requests

/-! ## Records -/

/-- The record on its way from the ring to a reader. -/
def Broker.handing : Broker → List Bytes
  | .reply _ record => record.toList
  | _ => []

/-- The event on its way from the port to the ring. -/
def Broker.queueing : Broker → List Event
  | .queue event => [event]
  | _ => []

/-- The places at which the broker counts on a free slot. -/
def Broker.fetching : Broker → Bool
  | .wait _ | .receive _ | .queue _ => true
  | _ => false

/-- The records that were handed to readers. -/
def Presenter.handed (p : Presenter) : List Bytes := p.history.replies.filterMap Reply.data

/-- **Records keep the order of the port**: those handed to readers, the one on its way to
a reader, those in the ring and the event on its way into it are what the port has handed
over. No callback hands a record to a reader, and the broker counts on a free slot only
where there is one. -/
structure Presenter.InOrder (p : Presenter) : Prop where
  records : p.handed ++ p.broker.handing ++ p.state.records.toList
    ++ p.broker.queueing.map recordOf = p.history.received.map recordOf
  callbacks : p.callbacks.flatten.filterMap Reply.data = []
  room : p.broker.fetching = true → p.state.records.count < recordQueueDepth
  fits : ∀ event ∈ p.broker.queueing, Event.Fits event

section Records

variable {p : Presenter}

variable {b : Broker} {s : State}

@[simp] theorem signal_handing (b : Broker) : b.signal.handing = b.handing := by
  cases b <;> rfl

@[simp] theorem signal_queueing (b : Broker) : b.signal.queueing = b.queueing := by
  cases b <;> rfl

@[simp] theorem signal_fetching (b : Broker) : b.signal.fetching = b.fetching := by
  cases b <;> rfl

/-- A signal and replies of callbacks without records keep the order. -/
theorem Presenter.InOrder.of_same (h : p.InOrder) {callbacks : List (List Reply)} {req : Req}
    {history : History} (hrecords : s.records = p.state.records)
    (hb : b = p.broker ∨ b = p.broker.signal)
    (hcallbacks : callbacks.flatten.filterMap Reply.data = [])
    (hhanded : history.replies.filterMap Reply.data = p.handed)
    (hreceived : history.received = p.history.received) :
    InOrder ⟨s, b, callbacks, req, history⟩ := by
  have hsame : b.handing = p.broker.handing ∧ b.queueing = p.broker.queueing
      ∧ b.fetching = p.broker.fetching := by
    obtain rfl | rfl := hb
    · exact ⟨rfl, rfl, rfl⟩
    · exact ⟨signal_handing _, signal_queueing _, signal_fetching _⟩
  obtain ⟨hhanding, hqueueing, hfetching⟩ := hsame
  refine ⟨?_, hcallbacks, fun hf => ?_, fun event he => ?_⟩
  · show history.replies.filterMap Reply.data ++ b.handing ++ s.records.toList
      ++ b.queueing.map recordOf = history.received.map recordOf
    rw [hhanded, hhanding, hrecords, hqueueing, hreceived]
    exact h.records
  · show s.records.count < recordQueueDepth
    rw [hrecords]
    exact h.room (hfetching ▸ hf)
  · exact h.fits event (hqueueing ▸ he)

theorem Presenter.InOrder.call (h : p.InOrder) (callback : Callback) :
    (p.call callback).InOrder := by
  have heffect := callback.run_effect p.state p.nextReq
  unfold Presenter.call
  generalize callback.run p.state p.nextReq = called at heffect ⊢
  generalize acceptedBy p.state p.nextReq callback = accepted at heffect ⊢
  have hb : ∀ b : Bool, (if b then p.broker.signal else p.broker) = p.broker
      ∨ (if b then p.broker.signal else p.broker) = p.broker.signal := fun b => by
    cases b <;> simp
  have hcallbacks : ∀ replies : List Reply, replies.filterMap Reply.data = [] →
      (p.callbacks ++ [replies]).flatten.filterMap Reply.data = [] := fun replies hnil => by
    rw [List.flatten_append, List.filterMap_append, h.callbacks, List.nil_append,
      List.flatten_singleton, hnil]
  cases heffect with
  | answered hreads hwrites hrecords hreq hdata | cancelled hreads hwrites hrecords hreq hdata =>
    exact h.of_same hrecords (hb _) (hcallbacks _ hdata) rfl rfl
  | readQueued | writeQueued => exact h.of_same rfl (hb _) (hcallbacks _ rfl) rfl rfl

theorem Presenter.InOrder.reply (h : p.InOrder) (index : Nat) : (p.reply index).InOrder := by
  -- the reply and what the callbacks still owe are what they owed, none of it a record
  have hperm := (flatten_modify_tail p.callbacks index).filterMap Reply.data
  rw [h.callbacks, List.perm_nil, List.filterMap_append, List.append_eq_nil_iff] at hperm
  refine h.of_same rfl (Or.inl rfl) hperm.2 ?_ rfl
  show (p.history.replies ++ (p.owed index).toList).filterMap Reply.data = p.handed
  rw [List.filterMap_append]
  exact (congrArg _ hperm.1).trans (List.append_nil _)

theorem readReply_data (pending : PendingRead) (record : Option Bytes) :
    [readReply pending record].filterMap Reply.data = record.toList := by
  cases record <;> rfl

theorem processWrite_data (pending : PendingWrite) (result : Result) :
    (processWrite pending result).2.data = none := by
  unfold processWrite
  cases validateUserRecord pending.record with
  | error errno => rfl
  | ok header =>
    dsimp only
    split_ifs <;> rfl

/-- The broker moves records from the ring to a reader, and events from the port to the
ring, which has a slot for them. -/
theorem Broker.Effect.records {turn : Turn} (h : b.Effect s turn)
    (hroom : b.fetching = true → s.records.count < recordQueueDepth)
    (hfits : ∀ event ∈ b.queueing, Event.Fits event) :
    turn.replies.filterMap Reply.data ++ turn.broker.handing ++ turn.state.records.toList
        ++ turn.broker.queueing.map recordOf
      = b.handing ++ s.records.toList ++ b.queueing.map recordOf
        ++ turn.received.toList.map recordOf := by
  cases h with
  | takesRead hreads hrecords | queues hrecords => simp [Broker.handing, Broker.queueing, hrecords]
  | replies => simp [Broker.handing, Broker.queueing, readReply_data]
  | writes =>
    simp [Broker.handing, Broker.queueing, filterMap_data_notify, processWrite_data]
  | refuses => simp [Broker.handing, Broker.queueing, Reply.data]
  | noRoom hnone => exact absurd ⟨hroom rfl, hfits _ (List.mem_singleton_self _)⟩ hnone
  | more | noMore => simp [Broker.handing, Broker.queueing, filterMap_data_notify]
  | _ => simp [Broker.handing, Broker.queueing]

/-- The broker goes to the port only with a free slot. -/
theorem Broker.Effect.room {turn : Turn} (h : b.Effect s turn)
    (hroom : b.fetching = true → s.records.count < recordQueueDepth)
    (hfetching : turn.broker.fetching = true) : turn.state.records.count < recordQueueDepth := by
  cases h with
  | asksPort hfree | again hfree => exact hfree
  | ready | receives => exact hroom rfl
  | _ => cases hfetching

theorem Broker.Effect.fits {turn : Turn} (h : b.Effect s turn) :
    ∀ event ∈ turn.broker.queueing, Event.Fits event := by
  intro event he
  cases h with
  | receives hfits =>
    obtain rfl := List.mem_singleton.mp he
    exact hfits
  | _ => cases he

theorem Presenter.InOrder.turn (h : p.InOrder) (answers : PortAnswers) :
    (p.turn answers).InOrder := by
  have heffect := p.broker.step_effect answers p.state
  refine ⟨?_, h.callbacks, heffect.room h.room, heffect.fits⟩
  have hmoved := heffect.records h.room h.fits
  have hrecords := h.records
  simp only [Presenter.turn, Presenter.handed, List.filterMap_append, List.map_append,
    List.append_assoc] at hrecords hmoved ⊢
  rw [hmoved, ← hrecords]
  simp only [List.append_assoc]

theorem Presenter.InOrder.step (h : p.InOrder) (a : Action) : (p.step a).InOrder := by
  cases a with
  | call callback => exact h.call callback
  | reply index => exact h.reply index
  | broker answers => exact h.turn answers
  | stop => exact h.of_same rfl (Or.inr rfl) h.callbacks rfl rfl

theorem inOrder_of_reachable (h : p.Reachable) : p.InOrder :=
  Presenter.ReachableBy.invariant ⟨rfl, rfl, Bool.noConfusion, List.forall_mem_nil _⟩
    (fun _ a hp _ => hp.step a) h

end Records

/-! ## Short reads -/

/-- A read that is too small for the oldest record is taken, and the record is not. -/
theorem serviceOneRead_short {s : State} {pending : PendingRead} {record : Bytes}
    {reads : List PendingRead} {records : List Bytes} (hreads : s.reads.toList = pending :: reads)
    (hrecords : s.records.toList = record :: records) (hshort : pending.size < record.length) :
    ∃ s', serviceOneRead s = some (pending, none, s') ∧ s'.records = s.records := by
  obtain ⟨-, hnil⟩ | ⟨read, rest, hpop, hlist⟩ := s.reads.pop_cases
  · rw [hnil] at hreads
    cases hreads
  obtain ⟨-, hnil⟩ | ⟨oldest, rest', hpop', hlist'⟩ := s.records.pop_cases
  · rw [hnil] at hrecords
    cases hrecords
  obtain ⟨rfl, -⟩ := List.cons.inj (hlist.symm.trans hreads)
  obtain ⟨rfl, -⟩ := List.cons.inj (hlist'.symm.trans hrecords)
  refine ⟨{ s with reads := rest }, ?_, rfl⟩
  simp only [serviceOneRead, hpop, hpop', if_neg (not_le.mpr hshort)]

/-! ## Writes -/

/-- The write on its way to the port. -/
def Broker.writing : Broker → List PendingWrite
  | .write pending _ => [pending]
  | _ => []

/-- What the port is given for a write. -/
def PendingWrite.event (pending : PendingWrite) : Option Event :=
  match validateUserRecord pending.record with
  | .ok header => some (writeEvent header pending.record)
  | .error _ => none

/-- **Writes keep their order**: those that were queued are those that the port was given,
the one on its way and those in the ring. -/
structure Presenter.WritesInOrder (p : Presenter) : Prop where
  order : ∃ passed, p.history.accepted = passed ++ p.broker.writing ++ p.state.writes.toList
    ∧ passed.map PendingWrite.event = p.history.sent.map some
  valid : ∀ pending ∈ p.history.accepted, pending.event ≠ none

section Writes

variable {p : Presenter}

@[simp] theorem signal_writing (b : Broker) : b.signal.writing = b.writing := by
  cases b <;> rfl

theorem processWrite_event (pending : PendingWrite) (result : Result) :
    (processWrite pending result).1 = pending.event := by
  unfold processWrite PendingWrite.event
  cases validateUserRecord pending.record <;> rfl

/-- The broker takes the oldest write, and gives it to the port. -/
theorem Broker.Effect.writings {s : State} {b : Broker} {turn : Turn} (h : b.Effect s turn)
    (hvalid : ∀ pending ∈ b.writing, pending.event ≠ none) :
    ∃ passed, b.writing ++ s.writes.toList
        = passed ++ turn.broker.writing ++ turn.state.writes.toList
      ∧ passed.map PendingWrite.event = turn.sent.toList.map some := by
  cases h with
  | takesWrite hwrites => exact ⟨[], by simp [Broker.writing, hwrites], rfl⟩
  | @writes pending handle result =>
    refine ⟨[pending], by simp only [Broker.writing, List.append_nil], ?_⟩
    rw [processWrite_event]
    obtain ⟨event, he⟩ := Option.ne_none_iff_exists'.mp (hvalid _ (List.mem_singleton_self _))
    simp [he]
  | _ => exact ⟨[], rfl, rfl⟩

theorem Presenter.WritesInOrder.turn (h : p.WritesInOrder) (answers : PortAnswers) :
    (p.turn answers).WritesInOrder := by
  obtain ⟨passed, haccepted, hsent⟩ := h.order
  have hwriting : ∀ pending ∈ p.broker.writing, pending.event ≠ none := fun pending hw =>
    h.valid pending (by rw [haccepted]; simp [hw])
  obtain ⟨passed', hmoved, hsent'⟩ := (p.broker.step_effect answers p.state).writings hwriting
  refine ⟨⟨passed ++ passed', ?_, ?_⟩, h.valid⟩
  · show p.history.accepted = _
    rw [haccepted, List.append_assoc, hmoved]
    simp only [List.append_assoc]
    rfl
  · simp only [Presenter.turn, List.map_append, hsent, hsent']

theorem Presenter.WritesInOrder.call (h : p.WritesInOrder) (callback : Callback) :
    (p.call callback).WritesInOrder := by
  have heffect := callback.run_effect p.state p.nextReq
  obtain ⟨⟨passed, haccepted, hsent⟩, hvalid⟩ := h
  unfold Presenter.call
  generalize callback.run p.state p.nextReq = called at heffect ⊢
  generalize acceptedBy p.state p.nextReq callback = accepted at heffect ⊢
  have hbroker : ∀ b : Bool, (if b then p.broker.signal else p.broker).writing
      = p.broker.writing := fun b => by cases b <;> simp
  cases heffect with
  | answered hreads hwrites | cancelled hreads hwrites =>
    refine ⟨⟨passed, ?_, hsent⟩, ?_⟩
    · simp only [hbroker, hwrites, List.append_nil, haccepted]
    · simpa only [List.append_nil] using hvalid
  | readQueued =>
    refine ⟨⟨passed, ?_, hsent⟩, ?_⟩
    · simp only [if_true, signal_writing, List.append_nil, haccepted]
    · simpa only [List.append_nil] using hvalid
  | writeQueued hwrites hok =>
    refine ⟨⟨passed, ?_, hsent⟩, fun pending hp => ?_⟩
    · simp only [if_true, signal_writing, hwrites, haccepted, List.append_assoc]
    · obtain hold | hnew := List.mem_append.mp hp
      · exact hvalid pending hold
      · obtain rfl := List.mem_singleton.mp hnew
        simp [PendingWrite.event, hok]

theorem Presenter.WritesInOrder.step (h : p.WritesInOrder) (a : Action) :
    (p.step a).WritesInOrder := by
  cases a with
  | call callback => exact h.call callback
  | reply index => exact ⟨h.order, h.valid⟩
  | broker answers => exact h.turn answers
  | stop =>
    refine ⟨?_, h.valid⟩
    have horder := h.order
    rw [← signal_writing p.broker] at horder
    exact horder

theorem writesInOrder_of_reachable (h : p.Reachable) : p.WritesInOrder :=
  Presenter.ReachableBy.invariant ⟨⟨[], rfl, rfl⟩, List.forall_mem_nil _⟩
    (fun _ a hp _ => hp.step a) h

end Writes

/-- **Requests are answered once, and records and writes keep their order**, in every
interleaving. -/
theorem answered_once_in_order {p : Presenter} (h : p.Reachable) :
    -- at most one reply to a request, and a request without a reply is still held
    (∀ req, p.answered.count req ≤ 1)
      ∧ (∀ req < p.nextReq, req ∉ p.answered → req ∈ p.held)
      -- what readers were handed, and what is queued, is what the port handed over
      ∧ p.handed ++ p.broker.handing ++ p.state.records.toList ++ p.broker.queueing.map recordOf
        = p.history.received.map recordOf
      ∧ p.broker.queueing.length ≤ 1
      -- a read that is too small for the oldest record leaves it, and is told
      ∧ (∀ pending reads record records answers, p.broker = .service →
        p.state.reads.toList = pending :: reads → p.state.records.toList = record :: records →
        pending.size < record.length →
        (p.turn answers).broker = .reply pending none
          ∧ (p.turn answers).state.records.toList = record :: records)
      ∧ (∀ pending answers, p.broker = .reply pending none →
        (p.turn answers).history.replies = p.history.replies ++ [.err pending.req .emsgsize])
      -- the port was given the writes in the order in which they were queued
      ∧ ∃ passed, p.history.accepted = passed ++ p.broker.writing ++ p.state.writes.toList
        ∧ passed.map PendingWrite.event = p.history.sent.map some := by
  have haccounted := accounted_of_reachable h
  have horder := inOrder_of_reachable h
  refine ⟨fun req => ?_, fun req hreq hnone => ?_, horder.records, ?_, ?_, ?_,
    (writesInOrder_of_reachable h).order⟩
  · have hcount := haccounted.count_eq req
    have hrange := List.nodup_iff_count.mp (List.nodup_range (n := p.nextReq)) req
    rw [List.count_append] at hcount
    omega
  · have hmem := haccounted.mem_iff.mpr (List.mem_range.mpr hreq)
    exact (List.mem_append.mp hmem).resolve_left hnone
  · cases p.broker <;> simp [Broker.queueing]
  · intro pending reads record records answers hb hreads hrecords hshort
    obtain ⟨s', hservice, hsame⟩ := serviceOneRead_short hreads hrecords hshort
    simp only [Presenter.turn, hb, Broker.step, hservice, hsame, hrecords, and_self]
  · intro pending answers hb
    simp only [Presenter.turn, hb, Broker.step, readReply]

/-- One packet is fetched for a poll; a short read is refused, a longer one gets the
packet, and a time code is written. -/
def replySample : List Action :=
  let nothing : PortAnswers := ⟨.ok, (.timeout, ⟨false, false⟩), .error .timeout, .error .timeout⟩
  [.call (.poll (some 0)), .reply 0] ++ List.replicate 5 (.broker busyPort)
    ++ [.broker nothing, .call (.read 4 false), .broker nothing, .broker nothing,
      .call (.read 64 false), .broker nothing, .broker nothing,
      .call (.write (recordOf (.timeCode ⟨5, 0⟩)) false), .broker nothing, .broker nothing,
      .broker nothing]

theorem answered_once_in_order_sample :
    (Presenter.initial.run replySample).answered = [0, 1, 2, 3]
      ∧ (Presenter.initial.run replySample).handed = [recordOf (.data ⟨[1], .eop⟩)]
      ∧ (Presenter.initial.run replySample).history.sent = [.timeCode ⟨5, 0⟩]
      ∧ ∀ req, (Presenter.initial.run replySample).answered.count req ≤ 1 :=
  ⟨by decide +kernel, by decide +kernel, by decide +kernel,
    (answered_once_in_order
      (Presenter.ReachableBy.initial.run (fun _ _ => trivial) replySample)).1⟩

end Cuse
