import SpwKit.Lib.Component
import SpwKit.Device.DeviceBackend

/-!
# What the code of the device backend does

Every call is the same conversation: a request is written, record by record, and
events are read until its response is there; a receive reads events only. `Stage` says
where in this conversation a call stands. `Client` collects what has to be known of
an invariant for it to survive: each record that is written or read, and the few
changes a call makes of its own (`Change`), with what the code has checked by then.

`Client.triple_code` follows the code of every call once. Everything that is shown
of a device port in all its runs is an instance of it, and no other module has to look at
the control flow again.
-/

open Vspd BigEndian Interactive

namespace Device

/-! ## Stages and answers -/

/-- **Where a call stands.** -/
inductive Stage
  /-- It has nothing to write and waits for no response. -/
  | quiet
  /-- The one record of a request is to be written. -/
  | request (type : MessageType) (requestId : UInt32) (record : Bytes)
  /-- The fragment of a packet at an offset is to be written. -/
  | fragment (cut : Fragmentation) (offset : UInt32)
  /-- A response is waited for. -/
  | awaits (type : UInt8) (requestId : UInt32)
  /-- The response has been read. -/
  | answered (type : UInt8) (requestId : UInt32) (status : Int32)

/-- The stages in which records are read. -/
def Stage.reads : Stage → Bool
  | .quiet | .awaits _ _ => true
  | _ => false

/-- A response is the one that is waited for. -/
def Stage.expects (header : Header) : Stage → Prop
  | .awaits type requestId => header.type = type ∧ header.requestId = requestId
  | _ => False

/-- An answer that carries nothing. -/
def idleAnswer : (q : Request) → q.Answer → Prop
  | .clock => fun _ => True
  | .poll _ _ => fun (r : PollAnswer) => r ≠ .hungUp ∧ r ≠ .error
  | .send _ => fun (r : SendAnswer) => r = .interrupted ∨ r = .wouldBlock
  | .recv => fun (r : ReceiveAnswer) => r = .interrupted ∨ r = .wouldBlock
  | .connect => fun (r : ConnectAnswer) => r = .noSocket
  | .close => fun _ => False

/-- An answer that says that the connection is gone. -/
def fatalAnswer : (q : Request) → q.Answer → Prop
  | .poll _ _ => fun (r : PollAnswer) => r = .hungUp ∨ r = .error
  | .send _ => fun (r : SendAnswer) => r = .short ∨ r = .error
  | .recv => fun (r : ReceiveAnswer) => r = .record [] ∨ r = .ended ∨ r = .error
  | _ => fun _ => False

/-! ## Changes -/

namespace Context

/-- A request number has been taken. -/
def takenRequest (c : Context) : Context := { c with nextRequestId := c.nextRequestId + 1 }

/-- A message number has been taken. -/
def takenMessage (c : Context) : Context := { c with nextMessageId := c.nextMessageId + 1 }

/-- The record of a request that is sent next. -/
def nextRecord (c : Context) (type : MessageType) (payload : Bytes) : Bytes :=
  headerBytes (requestHeader c.portId type payload c.nextRequestId) ++ payload

/-- The packet that is sent next, as it is cut. -/
def nextCut (c : Context) (packet : Packet) : Fragmentation :=
  cutOf c.portId c.nextRequestId c.nextMessageId packet

/-- An event has been read and processed. -/
def afterEvent (c : Context) (header : Header) (frame : Bytes) : Context :=
  (processEvent c header (payloadOf frame)).2.noteHandled

/-- The packet in the buffer has been handed out. -/
def handedOut (c : Context) : Context :=
  c.clearRx.note fun h => { h with packets := h.packets ++ [c.rxPacket] }

/-- The first time code of the queue has been handed out. -/
def handedOutTimeCode (c : Context) (h : c.timeCodes.count ≠ 0) : Context :=
  { c with timeCodes := c.timeCodes.dropFront h }.note fun history =>
    { history with timeCodes := history.timeCodes ++ [c.timeCodes.slots c.timeCodes.head] }

/-- What an event leaves alone. -/
def session (c : Context) : UInt32 × Bool × UInt32 × UInt32 × Bool × History :=
  (c.portId, c.connected, c.nextRequestId, c.nextMessageId, c.desiredStarted, c.history)

end Context

theorem storeFragment_session (c : Context) (header : Header) (payload : Bytes) :
    (storeFragment c header payload).2.session = c.session := by
  unfold storeFragment
  dsimp only
  split_ifs <;> rfl

theorem admitFragment_session {c c' : Context} {header : Header}
    (h : admitFragment c header = some c') : c'.session = c.session := by
  unfold admitFragment at h
  split_ifs at h <;> (cases h; rfl)

/-- An event changes what has arrived and the state of the link. -/
theorem processEvent_session (c : Context) (header : Header) (payload : Bytes) :
    (processEvent c header payload).2.session = c.session := by
  unfold processEvent
  split_ifs with hstate hcode hdata hready
  · rfl
  · unfold queueTimeCode
    split_ifs <;> rfl
  · rfl
  · split
    · rfl
    · next c' hadmits => exact (storeFragment_session _ _ _).trans (admitFragment_session hadmits)
  · rfl

/-- **What a call does to the context by itself**, apart from its conversation. -/
inductive Change : Call → Context → Context → Prop
  | start (c) : Change .start c { c with desiredStarted := true }
  | stop (c) : Change .stop c { c with desiredStarted := false }
  | reset (c) : Change .reset c { c with desiredStarted := false }
  | linkState (c) (state : LinkState) : Change .getLinkState c { c with state := state }
  | handOut (c) {capacity : Nat} {timeoutUs : Timeout} (hready : c.rxReady = true)
      (hfits : c.rxTotalSize.toNat ≤ capacity) : Change (.receive capacity timeoutUs) c c.handedOut
  | handOutTimeCode (c) {timeoutUs : Timeout} (h : c.timeCodes.count ≠ 0) :
      Change (.receiveTimeCode timeoutUs) c (c.handedOutTimeCode h)

/-- The requests of a call on a port that is connected. -/
inductive Sends : Call → MessageType → Bytes → Prop
  | destroy : Sends .destroy .detach []
  | start : Sends .start .start []
  | stop : Sends .stop .stop []
  | reset : Sends .reset .reset []
  | getLinkState : Sends .getLinkState .getLinkState []
  | sendTimeCode (code : TimeCode) (timeoutUs : Timeout) :
      Sends (.sendTimeCode code timeoutUs) .timeCodeTx [code.timeCount, code.controlFlags]
  | getStatistics : Sends .getStatistics .getStatistics []
  | clearStatistics : Sends .clearStatistics .clearStatistics []

/-- The requests that make a connection. -/
inductive Connects : MessageType → Bytes → Prop
  | hello : Connects .hello helloPayload
  | attach : Connects .attach []
  | getCapabilities : Connects .getCapabilities []
  | start : Connects .start []

variable {type : MessageType}

theorem Sends.other {call : Call} {payload : Bytes}
    (h : Sends call type payload) : type.toByte ≠ MessageType.dataTx.toByte := by
  cases h <;> decide

theorem Connects.other {payload : Bytes} (h : Connects type payload) :
    type.toByte ≠ MessageType.dataTx.toByte := by
  cases h <;> decide

/-! ## Invariants -/

variable {O E α β : Type}

/-- **What is known of an invariant that every call keeps**: what it says at each stage,
when a connection may be given up, and that the conversation keeps it. -/
structure Client (S : Setting Request Request.Answer Context O E) (call : Call) where
  holds : Stage → Context → O → Prop
  lost : Context → O → Prop
  idle : ∀ {g c o e q r o'}, holds g c o → S.inv c o e → S.answers c o e q r o' →
    idleAnswer q r → S.inv c o' e ∧ holds g c o'
  broken : ∀ {g c o e q r o'}, holds g c o → S.inv c o e → S.answers c o e q r o' →
    fatalAnswer q r → S.inv c o' e ∧ lost c o'
  request : ∀ {c o e type payload}, holds .quiet c o → S.inv c o e → Sends call type payload →
    S.inv c.takenRequest o e
      ∧ holds (.request type c.nextRequestId (c.nextRecord type payload)) c.takenRequest o
  packet : ∀ {c o e packet timeoutUs}, holds .quiet c o → S.inv c o e →
    call = .send packet timeoutUs → S.inv c.takenRequest.takenMessage o e
      ∧ holds (.fragment (c.nextCut packet) 0) c.takenRequest.takenMessage o
  sentRequest : ∀ {c o e type requestId record o'}, holds (.request type requestId record) c o →
    S.inv c o e → S.answers c o e (.send record) SendAnswer.sent o' →
    S.inv (c.noteSent record) o' e ∧ holds (.awaits type.toByte requestId) (c.noteSent record) o'
  sentFragment : ∀ {c o e cut offset frame o'}, holds (.fragment cut offset) c o → S.inv c o e →
    cut.frame offset = .ok frame → S.answers c o e (.send frame) SendAnswer.sent o' →
    S.inv (c.noteSent frame) o' e ∧ holds (if isFinal cut.length offset
      then .awaits MessageType.dataTx.toByte cut.requestId
      else .fragment cut (offset + chunkAt cut.length offset)) (c.noteSent frame) o'
  event : ∀ {g c o e bytes header o'}, g.reads = true → holds g c o → S.inv c o e →
    S.answers c o e .recv (ReceiveAnswer.record bytes) o' → bytes ≠ [] →
    validateFrame (bytes.take frameCapacity) = .ok header → header.has flagResponse = false →
    S.inv ((c.noteRead bytes).afterEvent header (bytes.take frameCapacity)) o' e
      ∧ holds g ((c.noteRead bytes).afterEvent header (bytes.take frameCapacity)) o'
  response : ∀ {type requestId c o e bytes header o'}, holds (.awaits type requestId) c o →
    S.inv c o e → S.answers c o e .recv (ReceiveAnswer.record bytes) o' → bytes ≠ [] →
    validateFrame (bytes.take frameCapacity) = .ok header → header.has flagResponse = true →
    header.type = type → header.requestId = requestId →
    S.inv (c.noteRead bytes).noteHandled o' e
      ∧ holds (.answered type requestId header.status) (c.noteRead bytes).noteHandled o'
  stray : ∀ {g c o e bytes o'}, g.reads = true → holds g c o → S.inv c o e →
    S.answers c o e .recv (ReceiveAnswer.record bytes) o' → bytes ≠ [] →
    (∀ header, validateFrame (bytes.take frameCapacity) = .ok header →
      header.has flagResponse = true ∧ ¬ g.expects header) →
    S.inv (c.noteRead bytes) o' e ∧ S.inv (c.noteRead bytes).noteHandled o' e
      ∧ lost (c.noteRead bytes) o'
  rest : ∀ {type requestId status c o}, type ≠ MessageType.dataTx.toByte →
    holds (.answered type requestId status) c o → holds .quiet c o
  close : ∀ {c o e o'}, lost c o → S.inv c o e → S.answers c o e .close () o' →
    S.inv c.disconnected o' e
  closed : ∀ {c o e}, lost c o → S.inv c o e → c.connected = false → S.inv c.disconnected o e
  change : ∀ {c c' o e}, Change call c c' → holds .quiet c o → S.inv c o e →
    S.inv c' o e ∧ holds .quiet c' o

/-- **What is known besides, if connections come and go.** -/
structure Client.Reconnects {S : Setting Request Request.Answer Context O E} {call : Call}
    (C : Client S call) : Prop where
  lost : ∀ {c o e}, S.inv c o e → C.lost c o
  refused : ∀ {c o e o'}, S.inv c o e → S.answers c o e .connect ConnectAnswer.refused o' →
    S.inv { c with connected := true } o' e
  connect : ∀ {c o e o'}, C.holds .quiet c o → S.inv c o e →
    S.answers c o e .connect ConnectAnswer.connected o' →
    S.inv { c with connected := true, history := {} } o' e
      ∧ C.holds .quiet { c with connected := true, history := {} } o'
  request : ∀ {c o e type payload}, C.holds .quiet c o → S.inv c o e → Connects type payload →
    S.inv c.takenRequest o e
      ∧ C.holds (.request type c.nextRequestId (c.nextRecord type payload)) c.takenRequest o
  attach : ∀ {c o e}, C.holds .quiet c o → S.inv c o e →
    S.inv { c.clearArrived with state := .errorReset } o e
      ∧ C.holds .quiet { c.clearArrived with state := .errorReset } o
  capabilities : ∀ {c o e} capabilities, C.holds .quiet c o → S.inv c o e →
    S.inv { c with capabilities := capabilities } o e
      ∧ C.holds .quiet { c with capabilities := capabilities } o
  destroy : ∀ {c o e o'}, call = .destroy → S.inv c o e → S.answers c o e .close () o' →
    S.inv c o' e
  destroyed : ∀ {c o e}, call = .destroy → S.inv c o e → S.inv { c with connected := false } o e

/-- A program that is successful comes to a stage. -/
abbrev Client.Succeeds {S : Setting Request Request.Answer Context O E} {call : Call}
    (C : Client S call) (g : Stage) (c : Context) (result : Result) (o : O) : Prop :=
  result = .ok → C.holds g c o

/-- **Or that a call finds the port connected**, and does not close it. -/
structure Client.Connected {S : Setting Request Request.Answer Context O E} {call : Call}
    (C : Client S call) : Prop where
  connected : ∀ {c o e}, C.holds .quiet c o → S.inv c o e → c.connected = true
  keeps : call ≠ .destroy

/-- **And that what has arrived may be cleared**, by a reset that was granted. -/
def Client.Clears {S : Setting Request Request.Answer Context O E} {call : Call}
    (C : Client S call) : Prop :=
  ∀ {c o e}, call = .reset → C.holds .quiet c o → S.inv c o e →
    S.inv c.clearArrived o e ∧ C.holds .quiet c.clearArrived o

namespace Client

variable {S : Setting Request Request.Answer Context O E} {call : Call} (C : Client S call)

/-! ## The socket -/

section Socket

variable {C} {g : Stage}

variable {Q : Context → α → O → Prop} {c : Context} {e : E} {g' : Stage} {o : O} {q : Request}

/-- A change of the context at a stage. -/
theorem triple_modify {f : Context → Context} {P : Context → O → Prop}
    (h : ∀ c o e, P c o → S.inv c o e → S.inv (f c) o e ∧ C.holds g' (f c) o) :
    Triple S P (modify f : Program PUnit) (fun c _ o => C.holds g' c o) :=
  fun c o e hc hi => ⟨(h c o e hc hi).1, (h c o e hc hi).2⟩

theorem triple_clock : Triple S (C.holds g) (ask .clock) (fun c _ o => C.holds g c o) :=
  Triple.request (fun _ _ _ hc hi _ _ hr => C.idle hc hi hr trivial)

theorem triple_deadlineFor (timeoutUs : Timeout) :
    Triple S (C.holds g) (deadlineFor timeoutUs) (fun c _ o => C.holds g c o) :=
  Triple.ite (fun _ => Triple.ret (fun _ _ h => h))
    (fun _ => triple_clock.bind (fun _ => Triple.ret (fun _ _ h => h)))

theorem triple_pollTimeoutMs (deadline : UInt64) :
    Triple S (C.holds g) (pollTimeoutMs deadline) (fun c _ o => C.holds g c o) :=
  Triple.ite (fun _ => Triple.ret (fun _ _ h => h))
    (fun _ => triple_clock.bind (fun (_ : UInt64) => Triple.ite
      (fun _ => Triple.ret (fun _ _ h => h)) (fun _ => Triple.ret (fun _ _ h => h))))

theorem triple_markDisconnected : Triple S C.lost markDisconnected (fun _ _ _ => True) := by
  refine Triple.get_bind (fun c₀ o₀ e₀ hlost _ => ?_)
  by_cases hconnected : c₀.connected = true
  · rw [if_pos hconnected]
    refine Triple.ask (fun c o e hc hi r o' hr => ?_)
    obtain ⟨rfl, rfl⟩ := hc
    exact ⟨C.close hlost hi hr, trivial⟩
  · rw [if_neg hconnected]
    rintro c o e ⟨rfl, rfl⟩ hi
    exact ⟨C.closed hlost hi (by simpa using hconnected), trivial⟩

/-- Giving the connection up, whatever the call then says. -/
theorem triple_lost {a : α} (h : ∀ c o, Q c a o) :
    Triple S C.lost (markDisconnected >>= fun _ => pure a) Q :=
  triple_markDisconnected.bind (fun _ => Triple.ret (fun c o _ => h c o))

/-- A request at a stage, by the kinds of its answers. -/
theorem sat_ask {f : q.Answer → Program α} {Q : Context → α → O → E → Prop}
    (hidle : ∀ r, idleAnswer q r → ∀ c o e, C.holds g c o → S.inv c o e → Step.Sat S Q (f r c) o e)
    (hfatal : ∀ r, fatalAnswer q r → ∀ c o e, C.lost c o → S.inv c o e → Step.Sat S Q (f r c) o e)
    (hother : ∀ r, ¬ idleAnswer q r → ¬ fatalAnswer q r → ∀ c o e, C.holds g c o →
      S.inv c o e → ∀ o', S.answers c o e q r o' → Step.Sat S Q (f r c) o' e)
    (hc : C.holds g c o) (hi : S.inv c o e) : Step.Sat S Q ((ask q >>= f) c) o e := by
  refine ⟨hi, fun e₁ hi r o' hr => ?_⟩
  by_cases hi' : idleAnswer q r
  · obtain ⟨hinv, hg⟩ := C.idle hc hi hr hi'
    exact hidle r hi' c o' e₁ hg hinv
  · by_cases hf : fatalAnswer q r
    · obtain ⟨hinv, hl⟩ := C.broken hc hi hr hf
      exact hfatal r hf c o' e₁ hl hinv
    · exact hother r hi' hf c o e₁ hc hi o' hr

theorem triple_ask {f : q.Answer → Program α}
    (hidle : ∀ r, idleAnswer q r → Triple S (C.holds g) (f r) Q)
    (hfatal : ∀ r, fatalAnswer q r → Triple S C.lost (f r) Q)
    (hother : ∀ r, ¬ idleAnswer q r → ¬ fatalAnswer q r → ∀ c o e, C.holds g c o →
      S.inv c o e → ∀ o', S.answers c o e q r o' →
        Step.Sat S (fun c a o e => S.inv c o e ∧ Q c a o) (f r c) o' e) :
    Triple S (C.holds g) (ask q >>= f) Q :=
  fun _ _ _ hc hi => sat_ask hidle hfatal hother hc hi

theorem triple_waitFdLoop (output : Bool) (deadline : UInt64) (n : Nat) :
    Triple S (C.holds g) (waitFdLoop output deadline n)
      (C.Succeeds g) := by
  induction n with
  | zero => exact Triple.hang
  | succ n ih =>
    refine (triple_pollTimeoutMs deadline).bind (fun timeout => ?_)
    refine triple_ask (fun r hr => ?_) (fun r hr => ?_) (fun r hidle hfatal => ?_)
    · cases (r : PollAnswer) with
      | hungUp => exact absurd rfl hr.1
      | error => exact absurd rfl hr.2
      | ready => exact Triple.ret (fun _ _ h _ => h)
      | timedOut => exact Triple.ret (fun _ _ _ h => absurd h (by decide))
      | other | interrupted => exact ih
    · obtain rfl | rfl := hr
      · exact triple_lost (fun _ _ h => absurd h (by decide))
      · exact triple_lost (fun _ _ h => absurd h (by decide))
    · refine absurd ⟨fun h => hfatal (.inl h), fun h => hfatal (.inr h)⟩ hidle

theorem triple_interruptedTooLate (deadline : UInt64) :
    Triple S (C.holds g) (interruptedTooLate deadline) (fun c _ o => C.holds g c o) :=
  Triple.ite (fun _ => Triple.ret (fun _ _ h => h))
    (fun _ => (triple_pollTimeoutMs deadline).bind (fun _ => Triple.ret (fun _ _ h => h)))

/-- **A record is written**: the stage after it is reached, if the call says so. -/
theorem triple_sendRecord {frame : Bytes} (fuel : Nat) (deadline : UInt64)
    (hsent : ∀ {c o e o'}, C.holds g c o → S.inv c o e →
      S.answers c o e (.send frame) SendAnswer.sent o' →
      S.inv (c.noteSent frame) o' e ∧ C.holds g' (c.noteSent frame) o') :
    Triple S (C.holds g) (sendRecord fuel frame deadline)
      (C.Succeeds g') := by
  have hloop : ∀ n, Triple S (C.holds g) (sendRecordLoop fuel frame deadline n)
      (C.Succeeds g') := by
    intro n
    induction n with
    | zero => exact Triple.hang
    | succ n ih =>
      refine triple_ask (fun r hr => ?_) (fun r hr => ?_) (fun r hidle hfatal => ?_)
      · obtain rfl | rfl := hr
        · refine (triple_interruptedTooLate deadline).bind (fun late => Triple.ite
            (fun _ => Triple.ret (fun _ _ _ h => absurd h (by decide))) (fun _ => ih))
        · refine (triple_waitFdLoop true deadline fuel).bind (fun r => ?_)
          cases r with
          | ok => exact ih.pre (fun _ _ h => h rfl)
          | _ => exact Triple.ret (fun _ _ _ h => absurd h (by decide))
      · obtain rfl | rfl := hr
        · exact triple_lost (fun _ _ h => absurd h (by decide))
        · exact triple_lost (fun _ _ h => absurd h (by decide))
      · cases (r : SendAnswer) with
        | sent =>
          intro c o e hc hi o' hr
          obtain ⟨hinv, hg⟩ := hsent hc hi hr
          exact ⟨hinv, fun _ => hg⟩
        | short => exact absurd (.inl rfl) hfatal
        | error => exact absurd (.inr rfl) hfatal
        | interrupted => exact absurd (.inl rfl) hidle
        | wouldBlock => exact absurd (.inr rfl) hidle
  exact hloop fuel

/-- A record that has just been read, at a stage. -/
def Arrived (C : Client S call) (g : Stage) (c : Context) (o : O) (e : E) (frame : Bytes) : Prop :=
  ∃ c₀ o₀ bytes, C.holds g c₀ o₀ ∧ S.inv c₀ o₀ e
    ∧ S.answers c₀ o₀ e .recv (ReceiveAnswer.record bytes) o ∧ bytes ≠ []
    ∧ c = c₀.noteRead bytes ∧ frame = bytes.take frameCapacity

/-- What is known when a record was to be read. -/
def Read (C : Client S call) (g : Stage) (c : Context) (r : Except Result Bytes) (o : O)
    (e : E) : Prop :=
  match r with
  | .ok frame => C.Arrived g c o e frame
  | .error r => S.inv c o e ∧ r ≠ .ok

/-- **A record is read**, and what is done with it at once is done in the environment it
came from. -/
theorem sat_receiveRecord (fuel : Nat) (deadline : UInt64) (hc : C.holds g c o) (hi : S.inv c o e) :
    Step.Sat S (C.Read g) (receiveRecord fuel deadline c) o e := by
  have hlost : ∀ {r : Result}, r ≠ .ok → ∀ c o e, C.lost c o → S.inv c o e →
      Step.Sat S (C.Read g) ((markDisconnected >>= fun _ => pure (.error r) :
        Program (Except Result Bytes)) c) o e :=
    fun hr c o e hl hi => by
      refine (triple_markDisconnected c o e hl hi).bind (fun c _ o e h => ?_)
      exact ⟨h.1, hr⟩
  have hloop : ∀ n, ∀ c o e, C.holds g c o → S.inv c o e →
      Step.Sat S (C.Read g) (receiveRecordLoop fuel deadline n c) o e := by
    intro n
    induction n with
    | zero => exact fun _ _ _ _ hi => hi
    | succ n ih =>
      intro c o e hc hi
      refine sat_ask (fun r hr c o e hc hi => ?_) (fun r hr c o e hl hi => ?_)
        (fun r hidle hfatal c o e hc hi o' hr => ?_) hc hi
      · obtain rfl | rfl := hr
        · refine (triple_interruptedTooLate deadline c o e hc hi).bind (fun c late o e h => ?_)
          exact Step.sat_ite (fun _ => ⟨h.1, by decide⟩) (fun _ => ih c o e h.2 h.1)
        · refine (triple_waitFdLoop false deadline fuel c o e hc hi).bind (fun c r o e h => ?_)
          cases r with
          | ok => exact ih c o e (h.2 rfl) h.1
          | _ => exact ⟨h.1, by decide⟩
      · obtain rfl | rfl | rfl := hr
        · exact hlost (by decide) c o e hl hi
        · exact hlost (by decide) c o e hl hi
        · exact hlost (by decide) c o e hl hi
      · cases (r : ReceiveAnswer) with
        | record bytes =>
          cases bytes with
          | nil => exact absurd (.inl rfl) hfatal
          | cons b rest => exact ⟨c, o, b :: rest, hc, hi, hr, by simp, rfl, rfl⟩
        | ended => exact absurd (.inr (.inl rfl)) hfatal
        | error => exact absurd (.inr (.inr rfl)) hfatal
        | interrupted => exact absurd (.inl rfl) hidle
        | wouldBlock => exact absurd (.inr rfl) hidle
  exact hloop fuel c o e hc hi

end Socket

/-! ## Conversations -/

section Conversations

variable {C}

variable {c : Context} {e : E} {g : Stage} {o : O} {r : Except Result (Int32 × Bytes)}
  {requestId : UInt32} {result : Result}

/-- An event is processed. -/
theorem sat_takeEvent (hreads : g.reads = true) {frame : Bytes} {header : Header}
    (h : C.Arrived g c o e frame) (hvalid : validateFrame frame = .ok header)
    (hevent : header.has flagResponse = false) :
    Step.Sat S (fun c _ o e => S.inv c o e ∧ C.holds g c o)
      (takeEvent header (payloadOf frame) c) o e := by
  obtain ⟨c₀, o₀, bytes, hc, hi, hr, hne, rfl, rfl⟩ := h
  exact C.event hreads hc hi hr hne hvalid hevent

/-- A record that no stage expects. -/
theorem Arrived.stray (hreads : g.reads = true) {frame : Bytes} (h : C.Arrived g c o e frame)
    (hstray : ∀ header, validateFrame frame = .ok header →
      header.has flagResponse = true ∧ ¬ g.expects header) :
    S.inv c o e ∧ S.inv c.noteHandled o e ∧ C.lost c o := by
  obtain ⟨c₀, o₀, bytes, hc, hi, hr, hne, rfl, rfl⟩ := h
  exact C.stray hreads hc hi hr hne hstray

/-- A response that grants a request is the one that was waited for. -/
def Granted (C : Client S call) (type : UInt8) (requestId : UInt32) (c : Context) (o : O) : Prop :=
  ∃ status, statusToResult status = .ok ∧ C.holds (.answered type requestId status) c o

theorem Granted.quiet {type : UInt8} (h : C.Granted type requestId c o)
    (hother : type ≠ MessageType.dataTx.toByte) : C.holds .quiet c o := by
  obtain ⟨status, -, hanswered⟩ := h
  exact C.rest hother hanswered

/-- What is known when a response was waited for. -/
def Waited (C : Client S call) (type : UInt8) (requestId : UInt32) (c : Context)
    (r : Except Result (Int32 × Bytes)) (o : O) : Prop :=
  match r with
  | .ok (status, _) => C.holds (.answered type requestId status) c o
  | .error r => r ≠ .ok

theorem Waited.failed {type : UInt8} (h : result ≠ .ok) :
    C.Waited type requestId c (.error result) o := h

theorem responseResult_of_ok {status : Int32} (h : statusToResult status = .ok)
    (payload : Bytes) : responseResult (.ok (status, payload)) = .ok payload := by
  simp [responseResult, bind, Except.bind, h]

theorem responseResult_of_ne {status : Int32} (h : statusToResult status ≠ .ok) (payload : Bytes) :
    responseResult (.ok (status, payload)) = .error (statusToResult status) := by
  simp [responseResult, bind, Except.bind]

/-- A request whose result is OK was granted. -/
theorem Waited.granted {type : UInt8} (h : C.Waited type requestId c r o)
    (hok : resultOf (responseResult r) = .ok) : C.Granted type requestId c o := by
  cases r with
  | error r => exact absurd hok h
  | ok sp =>
    obtain ⟨status, payload⟩ := sp
    refine ⟨status, ?_, h⟩
    by_contra hstatus
    rw [responseResult_of_ne hstatus payload] at hok
    exact hstatus hok

/-- What is known when a request was made. -/
def Requested (C : Client S call) (c : Context) (r : Except Result Bytes) (o : O) : Prop :=
  match r with
  | .ok _ => C.holds .quiet c o
  | .error r => r ≠ .ok

theorem Requested.failed (h : result ≠ .ok) :
    C.Requested c (.error result) o := h

theorem Requested.quiet {r : Except Result Bytes} (h : C.Requested c r o)
    (hok : resultOf r = .ok) : C.holds .quiet c o := by
  cases r with
  | ok payload => exact h
  | error result => exact absurd hok h

theorem Waited.requested {type : UInt8} (h : C.Waited type requestId c r o)
    (hother : type ≠ MessageType.dataTx.toByte) : C.Requested c (responseResult r) o := by
  cases hresponse : responseResult r with
  | ok payload => exact (h.granted (by rw [hresponse]; rfl)).quiet hother
  | error result =>
    rintro rfl
    have hgranted := h.granted (by rw [hresponse]; rfl)
    cases r with
    | error result => exact h (Except.error.inj hresponse)
    | ok sp =>
      obtain ⟨status, payload⟩ := sp
      by_cases hstatus : statusToResult status = .ok
      · rw [responseResult_of_ok hstatus payload] at hresponse
        cases hresponse
      · rw [responseResult_of_ne hstatus payload] at hresponse
        exact hstatus (Except.error.inj hresponse)

/-- **The response is waited for.** -/
theorem triple_waitResponse (fuel : Nat) (type : UInt8) (requestId : UInt32) (capacity : Nat)
    (deadline : UInt64) :
    Triple S (C.holds (.awaits type requestId)) (waitResponse fuel type requestId capacity deadline)
      (C.Waited type requestId) := by
  have hloop : ∀ n, Triple S (C.holds (.awaits type requestId))
      (waitResponseLoop fuel type requestId capacity deadline n)
      (C.Waited type requestId) := by
    intro n
    induction n with
    | zero => exact Triple.hang
    | succ n ih =>
      intro c o e hc hi
      refine (sat_receiveRecord fuel deadline hc hi).bind (fun c r o e h => ?_)
      cases r with
      | error r => exact h
      | ok frame =>
        dsimp only
        cases hvalid : validateFrame frame with
        | error _ =>
          have hstray := Arrived.stray rfl h (fun header hok => by rw [hvalid] at hok; cases hok)
          exact triple_lost (fun _ _ => .failed (by decide)) c o e hstray.2.2 hstray.1
        | ok header =>
          refine Step.sat_ite (fun hresponse => Step.sat_ite (fun hother => ?_) (fun hown => ?_))
            (fun hevent => ?_)
          · have hstray := Arrived.stray rfl h (fun header' hok => by
              rw [hvalid] at hok
              cases hok
              exact ⟨hresponse, fun hexpected => hother.elim (· hexpected.1) (· hexpected.2)⟩)
            exact triple_lost (fun _ _ => .failed (by decide)) c o e hstray.2.2 hstray.1
          · rw [not_or, not_not, not_not] at hown
            obtain ⟨c₀, o₀, bytes, hc, hi, hr, hne, rfl, rfl⟩ := h
            obtain ⟨hinv, hanswered⟩ := C.response hc hi hr hne hvalid hresponse hown.1 hown.2
            refine Step.Sat.bind (Q := fun c _ o e => S.inv c o e
              ∧ C.holds (.answered type requestId header.status) c o) (fun c _ o e h => ?_)
              ⟨hinv, hanswered⟩
            exact Step.sat_ite (fun _ => ⟨h.1, .failed (by decide)⟩) (fun _ => h)
          · rw [Bool.not_eq_true] at hevent
            refine (sat_takeEvent rfl h hvalid hevent).bind (fun c r o e h => ?_)
            cases r with
            | ok => exact ih c o e h.2 h.1
            | _ => exact ⟨h.1, .failed (by decide)⟩
  exact hloop fuel

theorem takeRequestId_apply (c : Context) :
    takeRequestId c = .done c.takenRequest c.nextRequestId := rfl

/-- **A request**, from the number it takes to its response. -/
theorem triple_sendRequest (fuel : Nat) {type : MessageType} {payload : Bytes}
    (hother : type.toByte ≠ MessageType.dataTx.toByte) (capacity : Nat) (deadline : UInt64)
    (htake : ∀ {c o e}, C.holds .quiet c o → S.inv c o e → S.inv c.takenRequest o e
      ∧ C.holds (.request type c.nextRequestId (c.nextRecord type payload)) c.takenRequest o) :
    Triple S (C.holds .quiet) (sendRequest fuel type payload capacity deadline)
      C.Requested := by
  intro c o e hc hi
  obtain ⟨hinv, hdue⟩ := htake hc hi
  rw [sendRequest, Process.bind_apply, takeRequestId_apply, Step.bind_done]
  refine Step.sat_ite (fun _ => ⟨hinv, .failed (by decide)⟩) (fun _ => ?_)
  rw [Process.bind_apply, Process.get_apply, Step.bind_done]
  have hrecord : ∀ bytes, encodeHeader (requestHeader c.portId type payload c.nextRequestId)
      = .ok bytes → bytes ++ payload = c.nextRecord type payload := by
    intro bytes h
    rw [(encodeHeader_eq_ok h).2, Context.nextRecord]
  have hportId : c.takenRequest.portId = c.portId := rfl
  rw [hportId]
  cases hencode : encodeHeader (requestHeader c.portId type payload c.nextRequestId) with
  | error _ => exact ⟨hinv, .failed (by decide)⟩
  | ok bytes =>
    dsimp only
    rw [hrecord bytes hencode]
    refine (triple_sendRecord fuel deadline C.sentRequest _ _ _ hdue hinv).bind
      (fun c' r o e h => ?_)
    cases r with
    | ok =>
      refine (triple_waitResponse fuel type.toByte c.nextRequestId capacity deadline _ _ _
        (h.2 rfl) h.1).bind (fun c' r o e h => ?_)
      exact ⟨h.1, h.2.requested hother⟩
    | _ => exact ⟨h.1, .failed (by decide)⟩

/-- **The fragments of a packet**, from the one at an offset to the response. -/
theorem triple_sendFragments (fuel : Nat) (cut : Fragmentation) (deadline : UInt64) (n : Nat)
    (offset : UInt32) :
    Triple S (C.holds (.fragment cut offset)) (sendFragments fuel cut deadline n offset)
      (fun c r o => r = .ok → C.Granted MessageType.dataTx.toByte cut.requestId c o) := by
  induction n generalizing offset with
  | zero => exact Triple.hang
  | succ n ih =>
    intro c o e hc hi
    rw [sendFragments]
    cases hframe : cut.frame offset with
    | error _ => exact ⟨hi, fun h => absurd h (by decide)⟩
    | ok frame =>
      refine (triple_sendRecord fuel deadline (fun hc hi => C.sentFragment hc hi hframe) _ _ _
        hc hi).bind (fun c r o e h => ?_)
      cases r with
      | ok =>
        have hnext := h.2 rfl
        refine Step.sat_ite (fun hfinal => ?_) (fun hmore => ?_)
        · rw [if_pos hfinal] at hnext
          refine (triple_waitResponse fuel _ _ 0 deadline _ _ _ hnext h.1).bind
            (fun c r o e h => ?_)
          exact ⟨h.1, fun hok => h.2.granted hok⟩
        · rw [if_neg hmore] at hnext
          exact ih _ _ _ _ hnext h.1
      | _ => exact ⟨h.1, fun h => absurd h (by decide)⟩

/-- What a call does with a record that is no event. -/
def Refuses (C : Client S call) (refused : Program Unit) : Prop :=
  ∀ c o e, S.inv c o e → S.inv c.noteHandled o e → C.lost c o →
    Step.Sat S (fun c _ o e => S.inv c o e) (refused c) o e

theorem refuses_dropRecord : C.Refuses dropRecord := fun _ _ _ _ hi _ => hi

theorem refuses_markDisconnected : C.Refuses markDisconnected := fun c o e hi _ hl =>
  (triple_markDisconnected c o e hl hi).mono (fun _ _ _ _ h => h.1)

/-- **An event is read.** -/
theorem triple_serviceRecord (fuel : Nat) (deadline : UInt64) {refused : Program Unit}
    (hrefused : C.Refuses refused) :
    Triple S (C.holds .quiet) (serviceRecord fuel deadline refused)
      (C.Succeeds .quiet) := by
  intro c o e hc hi
  refine (sat_receiveRecord fuel deadline hc hi).bind (fun c r o e h => ?_)
  have hstray : ∀ {frame}, C.Arrived .quiet c o e frame →
      (∀ header, validateFrame frame = .ok header → header.has flagResponse = true) →
      Step.Sat S (fun c r o e => S.inv c o e ∧ (r = .ok → C.holds .quiet c o))
        ((refused >>= fun _ => pure .backend : Program Result) c) o e := by
    intro frame h hresponse
    obtain ⟨hi, hhandled, hl⟩ := Arrived.stray rfl h (fun header hok => ⟨hresponse header hok, id⟩)
    refine (hrefused c o e hi hhandled hl).bind (fun c _ o e h => ?_)
    exact ⟨h, fun h => absurd h (by decide)⟩
  cases r with
  | error r => exact ⟨h.1, fun hok => absurd hok h.2⟩
  | ok frame =>
    dsimp only
    cases hvalid : validateFrame frame with
    | error _ => exact hstray h (fun header hok => by rw [hvalid] at hok; cases hok)
    | ok header =>
      refine Step.sat_ite (fun hresponse => ?_) (fun hevent => ?_)
      · exact hstray h (fun header' hok => by rw [hvalid] at hok; cases hok; exact hresponse)
      · rw [Bool.not_eq_true] at hevent
        exact (sat_takeEvent rfl h hvalid hevent).mono (fun _ _ _ _ h => ⟨h.1, fun _ => h.2⟩)

/-- **Events are read** until there is what is waited for. -/
theorem triple_serviceLoop (fuel : Nat) (ready : Context → Bool) {refused : Program Unit}
    (hrefused : C.Refuses refused) (deadline : UInt64) (n : Nat) :
    Triple S (C.holds .quiet) (serviceLoop fuel ready refused deadline n)
      (fun c r o => r = .ok → C.holds .quiet c o ∧ ready c = true) := by
  induction n with
  | zero => exact Triple.hang
  | succ n ih =>
    intro c o e hc hi
    rw [serviceLoop, Process.bind_apply, Process.get_apply, Step.bind_done]
    refine Step.sat_ite (fun hready => ⟨hi, fun _ => ⟨hc, hready⟩⟩) (fun _ => ?_)
    refine (triple_serviceRecord fuel deadline hrefused c o e hc hi).bind (fun c r o e h => ?_)
    cases r with
    | ok => exact ih c o e (h.2 rfl) h.1
    | _ => exact ⟨h.1, fun h => absurd h (by decide)⟩

end Conversations

/-! ## Connecting -/

section Connecting

variable {C}

section Reconnecting

variable (hR : C.Reconnects)
include hR

theorem triple_giveUp {result : Result} (hresult : result ≠ .ok) :
    Triple S (fun _ _ => True) (giveUp result) (C.Succeeds .quiet) := by
  intro c o e _ hi
  exact triple_lost (fun _ _ h => absurd h hresult) c o e (hR.lost hi) hi

/-- A request of the handshake, and what follows if it is granted. -/
theorem triple_step (fuel : Nat) {type : MessageType} {payload : Bytes}
    (htype : Connects type payload) (capacity : Nat) (deadline : UInt64)
    {f : Bytes → Program Result}
    (hf : ∀ response, Triple S (C.holds .quiet) (f response)
      (C.Succeeds .quiet)) :
    Triple S (C.holds .quiet) (do
        match ← sendRequest fuel type payload capacity deadline with
        | .error result => giveUp result
        | .ok response => f response)
      (C.Succeeds .quiet) := by
  refine (triple_sendRequest fuel htype.other capacity deadline
    (fun hc hi => hR.request hc hi htype)).bind (fun r => ?_)
  cases r with
  | error result => exact fun c o e h hi => triple_giveUp hR h c o e trivial hi
  | ok response => exact hf response

theorem triple_restart (fuel : Nat) (deadline : UInt64) :
    Triple S (C.holds .quiet) (restart fuel deadline)
      (C.Succeeds .quiet) := by
  refine Triple.get_bind (fun c₀ o₀ e₀ hc hi => ?_)
  refine Triple.ite (fun _ => ?_) (fun _ => Triple.ret (fun c o h _ => ?_))
  · refine (triple_step hR fuel .start 0 deadline (fun _ => Triple.ret (fun _ _ h _ => h))).pre
      (fun c o h => ?_)
    obtain ⟨rfl, rfl⟩ := h
    exact hc
  · obtain ⟨rfl, rfl⟩ := h
    exact hc

theorem triple_handshake (fuel : Nat) (deadline : UInt64) :
    Triple S (C.holds .quiet) (handshake fuel deadline)
      (C.Succeeds .quiet) := by
  refine triple_step hR fuel .hello _ deadline (fun response => Triple.ite
    (fun _ => (triple_giveUp hR (by decide)).pre (fun _ _ _ => trivial)) (fun _ => ?_))
  refine triple_step hR fuel .attach 0 deadline (fun _ => ?_)
  refine (triple_modify (fun c o e hc hi => hR.attach hc hi)).bind (fun _ => ?_)
  refine triple_step hR fuel .getCapabilities _ deadline (fun response => Triple.ite
    (fun _ => (triple_giveUp hR (by decide)).pre (fun _ _ _ => trivial)) (fun _ => ?_))
  exact (triple_modify (fun c o e hc hi => hR.capabilities _ hc hi)).bind
    (fun _ => triple_restart hR fuel deadline)

/-- A connection is made. -/
theorem triple_connectSession (fuel : Nat) (deadline : UInt64) :
    Triple S (C.holds .quiet) (connectSession fuel deadline)
      (C.Succeeds .quiet) := by
  refine triple_ask (fun r hr => ?_) (fun r hr => hr.elim) (fun r hidle _ => ?_)
  · obtain rfl := hr
    exact Triple.ret (fun _ _ _ h => absurd h (by decide))
  · intro c o e hc hi o' hr
    cases (r : ConnectAnswer) with
    | noSocket => exact absurd rfl hidle
    | refused =>
      exact triple_giveUp hR (by decide) { c with connected := true } o' e trivial
        (hR.refused hi hr)
    | connected =>
      obtain ⟨hinv, hquiet⟩ := hR.connect hc hi hr
      exact triple_handshake hR fuel deadline _ _ _ hquiet hinv

/-- **The port is opened.** -/
theorem triple_deviceConstruct (fuel : Nat) :
    Triple S (C.holds .quiet) (deviceConstruct fuel)
      (C.Succeeds .quiet) :=
  (triple_deadlineFor 1000000).bind (fun deadline => triple_connectSession hR fuel deadline)

end Reconnecting

variable (hmode : C.Reconnects ∨ C.Connected)
include hmode

/-- **A call goes on once the port is connected.** -/
theorem triple_whenConnected (fuel : Nat) (deadline : UInt64) {failed : Result → α}
    {body : Program α} {Q : Context → α → O → Prop} (hbody : Triple S (C.holds .quiet) body Q)
    (hfailed : ∀ r c o, r ≠ .ok → Q c (failed r) o) :
    Triple S (C.holds .quiet) (whenConnected fuel deadline failed body) Q := by
  have hensure : Triple S (C.holds .quiet) (ensureConnected fuel deadline)
      (C.Succeeds .quiet) := by
    refine Triple.get_bind (fun c₀ o₀ e₀ hc hi => ?_)
    by_cases hconnected : c₀.connected = true
    · rw [if_pos hconnected]
      refine Triple.ret (fun c o h _ => ?_)
      obtain ⟨rfl, rfl⟩ := h
      exact hc
    · rw [if_neg hconnected]
      obtain hR | hC := hmode
      · refine (triple_connectSession hR fuel deadline).pre (fun c o h => ?_)
        obtain ⟨rfl, rfl⟩ := h
        exact hc
      · exact absurd (hC.connected hc hi) hconnected
  refine hensure.bind (fun r => ?_)
  cases r with
  | ok => exact hbody.pre (fun _ _ h => h rfl)
  | _ => exact Triple.ret (fun c o _ => hfailed _ c o (by decide))

end Connecting

/-! ## The calls -/

section Calls

variable {C} (hmode : C.Reconnects ∨ C.Connected)

/-- The outcome of a call does not matter. -/
abbrev Anyhow : Context → α → O → Prop := fun _ _ _ => True

variable {timeoutUs : Timeout}

theorem triple_map {p : Program α} {f : α → β} (h : Triple S (C.holds .quiet) p Anyhow) :
    Triple S (C.holds .quiet) (f <$> p) Anyhow :=
  h.bind (fun _ => Triple.ret (fun _ _ _ => trivial))

/-- The end of a call that looks at the state once more. -/
theorem triple_readState {P : Context → O → Prop} {f : Context → α} :
    Triple S P (get >>= fun c => pure (f c) : Program α) Anyhow :=
  Triple.bind (Q := Anyhow) (Triple.getState (fun _ _ _ => trivial))
    (fun _ => Triple.ret (fun _ _ _ => trivial))

theorem triple_requestResult (fuel : Nat) {type : MessageType} {payload : Bytes}
    (hsends : Sends call type payload) (deadline : UInt64) :
    Triple S (C.holds .quiet) (requestResult fuel type payload deadline)
      (C.Succeeds .quiet) :=
  (triple_sendRequest fuel hsends.other 0 deadline (fun hc hi => C.request hc hi hsends)).bind
    (fun _ => Triple.ret (fun _ _ h => h.quiet))

include hmode

theorem triple_requestSimple (fuel : Nat) {type : MessageType} (hsends : Sends call type [])
    (timeoutUs : Timeout) :
    Triple S (C.holds .quiet) (requestSimple fuel type timeoutUs)
      (C.Succeeds .quiet) :=
  (triple_deadlineFor timeoutUs).bind (fun deadline => triple_whenConnected hmode fuel deadline
    (triple_requestResult fuel hsends deadline) (fun _ _ _ hr h => absurd h hr))

/-- **A packet is sent**: if the call says so, its request was granted. -/
theorem triple_deviceSend (fuel : Nat) {packet : Packet} (hcall : call = .send packet timeoutUs) :
    Triple S (C.holds .quiet) (deviceSend fuel packet timeoutUs)
      (fun c r o => r = .ok → ∃ requestId, C.Granted MessageType.dataTx.toByte requestId c o) := by
  refine (triple_deadlineFor timeoutUs).bind (fun deadline => triple_whenConnected hmode fuel
    deadline ?_ (fun _ _ _ hr h => absurd h hr))
  intro c o e hc hi
  obtain ⟨hinv, hdue⟩ := C.packet hc hi hcall
  refine (triple_sendFragments fuel (c.nextCut packet) deadline fuel 0 _ _ _ hdue hinv).mono
    (fun c r o e h => ⟨h.1, fun hok => ⟨_, h.2 hok⟩⟩)

theorem triple_deviceReceive (fuel : Nat) {capacity : Nat}
    (hcall : call = .receive capacity timeoutUs) :
    Triple S (C.holds .quiet) (deviceReceive fuel capacity timeoutUs) Anyhow := by
  refine (triple_deadlineFor timeoutUs).bind (fun deadline => triple_whenConnected hmode fuel
    deadline ?_ (fun _ _ _ _ => trivial))
  refine (triple_serviceLoop fuel Context.rxReady refuses_dropRecord deadline fuel).bind
    (fun r => ?_)
  cases r with
  | ok =>
    refine Triple.get_bind (fun c₀ o₀ e₀ h _ => Triple.ite
      (fun _ => Triple.ret (fun _ _ _ => trivial)) (fun hroom => ?_))
    subst hcall
    rintro c o e ⟨rfl, rfl⟩ hi
    obtain ⟨hc, hready⟩ := h rfl
    exact ⟨(C.change (.handOut c hready (Nat.le_of_not_lt hroom)) hc hi).1, trivial⟩
  | _ => exact Triple.ret (fun _ _ _ => trivial)

theorem triple_deviceReceiveTimeCode (fuel : Nat) (hcall : call = .receiveTimeCode timeoutUs) :
    Triple S (C.holds .quiet) (deviceReceiveTimeCode fuel timeoutUs) Anyhow := by
  refine (triple_deadlineFor timeoutUs).bind (fun deadline => triple_whenConnected hmode fuel
    deadline ?_ (fun _ _ _ _ => trivial))
  refine (triple_serviceLoop fuel _ refuses_dropRecord deadline fuel).bind (fun r => ?_)
  cases r with
  | ok =>
    refine Triple.get_bind (fun c₀ o₀ e₀ h _ => ?_)
    subst hcall
    by_cases hcount : c₀.timeCodes.count ≠ 0
    · rw [dif_pos hcount]
      rintro c o e ⟨rfl, rfl⟩ hi
      exact ⟨(C.change (.handOutTimeCode c hcount) (h rfl).1 hi).1, trivial⟩
    · rw [dif_neg hcount]
      exact Triple.ret (fun _ _ _ => trivial)
  | _ => exact Triple.ret (fun _ _ _ => trivial)

/-- **A wait that succeeds** says what there is, and there is something. -/
theorem triple_deviceWait (fuel : Nat) (interests : ReadyEvents) (timeoutUs : Timeout) :
    Triple S (C.holds .quiet) (deviceWait fuel interests timeoutUs)
      (fun c r _ => r.1 = .ok → r.2 = deviceReadyEvents c interests ∧ r.2.any = true) := by
  refine (triple_deadlineFor timeoutUs).bind (fun deadline => ?_)
  refine Triple.get_bind (fun c₀ o₀ e₀ hc hi => ?_)
  refine Triple.ite (fun hany => Triple.ret (fun _ _ h _ => ⟨h.1 ▸ rfl, hany⟩)) (fun _ => ?_)
  refine (triple_whenConnected hmode fuel deadline ?_ (fun _ _ _ hr h => absurd h hr)).pre
    (fun c o h => h.1 ▸ h.2 ▸ hc)
  refine (triple_serviceRecord fuel deadline refuses_markDisconnected).bind (fun r => ?_)
  cases r with
  | ok =>
    refine Triple.pre ((triple_serviceLoop fuel _ refuses_markDisconnected deadline fuel).bind
      (fun r => ?_)) (fun _ _ h => h rfl)
    cases r with
    | ok =>
      refine Triple.get_bind (fun c₀ o₀ e₀ h _ => Triple.ret (fun c o hc _ => ?_))
      exact ⟨hc.1 ▸ rfl, (h rfl).2⟩
    | _ => exact Triple.ret (fun _ _ _ h => absurd h (by decide))
  | _ => exact Triple.ret (fun _ _ _ h => absurd h (by decide))

theorem triple_deviceGetLinkState (fuel : Nat) (hcall : call = .getLinkState) :
    Triple S (C.holds .quiet) (deviceGetLinkState fuel) Anyhow := by
  refine (triple_deadlineFor 250000).bind (fun deadline => Triple.bind (Q := Anyhow)
    (triple_whenConnected hmode fuel deadline ?_ (fun _ _ _ _ => trivial))
    (fun _ => triple_readState))
  subst hcall
  refine (triple_sendRequest fuel (by decide) _ deadline
    (fun hc hi => C.request hc hi .getLinkState)).bind (fun r => ?_)
  cases r with
  | error result => exact Triple.ret (fun _ _ _ => trivial)
  | ok payload =>
    refine Triple.ite (fun _ => ?_) (fun _ => Triple.ret (fun _ _ _ => trivial))
    refine Triple.bind (Q := fun c _ o => C.holds .quiet c o)
      (triple_modify (fun c o e hc hi => ?_))
      (fun _ => Triple.ret (fun _ _ _ => trivial))
    exact C.change (.linkState c _) hc hi

theorem triple_deviceGetStatistics (fuel : Nat) (hcall : call = .getStatistics) :
    Triple S (C.holds .quiet) (deviceGetStatistics fuel) Anyhow := by
  refine (triple_deadlineFor 250000).bind (fun deadline => triple_whenConnected hmode fuel
    deadline ?_ (fun _ _ _ _ => trivial))
  subst hcall
  refine (triple_sendRequest fuel (by decide) _ deadline
    (fun hc hi => C.request hc hi .getStatistics)).bind (fun r => ?_)
  cases r with
  | error result => exact Triple.ret (fun _ _ _ => trivial)
  | ok payload =>
    exact Triple.ite (fun _ => Triple.ret (fun _ _ _ => trivial))
      (fun _ => Triple.ret (fun _ _ _ => trivial))

/-- A request that sets whether the port is to be started. -/
theorem triple_lifecycle (fuel : Nat) {type : MessageType} (hsends : Sends call type [])
    {desired : Bool} (hchange : ∀ c, Change call c { c with desiredStarted := desired }) :
    Triple S (C.holds .quiet) (do
        modify fun c => { c with desiredStarted := desired }
        requestSimple fuel type timeoutInfinite)
      (C.Succeeds .quiet) :=
  (triple_modify (fun c _ _ hc hi => C.change (hchange c) hc hi)).bind
    (fun _ => triple_requestSimple hmode fuel hsends timeoutInfinite)

theorem triple_deviceReset (hclears : C.Clears) (fuel : Nat) (hcall : call = .reset) :
    Triple S (C.holds .quiet) (deviceReset fuel) Anyhow := by
  subst hcall
  refine (triple_modify (fun c _ _ hc hi => C.change (.reset c) hc hi)).bind (fun _ => ?_)
  refine (triple_requestSimple hmode fuel .reset timeoutInfinite).bind (fun r => ?_)
  refine Triple.ite (fun hok => ?_) (fun _ => Triple.ret (fun _ _ _ => trivial))
  refine Triple.pre (Triple.bind (Q := fun c _ o => C.holds .quiet c o)
    (triple_modify (fun c o e hc hi => hclears rfl hc hi))
    (fun _ => Triple.ret (fun _ _ _ => trivial))) (fun c o h => h hok)

theorem triple_deviceDestroy (fuel : Nat) (hcall : call = .destroy) :
    Triple S (C.holds .quiet) (deviceDestroy fuel) Anyhow := by
  obtain hR | hC := hmode
  · have hdestroyed : ∀ {P : Context → O → Prop}, Triple S P
        (modify fun c => { c with connected := false } : Program PUnit) Anyhow :=
      Triple.modifyState (fun _ _ _ _ hi => hR.destroyed hcall hi) (fun _ _ _ => trivial)
    refine Triple.get_bind (fun c₀ o₀ e₀ hc hi => Triple.ite (fun _ => ?_) (fun _ => hdestroyed))
    refine Triple.pre (P := C.holds .quiet) ?_ (fun c o h => h.1 ▸ h.2 ▸ hc)
    refine (triple_deadlineFor 100000).bind (fun deadline => ?_)
    refine (triple_sendRequest fuel (by decide) 0 deadline
      (fun hc hi => C.request hc hi (hcall ▸ .destroy))).bind (fun _ => ?_)
    refine Triple.get_bind (fun c₀ o₀ e₀ hc hi => Triple.ite (fun _ => ?_) (fun _ => hdestroyed))
    refine Triple.bind (Q := Anyhow) (Triple.request (fun c o e hc hi r o' hr => ?_))
      (fun _ => hdestroyed)
    exact ⟨hR.destroy hcall hi hr, trivial⟩
  · exact absurd hcall hC.keeps

/-- **Every call keeps the invariant**, from a state in which nothing is outstanding. -/
theorem triple_code (hclears : C.Clears) (fuel : Nat) :
    Triple S (C.holds .quiet) (call.code fuel) Anyhow := by
  have hanyhow : ∀ {p : Program Result} {Q : Context → Result → O → Prop},
      Triple S (C.holds .quiet) p Q → Triple S (C.holds .quiet) p Anyhow :=
    fun h => h.post (fun _ _ _ _ => trivial)
  cases call with
  | destroy =>
    exact (triple_deviceDestroy hmode fuel rfl).bind (fun _ => Triple.ret (fun _ _ _ => trivial))
  | start => exact hanyhow (triple_lifecycle hmode fuel .start .start)
  | stop => exact hanyhow (triple_lifecycle hmode fuel .stop .stop)
  | reset => exact triple_deviceReset hmode hclears fuel rfl
  | getLinkState => exact triple_map (triple_deviceGetLinkState hmode fuel rfl)
  | send packet timeoutUs => exact hanyhow (triple_deviceSend hmode fuel rfl)
  | receive capacity timeoutUs => exact triple_map (triple_deviceReceive hmode fuel rfl)
  | sendTimeCode code timeoutUs =>
    exact hanyhow ((triple_deadlineFor timeoutUs).bind (fun deadline =>
      triple_whenConnected hmode fuel deadline
        (triple_requestResult fuel (.sendTimeCode code timeoutUs) deadline)
        (fun _ _ _ hr h => absurd h hr)))
  | receiveTimeCode timeoutUs => exact triple_map (triple_deviceReceiveTimeCode hmode fuel rfl)
  | wait interests timeoutUs =>
    exact triple_map ((triple_deviceWait hmode fuel interests timeoutUs).post
      (fun _ _ _ _ => trivial))
  | getStatistics => exact triple_map (triple_deviceGetStatistics hmode fuel rfl)
  | clearStatistics => exact hanyhow (triple_requestSimple hmode fuel .clearStatistics 250000)

end Calls

end Client

end Device
