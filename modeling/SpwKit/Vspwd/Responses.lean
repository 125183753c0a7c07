import SpwKit.Vspwd.Runs
import SpwKit.Vspwd.Isolation
import Mathlib.Data.List.Forall2

/-!
# Requests and responses

A client has one slot for a response, and the daemon takes no request while it is
full. So the requests that were handled and the responses that were written,
followed by the one in the slot, are matched one to one and in order, fragments
that are not the last of their packet apart, which are answered by the last one's
response. This is the invariant of the histories below; nothing ever overwrites a
response, since a request that finds the slot full is refused.
-/

open Vspd BigEndian

namespace Vspwd

/-- The response in the slot of a client. -/
def Client.held (client : Client) : List Bytes :=
  if client.responsePending then [client.response] else []

/-- **A record answers another**: one is a well-formed request, the other a response
with its type, its number and its port. -/
def Answers (frame response : Bytes) : Prop :=
  ∃ request header, validateFrame frame = .ok request ∧ request.has flagResponse = false
    ∧ typeIsEvent request.type = false ∧ validateFrame response = .ok header
    ∧ header.has flagResponse = true ∧ header.type = request.type
    ∧ header.requestId = request.requestId ∧ header.portId = request.portId

/-- The requests of a client and their responses are matched in order. -/
def Matched (d : Daemon) (i : ClientIndex) : Prop :=
  List.Forall₂ Answers ((d.heard i).filter (fun frame => !isPart frame))
    ((d.told i).filter isResponse ++ (d.server.clients i).held)

/-- **The requests of every client that is connected are matched.** -/
def Disciplined (d : Daemon) : Prop :=
  ∀ i, (d.server.clients i).fd.isSome = true → Matched d i

variable {c c' : Client} {d d' : Daemon} {i : ClientIndex} {p : PortId} {s s' : Server}

theorem Answers.isResponse {frame response : Bytes} (h : Answers frame response) :
    isResponse response = true := by
  obtain ⟨request, header, -, -, -, hvalid, hresponse, -⟩ := h
  rw [Vspwd.isResponse, headerIs_of_ok hvalid, hresponse]

theorem held_of_slot (h : c'.slot = c.slot) : c'.held = c.held := by
  simp only [Client.slot, Prod.mk.injEq] at h
  rw [Client.held, Client.held, h.2.1, h.2.2]

theorem fd_of_slot (h : c'.slot = c.slot) : c'.fd = c.fd :=
  congrArg (fun slot => slot.1) h

/-- A client whose records and whose slot are as they were stays matched. -/
theorem Disciplined.of_same (h : Disciplined d) (hheard : d'.heard i = d.heard i)
    (htold : d'.told i = d.told i) (hslot : (d'.server.clients i).slot = (d.server.clients i).slot)
    (hfd : (d'.server.clients i).fd.isSome = true) : Matched d' i := by
  rw [fd_of_slot hslot] at hfd
  rw [Matched, hheard, htold, held_of_slot hslot]
  exact h i hfd

/-! ## Slots the events leave alone -/

variable {frame : Bytes}

theorem Writes.unmarked_of_ne {j : ClientIndex} (h : Writes s i frame s') (hj : j ≠ i) :
    (s'.clients j).unmarked = (s.clients j).unmarked := by
  cases h with
  | response | snapshot => exact unmarked_updateClient_of_ne _ hj
  | state | fragment => rfl
  | packet p slot =>
    unfold popPacket
    split_ifs
    · exact unmarked_markPortChanged _ _ j
    · rfl
  | timeCode p =>
    unfold popTimeCode
    split_ifs
    · exact unmarked_markPortChanged _ _ j
    · rfl

theorem BridgeMove.unmarked {call : Option BridgeCall} (h : BridgeMove s call s')
    (j : ClientIndex) :
    (s'.clients j).unmarked = (s.clients j).unmarked := by
  cases h with
  | refresh answer => exact unmarked_bridgeRefreshState s answer j
  | popPacket b slot =>
    unfold Vspwd.popPacket
    split_ifs
    · exact unmarked_markPortChanged _ _ j
    · rfl
  | popTimeCode b =>
    unfold Vspwd.popTimeCode
    split_ifs
    · exact unmarked_markPortChanged _ _ j
    · rfl
  | pushPacket b packet hroom | pushTimeCode b code hroom => exact unmarked_transfer _ _ _ _ j

/-! ## The client that is heard or told -/

/-- A request that is handled fills the slot that was free, or is a fragment. -/
theorem Handled.matched (h : Handled d.server i frame true s') (hd : Matched d i) :
    Matched (d.hear i frame s') i := by
  rw [Matched, hear_heard, hear_told, hear_server, Function.update_self, List.filter_append]
  cases h with
  | fragment request p r hfree hvalid hrequest htype hend =>
    have hpart : isPart frame = true := by
      rw [isPart, headerIs_of_ok hvalid, htype, hend]
      decide
    have hslot : ((d.server.setReassembly i (r.store request (payloadOf frame))).clients i).slot
        = (d.server.clients i).slot := slot_updateClient rfl i
    rw [held_of_slot hslot]
    rw [Matched] at hd
    simpa [hpart] using hd
  | answered request status payload s₁ hfree hvalid hrequest hanswerable hfinal heffect hpayload =>
    have hwhole : isPart frame = false := by
      rw [isPart, headerIs_of_ok hvalid, Bool.and_eq_false_iff, Bool.not_eq_false']
      by_cases htype : request.type = MessageType.dataTx.toByte
      · exact Or.inr (hfinal htype)
      · exact Or.inl (by simpa using htype)
    have hempty : (d.server.clients i).held = [] := by simp [Client.held, hfree]
    have hheld : ((s₁.respond i (responseBytes request status payload)).clients i).held
        = [responseBytes request status payload] := by
      simp [Client.held, Client.respond]
    have hanswers : Answers frame (responseBytes request status payload) :=
      ⟨request, _, hvalid, hrequest, hanswerable.noEvent,
        validateFrame_responseBytes hanswerable hpayload,
        responseHeader_has_response _ _ _, rfl, rfl, rfl⟩
    rw [Matched, hempty, List.append_nil] at hd
    rw [hheld]
    simpa [hwhole] using List.rel_append hd (List.Forall₂.cons hanswers List.Forall₂.nil)

/-- An event is not a response. -/
theorem isResponse_eventHeader {type : MessageType} {payload frame : Bytes}
    (h : validateFrame frame = .ok (eventHeader type p payload)) : isResponse frame = false := by
  rw [isResponse, headerIs_of_ok h]
  have hflags : (eventHeader type p payload).flags = 0 := rfl
  rw [Header.has, hflags]
  decide

/-- A fragment is not a response. -/
theorem Sound.isResponse_fragment (h : Sound s) {slot : PacketSlot} {frame : Bytes}
    (hfront : (s.ports p).packets.front = some slot)
    (hframe : (slot.fragmentation p).frame slot.offset = .ok frame) : isResponse frame = false := by
  obtain ⟨hok, hvalid⟩ := ((h.ports p).front hfront).frame_eq_ok p
  rw [hok] at hframe
  cases hframe
  rw [isResponse, headerIs_of_ok hvalid]
  exact Fragmentation.has_response _ _

/-- The responses that were written to a client, and the one that waits for it. -/
def Daemon.responses (d : Daemon) (i : ClientIndex) : List Bytes :=
  (d.told i).filter isResponse ++ (d.server.clients i).held

/-- Writing something else than a response leaves the responses alone. -/
theorem tell_responses (hnot : isResponse frame = false)
    (hslot : (s'.clients i).slot = (d.server.clients i).slot) :
    (d.tell i [frame] s').responses i = d.responses i := by
  simp [Daemon.responses, Daemon.tell, hnot, held_of_slot hslot]

theorem slot_popPacket (s : Server) (p : PortId) (slot : PacketSlot) (i : ClientIndex) :
    ((popPacket s p slot).clients i).slot = (s.clients i).slot := by
  unfold popPacket
  split_ifs
  · exact slot_of_unmarked (unmarked_markPortChanged _ _ i)
  · rfl

theorem slot_popTimeCode (s : Server) (p : PortId) (i : ClientIndex) :
    ((popTimeCode s p).clients i).slot = (s.clients i).slot := by
  unfold popTimeCode
  split_ifs
  · exact slot_of_unmarked (unmarked_markPortChanged _ _ i)
  · rfl

/-- **Writing a record leaves the responses as they are**: the one that waited becomes one
that was written. -/
theorem Writes.responses (h : Writes d.server i frame s') (hs : Sound d.server) (hd : Matched d i) :
    (d.tell i [frame] s').responses i = d.responses i := by
  cases h with
  | response hpending =>
    have hheld : (d.server.clients i).held = [(d.server.clients i).response] := by
      simp [Client.held, hpending]
    have hempty : ((d.server.updateClient i (fun client =>
        { client with responsePending := false, response := [] })).clients i).held = [] := by
      simp [Client.held]
    rw [Matched, hheld] at hd
    have hresponse : isResponse (d.server.clients i).response = true := by
      have hlast := List.forall₂_drop_append _ _ _ hd
      obtain ⟨request, rest, hanswers, -⟩ := List.forall₂_cons_right_iff.mp hlast
      exact hanswers.isResponse
    simp only [Daemon.responses, Daemon.tell, Function.update_self, List.filter_append, hempty,
      List.append_nil, hheld, List.filter_cons, hresponse, if_true, List.filter_nil]
  | state p frame hfree howns hpending hframe =>
    obtain ⟨hok, hvalid⟩ := linkStateEvent_eq_ok p (d.server.ports p).state
    rw [hok] at hframe
    cases hframe
    exact tell_responses (isResponse_eventHeader hvalid) rfl
  | fragment p slot frame hfree howns hfront hframe hmore =>
    exact tell_responses (hs.isResponse_fragment hfront hframe) rfl
  | packet p slot frame hfree howns hfront hframe hlast =>
    exact tell_responses (hs.isResponse_fragment hfront hframe) (slot_popPacket _ p slot i)
  | timeCode p code frame hfree howns hfront hframe =>
    rw [RingQueue.front_eq_head?] at hfront
    obtain ⟨hok, hvalid⟩ :=
      timeCodeEvent_eq_ok p ((hs.ports p).2 code (List.mem_of_mem_head? hfront))
    rw [hok] at hframe
    cases hframe
    exact tell_responses (isResponse_eventHeader hvalid) (slot_popTimeCode _ p i)
  | snapshot p frame hfree hport hpending hframe =>
    obtain ⟨hok, hvalid⟩ := snapshotEvent_eq_ok p (d.server.ports p)
    rw [hok] at hframe
    cases hframe
    exact tell_responses (isResponse_eventHeader hvalid) (slot_updateClient rfl i)

theorem Writes.matched (h : Writes d.server i frame s') (hs : Sound d.server) (hd : Matched d i) :
    Matched (d.tell i [frame] s') i := by
  have hsame := h.responses hs hd
  rw [Daemon.responses, Daemon.responses] at hsame
  rw [Matched, hsame]
  exact hd

/-- **Every event keeps requests and responses matched.** -/
theorem Disciplined.event (he : Event d d') (hk : WellKept d.server) (h : Disciplined d) :
    Disciplined d' := by
  intro j hfd
  cases he with
  | accepted i fd hfree =>
    by_cases hj : j = i
    · subst hj
      simp [Matched, Daemon.welcome, Client.held, Client.zeroed]
    · refine h.of_same ?_ ?_ ?_ hfd
      · simp [Daemon.welcome, hj]
      · simp [Daemon.welcome, hj]
      · simp [Daemon.welcome, hj]
  | closed i =>
    by_cases hj : j = i
    · subst hj
      simp [closeClient, Client.zeroed] at hfd
    · exact h.of_same rfl rfl (slot_of_unmarked (unmarked_closeClient hj)) hfd
  | told i frame s' hfd' hwrites =>
    by_cases hj : j = i
    · subst hj
      exact hwrites.matched hk.sound (h j hfd')
    · refine h.of_same rfl ?_ (slot_of_unmarked (hwrites.unmarked_of_ne hj)) hfd
      simp [Daemon.tell, hj]
  | bridge call s' hbridge => exact h.of_same rfl rfl (slot_of_unmarked (hbridge.unmarked j)) hfd

/-- **So does hearing a record.** -/
theorem Disciplined.hear (hd : Heard d i frame s') (h : Disciplined d) :
    Disciplined (d.hear i frame s') := by
  intro j hfd
  by_cases hj : j = i
  · subst hj
    exact hd.handled.matched (h j hd.connected)
  · refine h.of_same ?_ ?_ ?_ hfd
    · simp [hear_heard, hj]
    · rw [hear_told]
    · rw [hear_server]
      exact slot_of_unmarked (hd.handled.unmarked hj)

/-- At the start nobody is connected. -/
theorem Started.fd_eq_none (h : Started s) (i : ClientIndex) : (s.clients i).fd = none := by
  cases h with
  | plain => rfl
  | bridged p answer =>
    have hsame := unmarked_bridgeRefreshState (bridgeOpened p) answer i
    exact fd_of_unmarked hsame

theorem Disciplined.initial (h : Started s) : Disciplined (Daemon.initial s) := by
  intro i hfd
  simp [Daemon.initial, h.fd_eq_none i] at hfd

/-- The response in a slot is legal, and is of no type that events have. -/
theorem Disciplined.response_header (h : Disciplined d)
    (hfd : (d.server.clients i).fd.isSome = true)
    (hpending : (d.server.clients i).responsePending = true) :
    ∃ header, validateFrame (d.server.clients i).response = .ok header
      ∧ typeIsEvent header.type = false := by
  have hd := h i hfd
  have hheld : (d.server.clients i).held = [(d.server.clients i).response] := by
    simp [Client.held, hpending]
  rw [Matched, hheld] at hd
  obtain ⟨frame, rest, hanswers, -⟩ :=
    List.forall₂_cons_right_iff.mp (List.forall₂_drop_append _ _ _ hd)
  obtain ⟨request, header, -, -, hevent, hvalid, -, htype, -⟩ := hanswers
  exact ⟨header, hvalid, htype ▸ hevent⟩

/-- A record that is refused leaves the response slot as it was. -/
theorem Handled.slot_of_refused (h : Handled s i frame false s') :
    (s'.clients i).slot = (s.clients i).slot := by
  cases h with
  | refused r => exact slot_updateClient rfl i

/-- **Every request has its response.** As long as a client is connected, the
records of it that were handled, fragments but the last apart, are well-formed
requests, and are matched in order by the responses written to it and the one in
its slot. A fragment that is not the last of its packet leaves the slot free, and
a record that is refused leaves it as it was and is followed by a close that
empties it. -/
theorem requests_answered {d : Daemon} (h : d.Reachable) (i : ClientIndex) :
    ((d.server.clients i).fd.isSome = true →
        List.Forall₂ Answers ((d.heard i).filter (fun frame => !isPart frame))
          ((d.told i).filter isResponse ++ (d.server.clients i).held))
      ∧ (∀ frame, isPart frame = true → (handleRequest d.server i frame).1 = true →
        ((handleRequest d.server i frame).2.clients i).held = []
          ∧ (d.server.clients i).held = [])
      ∧ ∀ frame, (handleRequest d.server i frame).1 = false →
        ((handleRequest d.server i frame).2.clients i).held = (d.server.clients i).held
          ∧ ((closeClient (handleRequest d.server i frame).2 i).clients i).held = [] := by
  have hall := (Daemon.Run.keeps Disciplined.initial (fun _ hd _ => Disciplined.hear hd)
    Disciplined.event h).2
  refine ⟨hall i, fun frame hpart hok => ?_, fun frame hok => ?_⟩
  · have hhandled := handleRequest_handled d.server i frame
    rw [hok] at hhandled
    generalize handleRequest d.server i frame = r at hhandled
    obtain ⟨ok, s'⟩ := r
    cases hhandled with
    | fragment request p r hfree =>
      have hfree' : (d.server.clients i).held = [] := by simp [Client.held, hfree]
      refine ⟨?_, hfree'⟩
      rw [← hfree']
      have hslot : ((d.server.setReassembly i (r.store request (payloadOf frame))).clients i).slot
          = (d.server.clients i).slot := slot_updateClient rfl i
      exact held_of_slot hslot
    | answered request status payload s₁ hfree hvalid _ _ hfinal =>
      rw [isPart, headerIs_of_ok hvalid, Bool.and_eq_true, Bool.not_eq_true'] at hpart
      have := hfinal (by simpa using hpart.1)
      rw [hpart.2] at this
      cases this
  · have hhandled := handleRequest_handled d.server i frame
    rw [hok] at hhandled
    refine ⟨held_of_slot hhandled.slot_of_refused, ?_⟩
    simp [closeClient, Client.held, Client.zeroed]

/-- A client that has said hello, has asked to attach and has not read the answer. -/
def askedSample : Daemon :=
  (Daemon.initial initServer).run
    (connect 0 7 ++ [.receive 0 (.record (requestRecord .attach 2 1 []))])

theorem requests_answered_attach :
    ((askedSample.heard 0).length, (askedSample.told 0).length,
        (askedSample.server.clients 0).held.length) = (2, 1, 1)
      ∧ List.Forall₂ Answers ((askedSample.heard 0).filter (fun frame => !isPart frame))
        ((askedSample.told 0).filter isResponse ++ (askedSample.server.clients 0).held) := by
  have hreachable : askedSample.Reachable := Daemon.Reachable.run (.start .plain) _
  exact ⟨by decide +kernel, (requests_answered hreachable 0).1 (by decide +kernel)⟩

end Vspwd
