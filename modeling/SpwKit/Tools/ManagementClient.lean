import Mathlib.Data.List.Nodup
import SpwKit.Lib.RawRing
import SpwKit.Device.VspwDeviceProtocol

/-!
# The snapshots that a management client keeps

A management client is sent snapshots of the ports that it watches, also while it waits for
the answer to a request. It keeps them in a ring of eight until they are asked for, one for
each port: a snapshot of a port that is waiting already takes the place of the one before.

What has happened to a client is a list of `Outcome`s. It tells since when a port waits
(`waitingSince`) and which snapshot of it came last (`latest`), and the ring holds the ports
that wait in the order of the one, with the other (`Tracks`).
-/

open Vspd

namespace Management

/-- `VSPD_MANAGEMENT_EVENT_QUEUE_DEPTH` -/
def eventQueueDepth : Nat := 8

/-- `vspd_management_event_t` -/
structure ManagementEvent where
  portId : UInt32
  snapshot : PortSnapshotPayload

/-- `vspd_management_client_t`, as far as events go: `event_head`, `event_tail`, `event_count`
and `events`. -/
abbrev ManagementClient := RawRing ManagementEvent

variable (client : ManagementClient)

/-- The place, behind the head, of the event of a port. -/
def findEvent (portId : UInt32) : Option Nat :=
  (List.range client.count).find? (fun i =>
    (client.slots ((client.head + i) % eventQueueDepth)).portId == portId)

/-- `queue_event` -/
def queueEvent (portId : UInt32) (snapshot : PortSnapshotPayload) : Bool × ManagementClient :=
  match findEvent client portId with
  | some i => (true, client.set eventQueueDepth i
      { client.slots ((client.head + i) % eventQueueDepth) with snapshot })
  | none =>
    if eventQueueDepth ≤ client.count then (false, client)
    else (true, client.push eventQueueDepth ⟨portId, snapshot⟩)

/-- A record is a snapshot, as `decode_snapshot_event` checks it. -/
def IsSnapshot (header : Header) (payload : Option Bytes) : Prop :=
  header.type = MessageType.portSnapshotEvent.toByte
    ∧ header.payloadSize.toNat = portSnapshotPayloadSize ∧ payload.isSome

instance (header : Header) (payload : Option Bytes) :
    Decidable (IsSnapshot header payload) :=
  inferInstanceAs (Decidable (_ ∧ _ ∧ _))

/-- `decode_snapshot_event` -/
def decodeSnapshotEvent (header : Header) (payload : Option Bytes) : Bool × ManagementClient :=
  if ¬ IsSnapshot header payload then (false, client)
  else queueEvent client header.portId (decodePortSnapshot (payload.getD []))

/-- `pop_event` -/
def popEvent : Option ManagementEvent × ManagementClient :=
  if client.count = 0 then (none, client)
  else (some client.front, client.drop eventQueueDepth)

/-- The client that `vspd_management_open` zeroes. -/
def opened : ManagementClient :=
  RawRing.zeroed ⟨0, decodePortSnapshot []⟩

/-! ## What has happened -/

/-- What a client is made to do with its events. -/
inductive Action where
  | record (header : Header) (payload : Option Bytes)
  | pop

/-- What has come of it. -/
inductive Outcome where
  | received (portId : UInt32) (snapshot : PortSnapshotPayload) (accepted : Bool)
  | popped (event : ManagementEvent)
  | nothing

/-- What comes of an action, and the client after it. -/
def step : Action → Outcome × ManagementClient
  | .record header payload =>
    let (accepted, client') := decodeSnapshotEvent client header payload
    (if IsSnapshot header payload then
      .received header.portId (decodePortSnapshot (payload.getD [])) accepted
    else .nothing, client')
  | .pop =>
    let (event, client') := popEvent client
    (event.elim .nothing .popped, client')

/-- A client and what has happened to it, the last first. -/
def run : List Action → List Outcome × ManagementClient
  | [] => ([], opened)
  | action :: earlier =>
    let (outcome, client) := step (run earlier).2 action
    (outcome :: (run earlier).1, client)

/-- The time since which a port waits: that of the first snapshot of it that was accepted
after its last pop. -/
def waitingSince (portId : UInt32) : List Outcome → Option Nat
  | [] => none
  | .received p _ true :: earlier =>
    if p = portId then (waitingSince portId earlier).or (some earlier.length)
    else waitingSince portId earlier
  | .popped event :: earlier =>
    if event.portId = portId then none else waitingSince portId earlier
  | _ :: earlier => waitingSince portId earlier

/-- The last snapshot of a port that was received, accepted or not, after its last pop. -/
def latest (portId : UInt32) : List Outcome → Option PortSnapshotPayload
  | [] => none
  | .received p snapshot _ :: earlier => if p = portId then some snapshot else latest portId earlier
  | .popped event :: earlier => if event.portId = portId then none else latest portId earlier
  | .nothing :: earlier => latest portId earlier

/-- One port has waited longer than another. -/
def Before (history : List Outcome) (p q : UInt32) : Prop :=
  ∃ t u, waitingSince p history = some t ∧ waitingSince q history = some u ∧ t < u

variable {history : List Outcome} {p : UInt32}

theorem waitingSince_lt {t : Nat} :
    ∀ {history : List Outcome}, waitingSince p history = some t → t < history.length
  | .received q _ true :: earlier, h => by
    rw [waitingSince] at h
    split at h
    · rcases Option.or_eq_some_iff.1 h with h | ⟨-, h⟩
      · exact (waitingSince_lt h).trans (Nat.lt_succ_self _)
      · exact (Option.some.inj h) ▸ Nat.lt_succ_self _
    · exact (waitingSince_lt h).trans (Nat.lt_succ_self _)
  | .received _ _ false :: earlier, h
  | .nothing :: earlier, h =>
    (waitingSince_lt (show waitingSince p earlier = some t from h)).trans (Nat.lt_succ_self _)
  | .popped event :: earlier, h => by
    rw [waitingSince] at h
    split at h
    · cases h
    · exact (waitingSince_lt h).trans (Nat.lt_succ_self _)

theorem Before.ne {q : UInt32} (h : Before history p q) : p ≠ q := by
  rintro rfl
  obtain ⟨t, u, ht, hu, htu⟩ := h
  rw [ht] at hu
  exact htu.ne (Option.some.inj hu)

/-! ## What is kept -/

/-- **Events are what a history says**: the ports that wait, longest first, each with the
snapshot of it that came last. -/
structure Tracks (events : List ManagementEvent) (history : List Outcome) : Prop where
  order : (events.map (·.portId)).Pairwise (Before history)
  waiting : ∀ p, p ∈ events.map (·.portId) ↔ (waitingSince p history).isSome
  latest : ∀ e ∈ events, latest e.portId history = some e.snapshot

namespace Tracks

variable {events : List ManagementEvent} {history : List Outcome} (h : Tracks events history)

include h

variable {p : UInt32}

theorem nodup : (events.map (·.portId)).Nodup :=
  h.order.imp Before.ne

/-- An outcome that leaves every port waiting as it was. -/
theorem keep {outcome : Outcome} {events' : List ManagementEvent}
    (hports : events'.map (·.portId) = events.map (·.portId))
    (hsince : ∀ p, waitingSince p (outcome :: history) = waitingSince p history)
    (hlatest : ∀ e ∈ events', Management.latest e.portId (outcome :: history) = some e.snapshot) :
    Tracks events' (outcome :: history) := by
  refine ⟨?_, fun p => by rw [hports, hsince, h.waiting], hlatest⟩
  rw [hports]
  refine h.order.imp ?_
  rintro p q ⟨t, u, ht, hu, htu⟩
  exact ⟨t, u, (hsince p).trans ht, (hsince q).trans hu, htu⟩

theorem nothing : Tracks events (.nothing :: history) :=
  h.keep rfl (fun _ => rfl) h.latest

/-- A snapshot that is refused is one of a port that does not wait. -/
theorem refused (snapshot : PortSnapshotPayload) (hp : p ∉ events.map (·.portId)) :
    Tracks events (.received p snapshot false :: history) := by
  refine h.keep rfl (fun _ => rfl) (fun e he => ?_)
  rw [Management.latest, if_neg]
  · exact h.latest e he
  · rintro rfl
    exact hp (List.mem_map_of_mem he)

/-- **A snapshot of a port that waits takes the place of the one before.** -/
theorem replaced {i : Nat} {e : ManagementEvent} (hi : events[i]? = some e)
    (snapshot : PortSnapshotPayload) :
    Tracks (events.set i { e with snapshot }) (.received e.portId snapshot true :: history) := by
  obtain ⟨hlt, hport⟩ : ∃ hlt : i < (events.map (·.portId)).length,
      (events.map (·.portId))[i] = e.portId :=
    List.getElem?_eq_some_iff.1 (by rw [List.getElem?_map, hi]; rfl)
  refine h.keep ?_ (fun p => ?_) (fun e' he' => ?_)
  · rw [List.map_set, ← hport]
    exact List.set_getElem_self hlt
  · rw [waitingSince]
    by_cases hp : e.portId = p
    · obtain ⟨t, ht⟩ := Option.isSome_iff_exists.1
        ((h.waiting e.portId).1 (hport ▸ List.getElem_mem hlt))
      rw [if_pos hp, ← hp, ht, Option.some_or]
    · rw [if_neg hp]
  · -- no other event is one of this port
    obtain ⟨j, hj⟩ := List.mem_iff_getElem?.1 he'
    rw [Management.latest]
    by_cases hij : i = j
    · subst hij
      rw [List.getElem?_set_self (List.getElem?_eq_some_iff.1 hi).1] at hj
      obtain rfl := Option.some.inj hj
      exact if_pos rfl
    · rw [List.getElem?_set_ne hij] at hj
      rw [if_neg, h.latest e' (List.mem_of_getElem? hj)]
      intro hpe
      obtain ⟨hlt', hport'⟩ : ∃ hlt : j < (events.map (·.portId)).length,
          (events.map (·.portId))[j] = e'.portId :=
        List.getElem?_eq_some_iff.1 (by rw [List.getElem?_map, hj]; rfl)
      exact hij ((List.Nodup.getElem_inj_iff h.nodup).1 (hport.trans (hpe.trans hport'.symm)))

/-- **A port that does not wait waits behind the others.** -/
theorem appended (snapshot : PortSnapshotPayload) (hp : p ∉ events.map (·.portId)) :
    Tracks (events ++ [⟨p, snapshot⟩]) (.received p snapshot true :: history) := by
  have hnone : waitingSince p history = none :=
    Option.not_isSome_iff_eq_none.1 (fun hsome => hp ((h.waiting p).2 hsome))
  have hself : waitingSince p (.received p snapshot true :: history) = some history.length := by
    rw [waitingSince, if_pos rfl, hnone, Option.none_or]
  have hother : ∀ q, q ≠ p →
      waitingSince q (.received p snapshot true :: history) = waitingSince q history := by
    intro q hq
    rw [waitingSince, if_neg (Ne.symm hq)]
  have hne : ∀ q ∈ events.map (·.portId), q ≠ p := fun q hq hqp => hp (hqp ▸ hq)
  refine ⟨?_, fun q => ?_, fun e he => ?_⟩
  · rw [List.map_append, List.pairwise_append]
    refine ⟨h.order.imp_of_mem ?_, List.pairwise_singleton _ _, ?_⟩
    · rintro q r hq hr ⟨t, u, ht, hu, htu⟩
      exact ⟨t, u, (hother q (hne q hq)).trans ht, (hother r (hne r hr)).trans hu, htu⟩
    · intro q hq r hr
      obtain rfl := List.mem_singleton.1 hr
      obtain ⟨t, ht⟩ := Option.isSome_iff_exists.1 ((h.waiting q).1 hq)
      exact ⟨t, history.length, (hother q (hne q hq)).trans ht, hself, waitingSince_lt ht⟩
  · rw [List.map_append, List.mem_append, h.waiting]
    by_cases hq : q = p
    · subst hq
      simp [hself]
    · simp [hother q hq, hq]
  · rw [Management.latest]
    rcases List.mem_append.1 he with he | he
    · rw [if_neg (Ne.symm (hne _ (List.mem_map_of_mem he)))]
      exact h.latest e he
    · obtain rfl := List.mem_singleton.1 he
      exact if_pos rfl

end Tracks

/-- **What is popped no longer waits**, and the others do as before. -/
theorem Tracks.popped {e : ManagementEvent} {rest : List ManagementEvent}
    (h : Tracks (e :: rest) history) : Tracks rest (.popped e :: history) := by
  obtain ⟨hfirst, hrest⟩ := List.pairwise_cons.1 h.order
  have hne : ∀ q ∈ rest.map (·.portId), e.portId ≠ q := fun q hq => (hfirst q hq).ne
  have hother : ∀ q, e.portId ≠ q →
      waitingSince q (.popped e :: history) = waitingSince q history := fun q hq => if_neg hq
  refine ⟨hrest.imp_of_mem ?_, fun q => ?_, fun e' he' => ?_⟩
  · rintro q r hq hr ⟨t, u, ht, hu, htu⟩
    exact ⟨t, u, (hother q (hne q hq)).trans ht, (hother r (hne r hr)).trans hu, htu⟩
  · by_cases hq : e.portId = q
    · subst hq
      rw [waitingSince, if_pos rfl]
      exact ⟨fun hmem => absurd rfl (hne _ hmem), nofun⟩
    · rw [hother q hq, ← h.waiting]
      simp [Ne.symm hq]
  · rw [Management.latest, if_neg (hne _ (List.mem_map_of_mem he'))]
    exact h.latest e' (List.mem_cons_of_mem _ he')

/-! ## The ring -/

section Ring

variable {client : ManagementClient} {history : List Outcome} {portId : UInt32}

theorem findEvent_eq_some {i : Nat} (h : findEvent client portId = some i) :
    i < client.count ∧ (client.slots ((client.head + i) % eventQueueDepth)).portId = portId :=
  ⟨List.mem_range.1 (List.mem_of_find?_eq_some h), beq_iff_eq.1 (List.find?_some h :)⟩

theorem findEvent_eq_none (h : findEvent client portId = none) :
    portId ∉ (client.toList eventQueueDepth).map (·.portId) := by
  simpa [findEvent, RawRing.toList, List.find?_eq_none] using h

/-- The ring is in order and tells what has happened. -/
structure Kept (client : ManagementClient) (history : List Outcome) : Prop where
  ring : client.Consistent eventQueueDepth
  tracks : Tracks (client.toList eventQueueDepth) history

/-- **An event is refused where eight other ports wait**, and changes nothing then. -/
theorem queueEvent_refused {snapshot : PortSnapshotPayload}
    (h : (queueEvent client portId snapshot).1 = false) :
    eventQueueDepth ≤ client.count ∧ portId ∉ (client.toList eventQueueDepth).map (·.portId)
      ∧ (queueEvent client portId snapshot).2 = client := by
  cases hfind : findEvent client portId with
  | some i => simp [queueEvent, hfind] at h
  | none =>
    unfold queueEvent at h ⊢
    rw [hfind] at h ⊢
    by_cases hfull : eventQueueDepth ≤ client.count
    · exact ⟨hfull, findEvent_eq_none hfind, by simp [hfull]⟩
    · simp [hfull] at h

theorem Kept.queueEvent (h : Kept client history) (portId : UInt32)
    (snapshot : PortSnapshotPayload) :
    Kept (queueEvent client portId snapshot).2
      (.received portId snapshot (Management.queueEvent client portId snapshot).1 :: history) := by
  cases hfind : findEvent client portId with
  | some i =>
    obtain ⟨hi, hport⟩ := findEvent_eq_some hfind
    have hq : Management.queueEvent client portId snapshot = (true, client.set eventQueueDepth i
        { client.slots ((client.head + i) % eventQueueDepth) with snapshot }) := by
      rw [Management.queueEvent, hfind]
    have htracks := h.tracks.replaced (RawRing.getElem?_toList hi) snapshot
    rw [hport] at htracks
    rw [hq]
    refine ⟨⟨h.ring.head_lt, h.ring.count_le, h.ring.tail_eq⟩, ?_⟩
    rw [h.ring.toList_set hi]
    simpa only [hport] using htracks
  | none =>
    have hp := findEvent_eq_none hfind
    by_cases hfull : eventQueueDepth ≤ client.count
    · have hq : Management.queueEvent client portId snapshot = (false, client) := by
        rw [Management.queueEvent, hfind]
        exact if_pos hfull
      rw [hq]
      exact ⟨h.ring, h.tracks.refused snapshot hp⟩
    · have hq : Management.queueEvent client portId snapshot
          = (true, client.push eventQueueDepth ⟨portId, snapshot⟩) := by
        rw [Management.queueEvent, hfind]
        exact if_neg hfull
      have hroom : client.count < eventQueueDepth := Nat.lt_of_not_le hfull
      rw [hq]
      refine ⟨h.ring.push hroom _, ?_⟩
      rw [h.ring.toList_push hroom]
      exact h.tracks.appended snapshot hp

theorem Kept.popEvent (h : Kept client history) :
    Kept (popEvent client).2 ((popEvent client).1.elim .nothing .popped :: history) := by
  unfold Management.popEvent
  by_cases hcount : client.count = 0
  · rw [if_pos hcount]
    exact ⟨h.ring, h.tracks.nothing⟩
  · rw [if_neg hcount]
    have htracks := h.tracks
    rw [h.ring.toList_eq_cons hcount] at htracks
    exact ⟨h.ring.drop hcount, htracks.popped⟩

theorem Kept.step (h : Kept client history) (action : Action) :
    Kept (step client action).2 ((step client action).1 :: history) := by
  cases action with
  | pop => exact h.popEvent
  | record header payload =>
    by_cases hsnapshot : IsSnapshot header payload
    · simp only [Management.step, decodeSnapshotEvent, hsnapshot, not_true, if_false, if_true]
      exact h.queueEvent _ _
    · simp only [Management.step, decodeSnapshotEvent, hsnapshot, not_false_iff, if_false, if_true]
      exact ⟨h.ring, h.tracks.nothing⟩

end Ring

/-- **The ring is kept in every run.** -/
theorem kept_run : ∀ actions : List Action, Kept (run actions).2 (run actions).1
  | [] => by
    refine ⟨RawRing.Consistent.zeroed _ (by decide), List.Pairwise.nil, fun p => ?_, nofun⟩
    simp [run, opened, waitingSince]
  | action :: earlier => (kept_run earlier).step action

/-- **A management client keeps the latest snapshot of each port**, in whatever order snapshots
come in and are asked for. Its ring stays in order and holds no port twice; a pop takes the
port that has waited longest, with the last snapshot of it since its pop before, and fails
only where no port waits; and a snapshot is refused only where eight others wait, which it
leaves as they are. -/
theorem latest_snapshot_per_port (actions : List Action) :
    let client := (run actions).2
    let history := (run actions).1
    (client.head < eventQueueDepth ∧ client.count ≤ eventQueueDepth
      ∧ client.tail = (client.head + client.count) % eventQueueDepth)
      ∧ ((client.toList eventQueueDepth).map (·.portId)).Nodup
      ∧ ((popEvent client).1 = none → ∀ p, waitingSince p history = none)
      ∧ (∀ e, (popEvent client).1 = some e →
          latest e.portId history = some e.snapshot
            ∧ ∃ t, waitingSince e.portId history = some t
              ∧ ∀ q u, q ≠ e.portId → waitingSince q history = some u → t < u)
      ∧ ∀ header payload, IsSnapshot header payload →
          (decodeSnapshotEvent client header payload).1 = false →
          (∃ others : List UInt32, others.length = eventQueueDepth ∧ others.Nodup
            ∧ header.portId ∉ others ∧ ∀ q ∈ others, (waitingSince q history).isSome)
          ∧ (decodeSnapshotEvent client header payload).2 = client := by
  intro client history
  have h : Kept client history := kept_run actions
  refine ⟨⟨h.ring.head_lt, h.ring.count_le, h.ring.tail_eq⟩, h.tracks.nodup, fun hnone p => ?_,
    fun e hpop => ?_, fun header payload hsnapshot hrefused => ?_⟩
  · have hcount : client.count = 0 := by
      by_contra hcount
      simp [popEvent, hcount] at hnone
    rw [← Option.not_isSome_iff_eq_none, ← h.tracks.waiting,
      RawRing.toList_eq_nil_iff.2 hcount]
    exact List.not_mem_nil
  · have hcount : client.count ≠ 0 := by
      intro hcount
      simp [popEvent, hcount] at hpop
    have hfront : client.front = e := by simpa [popEvent, hcount] using hpop
    have htracks := h.tracks
    rw [h.ring.toList_eq_cons hcount, hfront] at htracks
    obtain ⟨hfirst, -⟩ := List.pairwise_cons.1 htracks.order
    obtain ⟨t, ht⟩ := Option.isSome_iff_exists.1 ((htracks.waiting e.portId).1 List.mem_cons_self)
    refine ⟨htracks.latest e List.mem_cons_self, t, ht, fun q u hq hu => ?_⟩
    have hmem := (htracks.waiting q).2 (hu ▸ rfl)
    obtain ⟨t', u', ht', hu', hlt⟩ := hfirst q ((List.mem_cons.1 hmem).resolve_left hq)
    rw [ht] at ht'
    rw [hu] at hu'
    exact (Option.some.inj ht') ▸ (Option.some.inj hu') ▸ hlt
  · rw [decodeSnapshotEvent, if_neg (not_not.2 hsnapshot)] at hrefused ⊢
    obtain ⟨hfull, hp, hsame⟩ := queueEvent_refused hrefused
    refine ⟨⟨(client.toList eventQueueDepth).map (·.portId), ?_, h.tracks.nodup, hp,
      fun q hq => (h.tracks.waiting q).1 hq⟩, hsame⟩
    rw [List.length_map, RawRing.toList_length]
    exact h.ring.count_le.antisymm hfull

end Management
