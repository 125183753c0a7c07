import SpwKit.Core.Port
import SpwKit.Lib.RawRing
import Mathlib.Data.Fin.Basic
import Mathlib.Data.List.FinRange
import Mathlib.Logic.Function.Basic

/-!
# The virtual links of the simulator

A virtual link joins two endpoints, each with a state and with the queues of what
has been sent to it. The links are entries of a registry: an entry is taken when
the first endpoint of its link is attached and given back when the last one goes.
These are the parts of `simulator_backend.c` that run under the locks of the
registry and of a link.
-/

open Core

namespace Simulator

/-- `SPW_SIMULATOR_MAX_PACKET_SIZE`. -/
def maxPacketSize : Nat := 4096

/-- `SPW_SIMULATOR_PACKET_QUEUE_DEPTH`. -/
def packetQueueDepth : Nat := 8

/-- `SPW_SIMULATOR_TIME_CODE_QUEUE_DEPTH`. -/
def timeCodeQueueDepth : Nat := 8

/-- `SPW_SIMULATOR_MAX_LOCAL_LINKS`. -/
def maxLocalLinks : Nat := 16

/-- An entry of the registry. -/
abbrev LinkIndex := Fin maxLocalLinks

/-- An end of a link: 0 is A and 1 is B. -/
abbrev EndpointIndex := Fin 2

/-- The other end. -/
def peerIndex (e : EndpointIndex) : EndpointIndex := 1 - e

theorem peerIndex_ne (e : EndpointIndex) : peerIndex e ≠ e := by
  revert e
  decide

@[simp] theorem peerIndex_peerIndex (e : EndpointIndex) : peerIndex (peerIndex e) = e := by
  revert e
  decide

/-- There are no other ends. -/
theorem eq_or_eq_peerIndex (e e' : EndpointIndex) : e' = e ∨ e' = peerIndex e := by
  revert e e'
  decide

theorem both_ends (p : EndpointIndex → Prop) (e : EndpointIndex) :
    p 0 ∧ p 1 ↔ p e ∧ p (peerIndex e) :=
  match e with
  | 0 => Iff.rfl
  | 1 => and_comm

/-- `spw_simulator_endpoint_state_t`. -/
structure EndpointState where
  attached : Bool
  started : Bool
  state : LinkState
  packets : RawRing Packet
  timeCodes : RawRing TimeCode
  statistics : Statistics

/-- `reset_endpoint`. -/
def resetEndpoint : EndpointState where
  attached := false
  started := false
  state := .errorReset
  packets := .zeroed ⟨[], .eop⟩
  timeCodes := .zeroed ⟨0, 0⟩
  statistics := {}

/-- `clear_receive_queues`. -/
def EndpointState.clearReceiveQueues (endpoint : EndpointState) : EndpointState :=
  { endpoint with
    packets := .zeroed ⟨[], .eop⟩
    timeCodes := .zeroed ⟨0, 0⟩
    statistics := { endpoint.statistics with
      droppedPackets := endpoint.statistics.droppedPackets
        + UInt64.ofNat endpoint.packets.count } }

/-- `peer_available`. -/
def EndpointState.available (peer : EndpointState) : Bool := peer.attached && peer.started

/-- `spw_simulator_virtual_link_t`. -/
structure VirtualLink where
  allocated : Bool
  linkId : UInt64
  endpoints : EndpointIndex → EndpointState

/-- An entry of the registry that was never used. -/
def VirtualLink.initial : VirtualLink := ⟨false, 0, fun _ => resetEndpoint⟩

/-- Change an endpoint. -/
def VirtualLink.update (link : VirtualLink) (e : EndpointIndex)
    (f : EndpointState → EndpointState) : VirtualLink :=
  { link with endpoints := Function.update link.endpoints e (f (link.endpoints e)) }

section Update

variable (link : VirtualLink) (e : EndpointIndex) (f : EndpointState → EndpointState)

@[simp] theorem VirtualLink.update_own : (link.update e f).endpoints e = f (link.endpoints e) := by
  simp [update]

@[simp] theorem VirtualLink.update_peer :
    (link.update e f).endpoints (peerIndex e) = link.endpoints (peerIndex e) := by
  simp [update, peerIndex_ne]

@[simp] theorem VirtualLink.update_peer_own :
    (link.update (peerIndex e) f).endpoints e = link.endpoints e := by
  simp [update, (peerIndex_ne e).symm]

end Update

/-- The state an endpoint is in after `refresh_link_states`, whose other end is `peer`. -/
def refreshedState (endpoint peer : EndpointState) : LinkState :=
  if endpoint.available && peer.available then .run
  else if endpoint.available then .connecting
  else endpoint.state

variable (link : VirtualLink) (e : EndpointIndex)

/-- `refresh_link_states`. -/
def VirtualLink.refreshLinkStates : VirtualLink :=
  { link with endpoints := fun e =>
      { link.endpoints e with
        state := refreshedState (link.endpoints e) (link.endpoints (peerIndex e)) } }

/-- The end of a link that stays is told that the other one does not run. -/
def EndpointState.disconnect (peer : EndpointState) : EndpointState :=
  if peer.available then { peer with state := .connecting } else peer

/-- The end of a link that stays counts that the other one is gone. -/
def EndpointState.lose (peer : EndpointState) : EndpointState :=
  if peer.available then
    { peer with
      state := .connecting
      statistics := { peer.statistics with linkErrors := peer.statistics.linkErrors + 1 } }
  else peer

/-! ## Starting and stopping -/

/-- `simulator_start`, of the endpoint of a backend. -/
def VirtualLink.start : Result × VirtualLink :=
  if (link.endpoints e).attached = false then (.linkUnavailable, link)
  else
    (.ok, (link.update e fun own =>
      { own with started := true, state := .connecting }).refreshLinkStates)

/-- `simulator_stop`. -/
def VirtualLink.stop : Result × VirtualLink :=
  if (link.endpoints e).attached = false then (.linkUnavailable, link)
  else
    (.ok, (link.update e fun own => { own with started := false, state := .ready }).update
      (peerIndex e) EndpointState.disconnect)

/-- The part of `simulator_reset` that is about the link. -/
def VirtualLink.reset : Result × VirtualLink :=
  if (link.endpoints e).attached = false then (.linkUnavailable, link)
  else
    (.ok, (link.update e fun own =>
      { own.clearReceiveQueues with started := false, state := .errorReset }).update
        (peerIndex e) EndpointState.lose)

/-! ## Transfers -/

/-- A packet from an endpoint goes to the tail of the other one's queue and is counted. -/
def VirtualLink.sendPacket (packet : Packet) : VirtualLink :=
  (link.update (peerIndex e) fun peer =>
    { peer with packets := peer.packets.push packetQueueDepth packet }).update e fun own =>
      { own with statistics := { own.statistics with
          txPackets := own.statistics.txPackets + 1
          txBytes := own.statistics.txBytes + UInt64.ofNat packet.bytes.length
          eepPackets := own.statistics.eepPackets
            + if packet.terminator = .eep then 1 else 0 } }

/-- The packet at the head of an endpoint's queue leaves it and is counted. -/
def VirtualLink.takePacket : VirtualLink :=
  link.update e fun own =>
    { own with
      packets := own.packets.drop packetQueueDepth
      statistics := { own.statistics with
        rxPackets := own.statistics.rxPackets + 1
        rxBytes := own.statistics.rxBytes + UInt64.ofNat own.packets.front.bytes.length } }

/-- A time code from an endpoint goes to the tail of the other one's queue. -/
def VirtualLink.sendTimeCode (code : TimeCode) : VirtualLink :=
  (link.update (peerIndex e) fun peer =>
    { peer with timeCodes := peer.timeCodes.push timeCodeQueueDepth code }).update e fun own =>
      { own with statistics := { own.statistics with
          txTimeCodes := own.statistics.txTimeCodes + 1 } }

/-- The time code at the head of an endpoint's queue leaves it. -/
def VirtualLink.takeTimeCode : VirtualLink :=
  link.update e fun own =>
    { own with
      timeCodes := own.timeCodes.drop timeCodeQueueDepth
      statistics := { own.statistics with rxTimeCodes := own.statistics.rxTimeCodes + 1 } }

/-! ## The registry -/

/-- `REGISTRY`. -/
abbrev Registry := LinkIndex → VirtualLink

/-- The entry that a link has, if it has one. -/
def Registry.find (registry : Registry) (linkId : UInt64) : Option LinkIndex :=
  (List.finRange maxLocalLinks).find? fun i =>
    (registry i).allocated && (registry i).linkId == linkId

/-- The first entry that is free. -/
def Registry.freeSlot (registry : Registry) : Option LinkIndex :=
  (List.finRange maxLocalLinks).find? fun i => !(registry i).allocated

/-- An entry that is free is taken for a link. -/
def VirtualLink.allocate (linkId : UInt64) : VirtualLink :=
  if link.allocated then link else ⟨true, linkId, fun _ => resetEndpoint⟩

/-- An endpoint that is not attached is. -/
def VirtualLink.attach : VirtualLink :=
  (link.update e fun _ => { resetEndpoint with attached := true }).refreshLinkStates

/-- `attach_backend`, of a backend that has no link: the entry it gets and the registry. The
locks and the condition of an entry are initialised without an error. -/
def attachBackend (registry : Registry) (linkId : UInt64) (e : EndpointIndex) :
    Except Result LinkIndex × Registry :=
  match (registry.find linkId).or registry.freeSlot with
  | none => (.error .resourceExhausted, registry)
  | some i =>
    let target := (registry i).allocate linkId
    if (target.endpoints e).attached then
      (.error .resourceExhausted, Function.update registry i target)
    else (.ok i, Function.update registry i (target.attach e))

/-- An endpoint leaves its link, which is given back where it was the last one. -/
def VirtualLink.detach : VirtualLink :=
  let link := (link.update e fun _ => resetEndpoint).update (peerIndex e) EndpointState.lose
  if (link.endpoints 0).attached = false ∧ (link.endpoints 1).attached = false then
    VirtualLink.initial
  else link

/-- `detach_backend`, of the backend at an endpoint of an entry. -/
def detachBackend (registry : Registry) (i : LinkIndex) (e : EndpointIndex) : Registry :=
  Function.update registry i ((registry i).detach e)

end Simulator
