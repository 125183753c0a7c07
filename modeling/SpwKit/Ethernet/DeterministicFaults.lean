import SpwKit.Ethernet.VspwTp

/-!
# Deterministic faults and virtual link timing

Two things a UDP port can be configured to do to its own traffic: let rules drop,
duplicate, hold back or delay datagrams and mark packets with an error
terminator, each rule driven by a generator of its own, and delay packets by the
time a link of a given rate would take.
-/

open VspwTp

/-! ## Fault rules -/

/-- `SPW_UDP_FAULT_RULE_COUNT`. -/
def faultRuleCount : Nat := 8
/-- `SPW_UDP_FAULT_PROBABILITY_SCALE`. -/
def faultProbabilityScale : Nat := 10000

namespace FaultAction

def none : UInt8 := 0
def transportDrop : UInt8 := 1
def transportDuplicate : UInt8 := 2
def transportReorder : UInt8 := 3
def transportDelay : UInt8 := 4
def spacewireEep : UInt8 := 5

end FaultAction

namespace FaultTarget

def any : UInt8 := 0
def data : UInt8 := 1
def timeCode : UInt8 := 2
def ack : UInt8 := 3
def keepalive : UInt8 := 4

end FaultTarget

/-- `spw_udp_fault_rule_t`. -/
structure FaultRule where
  action : UInt8 := FaultAction.none
  target : UInt8 := FaultTarget.any
  probabilityPer10000 : UInt16 := 0
  maxEvents : UInt32 := 0
  delayUs : UInt32 := 0
  reserved : UInt32 := 0
deriving DecidableEq, Repr

/-- `spw_fault_rule_valid`. -/
def faultRuleValid (rule : FaultRule) : Bool :=
  if rule.reserved != 0 || decide (rule.probabilityPer10000.toNat > faultProbabilityScale)
      || decide (rule.target > FaultTarget.keepalive)
      || decide (rule.action > FaultAction.spacewireEep) then false
  else if rule.action == FaultAction.none then
    rule.target == FaultTarget.any && rule.probabilityPer10000 == 0 && rule.maxEvents == 0
      && rule.delayUs == 0
  else if rule.probabilityPer10000 == 0 then false
  else if rule.action == FaultAction.transportDelay then rule.delayUs != 0
  else if rule.delayUs != 0 then false
  else if rule.action == FaultAction.spacewireEep then rule.target == FaultTarget.data
  else true

/-- `spw_fault_decision_t`. -/
structure FaultDecision where
  action : UInt8
  delayUs : UInt32
deriving DecidableEq, Repr

/-- `spw_deterministic_fault_injector_t`. -/
structure FaultInjector where
  rules : Nat → FaultRule
  states : Nat → UInt64
  injectedCounts : Nat → UInt32
  seed : UInt64

namespace FaultInjector

/-- `is_transport_action`. -/
def isTransportAction (action : UInt8) : Bool :=
  decide (FaultAction.transportDrop ≤ action) && decide (action ≤ FaultAction.transportDelay)

/-- `target_matches`. -/
def targetMatches (configured actual : UInt8) : Bool :=
  configured == FaultTarget.any || configured == actual

/-- `target_for`. -/
def targetFor (type : UInt8) : UInt8 :=
  if type == typeData then FaultTarget.data
  else if type == typeTimeCode then FaultTarget.timeCode
  else if type == typeAck then FaultTarget.ack
  else if type == typeKeepalive || type == typeLinkControl then FaultTarget.keepalive
  else FaultTarget.any

/-- The generator state `spw_fault_injector_reset` gives rule `i`. -/
def initialState (seed : UInt64) (i : Nat) : UInt64 :=
  let state := seed ^^^ (0x9e3779b97f4a7c15 * UInt64.ofNat (i + 1))
  if state == 0 then 0xd1b54a32d192ed03 + UInt64.ofNat i else state

variable (injector : FaultInjector)

/-- `spw_fault_injector_reset`. -/
def reset : FaultInjector :=
  { injector with states := initialState injector.seed, injectedCounts := fun _ => 0 }

/-- `spw_fault_injector_init`. -/
def init (rules : Nat → FaultRule) (seed : UInt64) : FaultInjector :=
  reset { rules := rules, states := fun _ => 0, injectedCounts := fun _ => 0, seed := seed }

/-- `exhausted`. -/
def exhausted (i : Nat) : Bool :=
  (injector.rules i).maxEvents != 0
    && decide (injector.injectedCounts i ≥ (injector.rules i).maxEvents)

/-- The generator of a rule. -/
def nextState (x : UInt64) : UInt64 :=
  let x := x ^^^ (x <<< 13)
  let x := x ^^^ (x >>> 7)
  x ^^^ (x <<< 17)

/-- `fires`. -/
def fires (i : Nat) : Bool × FaultInjector :=
  let x := nextState (injector.states i)
  let injector := { injector with states := fun j => if j = i then x else injector.states j }
  if (injector.rules i).probabilityPer10000.toNat ≥ faultProbabilityScale then (true, injector)
  else (decide (x.toNat % faultProbabilityScale < (injector.rules i).probabilityPer10000.toNat),
    injector)

/-- A rule has fired once more. -/
def countInjection (i : Nat) : FaultInjector :=
  { injector with
    injectedCounts := fun j =>
      if j = i then injector.injectedCounts j + 1 else injector.injectedCounts j }

/-- The loop both injections share: the first of the rules that applies, is not
exhausted and fires. -/
def firstFiring (applies : FaultRule → Bool) : List Nat → FaultInjector → Option Nat × FaultInjector
  | [], injector => (none, injector)
  | i :: is, injector =>
    if !applies (injector.rules i) || injector.exhausted i then firstFiring applies is injector
    else
      match injector.fires i with
      | (true, injector) => (some i, injector.countInjection i)
      | (false, injector) => firstFiring applies is injector

/-- `spw_fault_inject_transport`. -/
def injectTransport (type : UInt8) : FaultDecision × FaultInjector :=
  match firstFiring
      (fun rule => isTransportAction rule.action && targetMatches rule.target (targetFor type))
      (List.range faultRuleCount) injector with
  | (some i, injector) => (⟨(injector.rules i).action, (injector.rules i).delayUs⟩, injector)
  | (none, injector) => (⟨FaultAction.none, 0⟩, injector)

/-- `spw_fault_inject_spacewire_eep`. -/
def injectSpacewireEep : Bool × FaultInjector :=
  match firstFiring
      (fun rule => rule.action == FaultAction.spacewireEep
        && targetMatches rule.target FaultTarget.data)
      (List.range faultRuleCount) injector with
  | (some _, injector) => (true, injector)
  | (none, injector) => (false, injector)

/-! ## The rules stay -/

variable {injector : FaultInjector}

theorem fires_rules (injector : FaultInjector) (i : Nat) :
    (injector.fires i).2.rules = injector.rules := by
  unfold fires
  dsimp only
  split_ifs <;> rfl

theorem firstFiring_rules (applies : FaultRule → Bool) (is : List Nat)
    (injector : FaultInjector) : (firstFiring applies is injector).2.rules = injector.rules := by
  induction is generalizing injector with
  | nil => rfl
  | cons i is ih =>
    have hfires := injector.fires_rules i
    unfold firstFiring
    split_ifs
    · exact ih injector
    · split
      · next injector' heq =>
        rw [heq] at hfires
        exact hfires
      · next injector' heq =>
        rw [heq] at hfires
        exact (ih injector').trans hfires

theorem injectTransport_rules (injector : FaultInjector) (type : UInt8) :
    (injector.injectTransport type).2.rules = injector.rules := by
  have h := firstFiring_rules
    (fun rule => isTransportAction rule.action && targetMatches rule.target (targetFor type))
    (List.range faultRuleCount) injector
  unfold injectTransport
  split <;> next heq =>
    rw [heq] at h
    exact h

theorem injectSpacewireEep_rules (injector : FaultInjector) :
    injector.injectSpacewireEep.2.rules = injector.rules := by
  have h := firstFiring_rules
    (fun rule => rule.action == FaultAction.spacewireEep
      && targetMatches rule.target FaultTarget.data) (List.range faultRuleCount) injector
  unfold injectSpacewireEep
  split <;> next heq =>
    rw [heq] at h
    exact h

/-! ## Without rules nothing is injected -/

/-- All rules are the empty one. -/
def Quiet (injector : FaultInjector) : Prop :=
  ∀ i < faultRuleCount, (injector.rules i).action = FaultAction.none

theorem firstFiring_of_inapplicable {applies : FaultRule → Bool} {is : List Nat}
    (h : ∀ i ∈ is, applies (injector.rules i) = false) :
    firstFiring applies is injector = (none, injector) := by
  induction is with
  | nil => rfl
  | cons i is ih =>
    rw [firstFiring, h i List.mem_cons_self]
    exact ih (fun j hj => h j (List.mem_cons_of_mem i hj))

/-- **No rule, no fault.** -/
theorem Quiet.injectTransport (h : injector.Quiet) (type : UInt8) :
    injector.injectTransport type = (⟨FaultAction.none, 0⟩, injector) := by
  unfold FaultInjector.injectTransport
  rw [firstFiring_of_inapplicable (fun i hi => ?_)]
  rw [h i (List.mem_range.mp hi)]
  rfl

theorem Quiet.injectSpacewireEep (h : injector.Quiet) :
    injector.injectSpacewireEep = (false, injector) := by
  unfold FaultInjector.injectSpacewireEep
  rw [firstFiring_of_inapplicable (fun i hi => ?_)]
  rw [h i (List.mem_range.mp hi)]
  rfl

end FaultInjector

/-! ## Virtual link timing -/

/-- `spw_virtual_link_event_t`. -/
inductive VirtualLinkEvent
  | data | timeCode
deriving DecidableEq, Repr

/-- `spw_virtual_link_timing_t`. -/
structure VirtualLinkTiming where
  linkBps : UInt64
  latencyUs : UInt32
deriving DecidableEq, Repr

namespace VirtualLinkTiming

/-- `spw_virtual_link_serialization_us`. -/
def serializationUs (timing : VirtualLinkTiming) (event : VirtualLinkEvent)
    (payloadSize : Nat) : UInt64 :=
  if timing.linkBps == 0 then 0
  else
    let effectiveOctets : UInt64 := match event with
      | .data => UInt64.ofNat payloadSize + 1
      | .timeCode => 2
    let bitMicroseconds := effectiveOctets * 8 * 1000000
    bitMicroseconds / timing.linkBps + (if bitMicroseconds % timing.linkBps != 0 then 1 else 0)

/-- `spw_virtual_link_delay_us`. -/
def delayUs (timing : VirtualLinkTiming) (event : VirtualLinkEvent) (payloadSize : Nat) : UInt64 :=
  timing.serializationUs event payloadSize + timing.latencyUs.toUInt64

end VirtualLinkTiming
