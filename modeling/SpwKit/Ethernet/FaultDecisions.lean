import SpwKit.Ethernet.DeterministicFaults

/-!
# The decisions of the fault rules

Each rule has a generator of its own and a counter of its own, and a query touches those of
the rules that apply to it only. So a transport query and an EEP query never meet: the
decisions of one kind are what they would be if the other kind had not been asked. And since
nothing but the seed and the rules enters, an injector that is reset decides as a new one.
-/

namespace FaultInjector

/-! ## The generators -/

variable {a' : FaultInjector} {fired : Option Nat}

/-- Three shifts of a generator, none of which loses a state. -/
theorem nextState_ne_zero {x : UInt64} (h : x ≠ 0) : nextState x ≠ 0 := by
  have hleft : ∀ {y : UInt64} (k : UInt64), k.toNat = 13 ∨ k.toNat = 17 → y ≠ 0 →
      y ^^^ (y <<< k) ≠ 0 := by
    intro y k hk hy hzero
    have heq := congrArg UInt64.toNat (UInt64.xor_eq_zero_iff.mp hzero)
    rw [UInt64.toNat_shiftLeft] at heq
    refine hy (UInt64.toNat_inj.mp ?_)
    have hlt := y.toNat_lt
    show y.toNat = 0
    obtain hk | hk := hk
    · rw [hk, Nat.shiftLeft_eq, show 2 ^ (13 % 64) = 8192 from rfl] at heq
      omega
    · rw [hk, Nat.shiftLeft_eq, show 2 ^ (17 % 64) = 131072 from rfl] at heq
      omega
  have hright : ∀ {y : UInt64}, y ≠ 0 → y ^^^ (y >>> 7) ≠ 0 := by
    intro y hy hzero
    have heq := congrArg UInt64.toNat (UInt64.xor_eq_zero_iff.mp hzero)
    rw [UInt64.toNat_shiftRight, Nat.shiftRight_eq_div_pow,
      show 2 ^ ((7 : UInt64).toNat % 64) = 128 from rfl] at heq
    refine hy (UInt64.toNat_inj.mp ?_)
    show y.toNat = 0
    omega
  exact hleft 17 (Or.inr rfl) (hright (hleft 13 (Or.inl rfl) h))

theorem initialState_ne_zero (seed : UInt64) {i : Nat} (h : i < faultRuleCount) :
    initialState seed i ≠ 0 := by
  unfold initialState
  dsimp only
  split_ifs with hzero
  · -- what stands in for a state that would be 0
    exact (by decide : ∀ i < faultRuleCount, 0xd1b54a32d192ed03 + UInt64.ofNat i ≠ 0) i h
  · simpa using hzero

/-! ## One query -/

/-- **What the loop over the rules does**: it leaves the rules that do not apply alone, and
only the rule that fires is counted, which it is while it is not exhausted. -/
structure Turn (applies : FaultRule → Bool) (injector : FaultInjector) (fired : Option Nat)
    (injector' : FaultInjector) : Prop where
  rules : injector'.rules = injector.rules
  seed : injector'.seed = injector.seed
  states : ∀ i, injector.states i ≠ 0 → injector'.states i ≠ 0
  apart : ∀ i, applies (injector.rules i) = false → injector'.states i = injector.states i
  counted : ∀ i, fired = some i → applies (injector.rules i) = true
    ∧ injector.exhausted i = false
    ∧ injector'.injectedCounts i = injector.injectedCounts i + 1
  uncounted : ∀ i, fired ≠ some i → injector'.injectedCounts i = injector.injectedCounts i

variable {applies K : FaultRule → Bool} {a b : FaultInjector} {i : Nat}

theorem fires_turn (h : applies (a.rules i) = true) : Turn applies a none (a.fires i).2 := by
  have heq : (a.fires i).2
      = { a with states := fun j => if j = i then nextState (a.states i) else a.states j } := by
    unfold fires
    dsimp only
    split_ifs <;> rfl
  rw [heq]
  refine ⟨rfl, rfl, fun j hj => ?_, fun j hj => if_neg ?_, nofun, fun _ _ => rfl⟩
  · dsimp only
    split_ifs with hji
    · exact nextState_ne_zero (hji ▸ hj)
    · exact hj
  · rintro rfl
    exact absurd (h.symm.trans hj) (by decide)

theorem Turn.trans {a'' : FaultInjector} (h : Turn applies a none a')
    (h' : Turn applies a' fired a'') : Turn applies a fired a'' := by
  have hcounts : ∀ j, a'.injectedCounts j = a.injectedCounts j :=
    fun j => h.uncounted j (by simp)
  refine ⟨h'.rules.trans h.rules, h'.seed.trans h.seed, fun j hj => h'.states j (h.states j hj),
    fun j hj => (h'.apart j (h.rules ▸ hj)).trans (h.apart j hj), fun j hj => ?_,
    fun j hj => (h'.uncounted j hj).trans (hcounts j)⟩
  obtain ⟨happlies, hexhausted, hcount⟩ := h'.counted j hj
  refine ⟨h.rules ▸ happlies, ?_, hcount.trans (by rw [hcounts])⟩
  unfold exhausted at hexhausted ⊢
  rwa [h.rules, hcounts] at hexhausted

theorem firstFiring_turn (applies : FaultRule → Bool) (is : List Nat) (a : FaultInjector) :
    Turn applies a (firstFiring applies is a).1 (firstFiring applies is a).2 := by
  induction is generalizing a with
  | nil => exact ⟨rfl, rfl, fun _ h => h, fun _ _ => rfl, nofun, fun _ _ => rfl⟩
  | cons i is ih =>
    unfold firstFiring
    split_ifs with hskip
    · exact ih a
    rw [Bool.or_eq_true, Bool.not_eq_true', not_or, Bool.not_eq_false, Bool.not_eq_true] at hskip
    have hturn := fires_turn hskip.1
    generalize hfires : a.fires i = fires at hturn
    obtain ⟨fired, a'⟩ := fires
    cases fired with
    | false => exact hturn.trans (ih a')
    | true =>
      have hcounts : a'.injectedCounts i = a.injectedCounts i := hturn.uncounted i (by simp)
      refine ⟨hturn.rules, hturn.seed, hturn.states, hturn.apart, fun j hj => ?_, fun j hj => ?_⟩
      · obtain rfl := Option.some.inj hj
        exact ⟨hskip.1, hskip.2, (if_pos rfl).trans (by rw [hcounts])⟩
      · exact (if_neg (fun heq => hj (by rw [heq]))).trans (hturn.uncounted j (by simp))

/-- **Two injectors that the rules of a kind cannot tell apart.** -/
structure Agree (K : FaultRule → Bool) (a b : FaultInjector) : Prop where
  rules : b.rules = a.rules
  seed : b.seed = a.seed
  states : ∀ i, K (a.rules i) = true → b.states i = a.states i
  counts : ∀ i, K (a.rules i) = true → b.injectedCounts i = a.injectedCounts i

/-- A query that none of the rules applies to makes no difference. -/
theorem Agree.of_turn (h : Agree K a b) (hturn : Turn applies a fired a')
    (hapart : ∀ rule, K rule = true → applies rule = false) : Agree K a' b := by
  refine ⟨h.rules.trans hturn.rules.symm, h.seed.trans hturn.seed.symm, fun i hi => ?_,
    fun i hi => ?_⟩
  · rw [hturn.rules] at hi
    exact (h.states i hi).trans (hturn.apart i (hapart _ hi)).symm
  · rw [hturn.rules] at hi
    refine (h.counts i hi).trans (hturn.uncounted i (fun hfired => ?_)).symm
    exact absurd ((hturn.counted i hfired).1.symm.trans (hapart _ hi)) (by decide)

/-- **A query of the kind is decided alike.** By induction on the rules, each of which is
skipped by both or drawn for by both. -/
theorem firstFiring_congr (hK : ∀ rule, applies rule = true → K rule = true) (is : List Nat) :
    ∀ {a b : FaultInjector}, Agree K a b →
      (firstFiring applies is b).1 = (firstFiring applies is a).1
        ∧ Agree K (firstFiring applies is a).2 (firstFiring applies is b).2 := by
  induction is with
  | nil => exact fun h => ⟨rfl, h⟩
  | cons i is ih =>
    intro a b h
    by_cases happlies : applies (a.rules i) = true
    · have hi := hK _ happlies
      have hexhausted : b.exhausted i = a.exhausted i := by
        unfold exhausted
        rw [h.rules, h.counts i hi]
      have hfires : (b.fires i).1 = (a.fires i).1 := by
        unfold fires
        dsimp only
        rw [h.rules, h.states i hi]
        split_ifs <;> rfl
      have hagree : Agree K (a.fires i).2 (b.fires i).2 := by
        refine ⟨?_, ?_, fun j hj => ?_, fun j hj => ?_⟩
        · rw [fires_rules, fires_rules, h.rules]
        · rw [(fires_turn (h.rules ▸ happlies)).seed, (fires_turn happlies).seed, h.seed]
        · rw [fires_rules] at hj
          unfold fires
          dsimp only
          split_ifs <;> simp [h.states i hi, h.states j hj]
        · rw [fires_rules] at hj
          rw [(fires_turn (h.rules ▸ happlies)).uncounted j (by simp),
            (fires_turn happlies).uncounted j (by simp), h.counts j hj]
      unfold firstFiring
      rw [h.rules, hexhausted]
      split_ifs
      · exact ih h
      generalize a.fires i = fa at hfires hagree
      generalize b.fires i = fb at hfires hagree
      obtain ⟨fired, a'⟩ := fa
      obtain ⟨fired', b'⟩ := fb
      obtain rfl : fired' = fired := hfires
      cases fired' with
      | false => exact ih hagree
      | true =>
        refine ⟨rfl, hagree.rules, hagree.seed, hagree.states, fun j hj => ?_⟩
        show (if j = i then b'.injectedCounts j + 1 else b'.injectedCounts j) = _
        rw [hagree.counts j hj]
        rfl
    · have hskip : ∀ c : FaultInjector, c.rules = a.rules →
          firstFiring applies (i :: is) c = firstFiring applies is c := by
        intro c hc
        rw [firstFiring, hc, if_pos (by simp [happlies])]
      rw [hskip a rfl, hskip b h.rules]
      exact ih h

end FaultInjector

/-! ## Runs -/

/-- The calls of an injector. -/
inductive FaultQuery
  | transport (type : UInt8)
  | eep
  | reset
deriving DecidableEq, Repr

/-- What they return. -/
inductive FaultAnswer
  | transport (decision : FaultDecision)
  | eep (fired : Bool)
  | reset
deriving DecidableEq, Repr

/-- The decision on a datagram. -/
def FaultAnswer.transport? : FaultAnswer → Option FaultDecision
  | .transport decision => some decision
  | _ => none

/-- The decision on a packet. -/
def FaultAnswer.eep? : FaultAnswer → Option Bool
  | .eep fired => some fired
  | _ => none

/-- A query about a datagram. -/
def FaultQuery.isTransport : FaultQuery → Bool
  | .transport _ => true
  | _ => false

/-- The rules that a query is about. -/
def FaultQuery.applies : FaultQuery → FaultRule → Bool
  | .transport type => fun rule => FaultInjector.isTransportAction rule.action
      && FaultInjector.targetMatches rule.target (FaultInjector.targetFor type)
  | .eep => fun rule => rule.action == FaultAction.spacewireEep
      && FaultInjector.targetMatches rule.target FaultTarget.data
  | .reset => fun _ => false

namespace FaultInjector

variable (injector : FaultInjector)

/-- One call. -/
def ask : FaultQuery → FaultAnswer × FaultInjector
  | .transport type =>
    let (decision, injector) := injector.injectTransport type
    (.transport decision, injector)
  | .eep =>
    let (fired, injector) := injector.injectSpacewireEep
    (.eep fired, injector)
  | .reset => (.reset, injector.reset)

/-- A run of calls. -/
def after : List FaultQuery → FaultInjector → FaultInjector
  | [], injector => injector
  | q :: qs, injector => after qs (injector.ask q).2

/-- What they return. -/
def answers : List FaultQuery → FaultInjector → List FaultAnswer
  | [], _ => []
  | q :: qs, injector => (injector.ask q).1 :: answers qs (injector.ask q).2

/-- The rule that fires at a call, if one does. -/
def firing (q : FaultQuery) : Option Nat :=
  (firstFiring q.applies (List.range faultRuleCount) injector).1

/-- How often a rule fires in a run. -/
def firings (i : Nat) : List FaultQuery → FaultInjector → Nat
  | [], _ => 0
  | q :: qs, injector =>
    (if injector.firing q = some i then 1 else 0) + firings i qs (injector.ask q).2

/-- What a call returns, given the rule that fires. -/
def answerOf (rules : Nat → FaultRule) : FaultQuery → Option Nat → FaultAnswer
  | .transport _, some i => .transport ⟨(rules i).action, (rules i).delayUs⟩
  | .transport _, none => .transport ⟨FaultAction.none, 0⟩
  | .eep, fired => .eep fired.isSome
  | .reset, _ => .reset

variable {K : FaultRule → Bool} {a b : FaultInjector} {q : FaultQuery}

variable {qs : List FaultQuery} {rules : Nat → FaultRule} {seed : UInt64}

/-- A call is a turn of the rules, unless it is a reset. -/
theorem ask_eq (h : q ≠ .reset) :
    injector.ask q = (answerOf injector.rules q (injector.firing q),
      (firstFiring q.applies (List.range faultRuleCount) injector).2) := by
  have hrules := firstFiring_rules q.applies (List.range faultRuleCount) injector
  unfold firing
  cases q with
  | reset => exact absurd rfl h
  | transport type =>
    unfold ask injectTransport
    simp only [FaultQuery.applies] at hrules ⊢
    generalize firstFiring _ _ injector = turn at hrules ⊢
    obtain ⟨_ | i, injector'⟩ := turn
    · rfl
    · rw [← hrules]
      rfl
  | eep =>
    unfold ask injectSpacewireEep
    simp only [FaultQuery.applies]
    generalize firstFiring _ _ injector = turn
    obtain ⟨_ | i, injector'⟩ := turn <;> rfl

theorem ask_turn (h : q ≠ .reset) :
    Turn q.applies injector (injector.firing q) (injector.ask q).2 := by
  rw [ask_eq injector h]
  exact firstFiring_turn _ _ _

theorem Agree.reset (h : Agree K a b) : Agree K a.reset b.reset :=
  ⟨h.rules, h.seed, fun _ _ => congrFun (congrArg initialState h.seed) _, fun _ _ => rfl⟩

/-- **A run of calls, and the run with the calls of another kind left out.** -/
theorem answers_filter {α : Type} {pick : FaultAnswer → Option α} {keep : FaultQuery → Bool}
    (hkeep : ∀ q, keep q = true → ∀ rule, q.applies rule = true → K rule = true)
    (hdrop : ∀ q, keep q = false → q ≠ .reset
      ∧ (∀ rule, K rule = true → q.applies rule = false)
      ∧ ∀ rules fired, pick (answerOf rules q fired) = none) (qs : List FaultQuery) :
    ∀ {a b : FaultInjector}, Agree K a b →
      (answers qs a).filterMap pick = (answers (qs.filter keep) b).filterMap pick := by
  induction qs with
  | nil => exact fun _ => rfl
  | cons q qs ih =>
    intro a b h
    cases hq : keep q with
    | false =>
      obtain ⟨hreset, hapart, hpick⟩ := hdrop q hq
      rw [List.filter_cons_of_neg (by simp [hq]), answers, List.filterMap_cons_none]
      · exact ih (h.of_turn (ask_turn a hreset) hapart)
      · rw [ask_eq a hreset]
        exact hpick _ _
    | true =>
      have hask : (b.ask q).1 = (a.ask q).1 ∧ Agree K (a.ask q).2 (b.ask q).2 := by
        by_cases hreset : q = .reset
        · subst hreset
          exact ⟨rfl, h.reset⟩
        · obtain ⟨hfired, hagree⟩ := firstFiring_congr (hkeep q hq) (List.range faultRuleCount) h
          rw [ask_eq a hreset, ask_eq b hreset]
          exact ⟨by rw [firing, firing, hfired, h.rules], hagree⟩
      rw [List.filter_cons_of_pos hq, answers, answers, hask.1, List.filterMap_cons,
        List.filterMap_cons, ih hask.2]

/-- **A rule fires as often as it may**: from a state on, without a reset in between. -/
theorem firings_le {i : Nat} {n : UInt32} (hn : n ≠ 0) (hqs : .reset ∉ qs) :
    ∀ {a : FaultInjector}, (a.rules i).maxEvents = n →
      a.injectedCounts i ≤ n → (a.injectedCounts i).toNat + firings i qs a ≤ n.toNat := by
  induction qs with
  | nil => exact fun _ hle => UInt32.le_iff_toNat_le.mp hle
  | cons q qs ih =>
    intro a hrule hle
    obtain ⟨hq, hqs⟩ := not_or.mp (mt List.mem_cons.mpr hqs)
    have hturn := ask_turn a (Ne.symm hq)
    have hrule' : ((a.ask q).2.rules i).maxEvents = n := by rw [hturn.rules, hrule]
    unfold firings
    split_ifs with hfired
    · obtain ⟨-, hexhausted, hcount⟩ := hturn.counted i hfired
      have hlt : a.injectedCounts i < n := by
        unfold exhausted at hexhausted
        rw [hrule] at hexhausted
        simpa [hn] using hexhausted
      rw [UInt32.lt_iff_toNat_lt] at hlt
      have hnext : (a.injectedCounts i + 1).toNat = (a.injectedCounts i).toNat + 1 := by
        rw [UInt32.toNat_add, show (1 : UInt32).toNat = 1 from rfl]
        have := n.toNat_lt
        omega
      have := ih hqs hrule' (hcount ▸ UInt32.le_iff_toNat_le.mpr (by rw [hnext]; exact hlt))
      rw [hcount, hnext] at this
      omega
    · have hcount := hturn.uncounted i hfired
      have := ih hqs hrule' (hcount ▸ hle)
      rw [hcount] at this
      omega

/-- **What a run keeps.** -/
structure Kept (rules : Nat → FaultRule) (seed : UInt64) (a : FaultInjector) : Prop where
  rules : a.rules = rules
  seed : a.seed = seed
  states : ∀ i < faultRuleCount, a.states i ≠ 0
  counts : ∀ i, (a.rules i).maxEvents ≠ 0 → a.injectedCounts i ≤ (a.rules i).maxEvents

theorem kept_init (rules : Nat → FaultRule) (seed : UInt64) : Kept rules seed (init rules seed) :=
  ⟨rfl, rfl, fun _ hi => initialState_ne_zero seed hi, fun _ _ => UInt32.zero_le⟩

/-- An injector that is reset is a new one. -/
theorem Kept.reset_eq (h : Kept rules seed a) : a.reset = init rules seed := by
  obtain ⟨rfl, rfl, -, -⟩ := h
  rfl

theorem Kept.ask (h : Kept rules seed a) (q : FaultQuery) : Kept rules seed (a.ask q).2 := by
  by_cases hreset : q = .reset
  · subst hreset
    show Kept rules seed a.reset
    rw [h.reset_eq]
    exact kept_init rules seed
  have hturn := ask_turn a hreset
  refine ⟨hturn.rules.trans h.rules, hturn.seed.trans h.seed,
    fun i hi => hturn.states i (h.states i hi), fun i hi => ?_⟩
  rw [hturn.rules] at hi ⊢
  -- a run of one query
  have hq : FaultQuery.reset ∉ [q] := by simpa using Ne.symm hreset
  have hle := firings_le hi hq rfl (h.counts i hi)
  by_cases hfired : a.firing q = some i
  · obtain ⟨-, -, hcount⟩ := hturn.counted i hfired
    rw [firings, firings, if_pos hfired] at hle
    rw [hcount, UInt32.le_iff_toNat_le, UInt32.toNat_add]
    exact (Nat.mod_le _ _).trans hle
  · rw [hturn.uncounted i hfired]
    exact h.counts i hi

theorem Kept.after (qs : List FaultQuery) :
    ∀ {a : FaultInjector}, Kept rules seed a → Kept rules seed (a.after qs) := by
  induction qs with
  | nil => exact fun h => h
  | cons q qs ih => exact fun h => ih (h.ask q)

/-- The decisions on datagrams in a run. -/
def transportDecisions (qs : List FaultQuery) (injector : FaultInjector) : List FaultDecision :=
  (answers qs injector).filterMap FaultAnswer.transport?

/-- The decisions on packets in a run. -/
def eepDecisions (qs : List FaultQuery) (injector : FaultInjector) : List Bool :=
  (answers qs injector).filterMap FaultAnswer.eep?

theorem transportDecisions_filter (qs : List FaultQuery) (a : FaultInjector) :
    a.transportDecisions qs = a.transportDecisions (qs.filter (· ≠ .eep)) := by
  refine answers_filter (K := fun rule => isTransportAction rule.action) ?_ ?_ qs
    ⟨rfl, rfl, fun _ _ => rfl, fun _ _ => rfl⟩
  · intro q hq rule happlies
    cases q with
    | transport type => exact (Bool.and_eq_true_iff.mp happlies).1
    | eep => cases hq
    | reset => cases happlies
  · intro q hq
    obtain rfl : q = .eep := by simpa using hq
    refine ⟨by decide, fun rule hrule => ?_, fun _ _ => rfl⟩
    have haction : rule.action ≠ FaultAction.spacewireEep := by
      rintro heq
      rw [heq] at hrule
      exact absurd hrule (by decide)
    simp [FaultQuery.applies, haction]

theorem eepDecisions_filter (qs : List FaultQuery) (a : FaultInjector) :
    a.eepDecisions qs = a.eepDecisions (qs.filter (fun q => !q.isTransport)) := by
  refine answers_filter (K := fun rule => rule.action == FaultAction.spacewireEep) ?_ ?_ qs
    ⟨rfl, rfl, fun _ _ => rfl, fun _ _ => rfl⟩
  · intro q hq rule happlies
    cases q with
    | transport type => cases hq
    | eep => exact (Bool.and_eq_true_iff.mp happlies).1
    | reset => cases happlies
  · intro q hq
    cases q with
    | transport type =>
      refine ⟨by simp, fun rule hrule => ?_, fun _ fired => by cases fired <;> rfl⟩
      simp only [FaultQuery.applies]
      rw [beq_iff_eq.mp hrule]
      rfl
    | _ => cases hq

/-- Without resets, the queries that are not about datagrams are a number of EEP queries. -/
theorem filter_eq_replicate (h : .reset ∉ qs) :
    qs.filter (fun q => !q.isTransport) = List.replicate (qs.count .eep) .eep := by
  rw [← List.filter_eq]
  refine List.filter_congr (fun q hq => ?_)
  cases q with
  | reset => exact absurd hq h
  | _ => rfl

/-- **Fault decisions are reproducible and domains independent.** Whatever calls an injector
has had, no generator is in state 0; a rule with a bound fires at most that often until the
next reset; after a reset everything is decided as by a new injector; and the decisions on
datagrams do not depend on the EEP queries in between, nor those on packets on anything but
how many there were. -/
theorem fault_decisions_reproducible (rules : Nat → FaultRule) (seed : UInt64)
    (qs : List FaultQuery) :
    (∀ i < faultRuleCount, ((init rules seed).after qs).states i ≠ 0)
    ∧ (∀ i < faultRuleCount, (rules i).maxEvents ≠ 0 → ∀ qs', .reset ∉ qs' →
      ((init rules seed).after qs).firings i qs' ≤ (rules i).maxEvents.toNat)
    ∧ (∀ qs', ((init rules seed).after qs).reset.answers qs' = (init rules seed).answers qs')
    ∧ (∀ qs', ((init rules seed).after qs).transportDecisions qs'
      = ((init rules seed).after qs).transportDecisions (qs'.filter (· ≠ .eep)))
    ∧ (∀ qs', ((init rules seed).after qs).eepDecisions qs'
      = ((init rules seed).after qs).eepDecisions (qs'.filter (fun q => !q.isTransport)))
    ∧ ∀ qs', .reset ∉ qs' → ((init rules seed).after qs).eepDecisions qs'
      = ((init rules seed).after qs).eepDecisions (List.replicate (qs'.count .eep) .eep) := by
  have hkept := (kept_init rules seed).after qs
  refine ⟨hkept.states, fun i _ hmax qs' hreset => ?_, fun qs' => by rw [hkept.reset_eq],
    fun qs' => transportDecisions_filter qs' _, fun qs' => eepDecisions_filter qs' _,
    fun qs' hreset => ?_⟩
  · have hrule : (((init rules seed).after qs).rules i).maxEvents = (rules i).maxEvents := by
      rw [hkept.rules]
    have hle := firings_le hmax hreset hrule (hrule ▸ hkept.counts i (by rw [hrule]; exact hmax))
    omega
  · rw [eepDecisions_filter, filter_eq_replicate hreset]

end FaultInjector
