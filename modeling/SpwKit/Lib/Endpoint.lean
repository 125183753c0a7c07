import SpwKit.Lib.Process

/-!
# Endpoints

An endpoint makes one call after another; in between it is idle, and during a
call it rests at every request until its environment answers. It keeps a log of
the calls that have returned. `Endpoint.Holds` is what is known of an endpoint
at any time, given what each call does by itself (`Interactive.Triple`): it is
kept when a call begins, when a request is answered, and when the environment
moves.
-/

namespace Interactive

variable {Req : Type} {Ans : Req → Type} {σ O E α Call : Type}

/-- What an endpoint is doing. -/
inductive Activity (Req : Type) (Ans : Req → Type) (σ Call α : Type)
  /-- Nothing. -/
  | idle (s : σ)
  /-- A call that has not returned. -/
  | busy (call : Call) (step : Step Req Ans σ α)

/-- **An endpoint**: what it is doing, what it has published, and the calls that
have returned, with what they returned, oldest first. -/
structure Endpoint (Req : Type) (Ans : Req → Type) (σ O Call α : Type) where
  activity : Activity Req Ans σ Call α
  out : O
  log : List (Call × α)

namespace Endpoint

variable (p : Endpoint Req Ans σ O Call α)

/-- The state an endpoint rests in. -/
def state : σ :=
  match p.activity with
  | .idle s => s
  | .busy _ x => x.rest

/-- No call is under way. -/
def isIdle : Bool :=
  match p.activity with
  | .idle _ => true
  | .busy _ _ => false

/-- The request that is open. -/
def asked : Option Req :=
  match p.activity with
  | .busy _ (.ask _ q _) => some q
  | _ => none

/-- A call takes its next step: it has returned, or goes on. -/
def advance (out : O) (call : Call) : Step Req Ans σ α → Endpoint Req Ans σ O Call α
  | .done s a => ⟨.idle s, out, p.log ++ [(call, a)]⟩
  | .ask s q k => ⟨.busy call (.ask s q k), out, p.log⟩
  | .hang s => ⟨.busy call (.hang s), out, p.log⟩

/-- A call begins, if none is under way. -/
def begin (code : Call → Process Req Ans σ α) (call : Call) (p : Endpoint Req Ans σ O Call α) :
    Option (Endpoint Req Ans σ O Call α) :=
  match p.activity with
  | .idle s => some (p.advance p.out call (code call s))
  | .busy _ _ => none

/-- A request is answered, if one is open. `accepts` says whether an answer may be
given and what it publishes. -/
def answer (accepts : σ → O → (q : Req) → Ans q → Option O) (reply : (q : Req) → Ans q)
    (p : Endpoint Req Ans σ O Call α) : Option (Endpoint Req Ans σ O Call α) :=
  match p.activity with
  | .busy call (.ask s q k) =>
    (accepts s p.out q (reply q)).map (fun out => p.advance out call (k (reply q)))
  | _ => none

variable {e : E} {p p' : Endpoint Req Ans σ O Call α}

/-- The log grows only when a call returns. -/
theorem advance_log (p : Endpoint Req Ans σ O Call α) (out : O) (call : Call)
    (x : Step Req Ans σ α) :
    (p.advance out call x).log = p.log ∨ (p.advance out call x).isIdle = true := by
  cases x with
  | done s a => exact .inr rfl
  | ask s q k | hang s => exact .inl rfl

theorem begin_log {code : Call → Process Req Ans σ α} {call : Call}
    (h : p.begin code call = some p') : p'.log = p.log ∨ p'.isIdle = true := by
  obtain ⟨activity, out, log⟩ := p
  cases activity with
  | idle s =>
    obtain rfl := Option.some.inj h
    exact advance_log _ out call _
  | busy call x => exact absurd h (by simp [Endpoint.begin])

theorem answer_log {accepts : σ → O → (q : Req) → Ans q → Option O} {reply : (q : Req) → Ans q}
    (h : p.answer accepts reply = some p') : p'.log = p.log ∨ p'.isIdle = true := by
  obtain ⟨activity, out, log⟩ := p
  cases activity with
  | idle s => exact absurd h (by simp [Endpoint.answer])
  | busy call x =>
    cases x with
    | done s a | hang s => exact absurd h (by simp [Endpoint.answer])
    | ask s q k =>
      obtain ⟨out', -, rfl⟩ := Option.map_eq_some_iff.mp h
      exact advance_log _ out' call _

variable (S : Setting Req Ans σ O E) (Rest : List (Call × α) → σ → O → Prop)

/-- **What is known of an endpoint**: the invariant, and between its calls what
relates its log to its state and to what it has published. -/
def Holds (p : Endpoint Req Ans σ O Call α) (e : E) : Prop :=
  match p.activity with
  | .idle s => S.inv s p.out e ∧ Rest p.log s p.out
  | .busy call x => (∀ s a, x ≠ .done s a)
      ∧ x.Sat S (fun s a o e => S.inv s o e ∧ Rest (p.log ++ [(call, a)]) s o) p.out e

variable {S Rest}

theorem Holds.inv (h : p.Holds S Rest e) : S.inv p.state p.out e := by
  obtain ⟨activity, out, log⟩ := p
  cases activity with
  | idle s => exact h.1
  | busy call x => exact h.2.inv_rest (fun _ _ _ _ hq => hq.1)

/-- **Interference.** The environment may become any that keeps the invariant. -/
theorem Holds.interfere {e' : E} (h : p.Holds S Rest e) (he : S.inv p.state p.out e') :
    p.Holds S Rest e' := by
  obtain ⟨activity, out, log⟩ := p
  cases activity with
  | idle s => exact ⟨he, h.2⟩
  | busy call x => exact ⟨h.1, h.2.interfere h.1 he⟩

/-- Between its calls an endpoint's log and state fit together. -/
theorem Holds.rest (h : p.Holds S Rest e) (hidle : p.isIdle = true) : Rest p.log p.state p.out := by
  obtain ⟨activity, out, log⟩ := p
  cases activity with
  | idle s => exact h.2
  | busy call x => exact absurd hidle Bool.false_ne_true

theorem holds_advance {out : O} {call : Call} {x : Step Req Ans σ α}
    (h : x.Sat S (fun s a o e => S.inv s o e ∧ Rest (p.log ++ [(call, a)]) s o) out e) :
    (p.advance out call x).Holds S Rest e := by
  cases x with
  | done s a => exact h
  | ask s q k | hang s => exact ⟨by simp, h⟩

/-- **A call begins.** -/
theorem Holds.begin {code : Call → Process Req Ans σ α} {call : Call} (h : p.Holds S Rest e)
    (hbegin : p.begin code call = some p')
    (htriple : p.isIdle = true → Triple S (fun s o => s = p.state ∧ o = p.out) (code call)
      (fun s a o => Rest (p.log ++ [(call, a)]) s o)) :
    p'.Holds S Rest e := by
  obtain ⟨activity, out, log⟩ := p
  cases activity with
  | idle s =>
    obtain rfl := Option.some.inj hbegin
    exact holds_advance (htriple rfl s out e ⟨rfl, rfl⟩ h.1)
  | busy call x => exact absurd hbegin (by simp [Endpoint.begin])

/-- **A request is answered**, as the environment may. -/
theorem Holds.answer {accepts : σ → O → (q : Req) → Ans q → Option O} {reply : (q : Req) → Ans q}
    (h : p.Holds S Rest e) (hanswer : p.answer accepts reply = some p')
    (haccepts : ∀ q out, p.asked = some q → accepts p.state p.out q (reply q) = some out →
      S.answers p.state p.out e q (reply q) out) :
    p'.Holds S Rest e := by
  obtain ⟨activity, out, log⟩ := p
  cases activity with
  | idle s => exact absurd hanswer (by simp [Endpoint.answer])
  | busy call x =>
    cases x with
    | done s a => exact absurd rfl (h.1 s a)
    | hang s => exact absurd hanswer (by simp [Endpoint.answer])
    | ask s q k =>
      obtain ⟨out', hout, rfl⟩ := Option.map_eq_some_iff.mp hanswer
      exact holds_advance (h.2.2 e h.2.1 (reply q) out' (haccepts q out' rfl hout))

end Endpoint

end Interactive
