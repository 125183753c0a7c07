import Mathlib.Tactic.Common

/-!
# Processes that talk to an environment

A call of a cooperative program runs for a while, asks its environment for
something – the time, a datagram, whether a write went through – and goes on
with the answer. Between two questions it owns its state and nobody else looks
at it; at a question everybody else may move. `Step` is that shape: a call is
`done`, or it `ask`s and says how it goes on for each answer, and at either
point it shows the state it rests in. A loop that nothing bounds is cut by a
fuel and then `hang`s, which is a call that has not returned.

`Process` is the state monad over these steps, so that a program reads like the
code it models. What a program may rely on is a `Setting`: which answers the
environment gives, and an invariant between the program's own state, what it
has published so far, and the environment. `Step.Sat` says that a call keeps
the invariant wherever it rests, whatever the environment does meanwhile as
long as it keeps the invariant too. Interference is total: after a question
nothing is known of the environment but the invariant, so the state of the
other parties never enters a proof about this one.
-/

namespace Interactive

variable {Req : Type} {Ans : Req → Type} {σ O E α β γ : Type}

/-- **What a call does next**: it has returned, it waits for an answer, or it
never returns. In each case it rests in a state. -/
inductive Step (Req : Type) (Ans : Req → Type) (σ α : Type)
  /-- The call has returned. -/
  | done (s : σ) (a : α)
  /-- The call waits for the answer to a request. -/
  | ask (s : σ) (q : Req) (k : Ans q → Step Req Ans σ α)
  /-- The call does not return: the fuel of a loop is spent. -/
  | hang (s : σ)

namespace Step

/-- Sequencing: go on with `f` once the first call has returned. -/
def bind : Step Req Ans σ α → (α → σ → Step Req Ans σ β) → Step Req Ans σ β
  | .done s a, f => f a s
  | .ask s q k, f => .ask s q (fun r => (k r).bind f)
  | .hang s, _ => .hang s

/-- The state the call rests in. -/
def rest : Step Req Ans σ α → σ
  | .done s _ => s
  | .ask s _ _ => s
  | .hang s => s

@[simp] theorem bind_done (s : σ) (a : α) (f : α → σ → Step Req Ans σ β) :
    (Step.done s a).bind f = f a s := rfl

@[simp] theorem bind_ask (s : σ) (q : Req) (k : Ans q → Step Req Ans σ α)
    (f : α → σ → Step Req Ans σ β) :
    (Step.ask s q k).bind f = .ask s q (fun r => (k r).bind f) := rfl

theorem bind_done_right (x : Step Req Ans σ α) : x.bind (fun a s => .done s a) = x := by
  induction x with
  | done s a => rfl
  | ask s q k ih =>
    simp only [bind_ask]
    exact congrArg (Step.ask s q) (funext ih)
  | hang s => rfl

theorem bind_assoc (x : Step Req Ans σ α) (f : α → σ → Step Req Ans σ β)
    (g : β → σ → Step Req Ans σ γ) : (x.bind f).bind g = x.bind (fun a s => (f a s).bind g) := by
  induction x with
  | done s a => rfl
  | ask s q k ih =>
    simp only [bind_ask]
    exact congrArg (Step.ask s q) (funext ih)
  | hang s => rfl

end Step

/-- **A program**: from the state it starts in, what its call does. -/
def Process (Req : Type) (Ans : Req → Type) (σ α : Type) : Type :=
  σ → Step Req Ans σ α

namespace Process

instance : Monad (Process Req Ans σ) where
  pure a := fun s => .done s a
  bind p f := fun s => (p s).bind (fun a s' => f a s')

instance : MonadStateOf σ (Process Req Ans σ) where
  get := fun s => .done s s
  set s' := fun _ => .done s' ()
  modifyGet f := fun s => .done (f s).2 (f s).1

/-- Ask the environment and take its answer. -/
def request (q : Req) : Process Req Ans σ (Ans q) :=
  fun s => .ask s q (fun r => .done s r)

/-- The call that does not return. -/
def hang : Process Req Ans σ α := fun s => .hang s

theorem pure_apply (a : α) (s : σ) :
    (pure a : Process Req Ans σ α) s = .done s a := rfl

theorem bind_apply (p : Process Req Ans σ α) (f : α → Process Req Ans σ β) (s : σ) :
    (p >>= f) s = (p s).bind (fun a s' => f a s') := rfl

theorem get_apply (s : σ) : (get : Process Req Ans σ σ) s = .done s s := rfl

theorem set_apply (s s' : σ) : (set s' : Process Req Ans σ PUnit) s = .done s' () := rfl

end Process

/-- A request that was answered, with the state the program was in. -/
structure Exchange (Req : Type) (Ans : Req → Type) (σ : Type) where
  state : σ
  request : Req
  answer : Ans request

/-! ## Replaying a call against given answers -/

namespace Step

variable (oracle : Nat → (q : Req) → Ans q)

/-- **A call against given answers**, the `n`-th request being answered by
`oracle n`: the requests it makes, and what it returns if it does. -/
def replay : Nat → Step Req Ans σ α → List Req × Option (σ × α)
  | _, .done s a => ([], some (s, a))
  | n, .ask _ q k => (q :: (replay (n + 1) (k (oracle n q))).1, (replay (n + 1) (k (oracle n q))).2)
  | _, .hang _ => ([], none)

variable {Q : σ → α → Nat → Prop} {f : α → σ → Step Req Ans σ β}

/-- Replaying a sequence is replaying one call after the other. -/
theorem replay_bind_of_some {n : Nat} {x : Step Req Ans σ α} {qs : List Req} {s : σ} {a : α}
    (f : α → σ → Step Req Ans σ β) (h : x.replay oracle n = (qs, some (s, a))) :
    (x.bind f).replay oracle n
      = (qs ++ ((f a s).replay oracle (n + qs.length)).1,
        ((f a s).replay oracle (n + qs.length)).2) := by
  induction x generalizing n qs with
  | done s' a' =>
    simp only [replay, Prod.mk.injEq, Option.some.injEq] at h
    obtain ⟨rfl, rfl, rfl⟩ := h
    rfl
  | ask s' q k ih =>
    simp only [replay, Prod.mk.injEq] at h
    obtain ⟨rfl, hres⟩ := h
    have hrest := ih (oracle n q) (n := n + 1) (Prod.ext rfl hres)
    simp only [bind_ask, replay, hrest, List.cons_append, List.length_cons]
    rw [show n + 1 + _ = n + (_ + 1) from Nat.add_right_comm n 1 _]
  | hang s' =>
    simp only [replay, Prod.mk.injEq] at h
    exact absurd h.2 (by simp)

/-- **A call returns** against given answers, the `n`-th request and those after
it being answered by `oracle`, and asks nothing but what `asks` says; `Q` holds of
what it returns and of the number of requests answered by then. -/
def Ends (asks : Req → Prop) (Q : σ → α → Nat → Prop) : Nat → Step Req Ans σ α → Prop
  | n, .done s a => Q s a n
  | n, .ask _ q k => asks q ∧ Ends asks Q (n + 1) (k (oracle n q))
  | _, .hang _ => False

variable {oracle} {asks : Req → Prop}

theorem Ends.mono {Q' : σ → α → Nat → Prop} (hQ : ∀ s a n, Q s a n → Q' s a n) :
    ∀ {n : Nat} {x : Step Req Ans σ α}, Ends oracle asks Q n x → Ends oracle asks Q' n x
  | n, .done s a, h => hQ s a n h
  | _, .ask _ _ _, h => ⟨h.1, Ends.mono hQ h.2⟩

/-- The rule of sequencing. -/
theorem Ends.bind {Q' : σ → β → Nat → Prop}
    (hf : ∀ s a n, Q s a n → Ends oracle asks Q' n (f a s)) :
    ∀ {n : Nat} {x : Step Req Ans σ α}, Ends oracle asks Q n x → Ends oracle asks Q' n (x.bind f)
  | n, .done s a, h => hf s a n h
  | _, .ask _ _ _, h => ⟨h.1, Ends.bind hf h.2⟩

/-- What replaying a call that returns comes to. -/
theorem Ends.replay :
    ∀ {n : Nat} {x : Step Req Ans σ α}, Ends oracle asks Q n x →
      ∃ s a m, (x.replay oracle n).2 = some (s, a) ∧ Q s a m
  | n, .done s a, h => ⟨s, a, n, rfl, h⟩
  | _, .ask _ _ _, h => by
    obtain ⟨s, a, m, hres, hq⟩ := Ends.replay h.2
    exact ⟨s, a, m, hres, hq⟩

/-- **A call comes to a question** of which `P` holds, the requests before it being
answered by `oracle`, or returns before that with `Q`, which is told the requests. -/
def Reaches (oracle : Nat → (q : Req) → Ans q) (asks : Req → Prop)
    (P : Step Req Ans σ α → Prop) :
    (σ → α → List Req → Prop) → Nat → Step Req Ans σ α → Prop
  | Q, _, .done s a => Q s a []
  | Q, n, .ask s q k => P (.ask s q k)
    ∨ (asks q ∧ Reaches oracle asks P (fun s a qs => Q s a (q :: qs)) (n + 1) (k (oracle n q)))
  | _, _, .hang _ => False

section

variable {P : Step Req Ans σ α → Prop}

theorem Reaches.mono : ∀ {x : Step Req Ans σ α} {n : Nat} {Q Q' : σ → α → List Req → Prop},
    (∀ s a qs, Q s a qs → Q' s a qs) → Reaches oracle asks P Q n x → Reaches oracle asks P Q' n x
  | .done s a, _, _, _, hQ, h => hQ s a [] h
  | .ask _ q _, _, _, _, hQ, h =>
    h.imp_right (fun h => ⟨h.1, Reaches.mono (fun s a qs => hQ s a (q :: qs)) h.2⟩)

/-- The rule of sequencing: what comes afterwards does not keep a call from the question. -/
theorem Reaches.bind {P' : Step Req Ans σ β → Prop} (hP : ∀ x, P x → P' (x.bind f)) :
    ∀ {x : Step Req Ans σ α} {n : Nat} {Q : σ → α → List Req → Prop} {R : σ → β → List Req → Prop},
      (∀ s a qs n, Q s a qs → Reaches oracle asks P' (fun s b qs' => R s b (qs ++ qs')) n (f a s)) →
        Reaches oracle asks P Q n x → Reaches oracle asks P' R n (x.bind f)
  | .done s a, n, _, _, hQ, h => hQ s a [] n h
  | .ask _ q _, _, _, _, hQ, h =>
    h.imp (hP _) (fun h => ⟨h.1, Reaches.bind hP (fun s a qs => hQ s a (q :: qs)) h.2⟩)

/-- A call that comes to no such question returns. -/
theorem Reaches.ends (hP : ∀ x, ¬ P x) :
    ∀ {x : Step Req Ans σ α} {n : Nat} {Q : σ → α → List Req → Prop},
      Reaches oracle asks P Q n x → Ends oracle asks (fun s a _ => ∃ qs, Q s a qs) n x
  | .done _ _, _, _, h => ⟨[], h⟩
  | .ask _ q _, _, _, h => (h.resolve_left (hP _)).imp_right (fun h =>
    (Reaches.ends hP h).mono (fun _ _ _ ⟨qs, h⟩ => ⟨q :: qs, h⟩))

theorem Reaches.replay (hP : ∀ x, ¬ P x) :
    ∀ {x : Step Req Ans σ α} {n : Nat} {Q : σ → α → List Req → Prop},
      Reaches oracle asks P Q n x → ∃ qs s a, x.replay oracle n = (qs, some (s, a)) ∧ Q s a qs
  | .done s a, _, _, h => ⟨[], s, a, rfl, h⟩
  | .ask _ q _, _, _, h => by
    obtain ⟨qs, s, a, hreplay, hq⟩ := Reaches.replay hP (h.resolve_left (hP _)).2
    refine ⟨q :: qs, s, a, ?_, hq⟩
    rw [Step.replay, hreplay]

/-- A call that returns without asking such a question does not come to it. -/
theorem Ends.of_reaches {asks' : Req → Prop} {R : σ → α → Nat → Prop}
    (hP : ∀ s q k, asks q → ¬ P (.ask s q k)) :
    ∀ {x : Step Req Ans σ α} {n : Nat} {Q : σ → α → List Req → Prop}, Ends oracle asks R n x →
      Reaches oracle asks' P Q n x → ∃ s a m qs, R s a m ∧ Q s a qs
  | .done s a, n, _, h, h' => ⟨s, a, n, [], h, h'⟩
  | .ask _ q _, _, _, h, h' => by
    obtain ⟨s, a, m, qs, hr, hq⟩ := Ends.of_reaches hP h.2 (h'.resolve_left (hP _ _ _ h.1)).2
    exact ⟨s, a, m, q :: qs, hr, hq⟩

end

end Step

/-- **A program that returns** against given answers, from every state. -/
def Returns (oracle : Nat → (q : Req) → Ans q) (asks : Req → Prop)
    (p : Process Req Ans σ α) : Prop :=
  ∀ s n, Step.Ends oracle asks (fun _ _ _ => True) n (p s)

namespace Returns

variable {oracle : Nat → (q : Req) → Ans q} {asks : Req → Prop}

variable {p : Process Req Ans σ α}

theorem bind {f : α → Process Req Ans σ β} (h : Returns oracle asks p)
    (hf : ∀ a, Returns oracle asks (f a)) : Returns oracle asks (p >>= f) :=
  fun s n => (h s n).bind (fun s' a m _ => hf a s' m)

theorem ret (a : α) : Returns oracle asks (pure a : Process Req Ans σ α) :=
  fun _ _ => trivial

theorem getState : Returns oracle asks (get : Process Req Ans σ σ) := fun _ _ => trivial

theorem setState (s' : σ) : Returns oracle asks (set s' : Process Req Ans σ PUnit) :=
  fun _ _ => trivial

theorem modifyState (f : σ → σ) : Returns oracle asks (modify f : Process Req Ans σ PUnit) :=
  fun _ _ => trivial

theorem ite {c : Prop} [Decidable c] {q : Process Req Ans σ α} (hp : Returns oracle asks p)
    (hq : Returns oracle asks q) : Returns oracle asks (if c then p else q) := by
  split_ifs
  · exact hp
  · exact hq

/-- A request, with what is done with each answer there is to it. -/
theorem ask {q : Req} {f : Ans q → Process Req Ans σ α} (hq : asks q)
    (hf : ∀ n, Returns oracle asks (f (oracle n q))) :
    Returns oracle asks (Process.request q >>= f) :=
  fun s n => ⟨hq, hf n s (n + 1)⟩

end Returns

/-! ## Keeping an invariant under interference -/

/-- **What a program relies on.** `inv s o e` relates its state, what it has
published and the environment; `answers s o e q r o'` says that the environment
`e` may answer `q` with `r`, the publication becoming `o'`. -/
structure Setting (Req : Type) (Ans : Req → Type) (σ O E : Type) where
  /-- The invariant, kept by everybody. -/
  inv : σ → O → E → Prop
  /-- The answers the environment may give, and what they publish. -/
  answers : σ → O → E → (q : Req) → Ans q → O → Prop

variable (S : Setting Req Ans σ O E)

/-- **A call keeps the invariant wherever it rests**, and `Q` holds when it
returns. The environment of the next answer is any that keeps the invariant. -/
def Step.Sat (Q : σ → α → O → E → Prop) : Step Req Ans σ α → O → E → Prop
  | .done s a, o, e => Q s a o e
  | .ask s q k, o, e =>
      S.inv s o e ∧ ∀ e₁, S.inv s o e₁ → ∀ r o₁, S.answers s o e₁ q r o₁ →
        Step.Sat Q (k r) o₁ e₁
  | .hang s, o, e => S.inv s o e

variable {S}

namespace Step

variable {Q : σ → α → O → E → Prop} {a : α} {e : E} {may : σ → (q : Req) → Ans q → Prop}
  {oracle : Nat → (q : Req) → Ans q} {s : σ} {x : Step Req Ans σ α}

theorem Sat.mono {Q' : σ → α → O → E → Prop} (hQ : ∀ s a o e, Q s a o e → Q' s a o e) :
    ∀ {x : Step Req Ans σ α} {o : O} {e : E}, Sat S Q x o e → Sat S Q' x o e
  | .done s a, o, e, h => hQ s a o e h
  | .ask _ _ _, _, _, h =>
      ⟨h.1, fun e₁ he r o₁ hr => Sat.mono hQ (h.2 e₁ he r o₁ hr)⟩
  | .hang _, _, _, h => h

/-- The rule of sequencing. -/
theorem Sat.bind {Q' : σ → β → O → E → Prop} {f : α → σ → Step Req Ans σ β}
    (hf : ∀ s a o e, Q s a o e → Sat S Q' (f a s) o e) :
    ∀ {x : Step Req Ans σ α} {o : O} {e : E},
      Sat S Q x o e → Sat S Q' (x.bind f) o e
  | .done s a, o, e, h => hf s a o e h
  | .ask _ _ _, _, _, h =>
      ⟨h.1, fun e₁ he r o₁ hr => Sat.bind hf (h.2 e₁ he r o₁ hr)⟩
  | .hang _, _, _, h => h

/-- The invariant holds where the call rests, if it does when it returns. -/
theorem Sat.inv_rest (hQ : ∀ s a o e, Q s a o e → S.inv s o e) :
    ∀ {x : Step Req Ans σ α} {o : O} {e : E}, Sat S Q x o e → S.inv x.rest o e
  | .done s a, o, e, h => hQ s a o e h
  | .ask _ _ _, _, _, h => h.1
  | .hang _, _, _, h => h

/-- **A resting call does not depend on its environment**: whatever keeps the
invariant can take the environment's place. -/
theorem Sat.interfere {e' : E} :
    ∀ {x : Step Req Ans σ α} {o : O} {e : E}, (∀ s a, x ≠ .done s a) →
      Sat S Q x o e → S.inv x.rest o e' → Sat S Q x o e'
  | .done s a, _, _, hx, _, _ => absurd rfl (hx s a)
  | .ask _ _ _, _, _, _, h, he => ⟨he, h.2⟩
  | .hang _, _, _, _, _, he => he

/-- **A call that returns, returns what it should**, if every answer is one the
environment may give. -/
theorem Sat.ends {R : σ → α → Nat → Prop} {asks : Req → Prop}
    (hanswers : ∀ n s o q, asks q → ∃ o₁, S.answers s o e q (oracle n q) o₁) :
    ∀ {x : Step Req Ans σ α} {o : O} {n : Nat}, Sat S Q x o e → Ends oracle asks R n x →
      Ends oracle asks (fun s a m => R s a m ∧ ∃ o₁, Q s a o₁ e) n x
  | .done _ _, o, _, h, hx => ⟨hx, o, h⟩
  | .ask s q _, o, n, h, hx => by
    obtain ⟨o₁, hr⟩ := hanswers n s o q hx.1
    exact ⟨hx.1, Sat.ends hanswers (h.2 e h.1 (oracle n q) o₁ hr) hx.2⟩

/-- **What a call may return**, for some answers. -/
inductive Yields : Step Req Ans σ α → σ → α → Prop
  | done (s : σ) (a : α) : Yields (.done s a) s a
  | ask {s s' : σ} {q : Req} {k : Ans q → Step Req Ans σ α} {a : α} (r : Ans q)
      (h : Yields (k r) s' a) : Yields (.ask s q k) s' a

/-- **What a call exchanges with its environment** until it returns, for some answers. -/
inductive Exchanges : Step Req Ans σ α → List (Exchange Req Ans σ) → σ → α → Prop
  | done (s : σ) (a : α) : Exchanges (.done s a) [] s a
  | ask {s s' : σ} {q : Req} {k : Ans q → Step Req Ans σ α} {a : α}
      {log : List (Exchange Req Ans σ)} (r : Ans q) (h : Exchanges (k r) log s' a) :
      Exchanges (.ask s q k) (⟨s, q, r⟩ :: log) s' a

/-- A call in an environment that publishes what was exchanged, and nothing else. -/
theorem Sat.exchanges {S : Setting Req Ans σ (List (Exchange Req Ans σ)) E}
    {Q : σ → α → List (Exchange Req Ans σ) → E → Prop}
    (hanswers : ∀ s o q r, S.answers s o e q r (o ++ [⟨s, q, r⟩]))
    {log : List (Exchange Req Ans σ)} (hx : Exchanges x log s a) :
    ∀ {o : List (Exchange Req Ans σ)},
      Sat S Q x o e → Q s a (o ++ log) e := by
  induction hx with
  | done s a =>
    intro o h
    rw [List.append_nil]
    exact h
  | ask r _ ih =>
    intro o h
    have := ih (h.2 e h.1 r _ (hanswers _ o _ r))
    rwa [List.append_assoc, List.singleton_append] at this

/-- A call in an environment that gives every answer. -/
theorem Sat.yields (hanswers : ∀ s o q r, ∃ o₁, S.answers s o e q r o₁) (hy : Yields x s a) :
    ∀ {o : O}, Sat S Q x o e → ∃ o₁, Q s a o₁ e := by
  induction hy with
  | done s a => exact fun {o} h => ⟨o, h⟩
  | ask r _ ih =>
    intro o h
    obtain ⟨o₁, hr⟩ := hanswers _ o _ r
    exact ih (h.2 e h.1 r o₁ hr)

/-- **What a call may return**, for answers that may be given where they are asked for. -/
inductive Leads (may : σ → (q : Req) → Ans q → Prop) : Step Req Ans σ α → σ → α → Prop
  | done (s : σ) (a : α) : Leads may (.done s a) s a
  | ask {s s' : σ} {q : Req} {k : Ans q → Step Req Ans σ α} {a : α} (r : Ans q) (hr : may s q r)
      (h : Leads may (k r) s' a) : Leads may (.ask s q k) s' a

/-- A call in an environment that gives all of these answers. -/
theorem Sat.leads (hmay : ∀ s o q r, may s q r → ∃ o₁, S.answers s o e q r o₁)
    (hx : Leads may x s a) : ∀ {o : O}, Sat S Q x o e → ∃ o₁, Q s a o₁ e := by
  induction hx with
  | done s a => exact fun {o} h => ⟨o, h⟩
  | ask r hr _ ih =>
    intro o h
    obtain ⟨o₁, hr⟩ := hmay _ o _ r hr
    exact ih (h.2 e h.1 r o₁ hr)

/-- A call against given answers, as long as they may be given. -/
def attempt (may : σ → (q : Req) → Ans q → Prop) [∀ s q r, Decidable (may s q r)]
    (oracle : Nat → (q : Req) → Ans q) : Nat → Step Req Ans σ α → Option (σ × α)
  | _, .done s a => some (s, a)
  | n, .ask s q k =>
      if may s q (oracle n q) then attempt may oracle (n + 1) (k (oracle n q)) else none
  | _, .hang _ => none

theorem leads_of_attempt [∀ s q r, Decidable (may s q r)] :
    ∀ {n : Nat} {x : Step Req Ans σ α}, x.attempt may oracle n = some (s, a) → Leads may x s a
  | _, .done s' a', h => by
    cases h
    exact .done s a
  | n, .ask s' q k, h => by
    rw [attempt] at h
    split_ifs at h with hmay
    exact .ask _ hmay (leads_of_attempt h)

end Step

variable (S)

/-- **The triple of a program**: from a state and publication with `P`, every
call keeps the invariant and returns with `Q`. Neither condition mentions the
environment, which is what makes both stable. -/
def Triple (P : σ → O → Prop) (p : Process Req Ans σ α) (Q : σ → α → O → Prop) : Prop :=
  ∀ s o e, P s o → S.inv s o e →
    Step.Sat S (fun s a o e => S.inv s o e ∧ Q s a o) (p s) o e

variable {S}

/-- Nothing has happened since the state was looked at. -/
abbrev Here (s₀ : σ) (o₀ : O) (s : σ) (o : O) : Prop :=
  s = s₀ ∧ o = o₀

namespace Triple

variable {P P' : σ → O → Prop} {Q Q' : σ → α → O → Prop} {R : σ → β → O → Prop}

variable {p : Process Req Ans σ α} {q : Req}

theorem consequence (h : Triple S P p Q) (hP : ∀ s o, P' s o → P s o)
    (hQ : ∀ s a o, Q s a o → Q' s a o) :
    Triple S P' p Q' := fun s o e hs hi =>
  (h s o e (hP s o hs) hi).mono (fun s a o _ hq => ⟨hq.1, hQ s a o hq.2⟩)

theorem pre (h : Triple S P p Q) (hP : ∀ s o, P' s o → P s o) : Triple S P' p Q :=
  h.consequence hP (fun _ _ _ hq => hq)

theorem post (h : Triple S P p Q) (hQ : ∀ s a o, Q s a o → Q' s a o) : Triple S P p Q' :=
  h.consequence (fun _ _ hp => hp) hQ

theorem bind {f : α → Process Req Ans σ β} (h : Triple S P p Q)
    (hf : ∀ a, Triple S (fun s o => Q s a o) (f a) R) :
    Triple S P (p >>= f) R := fun s o e hs hi =>
  (h s o e hs hi).bind (fun s a o e hq => hf a s o e hq.2 hq.1)

theorem ret {a : α} (h : ∀ s o, P s o → Q s a o) : Triple S P (pure a : Process Req Ans σ α) Q :=
  fun s o _ hs hi => ⟨hi, h s o hs⟩

theorem getState {Q : σ → σ → O → Prop} (h : ∀ s o, P s o → Q s s o) :
    Triple S P (get : Process Req Ans σ σ) Q :=
  fun s o _ hs hi => ⟨hi, h s o hs⟩

/-- A change of state that keeps the invariant. -/
theorem modifyState {Q : σ → PUnit → O → Prop} {f : σ → σ}
    (hinv : ∀ s o e, P s o → S.inv s o e → S.inv (f s) o e) (h : ∀ s o, P s o → Q (f s) () o) :
    Triple S P (modify f : Process Req Ans σ PUnit) Q :=
  fun s o e hs hi => ⟨hinv s o e hs hi, h s o hs⟩

/-- The last change of state, and what is returned with it. -/
theorem modify_ret {f : σ → σ} {a : α} {s₀ : σ} {o₀ : O}
    (hinv : ∀ e, S.inv s₀ o₀ e → S.inv (f s₀) o₀ e) (h : Q (f s₀) a o₀) :
    Triple S (Here s₀ o₀) (modify f >>= fun _ => pure a : Process Req Ans σ α) Q := by
  rintro _ _ e ⟨rfl, rfl⟩ hi
  exact ⟨hinv e hi, h⟩

theorem ite {c : Prop} [Decidable c] {q : Process Req Ans σ α} (hp : c → Triple S P p Q)
    (hq : ¬ c → Triple S P q Q) : Triple S P (if c then p else q) Q := by
  by_cases h : c
  · rw [if_pos h]
    exact hp h
  · rw [if_neg h]
    exact hq h

/-- Look at the state first: a program may be proved for each state by itself, in
which the invariant holds. -/
theorem of_state
    (h : ∀ s₀ o₀ e₀, P s₀ o₀ → S.inv s₀ o₀ e₀ → Triple S (Here s₀ o₀) p Q) :
    Triple S P p Q :=
  fun s o e hs hi => h s o e hs hi s o e ⟨rfl, rfl⟩ hi

/-- Reading the state, and going on in the state that was read. -/
theorem get_bind {f : σ → Process Req Ans σ α}
    (h : ∀ s₀ o₀ e₀, P s₀ o₀ → S.inv s₀ o₀ e₀ → Triple S (Here s₀ o₀) (f s₀) Q) :
    Triple S P (get >>= f) Q :=
  fun s o e hs hi => h s o e hs hi s o e ⟨rfl, rfl⟩ hi

theorem hang : Triple S P (Process.hang : Process Req Ans σ α) Q :=
  fun _ _ _ _ hi => hi

/-- **The rule of a request**: the answers keep the invariant and establish the
postcondition. -/
theorem request {Q : σ → Ans q → O → Prop}
    (h : ∀ s o e, P s o → S.inv s o e → ∀ r o₁, S.answers s o e q r o₁ → S.inv s o₁ e ∧ Q s r o₁) :
    Triple S P (Process.request q) Q :=
  fun s o _ hs hi => ⟨hi, fun e₁ he r o₁ hr => h s o e₁ hs he r o₁ hr⟩

/-- The rule of a request with what is done at once with its answer, while the
environment that gave it is still at hand. -/
theorem ask {f : Ans q → Process Req Ans σ α}
    (h : ∀ s o e, P s o → S.inv s o e → ∀ r o₁, S.answers s o e q r o₁ →
      Step.Sat S (fun s a o e => S.inv s o e ∧ Q s a o) (f r s) o₁ e) :
    Triple S P (Process.request q >>= f) Q :=
  fun s o _ hs hi => ⟨hi, fun e₁ he r o₁ hr => h s o e₁ hs he r o₁ hr⟩

end Triple

end Interactive
