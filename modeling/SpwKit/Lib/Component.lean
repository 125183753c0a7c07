import SpwKit.Lib.Process

/-!
# Programs on a part of the state

A layer of a program often keeps a few words of its own beside the state of the
layer below and calls into it. `Process.within` runs a program of the lower layer
on its part of the state: the rest stays as it is, at every question and at the
end.

In the other direction, a call may know more of what is published than others do.
`Setting.also` adds that to the invariant for the time of the call.
-/

namespace Interactive

variable {Req : Type} {Ans : Req → Type} {σ τ O E α β : Type}

namespace Step

/-- A call, with its states put into a larger one. -/
def within (put : σ → τ) : Step Req Ans σ α → Step Req Ans τ α
  | .done s a => .done (put s) a
  | .ask s q k => .ask (put s) q (fun r => (k r).within put)
  | .hang s => .hang (put s)

end Step

/-- What a setting is for a part of the state. -/
def Setting.part (S : Setting Req Ans τ O E) (put : σ → τ) : Setting Req Ans σ O E where
  inv s o e := S.inv (put s) o e
  answers s o e q r o' := S.answers (put s) o e q r o'

variable {F : O → Prop} {Q : σ → α → O → E → Prop} {S : Setting Req Ans σ O E}
  {p : Process Req Ans σ α} {put : σ → τ}

/-- **A call on a part of the state** does what it does by itself. -/
theorem Step.Sat.within {S : Setting Req Ans τ O E} {Q : τ → α → O → E → Prop} :
    ∀ {x : Step Req Ans σ α} {o : O} {e : E},
      Step.Sat (S.part put) (fun s a o e => Q (put s) a o e) x o e →
      Step.Sat S Q (x.within put) o e
  | .done _ _, _, _, h => h
  | .ask _ _ _, _, _, h => ⟨h.1, fun e₁ he r o₁ hr => Sat.within (h.2 e₁ he r o₁ hr)⟩
  | .hang _, _, _, h => h

/-- A call on a part of the state returns when it returns by itself. -/
theorem Step.Ends.within {oracle : Nat → (q : Req) → Ans q} {asks : Req → Prop}
    {Q : τ → α → Nat → Prop} :
    ∀ {x : Step Req Ans σ α} {n : Nat},
      Step.Ends oracle asks (fun s a n => Q (put s) a n) n x →
      Step.Ends oracle asks Q n (x.within put)
  | .done _ _, _, h => h
  | .ask _ _ _, _, h => ⟨h.1, Ends.within h.2⟩
  | .hang _, _, h => h

/-- A program that looks at something first. -/
theorem Step.sat_ite {c : Prop} [Decidable c] {q : Process Req Ans σ α} {s : σ} {o : O} {e : E}
    (hp : c → Step.Sat S Q (p s) o e) (hq : ¬ c → Step.Sat S Q (q s) o e) :
    Step.Sat S Q ((if c then p else q) s) o e := by
  by_cases h : c
  · rw [if_pos h]
    exact hp h
  · rw [if_neg h]
    exact hq h

/-- A setting in which something more is known of what is published. -/
def Setting.also (S : Setting Req Ans σ O E) (F : O → Prop) : Setting Req Ans σ O E where
  inv s o e := S.inv s o e ∧ F o
  answers := S.answers

/-- What is known more may be forgotten, since it is not about the environment. -/
theorem Step.Sat.forget :
    ∀ {x : Step Req Ans σ α} {o : O} {e : E}, Step.Sat (S.also F) Q x o e → Step.Sat S Q x o e
  | .done _ _, _, _, h => h
  | .ask _ _ _, _, _, h =>
      ⟨h.1.1, fun e₁ he r o₁ hr => Sat.forget (h.2 e₁ ⟨he, h.1.2⟩ r o₁ hr)⟩
  | .hang _, _, _, h => h.1

/-- **What is known more is known at the end too.** -/
theorem Triple.also {P : σ → O → Prop} {Q : σ → α → O → Prop} (h : Triple (S.also F) P p Q) :
    Triple S (fun s o => P s o ∧ F o) p (fun s a o => Q s a o ∧ F o) := fun s o e hs hi =>
  ((h s o e hs.1 ⟨hi, hs.2⟩).forget).mono (fun _ _ _ _ hq => ⟨hq.1.1, hq.2, hq.1.2⟩)

/-- **A program on a part of the state.** -/
def Process.within (get : τ → σ) (put : τ → σ → τ) (p : Process Req Ans σ α) :
    Process Req Ans τ α :=
  fun t => (p (get t)).within (put t)

theorem Process.within_apply (get : τ → σ) (put : τ → σ → τ) (p : Process Req Ans σ α) (t : τ) :
    p.within get put t = (p (get t)).within (put t) := rfl

end Interactive
