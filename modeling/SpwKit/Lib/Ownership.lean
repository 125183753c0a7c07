import Mathlib.Data.List.Induction
import Mathlib.Logic.Function.Basic

/-!
# Things with one owner

A service lends out things and gets them back. Each of them is with nobody, with
the client, or kept by the service until it is asked for again. `Transfer` says
how one moves, `ledger` is where everything is after a list of transfers, and a
list of transfers `Conforms` if everything that moves is taken from where it is.
A recall takes everything back at once: what the client had before is no longer
its own, and stays so until it is lent again.
-/

namespace Ownership

variable {β : Type}

/-- Where a thing is. -/
inductive Holder
  | nobody | client | service
deriving DecidableEq, Repr

/-- **How things move.** -/
inductive Transfer (β : Type)
  /-- Nothing moves. -/
  | nothing
  /-- The client gets a thing from where it is. -/
  | handOut (ref : β) (source : Holder)
  /-- The client gives a thing away. -/
  | handIn (ref : β) (target : Holder)
  /-- Everything is taken back. -/
  | takeBack
deriving DecidableEq, Repr

/-- A thing moves from where it is. -/
def Transfer.Allowed (holders : β → Holder) : Transfer β → Prop
  | .handOut ref source => holders ref = source
  | .handIn ref _ => holders ref = .client
  | _ => True

variable [DecidableEq β]

/-- Where everything is after a transfer. -/
def Transfer.apply (holders : β → Holder) : Transfer β → β → Holder
  | .nothing => holders
  | .handOut ref _ => Function.update holders ref .client
  | .handIn ref target => Function.update holders ref target
  | .takeBack => fun _ => .nobody

/-- **Where everything is** after some transfers. -/
def ledger (transfers : List (Transfer β)) : β → Holder :=
  transfers.foldl Transfer.apply (fun _ => .nobody)

/-- **Every transfer takes a thing from where it is.** -/
def Conforms (transfers : List (Transfer β)) : Prop :=
  ∀ before t after, transfers = before ++ t :: after → t.Allowed (ledger before)

variable {ref : β} {since : List (Transfer β)} {t : Transfer β}

theorem ledger_snoc (transfers : List (Transfer β)) (t : Transfer β) :
    ledger (transfers ++ [t]) = t.apply (ledger transfers) := by
  rw [ledger, List.foldl_append]
  rfl

theorem conforms_nil : Conforms ([] : List (Transfer β)) :=
  fun before t after h => absurd h (by simp)

theorem Conforms.snoc {transfers : List (Transfer β)} (h : Conforms transfers)
    (ht : t.Allowed (ledger transfers)) : Conforms (transfers ++ [t]) := by
  intro before u after heq
  -- the transfer is the last one, or one of those before
  rcases List.eq_nil_or_concat after with rfl | ⟨rest, v, rfl⟩
  · obtain ⟨rfl, rfl⟩ := List.append_inj' heq rfl |>.imp_right List.singleton_inj.mp
    exact ht
  · rw [List.concat_eq_append, ← List.cons_append, ← List.append_assoc] at heq
    exact h before u rest (List.append_inj' heq rfl).1

/-- **A recall makes the accounts start afresh.** -/
theorem ledger_takeBack (before since : List (Transfer β)) :
    ledger (before ++ .takeBack :: since) = ledger since := by
  rw [ledger, List.foldl_append]
  rfl

/-- **What the service keeps was given to it.** -/
theorem handIn_of_ledger (h : ledger since ref = .service) : .handIn ref .service ∈ since := by
  induction since using List.reverseRecOn with
  | nil => exact absurd h (by simp [ledger])
  | append_singleton since t ih =>
    rw [ledger_snoc] at h
    rw [List.mem_append]
    cases t with
    | nothing => exact .inl (ih h)
    | takeBack => exact absurd h (by simp [Transfer.apply])
    | handOut ref' source =>
      by_cases hne : ref = ref'
      · rw [hne, Transfer.apply, Function.update_self] at h
        exact absurd h (by decide)
      · rw [Transfer.apply, Function.update_of_ne hne] at h
        exact .inl (ih h)
    | handIn ref' target =>
      by_cases hne : ref = ref'
      · rw [hne, Transfer.apply, Function.update_self] at h
        exact .inr (by simp [hne, h])
      · rw [Transfer.apply, Function.update_of_ne hne] at h
        exact .inl (ih h)

end Ownership
