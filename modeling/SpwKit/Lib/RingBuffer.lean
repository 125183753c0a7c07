import Mathlib.Data.List.Basic
import Mathlib.Data.Nat.ModEq
import Mathlib.Tactic.Common

/-!
# Bounded rings

A ring keeps at most `depth` elements in an array, from a moving head on and
wrapping around. It carries its own bounds, so that no operation can leave the
array: the head is inside it and the count does not exceed it. What a ring holds
is a list (`RingBuffer.toList`), and every operation is one on lists: appending when
there is room (`toList_push`), dropping the oldest for the newest when there is
not (`toList_overwrite`), and taking the oldest (`pop_cases`).

A `RingQueue` also keeps the place of the next element, as some code does
instead of computing it; that the two agree is part of the structure.
-/

/-- **A bounded ring**: the slots, the place of the oldest element and how many
there are. -/
structure RingBuffer (α : Type) (depth : Nat) where
  slots : Nat → α
  head : Nat
  count : Nat
  head_lt : head < depth
  count_le : count ≤ depth

namespace RingBuffer

variable {α : Type} {depth : Nat}

variable (r : RingBuffer α depth)

/-- What a ring holds, oldest first. -/
def toList : List α :=
  (List.range r.count).map (fun i => r.slots ((r.head + i) % depth))

/-- A ring over slots with anything in them, holding nothing. -/
def empty (slots : Nat → α) (h : 0 < depth) : RingBuffer α depth :=
  ⟨slots, 0, 0, h, Nat.zero_le depth⟩

/-- Forget what the ring holds, and leave the slots as they are. -/
def clear : RingBuffer α depth :=
  ⟨r.slots, 0, 0, lt_of_le_of_lt (Nat.zero_le _) r.head_lt, Nat.zero_le depth⟩

/-- The slots with one written. -/
def write (slots : Nat → α) (i : Nat) (x : α) : Nat → α :=
  fun j => if j = i then x else slots j

/-- Append an element, where there is room. -/
def push (x : α) (h : r.count < depth) : RingBuffer α depth :=
  ⟨write r.slots ((r.head + r.count) % depth) x, r.head, r.count + 1, r.head_lt, h⟩

/-- Write over the oldest element, and let the next one be the oldest. -/
def overwrite (x : α) : RingBuffer α depth :=
  ⟨write r.slots r.head x, (r.head + 1) % depth, r.count,
    Nat.mod_lt _ (lt_of_le_of_lt (Nat.zero_le _) r.head_lt), r.count_le⟩

/-- Append an element, dropping the oldest when there is no room. -/
def remember (x : α) : RingBuffer α depth :=
  if h : r.count < depth then r.push x h else r.overwrite x

/-- Take the oldest element. -/
def pop : Option (α × RingBuffer α depth) :=
  if r.count = 0 then none
  else some (r.slots r.head, ⟨r.slots, (r.head + 1) % depth, r.count - 1,
    Nat.mod_lt _ (lt_of_le_of_lt (Nat.zero_le _) r.head_lt),
    (Nat.sub_le _ _).trans r.count_le⟩)

@[simp] theorem toList_length : r.toList.length = r.count := by
  simp [toList]

@[simp] theorem toList_empty (slots : Nat → α) (h : 0 < depth) :
    (empty slots h).toList = [] := rfl

@[simp] theorem toList_clear : r.clear.toList = [] := rfl

/-- Different offsets below the depth are different slots. -/
theorem index_ne {head i j : Nat} (hi : i < depth) (hj : j < depth) (hne : i ≠ j) :
    (head + i) % depth ≠ (head + j) % depth := by
  intro h
  have := Nat.ModEq.add_left_cancel' head (show head + i ≡ head + j [MOD depth] from h)
  exact hne (Nat.ModEq.eq_of_lt_of_lt this hi hj)

/-- **Pushing appends.** -/
theorem toList_push (x : α) (h : r.count < depth) : (r.push x h).toList = r.toList ++ [x] := by
  unfold toList push write
  simp only [List.range_succ, List.map_append, List.map_cons, List.map_nil, if_true]
  refine congrArg (· ++ [x]) (List.map_congr_left (fun i hi => if_neg ?_))
  rw [List.mem_range] at hi
  exact index_ne (by omega) h (by omega)

/-- **Overwriting a full ring drops the oldest.** -/
theorem toList_overwrite (x : α) (h : r.count = depth) :
    (r.overwrite x).toList = r.toList.tail ++ [x] := by
  obtain ⟨n, hn⟩ : ∃ n, depth = n + 1 := ⟨depth - 1, by have := r.head_lt; omega⟩
  have hhead : r.head = (r.head + 0) % depth := (Nat.mod_eq_of_lt r.head_lt).symm
  have hshift : ∀ i, ((r.head + 1) % depth + i) % depth = (r.head + (i + 1)) % depth := fun i => by
    rw [Nat.mod_add_mod]
    congr 1
    omega
  have hlast : (r.head + (n + 1)) % depth = r.head := by
    rw [← hn, Nat.add_mod_right, Nat.mod_eq_of_lt r.head_lt]
  have hnewest : List.range depth = List.range n ++ [n] := by rw [hn, List.range_succ]
  have holdest : List.range depth = 0 :: (List.range n).map Nat.succ := by
    rw [hn, List.range_succ_eq_map]
  unfold toList overwrite write
  simp only [h, hshift]
  nth_rewrite 1 [hnewest]
  rw [holdest, List.map_append]
  simp only [List.map_cons, List.map_nil, List.tail_cons, List.map_map]
  have hkept : ∀ i ∈ List.range n,
      (if (r.head + (i + 1)) % depth = r.head then x else r.slots ((r.head + (i + 1)) % depth))
        = r.slots ((r.head + (i + 1)) % depth) := fun i hi => by
    rw [List.mem_range] at hi
    refine if_neg (fun heq => ?_)
    rw [hhead, Nat.mod_add_mod] at heq
    exact index_ne (i := i + 1) (j := 0) (by omega) (by omega) (by omega) heq
  rw [List.map_congr_left hkept]
  simp [hlast]

/-- **Remembering appends, or drops the oldest to append.** -/
theorem toList_remember (x : α) :
    (r.remember x).toList
      = (if r.count < depth then r.toList else r.toList.tail) ++ [x] := by
  unfold remember
  by_cases h : r.count < depth
  · rw [dif_pos h, if_pos h, toList_push]
  · rw [dif_neg h, if_neg h, toList_overwrite r x (by have := r.count_le; omega)]

/-- **Popping takes the oldest**, if there is one. -/
theorem pop_cases :
    (r.pop = none ∧ r.toList = []) ∨
      ∃ x r', r.pop = some (x, r') ∧ r.toList = x :: r'.toList := by
  unfold pop
  by_cases h : r.count = 0
  · refine Or.inl ⟨if_pos h, ?_⟩
    simp [toList, h]
  · refine Or.inr ⟨_, _, if_neg h, ?_⟩
    obtain ⟨n, hn⟩ : ∃ n, r.count = n + 1 := ⟨r.count - 1, by omega⟩
    have hshift : ∀ i, ((r.head + 1) % depth + i) % depth = (r.head + (i + 1)) % depth :=
      fun i => by
      rw [Nat.mod_add_mod]
      congr 1
      omega
    unfold toList
    simp only [hn, Nat.add_sub_cancel, hshift]
    rw [List.range_succ_eq_map, List.map_cons, List.map_map, Nat.add_zero,
      Nat.mod_eq_of_lt r.head_lt]
    rfl

end RingBuffer

/-- **A bounded ring that keeps its tail**: the place the next element goes to. -/
structure RingQueue (α : Type) (depth : Nat) extends RingBuffer α depth where
  tail : Nat
  tail_eq : tail = (head + count) % depth

namespace RingQueue

variable {α : Type} {depth : Nat}

/-- A queue over slots with anything in them, holding nothing. -/
def empty (slots : Nat → α) (h : 0 < depth) : RingQueue α depth :=
  ⟨RingBuffer.empty slots h, 0, (Nat.zero_mod depth).symm⟩

variable (q : RingQueue α depth)

/-- Forget what the queue holds, and leave the slots as they are. -/
def clear : RingQueue α depth :=
  ⟨q.toRingBuffer.clear, 0, (Nat.zero_mod depth).symm⟩

/-- Write an element at the tail, where there is room. -/
def push (x : α) (h : q.count < depth) : RingQueue α depth :=
  ⟨⟨RingBuffer.write q.slots q.tail x, q.head, q.count + 1, q.head_lt, h⟩,
    (q.tail + 1) % depth, by rw [q.tail_eq, Nat.mod_add_mod, Nat.add_assoc]⟩

/-- The oldest element, if there is one. -/
def front : Option α :=
  if q.count = 0 then none else some (q.slots q.head)

/-- Change the oldest element in its place. -/
def setFront (x : α) : RingQueue α depth :=
  ⟨{ q.toRingBuffer with slots := RingBuffer.write q.slots q.head x }, q.tail, q.tail_eq⟩

/-- Drop the oldest element of a queue that holds one. -/
def dropFront (h : q.count ≠ 0) : RingQueue α depth :=
  ⟨⟨q.slots, (q.head + 1) % depth, q.count - 1,
      Nat.mod_lt _ (lt_of_le_of_lt (Nat.zero_le _) q.head_lt),
      (Nat.sub_le _ _).trans q.count_le⟩,
    q.tail, by
      show q.tail = ((q.head + 1) % depth + (q.count - 1)) % depth
      rw [q.tail_eq, Nat.mod_add_mod]
      congr 1
      omega⟩

@[simp] theorem toList_empty (slots : Nat → α) (h : 0 < depth) :
    (empty slots h).toList = [] := rfl

@[simp] theorem toList_clear : q.clear.toList = [] := rfl

@[simp] theorem count_clear : q.clear.count = 0 := rfl

/-- **Pushing appends.** -/
@[simp] theorem toList_push (x : α) (h : q.count < depth) :
    (q.push x h).toList = q.toList ++ [x] := by
  rw [← RingBuffer.toList_push q.toRingBuffer x h]
  simp only [push, RingBuffer.push, q.tail_eq]

theorem toList_eq_nil_iff : q.toList = [] ↔ q.count = 0 := by
  rw [← List.length_eq_zero_iff, RingBuffer.toList_length]

/-- A queue that holds something is its oldest element and the rest. -/
theorem toList_of_count_ne (h : q.count ≠ 0) :
    q.toList = q.slots q.head :: (q.dropFront h).toList := by
  obtain ⟨hnone, -⟩ | ⟨x, r', hpop, hlist⟩ := q.toRingBuffer.pop_cases
  · exact absurd hnone (by simp [RingBuffer.pop, h])
  · rw [RingBuffer.pop, if_neg h, Option.some.injEq, Prod.mk.injEq] at hpop
    rw [hlist, ← hpop.1, ← hpop.2]
    rfl

/-- The oldest element is the first. -/
theorem front_eq_head? : q.front = q.toList.head? := by
  unfold front
  by_cases h : q.count = 0
  · rw [if_pos h, (toList_eq_nil_iff q).mpr h]
    rfl
  · rw [if_neg h, toList_of_count_ne q h]
    rfl

/-- Changing the oldest element changes the first. -/
theorem toList_setFront (x : α) (h : q.count ≠ 0) :
    (q.setFront x).toList = x :: (q.dropFront h).toList := by
  rw [toList_of_count_ne (q.setFront x) h]
  refine congrArg₂ List.cons (if_pos rfl) ?_
  unfold RingBuffer.toList
  refine List.map_congr_left (fun i hi => if_neg ?_)
  rw [List.mem_range] at hi
  have hcount : i < q.count - 1 := hi
  have hle := q.count_le
  show ((q.head + 1) % depth + i) % depth ≠ q.head
  rw [Nat.mod_add_mod, show q.head + 1 + i = q.head + (i + 1) by omega]
  intro heq
  have hsame : (q.head + (i + 1)) % depth = (q.head + 0) % depth := by
    rw [heq, Nat.add_zero, Nat.mod_eq_of_lt q.head_lt]
  exact RingBuffer.index_ne (by omega) (by omega) (by omega) hsame

end RingQueue
