import SpwKit.Lib.RingBuffer

/-!
# Rings as they lie in memory

A `RingQueue` cannot be out of order: its bounds are part of it. Code that does
not look whether there is room before it writes is about the four words
themselves, and has to show that they stay consistent
(`RawRing.Consistent`). A ring that is consistent is a queue, and what is known of
queues holds of it.
-/

/-- **A ring as it lies in memory**: its slots, and where the oldest element is, where
the next one goes and how many there are. -/
structure RawRing (α : Type) where
  slots : Nat → α
  head : Nat
  tail : Nat
  count : Nat

namespace RawRing

variable {α : Type} {depth : Nat} {r : RawRing α}

/-- A ring that is zeroed. -/
def zeroed (x : α) : RawRing α := ⟨fun _ => x, 0, 0, 0⟩

/-- Write an element at the tail and count it. -/
def push (r : RawRing α) (depth : Nat) (x : α) : RawRing α :=
  ⟨RingBuffer.write r.slots r.tail x, r.head, (r.tail + 1) % depth, r.count + 1⟩

/-- The element at the head. -/
def front (r : RawRing α) : α := r.slots r.head

/-- Move the head on and count one less. -/
def drop (r : RawRing α) (depth : Nat) : RawRing α :=
  ⟨r.slots, (r.head + 1) % depth, r.tail, r.count - 1⟩

/-- Write over the element that is `i` places behind the head. -/
def set (r : RawRing α) (depth i : Nat) (x : α) : RawRing α :=
  { r with slots := RingBuffer.write r.slots ((r.head + i) % depth) x }

/-- What the ring holds, oldest first. -/
def toList (r : RawRing α) (depth : Nat) : List α :=
  (List.range r.count).map (fun i => r.slots ((r.head + i) % depth))

/-- **The four words fit together**: the head is a slot, there are no more elements than
slots, and the tail is where the elements end. -/
structure Consistent (r : RawRing α) (depth : Nat) : Prop where
  head_lt : r.head < depth
  count_le : r.count ≤ depth
  tail_eq : r.tail = (r.head + r.count) % depth

/-- A consistent ring, as a queue. -/
def Consistent.queue (h : r.Consistent depth) : RingQueue α depth :=
  ⟨⟨r.slots, r.head, r.count, h.head_lt, h.count_le⟩, r.tail, h.tail_eq⟩

variable {i : Nat}

theorem Consistent.zeroed (x : α) (h : 0 < depth) : (RawRing.zeroed x).Consistent depth :=
  ⟨h, Nat.zero_le depth, (Nat.zero_mod depth).symm⟩

@[simp] theorem toList_zeroed (x : α) : (zeroed x).toList depth = [] := rfl

@[simp] theorem toList_length (r : RawRing α) : (r.toList depth).length = r.count := by
  simp [toList]

theorem toList_eq_nil_iff : r.toList depth = [] ↔ r.count = 0 := by
  rw [← List.length_eq_zero_iff, toList_length]

theorem Consistent.push (h : r.Consistent depth) (hroom : r.count < depth) (x : α) :
    (r.push depth x).Consistent depth :=
  ⟨h.head_lt, hroom, (h.queue.push x hroom).tail_eq⟩

/-- **Pushing appends**, where there is room. -/
theorem Consistent.toList_push (h : r.Consistent depth) (hroom : r.count < depth) (x : α) :
    (r.push depth x).toList depth = r.toList depth ++ [x] :=
  h.queue.toList_push x hroom

theorem Consistent.drop (h : r.Consistent depth) (hcount : r.count ≠ 0) :
    (r.drop depth).Consistent depth :=
  ⟨(h.queue.dropFront hcount).head_lt, (h.queue.dropFront hcount).count_le,
    (h.queue.dropFront hcount).tail_eq⟩

/-- **A ring that holds something is its front and the rest.** -/
theorem Consistent.toList_eq_cons (h : r.Consistent depth) (hcount : r.count ≠ 0) :
    r.toList depth = r.front :: (r.drop depth).toList depth :=
  h.queue.toList_of_count_ne hcount

theorem getElem?_toList (hi : i < r.count) :
    (r.toList depth)[i]? = some (r.slots ((r.head + i) % depth)) := by
  simp [toList, hi]

/-- **Writing over an element keeps the others** and where they are. -/
theorem Consistent.toList_set (h : r.Consistent depth) (hi : i < r.count) (x : α) :
    (r.set depth i x).toList depth = (r.toList depth).set i x := by
  refine List.ext_getElem (by simp [set]) (fun j hj _ => ?_)
  have hj : j < r.count := (toList_length (r.set depth i x)) ▸ hj
  simp only [toList, set, RingBuffer.write, List.getElem_map, List.getElem_range, List.getElem_set]
  by_cases hij : i = j
  · rw [if_pos hij, if_pos (by rw [hij])]
  · rw [if_neg hij, if_neg]
    exact RingBuffer.index_ne (hj.trans_le h.count_le) (hi.trans_le h.count_le) (Ne.symm hij)

/-- **Two rings that hold the same**, wherever it lies. -/
structure Alike (r s : RawRing α) (depth : Nat) : Prop where
  left : r.Consistent depth
  right : s.Consistent depth
  toList : r.toList depth = s.toList depth

namespace Alike

variable {s : RawRing α} (h : r.Alike s depth)

include h

theorem count_eq : r.count = s.count :=
  calc r.count = (r.toList depth).length := (toList_length r).symm
    _ = (s.toList depth).length := by rw [h.toList]
    _ = s.count := toList_length s

theorem push (hroom : r.count < depth) (x : α) : (r.push depth x).Alike (s.push depth x) depth := by
  have hroom' : s.count < depth := h.count_eq ▸ hroom
  refine ⟨h.left.push hroom x, h.right.push hroom' x, ?_⟩
  rw [h.left.toList_push hroom, h.right.toList_push hroom', h.toList]

theorem front_cons_drop (hcount : r.count ≠ 0) :
    r.front :: (r.drop depth).toList depth = s.front :: (s.drop depth).toList depth := by
  rw [← h.left.toList_eq_cons hcount, ← h.right.toList_eq_cons (h.count_eq ▸ hcount), h.toList]

theorem front_eq (hcount : r.count ≠ 0) : r.front = s.front :=
  (List.cons.inj (h.front_cons_drop hcount)).1

theorem drop (hcount : r.count ≠ 0) : (r.drop depth).Alike (s.drop depth) depth :=
  ⟨h.left.drop hcount, h.right.drop (h.count_eq ▸ hcount),
    (List.cons.inj (h.front_cons_drop hcount)).2⟩

end Alike

end RawRing
