import Mathlib.Data.List.DropRight
import Mathlib.Tactic.Common

/-!
# Circular buffers as bounded lists

A fixed set of slots, the next slot to write and the number of live slots. The
structure carries its own index bounds. `RingBuffer.toList` is what a reader sees,
oldest first, and `RingBuffer.toList_pushAll` says that pushing is appending to a
list of which only the last `capacity` elements are kept.

A reader may also hold an index (`head`, `count`) taken before later pushes.
`RingBuffer.window_of_count_add_le` and `RingBuffer.window_of_wrapped` say exactly
what such a stale index shows.
-/

namespace Lib

variable {α : Type*}

/-- The `count` slots that end just before `head`, in a circle of `capacity` slots. -/
def ringWindow (slots : ℕ → α) (capacity head count : ℕ) : List α :=
  (List.range count).map fun i =>
    slots (((head + capacity - count) % capacity + i) % capacity)

/-- A circular buffer together with the bounds of its indices. -/
structure RingBuffer (α : Type*) where
  capacity : ℕ
  slots : ℕ → α
  head : ℕ
  count : ℕ
  head_lt : head < capacity
  count_le : count ≤ capacity

namespace RingBuffer

/-- An empty buffer whose first write goes to slot zero. -/
def empty (capacity : ℕ) (slots : ℕ → α) (h : 0 < capacity) : RingBuffer α :=
  ⟨capacity, slots, 0, 0, h, Nat.zero_le _⟩

/-- Write at the head and advance; a full buffer loses its oldest slot. -/
def push (r : RingBuffer α) (x : α) : RingBuffer α where
  capacity := r.capacity
  slots := Function.update r.slots r.head x
  head := (r.head + 1) % r.capacity
  count := if r.count < r.capacity then r.count + 1 else r.count
  head_lt := Nat.mod_lt _ (by have := r.head_lt; omega)
  count_le := by have := r.count_le; split <;> omega

/-- Push a whole list, first element first. -/
def pushAll (r : RingBuffer α) (xs : List α) : RingBuffer α := xs.foldl push r

/-- The live elements, oldest first. -/
def toList (r : RingBuffer α) : List α := ringWindow r.slots r.capacity r.head r.count

theorem capacity_pos (r : RingBuffer α) : 0 < r.capacity :=
  Nat.lt_of_le_of_lt (Nat.zero_le _) r.head_lt

@[simp] theorem pushAll_nil (r : RingBuffer α) : r.pushAll [] = r := rfl

@[simp] theorem pushAll_cons (r : RingBuffer α) (x : α) (xs : List α) :
    r.pushAll (x :: xs) = (r.push x).pushAll xs := rfl

theorem pushAll_append (r : RingBuffer α) (xs ys : List α) :
    r.pushAll (xs ++ ys) = (r.pushAll xs).pushAll ys := List.foldl_append

@[simp] theorem push_capacity (r : RingBuffer α) (x : α) : (r.push x).capacity = r.capacity := rfl

@[simp] theorem pushAll_capacity (r : RingBuffer α) (xs : List α) :
    (r.pushAll xs).capacity = r.capacity := by
  induction xs generalizing r with
  | nil => rfl
  | cons x xs ih => rw [pushAll_cons, ih, push_capacity]

theorem pushAll_count (r : RingBuffer α) (xs : List α) :
    (r.pushAll xs).count = min (r.count + xs.length) r.capacity := by
  induction xs generalizing r with
  | nil => simp [r.count_le]
  | cons x xs ih =>
    have hle := r.count_le
    rw [pushAll_cons, ih, push_capacity, List.length_cons]
    simp only [push]
    split <;> omega

@[simp] theorem length_toList (r : RingBuffer α) : r.toList.length = r.count := by
  simp [toList, ringWindow]

/-- Positions less than a whole turn apart are different slots. -/
theorem add_mod_ne (capacity base : ℕ) {i j : ℕ} (hij : i < j) (hj : j < i + capacity) :
    (base + i) % capacity ≠ (base + j) % capacity := by
  intro h
  have hd : ((base + j) - (base + i)) % capacity = 0 := Nat.sub_mod_eq_zero_of_mod_eq h.symm
  have hle := Nat.le_of_dvd (by omega) (Nat.dvd_of_mod_eq_zero hd)
  omega

/-- A slot that none of the pushes reaches keeps its content. -/
theorem slots_pushAll_of_ne (r : RingBuffer α) (xs : List α) (s : ℕ)
    (h : ∀ p < xs.length, s ≠ (r.head + p) % r.capacity) :
    (r.pushAll xs).slots s = r.slots s := by
  induction xs generalizing r with
  | nil => rfl
  | cons x xs ih =>
    have h0 : s ≠ r.head := by
      simpa [Nat.mod_eq_of_lt r.head_lt] using h 0 (by simp)
    rw [pushAll_cons, ih]
    · exact Function.update_of_ne h0 _ _
    · intro p hp
      have hs := h (p + 1) (by simpa using hp)
      simpa only [push, Nat.mod_add_mod, Nat.add_assoc, Nat.add_comm 1 p] using hs

/-- A run of pushes within one turn leaves its elements in consecutive slots. -/
theorem slots_pushAll (r : RingBuffer α) (xs : List α) (hxs : xs.length ≤ r.capacity)
    (p : ℕ) (hp : p < xs.length) :
    (r.pushAll xs).slots ((r.head + p) % r.capacity) = xs[p] := by
  induction xs generalizing r p with
  | nil => simp at hp
  | cons x xs ih =>
    rw [List.length_cons] at hxs hp
    cases p with
    | zero =>
      rw [pushAll_cons, slots_pushAll_of_ne]
      · simp [push, Nat.mod_eq_of_lt r.head_lt]
      · intro q hq
        simp only [push, Nat.mod_add_mod, Nat.add_assoc]
        exact add_mod_ne _ _ (by omega) (by omega)
    | succ p =>
      have hstep := ih (r.push x) (by rw [push_capacity]; omega) p (by omega)
      simpa only [pushAll_cons, push, Nat.mod_add_mod, Nat.add_assoc, Nat.add_comm 1 p,
        List.getElem_cons_succ] using hstep

/-- Position `i` of the live window, counted from the head without the inner reduction. -/
theorem window_slot (capacity head count i : ℕ) :
    ((head + capacity - count) % capacity + i) % capacity =
      (head + capacity - count + i) % capacity := Nat.mod_add_mod _ _ _

/-- While the pushes fit beside the window, the old index still shows the old list. -/
theorem window_of_count_add_le (r : RingBuffer α) (xs : List α)
    (h : r.count + xs.length ≤ r.capacity) :
    ringWindow (r.pushAll xs).slots r.capacity r.head r.count = r.toList := by
  unfold toList ringWindow
  refine List.map_congr_left fun i hi => slots_pushAll_of_ne r xs _ fun p hp => ?_
  have hi := List.mem_range.mp hi
  have hh := r.head_lt
  rw [window_slot]
  have hne := add_mod_ne r.capacity (r.head + r.capacity - r.count)
    (show i < r.count + p by omega) (by omega)
  have he : r.head + r.capacity - r.count + (r.count + p) = r.head + p + r.capacity := by omega
  rwa [he, Nat.add_mod_right] at hne

/-- Once the pushes run into the window, the old index shows the newest pushes
before the oldest elements that are still there. -/
theorem window_of_wrapped (r : RingBuffer α) (xs : List α) (hle : xs.length ≤ r.capacity)
    (h : r.capacity ≤ r.count + xs.length) :
    ringWindow (r.pushAll xs).slots r.capacity r.head r.count =
      xs.drop (r.capacity - r.count) ++ r.toList.drop (r.count + xs.length - r.capacity) := by
  have hh := r.head_lt
  have hc := r.count_le
  refine List.ext_getElem ?_ fun i hi _ => ?_
  · simp [ringWindow]
    omega
  have hi : i < r.count := by simpa [ringWindow] using hi
  have hslot : (r.head + r.capacity - r.count + i) = r.head + (r.capacity - r.count + i) := by
    omega
  by_cases hnew : i < (xs.drop (r.capacity - r.count)).length
  · rw [List.getElem_append_left hnew]
    rw [List.length_drop] at hnew
    simp only [ringWindow, List.getElem_map, List.getElem_range, window_slot, hslot,
      List.getElem_drop]
    exact slots_pushAll r xs hle _ (by omega)
  · rw [List.getElem_append_right (by omega)]
    rw [List.length_drop] at hnew
    have hidx : r.count + xs.length - r.capacity + (i - (xs.length - (r.capacity - r.count))) = i := by
      omega
    simp only [List.getElem_drop, List.length_drop, hidx]
    simp only [toList, ringWindow, List.getElem_map, List.getElem_range, window_slot, hslot]
    refine slots_pushAll_of_ne r xs _ fun p hp => ?_
    exact (add_mod_ne _ _ (by omega) (by omega)).symm

/-- One push appends, and drops from the front what no longer fits. -/
theorem toList_push (r : RingBuffer α) (x : α) :
    (r.push x).toList = (r.toList ++ [x]).rtake r.capacity := by
  have hh := r.head_lt
  have hc := r.count_le
  have hs := fun s => slots_pushAll_of_ne r [x] s
  simp only [List.length_singleton, Nat.lt_one_iff, forall_eq, Nat.add_zero,
    Nat.mod_eq_of_lt hh, pushAll_cons, pushAll_nil] at hs
  have hlen : (r.push x).count = min (r.count + 1) r.capacity := by
    simp only [push]; split <;> omega
  refine List.ext_getElem ?_ fun i hi _ => ?_
  · simp only [length_toList, List.rtake, List.length_drop, List.length_append,
      List.length_singleton, hlen]
    omega
  rw [length_toList, hlen] at hi
  have hwin : ((r.push x).head + r.capacity - (r.push x).count + i) % r.capacity =
      (r.head + r.capacity + 1 - (r.push x).count + i) % r.capacity := by
    have hle : (r.push x).count ≤ r.capacity := (r.push x).count_le
    simp only [push] at hle ⊢
    rcases Nat.lt_or_ge (r.head + 1) r.capacity with hlt | hge
    · rw [Nat.mod_eq_of_lt hlt]
      congr 1
      omega
    · have heq : r.head + 1 = r.capacity := by omega
      rw [heq, Nat.mod_self, show r.head + r.capacity + 1 = r.capacity + r.capacity by omega,
        ← Nat.add_mod_right]
      congr 1
      omega
  simp only [List.rtake, List.getElem_drop, List.length_append, length_toList,
    List.length_singleton]
  rw [show (r.push x).toList[i] = (r.push x).slots
      ((r.head + r.capacity + 1 - (r.push x).count + i) % r.capacity) by
    simp only [toList, ringWindow, List.getElem_map, List.getElem_range, window_slot,
      push_capacity, hwin]]
  by_cases hlast : i + 1 = (r.push x).count
  · -- the newest element sits in the slot just written
    rw [List.getElem_append_right (by rw [length_toList]; omega)]
    have hslot : r.head + r.capacity + 1 - (r.push x).count + i = r.head + r.capacity := by omega
    rw [hslot, Nat.add_mod_right, Nat.mod_eq_of_lt hh]
    simp [push]
  · rw [List.getElem_append_left (by rw [length_toList]; omega), hs]
    · simp only [toList, ringWindow, List.getElem_map, List.getElem_range, window_slot]
      congr 2
      omega
    · have hne := add_mod_ne r.capacity r.head
        (show r.capacity + 1 - (r.push x).count + i < r.capacity by omega) (by omega)
      rw [Nat.add_mod_right, Nat.mod_eq_of_lt hh] at hne
      rwa [show r.head + r.capacity + 1 - (r.push x).count + i =
        r.head + (r.capacity + 1 - (r.push x).count + i) by omega]

end RingBuffer

theorem rtake_of_length_le {l : List α} {n : ℕ} (h : l.length ≤ n) : l.rtake n = l := by
  simp [List.rtake, Nat.sub_eq_zero_of_le h]

theorem length_rtake (l : List α) (n : ℕ) : (l.rtake n).length = min n l.length := by
  simp only [List.rtake, List.length_drop]
  omega

/-- Elements dropped early would have been dropped later anyway. -/
theorem rtake_rtake_append (l xs : List α) (n : ℕ) :
    (l.rtake n ++ xs).rtake n = (l ++ xs).rtake n := by
  simp only [List.rtake_eq_reverse_take_reverse, List.reverse_append, List.reverse_reverse,
    List.take_append, List.take_take, List.length_reverse]
  congr 3
  omega

theorem map_rtake {β : Type*} (f : α → β) (l : List α) (n : ℕ) :
    (l.rtake n).map f = (l.map f).rtake n := by
  simp [List.rtake, List.map_drop]

theorem mem_of_mem_rtake {l : List α} {n : ℕ} {x : α} (h : x ∈ l.rtake n) : x ∈ l :=
  List.mem_of_mem_drop h

namespace RingBuffer

/-- A run of pushes appends the run, and keeps the last `capacity` elements. -/
theorem toList_pushAll (r : RingBuffer α) (xs : List α) :
    (r.pushAll xs).toList = (r.toList ++ xs).rtake r.capacity := by
  induction xs generalizing r with
  | nil =>
    rw [pushAll_nil, List.append_nil, rtake_of_length_le]
    rw [length_toList]
    exact r.count_le
  | cons x xs ih =>
    rw [pushAll_cons, ih, toList_push, push_capacity, rtake_rtake_append, List.append_assoc,
      List.singleton_append]

@[simp] theorem toList_empty (capacity : ℕ) (slots : ℕ → α) (h : 0 < capacity) :
    (empty capacity slots h).toList = [] := rfl

/-- From an empty buffer, what is kept is the end of everything pushed. -/
theorem toList_pushAll_empty (capacity : ℕ) (slots : ℕ → α) (h : 0 < capacity) (xs : List α) :
    ((empty capacity slots h).pushAll xs).toList = xs.rtake capacity := by
  rw [toList_pushAll, toList_empty, List.nil_append]
  rfl

/-- A write at the head that does not advance: the slot changes, the indices do not. -/
def spoil (r : RingBuffer α) (x : α) : RingBuffer α :=
  { r with slots := Function.update r.slots r.head x }

@[simp] theorem spoil_head (r : RingBuffer α) (x : α) : (r.spoil x).head = r.head := rfl

@[simp] theorem spoil_slots_head (r : RingBuffer α) (x : α) : (r.spoil x).slots r.head = x :=
  Function.update_self _ _ _

/-- The next write to the slot leaves nothing of the one before. -/
@[simp] theorem spoil_spoil (r : RingBuffer α) (x y : α) : (r.spoil x).spoil y = r.spoil y := by
  simp [spoil]

@[simp] theorem spoil_push (r : RingBuffer α) (x y : α) : (r.spoil x).push y = r.push y := by
  simp only [spoil, push, Function.update_idem]
  rfl

/-- With room left, the slot at the head is not live. -/
theorem toList_spoil_of_room {r : RingBuffer α} (h : r.count < r.capacity) (x : α) :
    (r.spoil x).toList = r.toList := by
  exact window_of_count_add_le r [x] h

/-- In a full buffer, the slot at the head is the oldest element. -/
theorem toList_of_full {r : RingBuffer α} (h : r.count = r.capacity) :
    r.toList = r.slots r.head :: r.toList.tail := by
  have hpos := r.capacity_pos
  obtain ⟨n, hn⟩ : ∃ n, r.count = n + 1 := ⟨r.count - 1, by omega⟩
  have hstart : (r.head + r.capacity - r.count) % r.capacity = r.head := by
    rw [h, Nat.add_sub_cancel, Nat.mod_eq_of_lt r.head_lt]
  rw [toList, ringWindow, hstart, hn, List.range_succ_eq_map, List.map_cons, List.tail_cons,
    Nat.add_zero, Nat.mod_eq_of_lt r.head_lt]

theorem toList_spoil_of_full {r : RingBuffer α} (h : r.count = r.capacity) (x : α) :
    (r.spoil x).toList = x :: r.toList.tail := by
  have hwindow := window_of_wrapped r [x] r.capacity_pos (by simp [h])
  have hdrop : r.count + [x].length - r.capacity = 1 := by simp [h]
  rw [hdrop, h, Nat.sub_self, List.drop_zero, List.drop_one, List.singleton_append] at hwindow
  change ringWindow (r.pushAll [x]).slots r.capacity r.head r.count = _
  rw [h, hwindow]

end RingBuffer

end Lib
