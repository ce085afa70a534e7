import AxisMetrics.Store.History

/-!
# The arrays behind a tier

`StoreTier` keeps its rows in two arrays, with `guint` indices: one timestamp for each slot, and
`data`, row-major by sample. The ring of rows of the model is what these arrays spell out, and
no index computation wraps around `2^32` or leaves the arrays.
-/

namespace AxisMetrics

open Lib (RingBuffer guint guintSub)

variable {V : Type} {n : ℕ}

/-- `capacity`, `count`, `head`, `timestamps` and `data` of a `StoreTier`. -/
structure TierMemory (V : Type) where
  capacity : ℕ
  count : ℕ
  head : ℕ
  timestamps : ℕ → Int64
  data : ℕ → V

namespace TierMemory

/-- `memcpy` of a row of values to an index of `data`. -/
def copyRow (data : ℕ → V) (index : ℕ) (values : Fin n → V) : ℕ → V := fun j =>
  if h : index ≤ j ∧ j < index + n then values ⟨j - index, by omega⟩ else data j

/-- `tier_append`. -/
def append (memory : TierMemory V) (row : Row V n) : TierMemory V where
  capacity := memory.capacity
  timestamps := Function.update memory.timestamps memory.head row.timestamp
  data := copyRow memory.data (memory.head * n) row.values
  head := guint (memory.head + 1) % memory.capacity
  count := if memory.count < memory.capacity then guint (memory.count + 1) else memory.count

/-- The slot of the row at `index`, oldest first. -/
def slot (memory : TierMemory V) (index : ℕ) : ℕ :=
  let start := guintSub (guint (memory.head + memory.capacity)) memory.count % memory.capacity
  guint (start + index) % memory.capacity

/-- The row in a slot. -/
def row (n : ℕ) (memory : TierMemory V) (slot : ℕ) : Row V n :=
  ⟨memory.timestamps slot, fun m => memory.data (slot * n + m)⟩

/-- `store_tier_sample`. -/
def sample (n : ℕ) (memory : TierMemory V) (index : ℕ) : Option (Row V n) :=
  if index < memory.count then some (memory.row n (memory.slot index)) else none

/-- The arrays hold a ring of rows, small enough for `guint` indices. -/
structure Holds (memory : TierMemory V) (ring : RingBuffer (Row V n)) : Prop where
  capacity : memory.capacity = ring.capacity
  count : memory.count = ring.count
  head : memory.head = ring.head
  row : ∀ slot < ring.capacity, memory.row n slot = ring.slots slot
  capacity_le : ring.capacity ≤ 2 ^ 31

variable {memory : TierMemory V} {ring : RingBuffer (Row V n)}

theorem copyRow_self (data : ℕ → V) (slot : ℕ) (values : Fin n → V) (m : Fin n) :
    copyRow data (slot * n) values (slot * n + m) = values m := by
  have hm := m.isLt
  have hin : slot * n ≤ slot * n + (m : ℕ) ∧ slot * n + (m : ℕ) < slot * n + n := by omega
  rw [copyRow, dif_pos hin]
  congr 1
  exact Fin.ext (Nat.add_sub_cancel_left _ _)

/-- Rows of different slots do not overlap. -/
theorem copyRow_of_ne (data : ℕ → V) {slot slot' : ℕ} (h : slot ≠ slot') (values : Fin n → V)
    (m : Fin n) : copyRow data (slot' * n) values (slot * n + m) = data (slot * n + m) := by
  have hm := m.isLt
  have hout : ¬ (slot' * n ≤ slot * n + (m : ℕ) ∧ slot * n + (m : ℕ) < slot' * n + n) := by
    rintro ⟨hge, hlt⟩
    rcases Nat.lt_or_gt_of_ne h with hbefore | hafter
    · have := Nat.mul_le_mul_right n (Nat.succ_le_of_lt hbefore)
      rw [Nat.succ_mul] at this
      omega
    · have := Nat.mul_le_mul_right n (Nat.succ_le_of_lt hafter)
      rw [Nat.succ_mul] at this
      omega
  rw [copyRow, dif_neg hout]

theorem row_append (memory : TierMemory V) (row : Row V n) (slot : ℕ) :
    (memory.append row).row n slot = if slot = memory.head then row else memory.row n slot := by
  by_cases h : slot = memory.head
  · subst h
    rw [if_pos rfl]
    simp only [append, TierMemory.row, Function.update_self, copyRow_self]
  · rw [if_neg h]
    simp only [append, TierMemory.row, Function.update_of_ne h, copyRow_of_ne _ h]

/-- Appending to the arrays is pushing to the ring. -/
theorem Holds.append (h : Holds memory ring) (row : Row V n) :
    Holds (memory.append row) (ring.push row) := by
  have hhead := ring.head_lt
  have hle := h.capacity_le
  refine ⟨h.capacity, ?_, ?_, fun slot hslot => ?_, h.capacity_le⟩
  · simp only [TierMemory.append, RingBuffer.push, h.capacity, h.count]
    split
    · exact Lib.guint_of_lt (by omega)
    · rfl
  · simp only [TierMemory.append, RingBuffer.push, h.capacity, h.head]
    rw [Lib.guint_of_lt (by omega)]
  · rw [row_append, h.head]
    split
    · next heq =>
      subst heq
      exact (Function.update_self ring.head row ring.slots).symm
    · next hne =>
      rw [h.row slot hslot]
      exact (Function.update_of_ne hne row ring.slots).symm

theorem Holds.appendAll (h : Holds memory ring) (rows : List (Row V n)) :
    Holds (rows.foldl TierMemory.append memory) (ring.pushAll rows) := by
  induction rows generalizing memory ring with
  | nil => exact h
  | cons row rows ih => exact ih (h.append row)

/-- The start slot neither wraps below zero nor above `2^32`. -/
theorem Holds.slot_eq (h : Holds memory ring) {index : ℕ} (hindex : index < ring.count) :
    memory.slot index = ((ring.head + ring.capacity - ring.count) % ring.capacity + index) %
      ring.capacity := by
  have hhead := ring.head_lt
  have hcount := ring.count_le
  have hle := h.capacity_le
  have hmod := Nat.mod_lt (ring.head + ring.capacity - ring.count) (ring.capacity_pos)
  have hsum : guint (ring.head + ring.capacity) = ring.head + ring.capacity :=
    Lib.guint_of_lt (by omega)
  have hstart : guintSub (ring.head + ring.capacity) ring.count =
      ring.head + ring.capacity - ring.count :=
    Lib.guintSub_of_le (by omega) (by omega) (by omega)
  rw [slot, h.capacity, h.count, h.head, hsum, hstart]
  rw [Lib.guint_of_lt (by omega)]

/-- Reading the arrays gives the rows of the ring, oldest first, and nothing past the end. -/
theorem Holds.sample_eq (h : Holds memory ring) (index : ℕ) :
    memory.sample n index = ring.toList[index]? := by
  unfold sample
  rw [h.count]
  split
  · next hindex =>
    rw [h.slot_eq hindex, h.row _ (Nat.mod_lt _ ring.capacity_pos), RingBuffer.toList,
      Lib.ringWindow, List.getElem?_map, List.getElem?_range hindex, Option.map_some]
  · next hindex =>
    rw [List.getElem?_eq_none (by simpa using hindex)]

end TierMemory

variable {D : Type} [SampleArith V D] {registry : MetricRegistry}

/-- The arrays as `store_new` allocates them. -/
def newTierMemory (V : Type) {D : Type} [SampleArith V D] (capacity : ℕ) : TierMemory V where
  capacity := capacity
  count := 0
  head := 0
  timestamps := fun _ => 0
  data := fun _ => SampleArith.zero

/-- The arrays of a tier, filled by a run, read as the last rows appended. -/
theorem sample_newTierMemory (registry : MetricRegistry) (baseIntervalS memory : ℕ)
    (events : List (StoreEvent V registry.count)) (i : Fin STORE_TIERS) (index : ℕ) :
    ((appendedRows i (storeNew registry baseIntervalS memory) events).foldl TierMemory.append
        (newTierMemory V (tierCapacity registry.count baseIntervalS memory i))).sample
          registry.count index =
      storeTierSample (storeRun (storeNew registry baseIntervalS memory) events) i index := by
  have hreachable : StoreReachable (V := V) registry baseIntervalS memory (storeNew _ _ _) := .new
  have hcapacity := (hreachable.capacity_bounds i).2
  have hnew : TierMemory.Holds (newTierMemory V (tierCapacity registry.count baseIntervalS memory i))
      ((storeNew (V := V) registry baseIntervalS memory).tiers i).ring :=
    ⟨rfl, rfl, rfl, fun _ _ => rfl, hcapacity.trans (by decide)⟩
  have hrows := tierRows_storeRun (storeNew registry baseIntervalS memory) i events
  rw [(hnew.appendAll _).sample_eq, RingBuffer.toList_pushAll, (showsRows_tierRows _ i).sample,
    hrows]
  rfl

end AxisMetrics
