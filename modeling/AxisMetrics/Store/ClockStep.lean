import AxisMetrics.Store.Downsample
import Mathlib.Data.List.Range

/-!
# Downsampling when the clock is stepped back

The mark of an open bucket is a wall-clock time. `KeepsAppending` says of a store that, from
a given push on, no coarse tier waits longer than its interval and one sample gap for its
next row; `keepsAppending_iff` says for which marks that is so.
-/

namespace AxisMetrics

open Lib (ascii)

variable {V D : Type} [SampleArith V D] {n : ℕ} {registry : MetricRegistry}

/-- The pushes of a clock that runs on: each timestamp is at most `gap` after the one before, and
none is before it. -/
def Ticks (gap : ℕ) (pushes : List (Row V n)) : Prop :=
  pushes.IsChain fun row row' : Row V n => row.timestamp.toInt ≤ row'.timestamp.toInt ∧
    row'.timestamp.toInt ≤ row.timestamp.toInt + gap

/-- From the push of `landing` on, every coarse tier appends a row within its interval and one
gap, however the clock runs on. -/
def KeepsAppending (store : Store V D registry) (gap : ℕ) (landing : Row V registry.count) : Prop :=
  ∀ i ≠ 0, ∀ later : List (Row V registry.count), Ticks gap (landing :: later) →
    ∀ last ∈ landing :: later,
      landing.timestamp.toInt + (store.tiers i).intervalS + gap ≤ last.timestamp.toInt →
      appendedRows i store ((landing :: later).map .push) ≠ []

/-- No open bucket has a mark more than one gap after the push, unless the times a whole interval
after it do not exist. -/
def MarksReached (store : Store V D registry) (gap : ℕ) (landing : Row V registry.count) : Prop :=
  ∀ i ≠ 0, (store.tiers i).accStart = 0 ∨
    (store.tiers i).accStart.toInt ≤ landing.timestamp.toInt + gap ∨
    2 ^ 63 ≤ landing.timestamp.toInt + (store.tiers i).intervalS + gap

section Run

variable {store : Store V D registry} {i : Fin STORE_TIERS} {gap : ℕ}
variable {landing : Row V registry.count} {later pushes : List (Row V registry.count)}

/-- An open bucket stays open exactly as long as every push comes before its interval is over. -/
theorem appendedRows_eq_nil_iff (hi : i ≠ 0) (hopen : (store.tiers i).accStart ≠ 0) :
    appendedRows i store (pushes.map .push) = [] ↔ ∀ row ∈ pushes,
      row.timestamp.toInt < (store.tiers i).accStart.toInt + (store.tiers i).intervalS := by
  induction pushes generalizing store with
  | nil => simp [appendedRows]
  | cons row pushes ih =>
    obtain ⟨htier, hrows⟩ := storeStep_push_tier hi store row
    have hmark := tierAccumulate_accStart hopen row
    rw [List.map_cons, appendedRows, List.append_eq_nil_iff, List.forall_mem_cons, hrows]
    by_cases hearly : row.timestamp.toInt <
        (store.tiers i).accStart.toInt + (store.tiers i).intervalS
    · have hpush : coarsePush (store.tiers i) row = _ :=
        coarsePush_early (by rw [hmark]; omega)
      rw [hpush] at htier
      have hopen' : ((storeStep store (.push row)).tiers i).accStart ≠ 0 := by
        rw [htier, hmark]
        exact hopen
      have hstep := ih hopen'
      rw [htier, hmark] at hstep
      rw [hpush, hstep]
      exact ⟨fun h => ⟨hearly, h.2⟩, fun h => ⟨rfl, h.2⟩⟩
    · have hpush : coarsePush (store.tiers i) row = _ :=
        coarsePush_late (by rw [hmark]; omega)
      rw [hpush]
      exact ⟨fun h => absurd h.1 (by simp), fun h => absurd h.1 hearly⟩

/-- With no bucket open, the first push that is not at time zero opens one. A bucket that stays
open is then over no later than one gap after its interval. -/
theorem lt_of_appendedRows_eq_nil (hi : i ≠ 0) (hinterval : 0 < (store.tiers i).intervalS)
    (hclosed : (store.tiers i).accStart = 0) (hticks : Ticks gap (landing :: later))
    (hnone : appendedRows i store ((landing :: later).map .push) = []) :
    (landing.timestamp ≠ 0 → ∀ row ∈ landing :: later,
      row.timestamp.toInt < landing.timestamp.toInt + (store.tiers i).intervalS) ∧
    (landing.timestamp = 0 → ∀ row ∈ landing :: later,
      row.timestamp.toInt < gap + (store.tiers i).intervalS) := by
  induction later generalizing store landing with
  | nil =>
    refine ⟨fun _ row hrow => ?_, fun hzero row hrow => ?_⟩
    · rw [List.mem_singleton.mp hrow]
      omega
    · rw [List.mem_singleton.mp hrow, hzero, Int64.toInt_zero]
      omega
  | cons next later ih =>
    obtain ⟨htier, hrows⟩ := storeStep_push_tier hi store landing
    have hmark : (tierAccumulate (store.tiers i) landing).accStart = landing.timestamp :=
      if_pos hclosed
    have hpush : coarsePush (store.tiers i) landing = _ :=
      coarsePush_early (by rw [hmark]; omega)
    rw [hpush] at htier
    have hmark' : ((storeStep store (.push landing)).tiers i).accStart = landing.timestamp := by
      rw [htier, hmark]
    have hinterval' : ((storeStep store (.push landing)).tiers i).intervalS =
        (store.tiers i).intervalS := by
      rw [htier]
      rfl
    rw [List.map_cons, appendedRows, List.append_eq_nil_iff] at hnone
    obtain ⟨⟨hle, hgap⟩, hticks'⟩ := List.isChain_cons_cons.mp hticks
    refine ⟨fun hne row hrow => ?_, fun hzero row hrow => ?_⟩
    · obtain rfl | hrow := List.mem_cons.mp hrow
      · omega
      · have hall := (appendedRows_eq_nil_iff hi (by rw [hmark']; exact hne)).mp hnone.2 row hrow
        rwa [hmark', hinterval'] at hall
    · obtain ⟨hnext, hnext'⟩ := ih (by rw [hinterval']; exact hinterval)
        (by rw [hmark', hzero]) hticks' hnone.2
      rw [hinterval'] at hnext hnext'
      rw [hzero, Int64.toInt_zero] at hgap
      obtain rfl | hrow := List.mem_cons.mp hrow
      · rw [hzero, Int64.toInt_zero]
        omega
      · by_cases hzero' : next.timestamp = 0
        · exact hnext' hzero' row hrow
        · have hlt := hnext hzero' row hrow
          omega

/-- Where the marks are reached, no tier waits longer. -/
theorem MarksReached.keepsAppending (h : MarksReached store gap landing)
    (hinterval : ∀ i, 0 < (store.tiers i).intervalS) : KeepsAppending store gap landing := by
  intro i hi later hticks last hlast hlate hnone
  have hmax : last.timestamp.toInt < 2 ^ 63 := last.timestamp.toInt_lt
  by_cases hclosed : (store.tiers i).accStart = 0
  · obtain ⟨hne, hzero⟩ := lt_of_appendedRows_eq_nil hi (hinterval i) hclosed hticks hnone
    by_cases hlanding : landing.timestamp = 0
    · have hlt := hzero hlanding last hlast
      rw [hlanding, Int64.toInt_zero] at hlate
      omega
    · have hlt := hne hlanding last hlast
      omega
  · have hlt := (appendedRows_eq_nil_iff hi hclosed).mp hnone last hlast
    obtain hreached | hend := (h i hi).resolve_left hclosed
    · omega
    · omega

/-- The push `k` seconds after another. -/
def pushAfter (landing : Row V n) (k : ℕ) : Row V n :=
  if k = 0 then landing else ⟨Int64.ofInt (landing.timestamp.toInt + k), landing.values⟩

omit [SampleArith V D] in
theorem toInt_pushAfter {landing : Row V n} {k : ℕ} (h : landing.timestamp.toInt + k < 2 ^ 63) :
    (pushAfter landing k).timestamp.toInt = landing.timestamp.toInt + k := by
  have hmin := landing.timestamp.le_toInt
  unfold pushAfter
  split
  · omega
  · exact Int64.toInt_ofInt_of_le (by omega) h

/-- A mark in the future keeps a tier from appending, second after second. -/
theorem KeepsAppending.marksReached (h : KeepsAppending store gap landing) (hgap : 0 < gap) :
    MarksReached store gap landing := by
  intro i hi
  by_contra hnot
  push Not at hnot
  obtain ⟨hopen, hahead, hroom⟩ := hnot
  set seconds := (store.tiers i).intervalS + gap
  have htime (k : ℕ) (hk : k ≤ seconds) :
      (pushAfter landing k).timestamp.toInt = landing.timestamp.toInt + k :=
    toInt_pushAfter (by omega)
  have hlist : (List.range (seconds + 1)).map (pushAfter landing) =
      landing :: (List.range seconds).map (pushAfter landing ∘ Nat.succ) := by
    rw [List.range_succ_eq_map, List.map_cons, List.map_map]
    rfl
  have hticks : Ticks gap (landing :: (List.range seconds).map (pushAfter landing ∘ Nat.succ)) := by
    rw [← hlist, Ticks, List.isChain_map, List.isChain_range_succ]
    intro k hk
    rw [htime k hk.le, htime (k + 1) hk]
    omega
  have hlast : pushAfter landing seconds ∈
      landing :: (List.range seconds).map (pushAfter landing ∘ Nat.succ) := by
    rw [← hlist]
    exact List.mem_map_of_mem (List.mem_range.mpr (Nat.lt_succ_self _))
  refine h i hi _ hticks _ hlast (by rw [htime _ le_rfl]; omega) ?_
  rw [appendedRows_eq_nil_iff hi hopen, ← hlist]
  intro row hrow
  obtain ⟨k, hk, rfl⟩ := List.mem_map.mp hrow
  have hk := List.mem_range.mp hk
  rw [htime k (by omega)]
  omega

/-- Along any run, a store keeps appending after a push exactly when the marks of its open buckets
are reached one gap after it. -/
theorem keepsAppending_iff {baseIntervalS memory : ℕ}
    (hstore : StoreReachable registry baseIntervalS memory store) (hgap : 0 < gap) :
    KeepsAppending store gap landing ↔ MarksReached store gap landing := by
  refine ⟨fun h => h.marksReached hgap, fun h => h.keepsAppending fun i => ?_⟩
  rw [(hstore.shape i).1]
  exact tierInterval_pos baseIntervalS i

end Run

/-- A store sampled every second, after its first push. -/
abbrev startedStore (timestamp : Int64) : Store CFloat Float (.registerAll [ascii "cpu.usage"]) :=
  (storePush (storeNew _ 1 0) ⟨timestamp, fun _ => ⟨0⟩⟩).1

/-- A step back by one second is made up for by the next sample. -/
theorem keepsAppending_secondBack : KeepsAppending (startedStore 1000) 1 ⟨999, fun _ => ⟨0⟩⟩ :=
  (keepsAppending_iff (.push _ .new : StoreReachable _ 1 0 (startedStore 1000)) (by decide)).2 (by
    intro i hi
    have hcoarse : i = 1 ∨ i = 2 := by
      revert i
      decide
    obtain rfl | rfl := hcoarse
    · exact Or.inr (Or.inl (show (1000 : Int64).toInt ≤ (999 : Int64).toInt + 1 by decide))
    · exact Or.inr (Or.inl (show (1000 : Int64).toInt ≤ (999 : Int64).toInt + 1 by decide)))

/-- A step back by an hour keeps both coarse tiers from appending for an hour. -/
theorem not_keepsAppending_hourBack :
    ¬ KeepsAppending (startedStore 1700000000) 1 ⟨1699996400, fun _ => ⟨0⟩⟩ := by
  intro h
  have hmark : ((startedStore 1700000000).tiers 1).accStart = 1700000000 := rfl
  have hinterval : ((startedStore 1700000000).tiers 1).intervalS = 15 := rfl
  have hreached := h.marksReached (by decide) 1 (by decide)
  rw [hmark, hinterval] at hreached
  exact absurd hreached (by decide)

end AxisMetrics
