import AxisMetrics.Lib.Buckets
import AxisMetrics.Store.History
import Mathlib.Algebra.Order.Field.Rat

/-!
# Downsampling

With exact arithmetic a coarse tier cuts the pushed samples into consecutive buckets and keeps,
for each bucket, one row of means. The accumulators hold the samples of the bucket that is still
open.
-/

namespace AxisMetrics

open Lib (Cut ascii)

/-- Exact readings, with `none` for NaN. -/
instance : SampleArith (Option ℚ) ℚ where
  zero := some 0
  nan := none
  isnan := Option.isNone
  isnan_nan := rfl
  accZero := 0
  accAdd sum x := sum + x.getD 0
  mean sum n := some (sum / n)

variable {n : ℕ} {registry : MetricRegistry}

section Coarse

variable {V D : Type} [SampleArith V D] {tier : StoreTier V D n} {row : Row V n}

/-- An open bucket keeps its mark. -/
theorem tierAccumulate_accStart (h : tier.accStart ≠ 0) (row : Row V n) :
    (tierAccumulate tier row).accStart = tier.accStart := if_neg h

/-- A sample that comes early enough joins the open bucket. -/
theorem coarsePush_early (h : row.timestamp.toInt - (tierAccumulate tier row).accStart.toInt <
    tier.intervalS) : coarsePush tier row = (tierAccumulate tier row, none) :=
  if_neg (not_le.mpr h)

/-- Any other sample closes the bucket. -/
theorem coarsePush_late (h : (tier.intervalS : ℤ) ≤
    row.timestamp.toInt - (tierAccumulate tier row).accStart.toInt) :
    coarsePush tier row =
      ({ tierAppend (tierAccumulate tier row)
            (bucketRow (tierAccumulate tier row) row.timestamp) with
          acc := fun _ => SampleArith.accZero V
          accN := fun _ => 0
          accStart := row.timestamp },
        some (bucketRow (tierAccumulate tier row) row.timestamp)) :=
  if_pos h

theorem storeStep_push_tier {i : Fin STORE_TIERS} (hi : i ≠ 0) (store : Store V D registry)
    (row : Row V registry.count) :
    (storeStep store (.push row)).tiers i = (coarsePush (store.tiers i) row).1 ∧
      stepRows store i (.push row) = (coarsePush (store.tiers i) row).2.toList := by
  simp [storeStep, storePush, stepRows, tierPush, hi]

end Coarse

/-- The readings of one metric in a bucket, without the gaps. -/
def readings (bucket : List (Row (Option ℚ) n)) (m : Fin n) : List ℚ :=
  bucket.filterMap fun row => row.values m

/-- The mean of the readings, or none if there are none. -/
def meanReading (xs : List ℚ) : Option ℚ := if xs = [] then none else some (xs.sum / xs.length)

/-- The row of means of a bucket, at the time that closed it. -/
def meanRow (bucket : List (Row (Option ℚ) n)) : Option (Row (Option ℚ) n) :=
  bucket.getLast?.map fun last => ⟨last.timestamp, fun m => meanReading (readings bucket m)⟩

/-- The accumulators hold exactly the samples of the list. -/
structure Accumulates (tier : StoreTier (Option ℚ) ℚ n) (rest : List (Row (Option ℚ) n)) :
    Prop where
  acc : ∀ m, tier.acc m = (readings rest m).sum
  accN : ∀ m, tier.accN m = (readings rest m).length

/-- The time of the first push, from which the first bucket is counted. -/
def firstMark : List (Row (Option ℚ) n) → ℤ
  | [] => 0
  | first :: _ => first.timestamp.toInt

/-- A tier has downsampled the pushes: it appended one row for each bucket, shows the last of
them, and has the open bucket in its accumulators. -/
structure Downsampled (tier : StoreTier (Option ℚ) ℚ n)
    (pushes appended : List (Row (Option ℚ) n)) (buckets : List (List (Row (Option ℚ) n)))
    (rest : List (Row (Option ℚ) n)) : Prop where
  cut : Cut (fun row => row.timestamp.toInt) tier.intervalS (firstMark pushes) pushes buckets rest
  parts : pushes = buckets.flatten ++ rest
  means : appended.map some = buckets.map meanRow
  apart : appended.Pairwise fun row row' =>
    row.timestamp.toInt + (tier.intervalS : ℤ) ≤ row'.timestamp.toInt
  rows : tierRows tier = appended.rtake tier.ring.capacity
  held : Accumulates tier rest

section Step

variable {tier : StoreTier (Option ℚ) ℚ n} {rest : List (Row (Option ℚ) n)}
variable {row : Row (Option ℚ) n}

theorem readings_append (rest : List (Row (Option ℚ) n)) (row : Row (Option ℚ) n) (m : Fin n) :
    readings (rest ++ [row]) m = readings rest m ++ (row.values m).toList := by
  rw [readings, List.filterMap_append]
  cases hvalue : row.values m <;> simp [readings, hvalue]

/-- A sample joins the open bucket. -/
theorem Accumulates.accumulate (h : Accumulates tier rest) (row : Row (Option ℚ) n) :
    Accumulates (tierAccumulate tier row) (rest ++ [row]) := by
  constructor
  · intro m
    rw [readings_append]
    cases hvalue : row.values m with
    | none => simp [tierAccumulate, SampleArith.isnan, hvalue, h.acc m]
    | some x => simp [tierAccumulate, SampleArith.isnan, SampleArith.accAdd, hvalue, h.acc m]
  · intro m
    rw [readings_append]
    cases hvalue : row.values m with
    | none => simp [tierAccumulate, SampleArith.isnan, hvalue, h.accN m]
    | some x => simp [tierAccumulate, SampleArith.isnan, hvalue, h.accN m]

/-- The row a bucket closes with is its row of means. -/
theorem Accumulates.bucketRow_eq (h : Accumulates tier (rest ++ [row])) :
    meanRow (rest ++ [row]) = some (bucketRow tier row.timestamp) := by
  rw [meanRow, List.getLast?_append, List.getLast?_singleton, Option.some_or, Option.map_some]
  congr 2
  funext m
  rw [h.accN m, h.acc m, meanReading]
  simp only [List.length_eq_zero_iff]
  rfl

theorem accumulates_cleared (tier : StoreTier (Option ℚ) ℚ n) (timestamp : Int64) :
    Accumulates { tier with
      acc := fun _ => SampleArith.accZero (Option ℚ), accN := fun _ => 0, accStart := timestamp }
      [] where
  acc _ := rfl
  accN _ := rfl

end Step

section Run

variable {store : Store (Option ℚ) ℚ registry} {i : Fin STORE_TIERS} {interval : ℕ} {mark : ℤ}
variable {rest pushes : List (Row (Option ℚ) registry.count)}

/-- From a state with an open bucket on, the open bucket and the pushes are cut, each bucket that
closes appends its row of means, and the last open bucket is in the accumulators. -/
theorem cut_storeRun (hi : i ≠ 0) (hinterval : (store.tiers i).intervalS = interval)
    (hrest : Accumulates (store.tiers i) rest) (hmark : (store.tiers i).accStart.toInt = mark)
    (hpos : 0 < mark) (hearly : ∀ row ∈ rest, row.timestamp.toInt - mark < interval)
    (hpushes : ∀ row ∈ pushes, 0 < row.timestamp.toInt) :
    ∃ buckets rest', Cut (fun row => row.timestamp.toInt) interval mark (rest ++ pushes) buckets
        rest' ∧
      (appendedRows i store (pushes.map .push)).map some = buckets.map meanRow ∧
      Accumulates ((storeRun store (pushes.map .push)).tiers i) rest' := by
  induction pushes generalizing store rest mark with
  | nil =>
    refine ⟨[], rest, ?_, rfl, hrest⟩
    rw [List.append_nil]
    exact Cut.rest hearly
  | cons row pushes ih =>
    obtain ⟨hrow, hpushes⟩ := List.forall_mem_cons.mp hpushes
    obtain ⟨htier, hrows⟩ := storeStep_push_tier hi store row
    have hopened : (store.tiers i).accStart ≠ 0 := by
      intro hzero
      rw [hzero] at hmark
      exact absurd (hmark ▸ hpos) (by decide)
    have hstart := tierAccumulate_accStart hopened row
    have hjoin := hrest.accumulate row
    have hinterval' : ((storeStep store (.push row)).tiers i).intervalS = interval :=
      (tierPush_intervalS i _ row).trans hinterval
    rw [List.map_cons, storeRun_cons, appendedRows, hrows]
    by_cases hlate : (interval : ℤ) ≤ row.timestamp.toInt - mark
    · -- the bucket closes with this sample
      have hpush : coarsePush (store.tiers i) row = _ := coarsePush_late
        (by rw [hstart, hmark, hinterval]; exact hlate)
      rw [hpush] at htier ⊢
      have hcleared : Accumulates ((storeStep store (.push row)).tiers i) [] :=
        htier ▸ accumulates_cleared _ _
      obtain ⟨buckets, rest', hcut, happended, hopen⟩ := ih hinterval' hcleared (htier ▸ rfl) hrow
        (by simp) hpushes
      rw [List.nil_append] at hcut
      refine ⟨(rest ++ [row]) :: buckets, rest', Cut.bucket hearly hlate hcut, ?_, hopen⟩
      rw [Option.toList_some, List.map_append, happended, List.map_singleton,
        ← hjoin.bucketRow_eq, List.singleton_append, List.map_cons]
    · have hpush : coarsePush (store.tiers i) row = _ := coarsePush_early
        (by rw [hstart, hmark, hinterval]; exact not_le.mp hlate)
      rw [hpush] at htier ⊢
      have hearly' : ∀ other ∈ rest ++ [row], other.timestamp.toInt - mark < interval := by
        intro other hother
        rcases List.mem_append.mp hother with hmem | hmem
        · exact hearly other hmem
        · rw [List.mem_singleton.mp hmem]
          exact not_le.mp hlate
      obtain ⟨buckets, rest', hcut, happended, hopen⟩ := ih hinterval' (htier ▸ hjoin)
        (htier ▸ hstart ▸ hmark) hpos hearly' hpushes
      rw [List.append_assoc, List.singleton_append] at hcut
      exact ⟨buckets, rest', hcut, happended, hopen⟩

end Run

/-- The rows of means have the times of the samples that closed their buckets. -/
theorem times_of_meanRow {appended : List (Row (Option ℚ) n)}
    {buckets : List (List (Row (Option ℚ) n))} (h : appended.map some = buckets.map meanRow) :
    appended.map (·.timestamp.toInt) =
      (buckets.filterMap List.getLast?).map (·.timestamp.toInt) := by
  have happended : appended = buckets.filterMap meanRow := by
    have hid := congrArg (List.filterMap id) h
    rwa [List.filterMap_map, List.filterMap_map, Function.id_comp, List.filterMap_some] at hid
  rw [happended, List.map_filterMap, List.map_filterMap]
  refine List.filterMap_congr fun bucket _ => ?_
  rw [meanRow, Option.map_map]
  rfl

theorem pairwise_of_times {interval : ℤ} {rows rows' : List (Row (Option ℚ) n)}
    (h : rows.map (·.timestamp.toInt) = rows'.map (·.timestamp.toInt))
    (hpairs : rows'.Pairwise fun row row' =>
      row.timestamp.toInt + interval ≤ row'.timestamp.toInt) :
    rows.Pairwise fun row row' => row.timestamp.toInt + interval ≤ row'.timestamp.toInt := by
  have htimes : (rows.map (·.timestamp.toInt)).Pairwise fun t t' => t + interval ≤ t' := by
    rw [h, List.pairwise_map]
    exact hpairs
  exact List.pairwise_map.mp htimes

theorem tierInterval_pos (baseIntervalS : ℕ) (i : Fin STORE_TIERS) :
    0 < tierInterval baseIntervalS i := by
  rw [tierInterval]
  split
  · exact lt_max_of_lt_left Nat.one_pos
  · revert i
    decide

/-- Along any pushes to a fresh store, a coarse tier partitions the samples into buckets. -/
theorem downsampled_storeRun (registry : MetricRegistry) (baseIntervalS memory : ℕ)
    (pushes : List (Row (Option ℚ) registry.count))
    (hpushes : ∀ row ∈ pushes, 0 < row.timestamp.toInt) {i : Fin STORE_TIERS} (hi : i ≠ 0) :
    ∃ buckets rest, Downsampled
      ((storeRun (storeNew registry baseIntervalS memory) (pushes.map .push)).tiers i) pushes
      (appendedRows i (storeNew registry baseIntervalS memory) (pushes.map .push)) buckets rest := by
  have hnew : StoreReachable (V := Option ℚ) registry baseIntervalS memory (storeNew _ _ _) := .new
  have hinterval := ((hnew.storeRun (pushes.map .push)).shape i).1
  have hrows : tierRows ((storeRun (storeNew (V := Option ℚ) registry baseIntervalS memory)
      (pushes.map .push)).tiers i) =
      (appendedRows i (storeNew registry baseIntervalS memory) (pushes.map .push)).rtake
        ((storeRun (storeNew (V := Option ℚ) registry baseIntervalS memory)
          (pushes.map .push)).tiers i).ring.capacity := by
    rw [tierRows_storeRun, tierRows_storeNew, List.nil_append,
      ((hnew.storeRun (pushes.map .push)).shape i).2]
    rfl
  cases pushes with
  | nil =>
    exact ⟨[], [], Cut.rest (by simp), rfl, rfl, List.Pairwise.nil, hrows,
      ⟨fun _ => rfl, fun _ => rfl⟩⟩
  | cons first pushes =>
    obtain ⟨hfirst, hpushes⟩ := List.forall_mem_cons.mp hpushes
    obtain ⟨htier, hstep⟩ := storeStep_push_tier hi
      (storeNew (V := Option ℚ) registry baseIntervalS memory) first
    -- the first sample opens the first bucket and is its mark
    have hearly : coarsePush ((storeNew (V := Option ℚ) registry baseIntervalS memory).tiers i)
        first = _ := coarsePush_early (by
        rw [show (tierAccumulate ((storeNew (V := Option ℚ) registry baseIntervalS memory).tiers i)
          first).accStart = first.timestamp from rfl, Int.sub_self, (hnew.shape i).1]
        exact Int.natCast_pos.mpr (tierInterval_pos baseIntervalS i))
    rw [hearly] at htier hstep
    have hheld : Accumulates ((storeNew (V := Option ℚ) registry baseIntervalS memory).tiers i) [] :=
      ⟨fun _ => rfl, fun _ => rfl⟩
    have hmark : ((storeStep (storeNew (V := Option ℚ) registry baseIntervalS memory)
        (.push first)).tiers i).accStart.toInt = first.timestamp.toInt := by
      rw [htier]
      rfl
    have hfits : ∀ row ∈ [first], row.timestamp.toInt - first.timestamp.toInt <
        (tierInterval baseIntervalS i : ℤ) := by
      intro row hrow
      rw [List.mem_singleton.mp hrow, Int.sub_self]
      exact Int.natCast_pos.mpr (tierInterval_pos baseIntervalS i)
    obtain ⟨buckets, rest, hcut, hmeans, hrest⟩ := cut_storeRun hi
      ((hnew.push first).shape i).1 (htier ▸ hheld.accumulate first) hmark hfirst hfits hpushes
    rw [List.singleton_append] at hcut
    have happended : appendedRows i (storeNew registry baseIntervalS memory)
        ((first :: pushes).map .push) =
        appendedRows i (storeStep (storeNew registry baseIntervalS memory) (.push first))
          (pushes.map .push) := by
      rw [List.map_cons, appendedRows, hstep]
      rfl
    refine ⟨buckets, rest, ?_, hcut.eq_flatten, happended ▸ hmeans, ?_, hrows, hrest⟩
    · rw [hinterval]
      exact hcut
    · rw [hinterval, happended]
      exact pairwise_of_times (times_of_meanRow hmeans) (hcut.pairwise (Int.natCast_nonneg _))

/-- Three samples, a gap in the second, and the first of the next bucket. -/
abbrev gapPushes {n : ℕ} : List (Row (Option ℚ) n) :=
  [⟨100, fun _ => some 1⟩, ⟨108, fun _ => none⟩, ⟨116, fun _ => some 4⟩, ⟨117, fun _ => some 5⟩]

theorem downsampled_gapPushes : ∃ buckets rest, Downsampled
    ((storeRun (storeNew (.registerAll [ascii "cpu.usage"]) 1 0) (gapPushes.map .push)).tiers 1)
    gapPushes (appendedRows 1 (storeNew (.registerAll [ascii "cpu.usage"]) 1 0)
      (gapPushes.map .push)) buckets rest :=
  downsampled_storeRun _ 1 0 gapPushes (by decide) (by decide)

/-- The buckets and the rows are determined by the pushes. -/
theorem Downsampled.unique {tier : StoreTier (Option ℚ) ℚ n} {pushes appended appended' rest rest' :
    List (Row (Option ℚ) n)} {buckets buckets' : List (List (Row (Option ℚ) n))}
    (h : Downsampled tier pushes appended buckets rest)
    (h' : Downsampled tier pushes appended' buckets' rest') :
    buckets = buckets' ∧ rest = rest' ∧ appended = appended' := by
  obtain ⟨rfl, rfl⟩ := h.cut.unique h'.cut
  refine ⟨rfl, rfl, ?_⟩
  have hmeans := h.means.trans h'.means.symm
  exact List.map_injective_iff.mpr (Option.some_injective _) hmeans

end AxisMetrics
