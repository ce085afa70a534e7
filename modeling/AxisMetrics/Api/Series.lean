import AxisMetrics.Api.Query
import AxisMetrics.Store.Window

/-!
# The series endpoint

`api_series_json` reads each requested metric from the tier that answers the window into
a buffer of `MAX_SERIES_POINTS` entries, oldest first. The response is modelled as the
document the JSON text spells out.
-/

namespace AxisMetrics

open Lib (Bytes ascii strsplit strtoull guint)

variable {V D : Type} {n : ℕ} {registry : MetricRegistry}

def MAX_SERIES_POINTS : ℕ := 4000

/-- The document of a series response. -/
structure SeriesDoc (V : Type) where
  window : ℕ
  tier : Fin STORE_TIERS
  interval : ℕ
  series : List (Bytes × List V)
  timestamps : List Int64

/-- The window a request asks for, in seconds. -/
def seriesWindow (query : Bytes) : ℕ :=
  let window := match apiQueryParam query (ascii "window") with
    | some arg => guint (strtoull arg)
    | none => 1800
  if window = 0 then 1800 else window

/-- Whether a request names the metric; without a list it names them all. -/
def seriesWanted (query id : Bytes) : Bool :=
  match apiQueryParam query (ascii "metrics") with
  | some arg => (strsplit 44 arg).contains id
  | none => true

/-- `api_series_json`, with the clock reading `now`. -/
def apiSeriesJson (store : Store V D registry) (now : ℤ) (query : Bytes) : SeriesDoc V :=
  let window := seriesWindow query
  let tier := storeTierForWindow store window
  let since := now - window
  let read := fun i => storeSeries store tier i since MAX_SERIES_POINTS
  let wanted := (List.finRange registry.count).filter fun i => seriesWanted query (registry.id i)
  { window := window
    tier := tier
    interval := (store.tiers tier).intervalS
    series := wanted.map fun i => (registry.id i, (read i).map Prod.snd)
    -- every metric shares one sample clock, so timestamps are emitted once
    timestamps := (((wanted.map read).find? fun points => !points.isEmpty).getD []).map Prod.fst }

/-- The rows of a tier that lie in a window, oldest first. -/
def rowsSince (tier : StoreTier V D n) (since : ℤ) : List (Row V n) :=
  (tierRows tier).filter fun row => since ≤ row.timestamp.toInt

/-- The rows a request asks for: those of the tier that answers its window. -/
def requestedRows (store : Store V D registry) (now : ℤ) (query : Bytes) :
    List (Row V registry.count) :=
  rowsSince (store.tiers (storeTierForWindow store (seriesWindow query)))
    (now - seriesWindow query)

/-- The loop appends the rows in the window, up to the room that is left. -/
theorem seriesLoop_eq (tier : StoreTier V D n) (metric : Fin n) (since : ℤ) (maxPoints : ℕ)
    (indices : List ℕ) (written : List (Int64 × V)) :
    seriesLoop tier metric since maxPoints indices written =
      written ++ ((((indices.map fun i => tier.ring.slots (tierSlot tier i)).filter
        fun row => decide (since ≤ row.timestamp.toInt)).take (maxPoints - written.length)).map
          fun row => (row.timestamp, row.values metric)) := by
  induction indices generalizing written with
  | nil => simp [seriesLoop]
  | cons i rest ih =>
    unfold seriesLoop
    split
    · next hfull => simp [Nat.sub_eq_zero_of_le hfull]
    · next hroom =>
      dsimp only
      split
      · next hold => rw [ih, List.map_cons, List.filter_cons_of_neg (by simpa using hold)]
      · next hnew =>
        obtain ⟨room, hr⟩ : ∃ room, maxPoints - written.length = room + 1 :=
          ⟨maxPoints - written.length - 1, by omega⟩
        have hr' : maxPoints - (written.length + 1) = room := by omega
        rw [ih, List.map_cons, List.filter_cons_of_pos (by simpa using hnew), hr,
          List.take_succ_cons]
        simp [hr']

/-- `store_series` returns the first rows of the window, one value each. -/
theorem storeSeries_eq (store : Store V D registry) (i : Fin STORE_TIERS)
    (metric : Fin registry.count) (since : ℤ) (maxPoints : ℕ) :
    storeSeries store i metric since maxPoints =
      ((rowsSince (store.tiers i) since).take maxPoints).map
        fun row => (row.timestamp, row.values metric) := by
  simp [storeSeries, seriesLoop_eq, rowsSince, tierRows_eq_map]

section Response

variable (store : Store V D registry) (now : ℤ) (query : Bytes)

/-- The values of a requested metric are those of the first requested rows. -/
theorem apiSeriesJson_mem_series {i : Fin registry.count}
    (hi : seriesWanted query (registry.id i)) :
    (registry.id i, ((requestedRows store now query).take MAX_SERIES_POINTS).map (·.values i)) ∈
      (apiSeriesJson store now query).series := by
  refine List.mem_map.mpr ⟨i, by simpa using hi, ?_⟩
  simp [storeSeries_eq, requestedRows, Function.comp_def]

/-- The shared timestamps are those of the first requested rows. -/
theorem apiSeriesJson_timestamps {i : Fin registry.count}
    (hi : seriesWanted query (registry.id i)) :
    (apiSeriesJson store now query).timestamps =
      ((requestedRows store now query).take MAX_SERIES_POINTS).map (·.timestamp) := by
  have hread : ∀ j, storeSeries store (storeTierForWindow store (seriesWindow query)) j
      (now - seriesWindow query) MAX_SERIES_POINTS =
      ((requestedRows store now query).take MAX_SERIES_POINTS).map
        fun row => (row.timestamp, row.values j) := fun j => storeSeries_eq _ _ _ _ _
  simp only [apiSeriesJson, hread]
  generalize (requestedRows store now query).take MAX_SERIES_POINTS = rows
  cases hf : List.find? (fun points => !points.isEmpty)
      (((List.finRange registry.count).filter fun j => seriesWanted query (registry.id j)).map
        fun j => rows.map fun row => (row.timestamp, row.values j)) with
  | none =>
    -- nothing was read for any metric, this one included
    have hnone := List.find?_eq_none.mp hf (rows.map fun row => (row.timestamp, row.values i))
      (List.mem_map.mpr ⟨i, by simpa using hi, rfl⟩)
    have hrows : rows = [] := by simpa using hnone
    simp [hrows]
  | some points =>
    obtain ⟨j, -, rfl⟩ := List.mem_map.mp (List.mem_of_find?_eq_some hf)
    simp

end Response

/-- A response has, for one metric, every row of the answering tier in the window, and ends
with the newest row of the tier when that one is in the window. -/
structure SeriesComplete (store : Store V D registry) (now : ℤ) (query : Bytes)
    (i : Fin registry.count) : Prop where
  values : (registry.id i, (requestedRows store now query).map (·.values i)) ∈
    (apiSeriesJson store now query).series
  timestamps : (apiSeriesJson store now query).timestamps =
    (requestedRows store now query).map (·.timestamp)
  newest : ∀ row, (tierRows (store.tiers (apiSeriesJson store now query).tier)).getLast? =
    some row → now - seriesWindow query ≤ row.timestamp.toInt →
    (apiSeriesJson store now query).timestamps.getLast? = some row.timestamp

/-- A last row in the window is the last row of the window. -/
theorem getLast?_rowsSince {tier : StoreTier V D n} {since : ℤ} {row : Row V n}
    (h : (tierRows tier).getLast? = some row) (hs : since ≤ row.timestamp.toInt) :
    (rowsSince tier since).getLast? = some row := by
  obtain ⟨init, hinit⟩ := List.getLast?_eq_some_iff.mp h
  rw [rowsSince, hinit, List.filter_append, List.filter_cons_of_pos (by simpa using hs)]
  simp

/-- A response with all its rows had room for them. -/
theorem SeriesComplete.length_le {store : Store V D registry} {now : ℤ} {query : Bytes}
    {i : Fin registry.count} (h : SeriesComplete store now query i)
    (hi : seriesWanted query (registry.id i)) :
    (requestedRows store now query).length ≤ MAX_SERIES_POINTS := by
  have hlen := congrArg List.length (h.timestamps.symm.trans
    (apiSeriesJson_timestamps store now query hi))
  simp only [List.length_map, List.length_take] at hlen
  omega

/-- A series response is complete exactly when the window holds no more rows than the output
buffer has entries. -/
theorem apiSeriesJson_complete_iff (store : Store V D registry) (now : ℤ) (query : Bytes)
    {i : Fin registry.count} (hi : seriesWanted query (registry.id i)) :
    SeriesComplete store now query i ↔
      (requestedRows store now query).length ≤ MAX_SERIES_POINTS := by
  refine ⟨fun h => h.length_le hi, fun h => ?_⟩
  have htake := List.take_of_length_le h
  have hvalues := apiSeriesJson_mem_series store now query hi
  have htimes := apiSeriesJson_timestamps store now query hi
  rw [htake] at hvalues htimes
  refine ⟨hvalues, htimes, fun row hlast hs => ?_⟩
  have hnewest : (requestedRows store now query).getLast? = some row :=
    getLast?_rowsSince hlast hs
  rw [htimes, List.getLast?_map, hnewest]
  rfl

/-- The example device: one metric, default interval, one gigabyte of RAM. -/
abbrev exampleStore : Store CFloat Float (.registerAll [ascii "cpu.usage"]) :=
  storeNew _ 1 (2 ^ 30)

/-- Five-minute rows since a fixed day, as a restart restores them. -/
def fiveMinuteRows {n : ℕ} (count : ℕ) : List (Row CFloat n) :=
  (List.range count).map fun k => ⟨Int64.ofNat (1700000000 + 300 * k), fun _ => ⟨0⟩⟩

/-- The timestamps of the example rows do not wrap. -/
theorem toInt_fiveMinute {k : ℕ} (h : k < 10000) :
    (Int64.ofNat (1700000000 + 300 * k)).toInt = 1700000000 + 300 * (k : ℤ) := by
  rw [Int64.toInt_ofNat_of_lt (by omega)]
  push_cast
  rfl

/-- The coarse tier of the example device holds every restored row, up to a month of them. -/
theorem tierRows_restored_coarse {count : ℕ} (hcount : count ≤ 8640) :
    tierRows ((restoreAll exampleStore 2 (fiveMinuteRows count)).tiers 2) =
      fiveMinuteRows count := by
  have hcap : (exampleStore.tiers 2).ring.capacity = 8640 := by decide
  rw [tierRows_restoreAll, hcap, tierRows_storeNew, List.nil_append, Lib.rtake_of_length_le]
  simpa [fiveMinuteRows] using hcount

/-- It answers the windows that the other two have too many points for. -/
theorem requestedRows_restored_coarse {count window : ℕ} {query : Bytes} {now : ℤ}
    (hcount : count ≤ 8640) (hwindow : seriesWindow query = window) (hlong : 30015 ≤ window) :
    requestedRows (restoreAll exampleStore 2 (fiveMinuteRows count)) now query =
      (fiveMinuteRows count).filter fun row => now - window ≤ row.timestamp.toInt := by
  have hreach : StoreReachable _ 1 (2 ^ 30) (restoreAll exampleStore 2 (fiveMinuteRows count)) :=
    StoreReachable.new.restoreAll 2 _
  have htier : storeTierForWindow (restoreAll exampleStore 2 (fiveMinuteRows count)) window = 2 := by
    have hfine : ¬ window / 1 ≤ 2000 := by omega
    have hmedium : ¬ window / 15 ≤ 2000 := by omega
    rw [storeTierForWindow_eq, (hreach.shape 0).1, (hreach.shape 1).1]
    exact (if_neg hfine).trans (if_neg hmedium)
  rw [requestedRows, hwindow, htier, rowsSince, tierRows_restored_coarse hcount]

/-- Of 400 restored rows, those of the last day are answered completely. -/
theorem seriesComplete_day :
    (requestedRows (restoreAll exampleStore 2 (fiveMinuteRows 400)) 1700119700
      (ascii "/series?window=86400&metrics=cpu.usage")).length = 289 ∧
    SeriesComplete (restoreAll exampleStore 2 (fiveMinuteRows 400)) 1700119700
      (ascii "/series?window=86400&metrics=cpu.usage") ⟨0, by decide⟩ := by
  have hwindow : seriesWindow (ascii "/series?window=86400&metrics=cpu.usage") = 86400 := by
    decide +kernel
  have hrows : requestedRows (restoreAll exampleStore 2 (fiveMinuteRows 400)) 1700119700
      (ascii "/series?window=86400&metrics=cpu.usage") = (fiveMinuteRows 400).filter fun row =>
        (1700119700 : ℤ) - (86400 : ℕ) ≤ row.timestamp.toInt :=
    requestedRows_restored_coarse (by decide) hwindow (by decide)
  have hlength : (requestedRows (restoreAll exampleStore 2 (fiveMinuteRows 400)) 1700119700
      (ascii "/series?window=86400&metrics=cpu.usage")).length = 289 := by
    rw [hrows]
    decide +kernel
  refine ⟨hlength, (apiSeriesJson_complete_iff _ _ _ (by decide +kernel)).mpr ?_⟩
  rw [hlength]
  decide

/-- With more than `MAX_SERIES_POINTS` five-minute rows restored, the month chart lacks the
newest of them. -/
theorem not_seriesComplete_month :
    ¬ SeriesComplete (restoreAll exampleStore 2 (fiveMinuteRows 4001)) 1701200000
      (ascii "/series?window=2592000&metrics=cpu.usage") ⟨0, by decide⟩ := by
  intro h
  have hle := h.length_le (by decide +kernel)
  have hcount : 4001 ≤ 8640 := by decide
  have hwindow : seriesWindow (ascii "/series?window=2592000&metrics=cpu.usage") = 2592000 := by
    decide +kernel
  -- every restored row is younger than a month
  have hrows : requestedRows (restoreAll exampleStore 2 (fiveMinuteRows 4001)) 1701200000
      (ascii "/series?window=2592000&metrics=cpu.usage") = fiveMinuteRows 4001 := by
    rw [requestedRows_restored_coarse hcount hwindow (by decide), List.filter_eq_self]
    intro row hrow
    obtain ⟨k, hk, rfl⟩ := List.mem_map.mp hrow
    have hk := List.mem_range.mp hk
    simp only [decide_eq_true_eq, toInt_fiveMinute (show k < 10000 by omega)]
    omega
  rw [hrows] at hle
  simp [fiveMinuteRows, MAX_SERIES_POINTS] at hle

end AxisMetrics
