import AxisMetrics.Api.Series
import AxisMetrics.Persist.Lasting

/-!
# Rows in time order

Replaying older samples on top of newer ones would put a tier out of order, so saved history is only
adopted by an empty tier. As long as the clock does not go back this is enough: over all starts and
stops, rebuilds and storage that comes late, the rows of every tier and the timestamps of every series
response are in time order (`inOrder_device`).
-/

namespace AxisMetrics

open Lib (Bytes ByteFile ascii Always)

variable {D : Type} {registry : MetricRegistry} {n : ℕ} {t t' : ℤ}

/-- Rows in time order, none of them later than `t`. -/
structure InOrderBy (t : ℤ) (rows : List (Row CFloat n)) : Prop where
  sorted : rows.Pairwise fun a b => a.timestamp.toInt ≤ b.timestamp.toInt
  le : ∀ row ∈ rows, row.timestamp.toInt ≤ t

namespace InOrderBy

variable {rows rows' : List (Row CFloat n)}

theorem nil : InOrderBy t ([] : List (Row CFloat n)) := ⟨List.Pairwise.nil, fun _ h => by cases h⟩

theorem mono (h : InOrderBy t rows) (hle : t ≤ t') : InOrderBy t' rows :=
  ⟨h.sorted, fun row hrow => (h.le row hrow).trans hle⟩

theorem sublist (h : InOrderBy t rows) (hsub : rows'.Sublist rows) : InOrderBy t rows' :=
  ⟨h.sorted.sublist hsub, fun row hrow => h.le row (hsub.subset hrow)⟩

theorem rtake (h : InOrderBy t rows) (count : ℕ) : InOrderBy t (rows.rtake count) :=
  h.sublist (List.drop_sublist _ _)

/-- A row of the time `t` comes last. -/
theorem append (h : InOrderBy t rows) {new : List (Row CFloat n)}
    (hnew : ∀ row ∈ new, row.timestamp.toInt = t) : InOrderBy t (rows ++ new) where
  sorted := by
    refine List.pairwise_append.mpr ⟨h.sorted, ?_, fun a ha b hb => ?_⟩
    · refine List.pairwise_of_forall_mem_list fun a ha b hb => ?_
      exact (hnew a ha).trans_le (hnew b hb).ge
    · rw [hnew b hb]
      exact h.le a ha
  le row hrow := by
    rcases List.mem_append.mp hrow with hold | hrow
    · exact h.le row hold
    · exact (hnew row hrow).le

/-- Rows that are carried over keep their times. -/
theorem remap {saved : MetricRegistry} {rows : List (Row CFloat saved.count)} (h : InOrderBy t rows)
    (current : MetricRegistry) : InOrderBy t (rows.map (remapRow saved current)) where
  sorted := List.pairwise_map.mpr h.sorted
  le row hrow := by
    obtain ⟨row', hrow', rfl⟩ := List.mem_map.mp hrow
    exact h.le row' hrow'

end InOrderBy

/-- Whatever comes back from a shelf is in order. -/
def Shelf.InOrderBy (t : ℤ) (shelf : Shelf D) : Prop :=
  ∀ base i (current : MetricRegistry) (reader : Persist current),
    AxisMetrics.InOrderBy t ((shelf base i).recall reader)

/-- The tiers and the shelf are in order. -/
structure ShelvedStore.InOrderBy (t : ℤ) (tiers : ShelvedStore D registry) : Prop where
  shelf : tiers.shelf.InOrderBy t
  rows : ∀ i, AxisMetrics.InOrderBy t (tierRows (tiers.store.tiers i))

namespace ShelvedStore

variable {tiers : ShelvedStore D registry}

/-- What is put back is in order. -/
theorem InOrderBy.closeTier (h : tiers.InOrderBy t) (i : Fin STORE_TIERS) :
    (tiers.closeTier i).InOrderBy t := by
  unfold ShelvedStore.closeTier
  cases tiers.opened i with
  | none => exact h
  | some base =>
    refine ⟨fun base' j current reader => ?_, h.rows⟩
    dsimp only
    by_cases hbase : base' = base
    · subst hbase
      rw [Function.update_self]
      by_cases hj : j = i
      · subst hj
        rw [Function.update_self, Memory.recall]
        split
        · exact ((h.rows j).sublist List.filter_sublist).remap current
        · exact .nil
      · rw [Function.update_of_ne hj]
        exact h.shelf base' j current reader
    · rw [Function.update_of_ne hbase]
      exact h.shelf base' j current reader

theorem InOrderBy.closeAll (h : tiers.InOrderBy t) : tiers.closeAll.InOrderBy t := by
  have hfold : ∀ (l : List (Fin STORE_TIERS)) (tiers : ShelvedStore D registry),
      tiers.InOrderBy t → (l.foldl ShelvedStore.closeTier tiers).InOrderBy t := by
    intro l
    induction l with
    | nil => exact fun _ h => h
    | cons i l ih => exact fun tiers h => ih _ (h.closeTier i)
  exact hfold _ _ h

/-- Only an empty tier is filled. -/
theorem InOrderBy.openTier (h : tiers.InOrderBy t) (i : Fin STORE_TIERS) (base : StorageBase) :
    (tiers.openTier i base).InOrderBy t := by
  refine ⟨h.shelf, fun j => ?_⟩
  rw [ShelvedStore.openTier]
  dsimp only
  split
  · next hempty =>
    by_cases hj : j = i
    · subst hj
      rw [tierRows_restoreAll, hempty, List.nil_append]
      exact (h.shelf base j _ _).rtake _
    · rw [restoreAll_of_ne hj]
      exact h.rows j
  · exact h.rows j

theorem InOrderBy.openTiers (h : tiers.InOrderBy t) (results : Fin STORE_TIERS → Option StorageBase)
    (l : List (Fin STORE_TIERS)) : (tiers.openTiers results l).InOrderBy t := by
  induction l generalizing tiers with
  | nil => exact h
  | cons i l ih =>
    rw [ShelvedStore.openTiers]
    cases results i with
    | none => exact h.closeAll
    | some base => exact ih (h.openTier i base)

variable [SampleArith CFloat D]

theorem InOrderBy.new {shelf : Shelf D} (h : shelf.InOrderBy t) (sampleIntervalS memory : ℕ) :
    (ShelvedStore.new registry sampleIntervalS memory shelf).InOrderBy t :=
  ⟨h, fun _ => .nil⟩

/-- A tier passes a sample on with the time of the sample. -/
theorem timestamp_tierPush (i : Fin STORE_TIERS) (tier : StoreTier CFloat D n)
    (row : Row CFloat n) : ∀ passed ∈ (tierPush i tier row).2, passed.timestamp = row.timestamp := by
  intro passed hpassed
  unfold tierPush at hpassed
  split at hpassed
  · rw [← Option.some.inj hpassed]
  · unfold coarsePush at hpassed
    dsimp only at hpassed
    split at hpassed
    · rw [← Option.some.inj hpassed]
      rfl
    · cases hpassed

theorem InOrderBy.push (h : tiers.InOrderBy t) (row : Row CFloat registry.count)
    (hle : t ≤ row.timestamp.toInt) : (tiers.push row).InOrderBy row.timestamp.toInt := by
  refine ⟨fun base i current reader => (h.shelf base i current reader).mono hle, fun i => ?_⟩
  have hrows : tierRows ((tiers.push row).store.tiers i) = _ :=
    tierRows_tierPush i (tiers.store.tiers i) row
  rw [hrows]
  refine (((h.rows i).mono hle).append fun passed hpassed => ?_).rtake _
  rw [timestamp_tierPush i _ row passed (by simpa using hpassed)]

end ShelvedStore

/-- The tiers and the shelf of a device are in order. -/
def Lasting.InOrderBy (t : ℤ) : Lasting D → Prop
  | .off shelf => shelf.InOrderBy t
  | .on _ tiers => tiers.InOrderBy t

/-- The time of a sample. -/
def DeviceEvent.stamp : DeviceEvent → Option ℤ
  | .history (.push timestamp _ _) => some timestamp.toInt
  | _ => none

section Run

variable [SampleArith CFloat D]

theorem inOrder_tryOpen {tiers : ShelvedStore D registry} (h : tiers.InOrderBy t)
    (attempt : Attempt) : (Lasting.tryOpen tiers attempt).InOrderBy t := by
  induction attempt generalizing registry with
  | opens results => exact h.openTiers results _
  | changed found sampleIntervalS memory next ih => exact ih (.new h.closeAll.shelf _ _)

/-- An event keeps the order where it does not come before what is there. -/
theorem inOrder_step {lasting lasting' : Lasting D} {event : DeviceEvent}
    (h : lasting.InOrderBy t) (hle : ∀ stamp ∈ event.stamp, t ≤ stamp)
    (hstep : lastingStep lasting event = some lasting') :
    lasting'.InOrderBy (event.stamp.getD t) := by
  cases lasting with
  | off shelf =>
    cases event with
    | boot registry sampleIntervalS memory attempt =>
      rw [← Option.some.inj hstep]
      exact inOrder_tryOpen (.new h _ _) attempt
    | history event => cases hstep
    | stop => cases hstep
  | on registry tiers =>
    cases event with
    | boot registry sampleIntervalS memory attempt => cases hstep
    | history event =>
      cases event with
      | push timestamp values results =>
        rw [← Option.some.inj hstep]
        exact ShelvedStore.InOrderBy.push h ⟨timestamp, fun i => values i⟩ (hle timestamp.toInt rfl)
      | retry attempt =>
        rw [lastingStep] at hstep
        split at hstep
        · cases hstep
        · rw [← Option.some.inj hstep]
          exact inOrder_tryOpen h attempt
    | stop =>
      rw [← Option.some.inj hstep]
      exact (ShelvedStore.InOrderBy.closeAll h).shelf

/-- Over a run whose clock does not go back. -/
theorem inOrder_lasting {lasting : Lasting D} {events : List DeviceEvent} (h : lasting.InOrderBy t)
    (hclock : (t :: events.filterMap DeviceEvent.stamp).Pairwise (· ≤ ·)) :
    Always lastingStep lasting events fun lasting => ∃ t, lasting.InOrderBy t := by
  induction events generalizing lasting t with
  | nil => exact Lib.always_nil.mpr ⟨t, h⟩
  | cons event events ih =>
    refine Lib.always_cons.mpr ⟨⟨t, h⟩, fun lasting' hstep => ?_⟩
    obtain ⟨hfirst, hlater⟩ := List.pairwise_cons.mp hclock
    cases hstamp : event.stamp with
    | none =>
      have hnext := inOrder_step h (by rw [hstamp]; simp) hstep
      rw [hstamp] at hnext
      rw [List.filterMap_cons_none hstamp] at hclock
      exact ih hnext hclock
    | some stamp =>
      rw [List.filterMap_cons_some hstamp] at hfirst hlater
      have hle : t ≤ stamp := hfirst stamp List.mem_cons_self
      have hnext := inOrder_step h (by rw [hstamp]; simpa using hle) hstep
      rw [hstamp] at hnext
      exact ih hnext hlater

end Run

/-- The rows of every tier and the timestamps of every series response are in time order. -/
structure ShownStore.InOrder (shown : ShownStore D) : Prop where
  rows : ∀ i, (tierRows (shown.store.tiers i)).Pairwise
    fun a b => a.timestamp.toInt ≤ b.timestamp.toInt
  series : ∀ now query, (apiSeriesJson shown.store now query).timestamps.Pairwise
    fun a b => a.toInt ≤ b.toInt

/-- A response has timestamps of one tier, in the order of its rows. -/
theorem timestamps_sublist (store : Store CFloat D registry) (now : ℤ) (query : Bytes) :
    (apiSeriesJson store now query).timestamps.Sublist
      ((tierRows (store.tiers (apiSeriesJson store now query).tier)).map Row.timestamp) := by
  unfold apiSeriesJson
  dsimp only
  cases hfind : (((List.finRange registry.count).filter fun i =>
      seriesWanted query (registry.id i)).map fun i => storeSeries store
        (storeTierForWindow store (seriesWindow query)) i (now - seriesWindow query)
        MAX_SERIES_POINTS).find? fun points => !points.isEmpty with
  | none => exact List.nil_sublist _
  | some points =>
    obtain ⟨i, -, rfl⟩ := List.mem_map.mp (List.mem_of_find?_eq_some hfind)
    rw [Option.getD_some, storeSeries_eq, List.map_map]
    exact ((List.take_sublist _ _).trans List.filter_sublist).map Row.timestamp

theorem ShownStore.inOrder_of_rows {shown : ShownStore D}
    (h : ∀ i, AxisMetrics.InOrderBy t (tierRows (shown.store.tiers i))) : shown.InOrder where
  rows i := (h i).sorted
  series now query := by
    have htimes : ((tierRows (shown.store.tiers (apiSeriesJson shown.store now query).tier)).map
        Row.timestamp).Pairwise fun a b => a.toInt ≤ b.toInt := List.pairwise_map.mpr (h _).sorted
    exact htimes.sublist (timestamps_sublist shown.store now query)

/-- Nothing comes back from empty storage. -/
theorem inOrder_empty : Shelf.InOrderBy (D := D) t (foundShelf fun _ => .empty) :=
  fun _ _ _ _ => .nil

section Device

variable [SampleArith CFloat D]

/-- In every run of a device whose clock does not go back, with files in order at first, what it shows
is in time order. -/
theorem inOrder_device {disk : Bytes → ByteFile} {events : List DeviceEvent}
    (hregular : ∀ event ∈ events, event.Regular)
    (hdisk : Shelf.InOrderBy (D := D) t (foundShelf disk))
    (hclock : (t :: events.filterMap DeviceEvent.stamp).Pairwise (· ≤ ·)) :
    Always deviceStep (.off disk : Device D) events
      fun device => ∀ shown ∈ device.shown, shown.InOrder := by
  have hlasting := inOrder_lasting
    (show (Lasting.off (foundShelf disk) : Lasting D).InOrderBy t from hdisk) hclock
  have hboth := lockStep_device.always (lasts_found disk) hregular hlasting
  intro done device hdone hrun shown hshown
  obtain ⟨lasting, hlasts, t', horder⟩ := hboth done device hdone hrun
  rw [hlasts.shown_eq] at hshown
  cases lasting with
  | off shelf => cases hshown
  | on registry tiers =>
    rw [← Option.some.inj hshown]
    exact ShownStore.inOrder_of_rows horder.rows

end Device

/-- A card that is found again after the device was switched off, with the rows shown at the end. -/
theorem inOrder_device_reboot :
    (Always deviceStep (.off fun _ => .empty : Device Float) rebootRun
      fun device => ∀ shown ∈ device.shown, shown.InOrder) ∧
    ((Lib.runFrom deviceStep (.off fun _ => .empty : Device Float) rebootRun).bind Device.shown).map
      (fun shown => (tierRows (shown.store.tiers 0)).map Row.timestamp) = some [2000, 2001, 2005] := by
  refine ⟨inOrder_device (t := 0) rebootRun_regular inOrder_empty ?_, by decide +kernel⟩
  have hstamps : rebootRun.filterMap DeviceEvent.stamp = [2000, 2001, 2005] := rfl
  rw [hstamps]
  decide

end AxisMetrics
