import AxisMetrics.Collect.Slots
import AxisMetrics.Lib.Counter
import Mathlib.Algebra.Order.BigOperators.Group.List

/-!
# Shares of processor time

The shares that `sample_cpu` publishes are percentages just if no component of the processor time
outruns their total, between any two readings of `/proc/stat` that follow each other.
-/

namespace AxisMetrics

open Lib (Bytes ascii guint64 guint64Sub scanNumbers)

/-- NaN, or between 0 and 100. -/
def Percentage (value : Option ℚ) : Prop := ∀ x, value = some x → 0 ≤ x ∧ x ≤ 100

/-- The components of the processor time: the metric of its share, and its counters. -/
def cpuComponents : List (FixedMetric × List ℕ) :=
  [(.cpuUser, [0, 1]), (.cpuSystem, [2, 6]), (.cpuIowait, [4]), (.cpuIrq, [5]), (.cpuSteal, [7])]

/-- The source is one of the percentages of processor time, of all cores or of one. -/
def Source.isCpuPercent : Source → Bool
  | .fixed metric => decide (metric = .cpuUsage ∨ metric ∈ cpuComponents.map Prod.fst)
  | .core _ .usage => true
  | _ => false

/-- Each percentage of processor time that is published is one. -/
def CpuPercentages (writes : List (Write (Option ℚ))) : Prop :=
  ∀ w ∈ writes, w.source.isCpuPercent = true → Percentage w.value

/-- The sum of some counters. -/
def counted (fields : List ℕ) (v : ℕ → ℕ) : ℕ := (fields.map v).sum

/-- The counters of the other components, and of the idle time. -/
def otherFields (fields : List ℕ) : List ℕ := (List.range 8).filter (· ∉ fields)

/-- The counters of a component and all others grew by less than `2 ^ 64` together. -/
def KeepsPace (prev v : ℕ → ℕ) (fields : List ℕ) : Prop :=
  guint64Sub (counted fields v) (counted fields prev) +
    guint64Sub (counted (otherFields fields) v) (counted (otherFields fields) prev) < 2 ^ 64

instance (prev v : ℕ → ℕ) (fields : List ℕ) : Decidable (KeepsPace prev v fields) :=
  inferInstanceAs (Decidable (_ < _))

/-- Between two readings the total stands still, or every component keeps pace with it. -/
def SharesFit (prev v : ℕ → ℕ) : Prop :=
  guint64 (counted (List.range 8) prev) = guint64 (counted (List.range 8) v) ∨
    ∀ component ∈ cpuComponents, KeepsPace prev v component.2

instance (prev v : ℕ → ℕ) : Decidable (SharesFit prev v) := inferInstanceAs (Decidable (_ ∨ _))

/-- The reading in the line of all cores. -/
def aggregateReading (line : Bytes) : Option (ℕ → ℕ) :=
  if ascii "cpu " <+: line then some fun i => (scanNumbers 8 (line.drop 4)).getD i 0 else none

/-- The readings of all cores in `/proc/stat`. -/
def aggregateReadings (m : Machine) : List (ℕ → ℕ) :=
  (m.lines (ascii "/proc/stat") 512).filterMap aggregateReading

-- ════════════════════════════════════════════════════════════════════════
-- Percentages
-- ════════════════════════════════════════════════════════════════════════

section Percentages

variable {d dt : ℕ}

theorem percentage_none : Percentage none := nofun

theorem percentage_some {x : ℚ} : Percentage (some x) ↔ 0 ≤ x ∧ x ≤ 100 := by
  constructor
  · exact fun h => h x rfl
  · rintro h y ⟨⟩
    exact h

/-- `d` of `dt` is a percentage just if it is no more. -/
theorem percentage_quotient (hdt : 0 < dt) :
    Percentage (some (100 * (d : ℚ) / dt)) ↔ d ≤ dt := by
  have hpos : (0 : ℚ) < dt := by exact_mod_cast hdt
  rw [percentage_some, div_le_iff₀ hpos]
  constructor
  · rintro ⟨-, hle⟩
    exact_mod_cast le_of_mul_le_mul_left hle (by norm_num)
  · intro hle
    have hle' : (d : ℚ) ≤ dt := by exact_mod_cast hle
    exact ⟨div_nonneg (mul_nonneg (by norm_num) d.cast_nonneg) hpos.le,
      mul_le_mul_of_nonneg_left hle' (by norm_num)⟩

/-- A share of `dt`, as a component is given it. -/
theorem percentage_share (hdt : 0 < dt) : Percentage
    (((d : ℕ) : Option ℚ) * (((100 : ℕ) : Option ℚ) / ((dt : ℕ) : Option ℚ))) ↔ d ≤ dt := by
  have hpos : (dt : ℚ) ≠ 0 := by exact_mod_cast hdt.ne'
  have hscale : ((100 : ℕ) : Option ℚ) / ((dt : ℕ) : Option ℚ) = some (100 / (dt : ℚ)) :=
    if_neg hpos
  have hvalue : ((d : ℕ) : Option ℚ) * some (100 / (dt : ℚ)) = some ((d : ℚ) * (100 / dt)) := rfl
  rw [hscale, hvalue, mul_div_left_comm, ← mul_div_assoc]
  exact percentage_quotient hdt

/-- The usage is guarded. -/
theorem percentage_cpuUsage (times prev : CpuTimes) (first : Bool) :
    Percentage (CollectorSlots.cpuUsage times prev first) := by
  rw [CollectorSlots.cpuUsage]
  split
  · have hle := Nat.sub_le (guint64Sub times.total prev.total) (guint64Sub times.idle prev.idle)
    rcases Nat.eq_zero_or_pos (guint64Sub times.total prev.total) with hzero | hpos
    · rw [hzero]
      exact percentage_none
    · have hne : ((guint64Sub times.total prev.total : ℕ) : ℚ) ≠ 0 := by exact_mod_cast hpos.ne'
      have hvalue := (percentage_quotient hpos).mpr hle
      have hquotient : ∀ x : ℚ,
          (some x / ((guint64Sub times.total prev.total : ℕ) : Option ℚ) : Option ℚ) =
            some (x / (guint64Sub times.total prev.total : ℕ)) := fun x => if_neg hne
      exact (hquotient _).symm ▸ hvalue
  · exact percentage_none

end Percentages

-- ════════════════════════════════════════════════════════════════════════
-- A reading
-- ════════════════════════════════════════════════════════════════════════

namespace CollectorSlots

variable {c : CollectorSlots} {seconds : Option ℚ} {first : Bool}
  {s : CollectorState (Option ℚ)} {line rest : Bytes} {prev v : ℕ → ℕ}

theorem total_cpuTimes (v : ℕ → ℕ) : (cpuTimes v).total = guint64 (counted (List.range 8) v) := by
  rw [cpuTimes]
  simp [counted, List.range_succ, Nat.add_assoc]

/-- A component and all others are the total. -/
theorem counted_add_otherFields {component : FixedMetric × List ℕ} (h : component ∈ cpuComponents)
    (v : ℕ → ℕ) : counted component.2 v + counted (otherFields component.2) v =
      counted (List.range 8) v := by
  simp only [cpuComponents, List.mem_cons, List.not_mem_nil, or_false] at h
  rcases h with rfl | rfl | rfl | rfl | rfl
  all_goals
    simp [counted, otherFields, List.range_succ]
    omega

/-- What a component is compared with. -/
theorem le_total_iff_keepsPace {component : FixedMetric × List ℕ}
    (h : component ∈ cpuComponents) :
    guint64Sub (counted component.2 v) (counted component.2 prev) ≤
        guint64Sub (cpuTimes v).total (cpuTimes prev).total ↔
      KeepsPace prev v component.2 := by
  rw [total_cpuTimes, total_cpuTimes, Lib.guint64Sub_guint64, ← counted_add_otherFields h v,
    ← counted_add_otherFields h prev, Lib.guint64Sub_le_add, KeepsPace]

/-- The counters of a line of all cores. -/
def readingOf (rest : Bytes) : ℕ → ℕ := fun i => (scanNumbers 8 rest).getD i 0

/-- The writes of a line of all cores, by components. -/
theorem writes_aggregate (c : CollectorSlots) (first : Bool) (s : CollectorState (Option ℚ))
    (rest : Bytes) :
    (c.sampleCpuLine first s (.aggregate rest)).2 =
      c.setFixed .cpuUsage (cpuUsage (cpuTimes (readingOf rest)) s.prevTotal first) ::
        if first = false ∧ 0 < guint64Sub (cpuTimes (readingOf rest)).total s.prevTotal.total then
          cpuComponents.map fun component => c.setFixed component.1
            (((guint64Sub (counted component.2 (readingOf rest))
                (counted component.2 s.prevCpuField) : ℕ) : Option ℚ) * (((100 : ℕ) : Option ℚ) /
              ((guint64Sub (cpuTimes (readingOf rest)).total s.prevTotal.total : ℕ) : Option ℚ)))
        else [] := by
  cases first with
  | true => simp only [sampleCpuLine, Bool.not_true, Bool.false_and, Bool.false_eq_true, reduceCtorEq,
      false_and, if_false]; rfl
  | false =>
    simp only [sampleCpuLine, cpuComponents, counted, List.map_cons, List.map_nil, List.sum_cons,
      List.sum_nil, Nat.add_zero, Bool.not_false, Bool.true_and, decide_eq_true_eq, true_and]
    rfl

theorem cpuPercentages_cons {w : Write (Option ℚ)} {writes : List (Write (Option ℚ))} :
    CpuPercentages (w :: writes) ↔
      (w.source.isCpuPercent = true → Percentage w.value) ∧ CpuPercentages writes :=
  List.forall_mem_cons

theorem cpuPercentages_nil : CpuPercentages [] := nofun

theorem cpuPercentages_singleton {w : Write (Option ℚ)} (h : w.source.isCpuPercent = false) :
    CpuPercentages [w] :=
  cpuPercentages_cons.mpr ⟨fun hp => absurd (h.symm.trans hp) Bool.false_ne_true,
    cpuPercentages_nil⟩

theorem cpuPercentages_append {first rest : List (Write (Option ℚ))} :
    CpuPercentages (first ++ rest) ↔ CpuPercentages first ∧ CpuPercentages rest :=
  List.forall_mem_append

/-- The total stands still just if its difference is none. -/
theorem total_eq_iff : (cpuTimes prev).total = (cpuTimes v).total ↔
    guint64Sub (cpuTimes v).total (cpuTimes prev).total = 0 := by
  rw [total_cpuTimes, total_cpuTimes, Lib.guint64Sub_guint64, Lib.guint64Sub_eq_zero]

/-- A line of all cores publishes percentages just if it is the first, or the components keep
pace. -/
theorem cpuPercentages_aggregate (hs : s.prevTotal = cpuTimes s.prevCpuField) :
    CpuPercentages (c.sampleCpuLine first s (.aggregate rest)).2 ↔
      first = true ∨ SharesFit s.prevCpuField (readingOf rest) := by
  rw [writes_aggregate, hs, SharesFit, ← total_cpuTimes, ← total_cpuTimes, total_eq_iff,
    cpuPercentages_cons, and_iff_right fun _ => by exact percentage_cpuUsage _ _ _]
  generalize hdt : guint64Sub (cpuTimes (readingOf rest)).total (cpuTimes s.prevCpuField).total = dt
  by_cases hpublished : first = false ∧ 0 < dt
  · rw [if_pos hpublished, hpublished.1]
    simp only [Bool.false_eq_true, hpublished.2.ne', false_or]
    constructor
    · intro hall component hcomponent
      have hshare := hall _ (List.mem_map_of_mem hcomponent)
        (decide_eq_true (.inr (List.mem_map_of_mem hcomponent)))
      rw [← le_total_iff_keepsPace hcomponent, hdt]
      exact (percentage_share hpublished.2).mp hshare
    · intro hpace w hw _
      obtain ⟨component, hcomponent, rfl⟩ := List.mem_map.mp hw
      have hle := (le_total_iff_keepsPace hcomponent).mpr (hpace component hcomponent)
      rw [hdt] at hle
      exact (percentage_share hpublished.2).mpr hle
  · rw [if_neg hpublished]
    refine iff_of_true cpuPercentages_nil ?_
    cases first with
    | true => exact .inl rfl
    | false => exact .inr (.inl (Nat.eq_zero_of_not_pos fun hpos => hpublished ⟨rfl, hpos⟩))

/-- Which lines of `/proc/stat` are for all cores. -/
theorem cpuLine_eq_aggregate :
    c.cpuLine line = some (.aggregate rest) ↔ ascii "cpu " <+: line ∧ line.drop 4 = rest := by
  by_cases hcpu : ascii "cpu" <+: line
  · obtain ⟨behind, rfl⟩ := hcpu
    rw [cpuLine, if_neg (not_not.mpr (List.prefix_append _ _))]
    have hblank : (ascii "cpu" ++ behind)[3]? = some 32 ↔ ascii "cpu " <+: ascii "cpu" ++ behind := by
      rw [show ascii "cpu " = ascii "cpu" ++ [32] from rfl, List.prefix_append_right_inj]
      cases behind with
      | nil => simp [ascii]
      | cons b behind => simp [ascii, eq_comm]
    split
    · next h => simp [hblank.mp h]
    · next h =>
      rw [hblank] at h
      simp only [h, false_and, iff_false]
      split
      · simp
      · split
        · simp
        · split <;> simp
  · have hall : ¬ ascii "cpu " <+: line :=
      fun h => hcpu ((List.prefix_append (ascii "cpu") (ascii " ")).trans h)
    simp [cpuLine, hcpu, hall]

/-- What a line changes of the reading of all cores, and what it publishes. -/
theorem sampleStatLine_reading (line : Bytes) (hs : s.prevTotal = cpuTimes s.prevCpuField) :
    (c.sampleStatLine seconds first s line).1.prevTotal =
        cpuTimes (c.sampleStatLine seconds first s line).1.prevCpuField ∧
      (c.sampleStatLine seconds first s line).1.prevCpuField =
        (aggregateReading line).getD s.prevCpuField ∧
      (CpuPercentages (c.sampleStatLine seconds first s line).2 ↔
        first = true ∨ ∀ v ∈ aggregateReading line, SharesFit s.prevCpuField v) := by
  by_cases hall : ascii "cpu " <+: line
  · have hcpu : ascii "cpu" <+: line := (List.prefix_append (ascii "cpu") (ascii " ")).trans hall
    rw [sampleStatLine, if_neg (not_prefix_of_cpu hcpu (by decide) (by decide)),
      if_neg (not_prefix_of_cpu hcpu (by decide) (by decide)), cpuLine_eq_aggregate.mpr ⟨hall, rfl⟩,
      aggregateReading, if_pos hall]
    refine ⟨rfl, rfl, (cpuPercentages_aggregate hs).trans ?_⟩
    simp only [Option.mem_some_iff, forall_eq']
    rfl
  · rw [aggregateReading, if_neg hall, sampleStatLine]
    have htrivial : first = true ∨ ∀ v ∈ (none : Option (ℕ → ℕ)), SharesFit s.prevCpuField v :=
      .inr fun v hv => by cases hv
    split
    · refine ⟨hs, rfl, iff_of_true ?_ htrivial⟩
      split
      · exact cpuPercentages_nil
      · exact cpuPercentages_singleton rfl
    · split
      · exact ⟨hs, rfl, iff_of_true (cpuPercentages_singleton rfl) htrivial⟩
      · split
        · exact ⟨hs, rfl, iff_of_true cpuPercentages_nil htrivial⟩
        · next cpu hcpu =>
          cases cpu with
          | aggregate rest => exact absurd (cpuLine_eq_aggregate.mp hcpu).1 hall
          | core core rest =>
            refine ⟨hs, rfl, iff_of_true ?_ htrivial⟩
            exact cpuPercentages_cons.mpr ⟨fun _ => percentage_cpuUsage _ _ _, cpuPercentages_nil⟩

/-- What some lines leave of the reading of all cores, and what they publish. -/
theorem sampleEach_reading (lines : List Bytes) (hs : s.prevTotal = cpuTimes s.prevCpuField) :
    (sampleEach (c.sampleStatLine seconds first) s lines).1.prevTotal =
        cpuTimes (sampleEach (c.sampleStatLine seconds first) s lines).1.prevCpuField ∧
      (sampleEach (c.sampleStatLine seconds first) s lines).1.prevCpuField =
        (lines.filterMap aggregateReading).getLast?.getD s.prevCpuField ∧
      (CpuPercentages (sampleEach (c.sampleStatLine seconds first) s lines).2 ↔
        first = true ∨
          List.IsChain SharesFit (s.prevCpuField :: lines.filterMap aggregateReading)) := by
  induction lines generalizing s with
  | nil => exact ⟨hs, rfl, iff_of_true cpuPercentages_nil (.inr (List.isChain_singleton _))⟩
  | cons line lines ih =>
    obtain ⟨hkeep, hread, hline⟩ := sampleStatLine_reading line hs
    obtain ⟨hbalanced, hlast, hrest⟩ := ih hkeep
    rw [sampleEach_cons, cpuPercentages_append, hline, hrest, ← or_and_left]
    refine ⟨hbalanced, hlast.trans ?_, ?_⟩
    · rw [hread]
      cases hreading : aggregateReading line with
      | none => simp [hreading]
      | some v => simp [hreading, List.getLast?_cons]
    · rw [hread]
      cases hreading : aggregateReading line with
      | none => simp [hreading]
      | some v => simp [hreading, List.isChain_cons_cons]

/-- `sample_cpu` of a state whose totals are those of its counters. -/
theorem sampleCpu_reading (c : CollectorSlots) (m : Machine) (seconds : Option ℚ) (first : Bool)
    (hs : s.prevTotal = cpuTimes s.prevCpuField) :
    (c.sampleCpu m seconds first s).1.prevTotal =
        cpuTimes (c.sampleCpu m seconds first s).1.prevCpuField ∧
      (c.sampleCpu m seconds first s).1.prevCpuField =
        (aggregateReadings m).getLast?.getD s.prevCpuField ∧
      (CpuPercentages (c.sampleCpu m seconds first s).2 ↔
        first = true ∨ List.IsChain SharesFit (s.prevCpuField :: aggregateReadings m)) := by
  rw [sampleCpu]
  cases hfile : m.file (ascii "/proc/stat") with
  | none =>
    have hnone : aggregateReadings m = [] := by
      rw [aggregateReadings, Machine.lines, hfile]
      rfl
    rw [hnone]
    exact ⟨hs, rfl, iff_of_true cpuPercentages_nil (.inr (List.isChain_singleton _))⟩
  | some content =>
    obtain ⟨hbalanced, hlast, hpercent⟩ := sampleEach_reading (m.lines (ascii "/proc/stat") 512) hs
    refine ⟨hbalanced, hlast, ?_⟩
    dsimp only
    rw [cpuPercentages_append, cpuPercentages_append, hpercent]
    have hfreqs : ∀ freqs : List (ℕ × Option ℚ), CpuPercentages (freqs.map fun freq =>
        ⟨.core freq.1 .freq, c.idxCore freq.1 .freq, Narrows.toFloat freq.2⟩) := by
      intro freqs w hw hsource
      obtain ⟨freq, -, rfl⟩ := List.mem_map.mp hw
      cases hsource
    have hmean : ∀ value, CpuPercentages [c.setFixed .cpuFreq value] :=
      fun value => cpuPercentages_singleton rfl
    rw [and_iff_left (hmean _), and_iff_left (hfreqs _)]
    rfl

end CollectorSlots

-- ════════════════════════════════════════════════════════════════════════
-- A run of samples
-- ════════════════════════════════════════════════════════════════════════

/-- The last reading of all cores in a run of samples, of zeros before any. -/
def readingBefore (run : List (ℤ × Machine)) : ℕ → ℕ :=
  (run.flatMap fun sample => aggregateReadings sample.2).getLast?.getD fun _ => 0

/-- After a run the collector holds the last reading, and its totals. -/
theorem readingBefore_collectorAfter (found : Machine) (run : List (ℤ × Machine)) :
    (collectorAfter (Option ℚ) found run).state.prevTotal =
        CollectorSlots.cpuTimes (collectorAfter (Option ℚ) found run).state.prevCpuField ∧
      (collectorAfter (Option ℚ) found run).state.prevCpuField = readingBefore run := by
  induction run using List.reverseRecOn with
  | nil => exact ⟨rfl, rfl⟩
  | append_singleton run sample ih =>
    obtain ⟨hbalanced, hfield⟩ := ih
    obtain ⟨htotal, hlast⟩ := (collectorAfter (Option ℚ) found run).slots.sampleReadings_cpu
      sample.2 (collectorAfter (Option ℚ) found run).state sample.1
    obtain ⟨hkeep, hread, -⟩ := CollectorSlots.sampleCpu_reading
      (collectorAfter (Option ℚ) found run).slots sample.2
      (CollectorSlots.elapsed (collectorAfter (Option ℚ) found run).state sample.1)
      (decide ((collectorAfter (Option ℚ) found run).state.prevUs = 0)) hbalanced
    rw [state_collectorAfter_append, htotal, hlast]
    refine ⟨hkeep, hread.trans ?_⟩
    rw [hfield, readingBefore, readingBefore, List.flatMap_append, List.flatMap_singleton,
      List.getLast?_append]
    cases (aggregateReadings sample.2).getLast? <;> rfl

/-- The percentages that `sample_cpu` publishes after any run are percentages just if the sample is
the first, or the components keep pace between any two of its readings, and with the last one of the
run. -/
theorem cpuPercentages_iff (found : Machine) (run : List (ℤ × Machine)) (later : Machine)
    (seconds : Option ℚ) :
    CpuPercentages ((collectorAfter (Option ℚ) found run).slots.sampleCpu later seconds
        (decide ((collectorAfter (Option ℚ) found run).state.prevUs = 0))
        (collectorAfter (Option ℚ) found run).state).2 ↔
      (collectorAfter (Option ℚ) found run).state.prevUs = 0 ∨
        List.IsChain SharesFit (readingBefore run :: aggregateReadings later) := by
  obtain ⟨hbalanced, hfield⟩ := readingBefore_collectorAfter found run
  obtain ⟨-, -, hpercent⟩ := CollectorSlots.sampleCpu_reading
    (collectorAfter (Option ℚ) found run).slots later seconds
    (decide ((collectorAfter (Option ℚ) found run).state.prevUs = 0)) hbalanced
  rw [hpercent, hfield, decide_eq_true_iff]

/-- Counters that do not go backwards, and grow by less than `2 ^ 64` together, keep pace. -/
theorem sharesFit_of_le {prev v : ℕ → ℕ} (hle : ∀ i, prev i ≤ v i)
    (hgrow : counted (List.range 8) v < counted (List.range 8) prev + 2 ^ 64) :
    SharesFit prev v := by
  refine .inr fun component hcomponent => ?_
  have hmono : ∀ fields : List ℕ, counted fields prev ≤ counted fields v :=
    fun fields => List.sum_le_sum fun i _ => hle i
  have hown := hmono component.2
  have hothers := hmono (otherFields component.2)
  rw [← CollectorSlots.counted_add_otherFields hcomponent,
    ← CollectorSlots.counted_add_otherFields hcomponent] at hgrow
  rw [KeepsPace, Lib.guint64Sub_of_le hown (by omega), Lib.guint64Sub_of_le hothers (by omega)]
  omega

/-- Time waited for input is taken back while a core works. -/
def iowaitBefore : Machine := statMachine (ascii "cpu  100 0 100 100 50 0 0 0\n")

def iowaitAfter : Machine := statMachine (ascii "cpu  110 0 100 100 45 0 0 0\n")

/-- The collector after a sample before. -/
def iowaitCollector : Collector (Option ℚ) :=
  collectorAfter (Option ℚ) iowaitBefore [(1000000, iowaitBefore)]

/-- Ten ticks of work are 200 per cent of a total that grew by five. -/
theorem not_cpuPercentages_iowait :
    ¬ CpuPercentages (iowaitCollector.slots.sampleCpu iowaitAfter (some 1)
      (decide (iowaitCollector.state.prevUs = 0)) iowaitCollector.state).2 := by
  have hbalanced : iowaitCollector.state.prevTotal =
      CollectorSlots.cpuTimes iowaitCollector.state.prevCpuField :=
    (readingBefore_collectorAfter iowaitBefore [(1000000, iowaitBefore)]).1
  rw [(CollectorSlots.sampleCpu_reading iowaitCollector.slots iowaitAfter _ _ hbalanced).2.2]
  decide

end AxisMetrics
