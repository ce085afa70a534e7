import AxisMetrics.Collect.Slots
import AxisMetrics.Collect.Temperatures
import AxisMetrics.Lib.Latest
import AxisMetrics.Lib.Polls

/-!
# The newest reading of each source

What a sample shows of each source, over any run of samples. The fast sources are read for every
sample, and what was not read this time is NaN. The slow ones are polled when a deadline has come,
and every sample shows what was read last: so a poll that does not find a source leaves what an
earlier one read.
-/

namespace AxisMetrics

open Lib (Bytes ascii latest polls deadlineAfter)

open CollectorSlots (SampleWrites sampleReadings discover)

variable {V T : Type} [DoubleArith T] [Narrows V T]

/-- `SLOW_INTERVAL_S` in microseconds. -/
def slowIntervalUs : ℤ := 30 * 1000000

/-- What a poll of the slow sources reads. -/
def CollectorSlots.pollWrites (c : CollectorSlots) (m : Machine) : List (Write V) :=
  c.sampleSensors m ++ c.samplePoe m ++ c.sampleFlashWear m

/-- The samples of a run that poll the slow sources. -/
def slowPolls (run : List (ℤ × Machine)) : List (ℤ × Machine) :=
  polls Prod.fst slowIntervalUs 0 run

/-- What the slow sources were read as in a run. -/
def slowWrites (c : CollectorSlots) (run : List (ℤ × Machine)) : List (Write V) :=
  (slowPolls run).flatMap fun poll => c.pollWrites poll.2

/-- The value written last to a slot, or NaN. -/
def lastTo (writes : List (Write V)) (i : ℕ) : V :=
  ((writes.filter fun w => w.idx = i).getLast?.map Write.value).getD
    (Narrows.toFloat (DoubleArith.nan : T))

/-- The values of the last sample of a run. -/
def shownAfter (V : Type) {T : Type} [DoubleArith T] [Narrows V T] (found : Machine)
    (run : List (ℤ × Machine)) (sample : ℤ × Machine) : ℕ → V :=
  (collectorSample (collectorAfter V found run) sample.1 sample.2).2

/-- What the last sample of a run reads of the fast sources. -/
def fastWrites (V : Type) {T : Type} [DoubleArith T] [Narrows V T] (found : Machine)
    (run : List (ℤ × Machine)) (sample : ℤ × Machine) : List (Write V) :=
  ((discover found).sampleReadings sample.1 sample.2 (collectorAfter V found run).state).2.values

/-- Each value of the last sample of a run is the newest reading of its own source: from the sample
itself, or from the polls if the source is slow. -/
structure ShowsNewest (V : Type) {T : Type} [DoubleArith T] [Narrows V T] (found : Machine)
    (run : List (ℤ × Machine)) (sample : ℤ × Machine) : Prop where
  fast : ∀ i, (discover found).isSlow i = false →
    shownAfter V found run sample i = lastTo (fastWrites V found run sample) i
  slow : ∀ i, (discover found).isSlow i = true →
    shownAfter V found run sample i = lastTo (slowWrites (discover found) (run ++ [sample])) i
  uncovered : ∀ w ∈ fastWrites V found run sample, (discover found).isSlow w.idx = false
  /-- What is written to a slot is a reading of the source it was registered for. -/
  own : ∀ w ∈ fastWrites V found run sample ++ slowWrites (discover found) (run ++ [sample]),
    ∀ source, (discover found).discovery.Has source w.idx → w.source = source
  /-- The slow sources were polled less than the interval ago. -/
  recent : 0 ≤ sample.1 → ∃ poll ∈ (slowPolls (run ++ [sample])).getLast?,
    sample.1 < poll.1 + slowIntervalUs
  spaced : (slowPolls (run ++ [sample])).IsChain fun a b => a.1 + slowIntervalUs ≤ b.1

-- ════════════════════════════════════════════════════════════════════════
-- What is held
-- ════════════════════════════════════════════════════════════════════════

section Held

variable {c : CollectorSlots} {writes : List (Write V)} {i : ℕ}

/-- Writes one after the other leave the last of each slot. -/
theorem foldl_writes (writes : List (Write V)) (values : ℕ → V) :
    writes.foldl (fun values w => Function.update values w.idx w.value) values =
      latest values (writes.map fun w => (w.idx, w.value)) := by
  rw [latest, List.foldl_map]

theorem latest_writes (writes : List (Write V)) (i : ℕ) :
    latest (fun _ => Narrows.toFloat (DoubleArith.nan : T))
      (writes.map fun w => (w.idx, w.value)) i = lastTo writes i := by
  have hfilter : (writes.map fun w => (w.idx, w.value)).filter (fun r => r.1 = i) =
      (writes.filter fun w => w.idx = i).map fun w => (w.idx, w.value) := List.filter_map
  cases hlast : (writes.filter fun w => w.idx = i).getLast? with
  | none =>
    have hnone := List.getLast?_eq_none_iff.mp hlast
    rw [lastTo, hlast, Lib.latest_of_notMem]
    · rfl
    · intro r hr hidx
      have hmem : r ∈ (writes.map fun w => (w.idx, w.value)).filter fun r => r.1 = i :=
        List.mem_filter.mpr ⟨hr, decide_eq_true hidx⟩
      rw [hfilter, hnone] at hmem
      cases hmem
  | some w =>
    rw [lastTo, hlast, Lib.latest_of_getLast? (r := (w.idx, w.value))]
    · rfl
    · rw [hfilter, List.getLast?_map, hlast]
      rfl

/-- What a sample does to the deadline and to the readings that are held. -/
theorem held_sampleReadings (c : CollectorSlots) (now : ℤ) (m : Machine) (s : CollectorState V) :
    (c.sampleReadings now m s).1.slowDeadline =
        (if s.slowDeadline ≤ now then now + slowIntervalUs else s.slowDeadline) ∧
      (c.sampleReadings now m s).2.held =
        (if s.slowDeadline ≤ now then c.pollWrites m else []) ∧
      (c.sampleReadings now m s).1.slowCache =
        latest s.slowCache ((c.sampleReadings now m s).2.held.map fun w => (w.idx, w.value)) := by
  refine ⟨?_, ?_, (foldl_writes _ s.slowCache).symm ▸ rfl⟩
  · by_cases hdue : s.slowDeadline ≤ now
    · rw [if_pos hdue]
      exact if_pos (decide_eq_true hdue)
    · rw [if_neg hdue]
      exact if_neg (by simpa using hdue)
  · by_cases hdue : s.slowDeadline ≤ now
    · rw [if_pos hdue]
      exact if_pos (decide_eq_true hdue)
    · rw [if_neg hdue]
      exact if_neg (by simpa using hdue)

/-- After a run of samples, the deadline is the one of its polls, and what is held is what they read
last. -/
theorem held_collectorAfter (found : Machine) (run : List (ℤ × Machine)) :
    (collectorAfter V found run).state.slowDeadline =
        deadlineAfter Prod.fst slowIntervalUs 0 run ∧
      (collectorAfter V found run).state.slowCache =
        latest (fun _ => Narrows.toFloat (DoubleArith.nan : T))
          ((slowWrites (discover found) run).map fun w => (w.idx, w.value)) := by
  induction run using List.reverseRecOn with
  | nil => exact ⟨rfl, rfl⟩
  | append_singleton run sample ih =>
    obtain ⟨hdeadline, hcache⟩ := ih
    obtain ⟨hnext, hheld, hkept⟩ := held_sampleReadings (discover found) sample.1 sample.2
      (collectorAfter V found run).state
    rw [state_collectorAfter_append, slots_collectorAfter]
    constructor
    · rw [hnext, hdeadline, Lib.deadlineAfter_concat]
    · rw [hkept, hheld, hcache, ← Lib.latest_append, ← List.map_append, hdeadline, slowWrites,
        slowWrites, slowPolls, slowPolls, Lib.polls_concat, List.flatMap_append]
      split <;> simp

end Held

-- ════════════════════════════════════════════════════════════════════════
-- What is shown
-- ════════════════════════════════════════════════════════════════════════

section Shown

variable {found : Machine} {run : List (ℤ × Machine)} {sample : ℤ × Machine} {i : ℕ}
  {w : Write V}

theorem shownAfter_eq (found : Machine) (run : List (ℤ × Machine)) (sample : ℤ × Machine) :
    shownAfter V found run sample = fun i => if (discover found).isSlow i then
      (collectorAfter V found (run ++ [sample])).state.slowCache i
      else latest (fun _ => Narrows.toFloat (DoubleArith.nan : T))
        ((fastWrites V found run sample).map fun w => (w.idx, w.value)) i := by
  have hslots := slots_collectorAfter (V := V) found run
  rw [state_collectorAfter_append, fastWrites, ← hslots, ← foldl_writes]
  rfl

theorem shownAfter_fast (h : (discover found).isSlow i = false) :
    shownAfter V found run sample i = lastTo (fastWrites V found run sample) i := by
  have hshown := congrFun (shownAfter_eq (V := V) found run sample) i
  rw [hshown, if_neg (by simp [h]), latest_writes]

theorem shownAfter_slow (h : (discover found).isSlow i = true) :
    shownAfter V found run sample i =
      lastTo (slowWrites (discover found) (run ++ [sample])) i := by
  have hshown := congrFun (shownAfter_eq (V := V) found run sample) i
  rw [hshown, if_pos h, (held_collectorAfter found (run ++ [sample])).2, latest_writes]

/-- Every sample of a run reads what is known. -/
def RunKnown (V : Type) {T : Type} [DoubleArith T] [Narrows V T] (found : Machine)
    (run : List (ℤ × Machine)) : Prop :=
  ∀ before sample, before ++ [sample] <+: run →
    ReadsKnown T found (collectorAfter V found before).state sample.1 sample.2

/-- What a poll of a known run reads goes to the slot of its source. -/
theorem has_of_slowWrites (hapart : NamesApart found) (hknown : RunKnown V found run)
    (hw : w ∈ slowWrites (discover found) run) :
    (discover found).discovery.Has w.source w.idx := by
  obtain ⟨poll, hpoll, hread⟩ := List.mem_flatMap.mp hw
  obtain ⟨before, hpart, hdue⟩ := Lib.exists_of_mem_polls hpoll
  rw [← (held_collectorAfter (V := V) found before).1] at hdue
  have hheld := (held_sampleReadings (discover found) poll.1 poll.2
    (collectorAfter V found before).state).2.1
  rw [if_pos hdue] at hheld
  have hone := (CollectorSlots.filed_discover found).oneSourceOneSlot hapart
    (hknown before poll hpart)
  obtain ⟨e, he, hsource, hidx, -⟩ := hone.registered w (List.mem_append_right _ (hheld ▸ hread))
  exact ⟨e, he, hsource, hidx⟩

/-- Where the names of the devices are apart and every sample reads what is known, each value that a
sample shows is the newest reading of its own source. -/
theorem showsNewest_run (found : Machine) (run : List (ℤ × Machine)) (sample : ℤ × Machine)
    (hapart : NamesApart found) (hknown : RunKnown V found (run ++ [sample])) :
    ShowsNewest V found run sample := by
  have hfiled := CollectorSlots.filed_discover found
  have hone := hfiled.oneSourceOneSlot hapart (hknown run sample List.prefix_rfl)
  constructor
  · exact fun i => shownAfter_fast
  · exact fun i => shownAfter_slow
  · exact hone.uncovered
  · intro w hw source hsource
    obtain hfast | hslow := List.mem_append.mp hw
    · obtain ⟨e, he, hown, hidx, -⟩ := hone.registered w (List.mem_append_left _ hfast)
      exact hfiled.source_eq hapart ⟨e, he, hown, hidx⟩ hsource
    · exact hfiled.source_eq hapart (has_of_slowWrites hapart hknown hslow) hsource
  · intro hnow
    exact Lib.exists_poll (by decide) hnow run
  · exact (Lib.isChain_polls 0 (run ++ [sample])).1

omit [Narrows V T] in
/-- A machine that only answers about its temperatures has nothing to read that is not known. -/
theorem readsKnown_thermalMachine (found : Machine) (s : CollectorState V) (now : ℤ)
    (answer : String) : ReadsKnown T found s now (thermalMachine answer) where
  coreLines _ hline := absurd hline List.not_mem_nil
  coreFreqs hfile := absurd rfl hfile
  ifaces _ hline := absurd hline List.not_mem_nil
  disks _ _ hline := absurd hline List.not_mem_nil
  ports _ body hbody := by
    have hnone : (thermalMachine answer).portStatuses = none := by
      have hother : ascii "nvr/poe/getportstatuses.cgi" ≠ ascii "temperaturecontrol.cgi" := by
        decide
      have hget :
          (thermalMachine answer).vapixGet (ascii "nvr/poe/getportstatuses.cgi") = none := by
        simp only [thermalMachine, if_neg hother]
      rw [Machine.portStatuses, Machine.body, hget]
      rfl
    rw [hnone] at hbody
    cases hbody

end Shown

/-- A sensor with a name. -/
def warmMachine : Machine := thermalMachine "Sensor.S0.Name=Main\nSensor.S0.Celsius=41.50\n"

theorem namesApart_warmMachine : NamesApart warmMachine where
  zones := by decide +kernel
  ifaces := by decide +kernel
  disks := by decide +kernel
  mounts := by decide +kernel
  mountLength := by decide +kernel
  sensors := by decide +kernel
  fan := by decide +kernel
  heater := by decide +kernel

/-- The second poll gets no answer about the sensor. -/
theorem showsNewest_warmMachine :
    ShowsNewest (Option ℚ) warmMachine [(0, warmMachine)] (31000000, thermalMachine "") := by
  refine showsNewest_run warmMachine [(0, warmMachine)] (31000000, thermalMachine "")
    namesApart_warmMachine ?_
  intro before sample hpart
  have hmem : sample ∈ [(0, warmMachine)] ++ [(31000000, thermalMachine "")] :=
    hpart.subset (List.mem_append_right _ (List.mem_singleton_self sample))
  obtain hfirst | hsecond := List.mem_append.mp hmem
  · rw [List.mem_singleton.mp hfirst]
    exact readsKnown_thermalMachine _ _ _ _
  · rw [List.mem_singleton.mp hsecond]
    exact readsKnown_thermalMachine _ _ _ _

/-- What the first poll read of it is still shown. -/
example : (discover warmMachine).sensors.map (fun sensor =>
    shownAfter (Option ℚ) warmMachine [(0, warmMachine)] (31000000, thermalMachine "") sensor.idx) =
      [some (83 / 2)] := by
  decide +kernel

end AxisMetrics
