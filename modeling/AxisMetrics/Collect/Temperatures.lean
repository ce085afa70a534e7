import AxisMetrics.Collect.Numbers
import AxisMetrics.Collect.Slots
import AxisMetrics.Lib.KeyLines

/-!
# Temperatures, fan and heater

`sample_sensors` looks for the key of each reading in the whole answer, and for the number from there
on. It reads the line of the key just if the key stands there first, and the number does not run over
its end.
-/

namespace AxisMetrics

open Lib (Bytes ascii isSpace foundIn lineValue linesBehind)

/-- The number behind the first bracket, as it is stored. -/
def bracketed (text : Bytes) : CNumber :=
  match text.dropWhile (· ≠ 91) with
  | [] => .number 0
  | _ :: number => storedNumber number

/-- The state of the heater. -/
def heaterState (status : Bytes) : CNumber :=
  if ascii "Running" <+: status then .number 1 else .number 0

/-- Each reading that is stored is that of its own line. -/
structure ReadsOwnLines (lines : List Bytes) (writes : List (Write CNumber)) : Prop where
  sensors : ∀ w ∈ writes, ∀ index, w.source = .sensor index → ∃ value,
    lineValue (CollectorSlots.sensorKey index) lines = some value ∧ w.value = storedNumber value
  fan : ∀ w ∈ writes, w.source = .fixed .fanRpm → ∃ status,
    lineValue (ascii "Fan.F0.Status") lines = some status ∧ w.value = bracketed status
  heater : ∀ w ∈ writes, w.source = .fixed .heater → ∃ status,
    lineValue (ascii "Heater.H0.Status") lines = some status ∧ w.value = heaterState status

/-- The number of a sensor is that of its line: the key stands first in it, and either there is
something in the line or no number follows it. Elsewhere the same number has to stand. -/
def ReadsCelsius (key : Bytes) (lines : List Bytes) : Prop :=
  ∀ found ∈ foundIn key lines, ∃ value ∈ lineValue key lines,
    if found.1 = key ++ 61 :: value then
      value.dropWhile isSpace = [] → storedNumber (linesBehind found.2) = .number 0
    else storedNumber ((found.1 ++ linesBehind found.2).drop (key.length + 1)) = storedNumber value

/-- The speed of the fan is that of its line: the key stands first in it, and either a number stands
in a bracket, or no bracket with a number follows. -/
def ReadsFan (lines : List Bytes) : Prop :=
  ∀ found ∈ foundIn (ascii "Fan.F0.Status=") lines,
    ∃ status ∈ lineValue (ascii "Fan.F0.Status") lines,
      if found.1 = ascii "Fan.F0.Status=" ++ status then
        match status.dropWhile (· ≠ 91) with
        | [] => bracketed (linesBehind found.2) = .number 0
        | _ :: number => number.dropWhile isSpace = [] → storedNumber (linesBehind found.2) = .number 0
      else bracketed (found.1 ++ linesBehind found.2) = bracketed status

/-- The state of the heater is that of its line: the key stands first in it, or where the same state
stands. -/
def ReadsHeater (lines : List Bytes) : Prop :=
  ∀ found ∈ foundIn (ascii "Heater.H0.Status=") lines,
    ∃ status ∈ lineValue (ascii "Heater.H0.Status") lines,
      found.1 = ascii "Heater.H0.Status=" ++ status ∨
        heaterState ((found.1 ++ linesBehind found.2).drop 17) = heaterState status

-- ════════════════════════════════════════════════════════════════════════
-- Where a number runs over the end of its line
-- ════════════════════════════════════════════════════════════════════════

section Ends

variable {text : Bytes} {lines : List Bytes}

theorem storedNumber_lines (text : Bytes) (lines : List Bytes) :
    storedNumber (text ++ linesBehind lines) = storedNumber text ↔
      (text.dropWhile isSpace = [] → storedNumber (linesBehind lines) = .number 0) := by
  by_cases hblank : text.dropWhile isSpace = []
  · have hskip : ∀ more : Bytes, storedNumber (text ++ more) = storedNumber more := fun more =>
      storedNumber_congr (Lib.strtod_of_blank hblank more)
    have hzero : storedNumber text = .number 0 := by
      rw [← storedNumber_nil, ← hskip [], List.append_nil]
    rw [hskip, hzero]
    exact ⟨fun h _ => h, fun h => h hblank⟩
  · have hend : Lib.strtod (text ++ linesBehind lines) = Lib.strtod text :=
      Lib.strtod_append hblank fun b hb => by
        rw [Lib.head?_linesBehind hb]
        decide
    exact iff_of_true (storedNumber_congr hend) fun h => absurd h hblank

/-- Text without a bracket is skipped. -/
theorem bracketed_append (htext : text.dropWhile (· ≠ 91) = []) (more : Bytes) :
    bracketed (text ++ more) = bracketed more := by
  have hdrop : (text ++ more).dropWhile (· ≠ 91) = more.dropWhile (· ≠ 91) := by
    rw [List.dropWhile_append, htext]
    rfl
  rw [bracketed, hdrop, bracketed]

theorem bracketed_lines (status : Bytes) (lines : List Bytes) :
    bracketed (status ++ linesBehind lines) = bracketed status ↔
      match status.dropWhile (· ≠ 91) with
      | [] => bracketed (linesBehind lines) = .number 0
      | _ :: number => number.dropWhile isSpace = [] → storedNumber (linesBehind lines) = .number 0 := by
  cases hstatus : status.dropWhile (· ≠ 91) with
  | nil =>
    have hown : bracketed status = .number 0 := by rw [bracketed, hstatus]
    rw [bracketed_append hstatus, hown]
  | cons b number =>
    have hdrop : (status ++ linesBehind lines).dropWhile (· ≠ 91) =
        b :: (number ++ linesBehind lines) := by
      rw [List.dropWhile_append, hstatus]
      rfl
    rw [bracketed, hdrop, bracketed, hstatus]
    exact storedNumber_lines number lines

/-- The state of the heater does not run over the end of its line. -/
theorem heaterState_lines (status : Bytes) (lines : List Bytes) :
    heaterState (status ++ linesBehind lines) = heaterState status := by
  have hsame : ascii "Running" <+: status ++ linesBehind lines ↔ ascii "Running" <+: status :=
    Lib.prefix_append_iff fun b hb => by
      rw [Lib.head?_linesBehind hb]
      decide
  rw [heaterState, heaterState]
  simp only [hsame]

end Ends

-- ════════════════════════════════════════════════════════════════════════
-- The writes
-- ════════════════════════════════════════════════════════════════════════

variable {c : CollectorSlots} {m : Machine} {body : Bytes} {w : Write CNumber}

/-- Where a key is found in the answer. -/
theorem exists_foundIn {needle : Bytes} (hne : needle ≠ []) (hbreak : 10 ∉ needle) (body : Bytes) :
    (Lib.strstr needle body).map (body.drop ·) =
      (foundIn needle (body.splitOn 10)).map fun found => found.1 ++ linesBehind found.2 := by
  have hlines := Lib.strstr_intercalate hne hbreak (body.splitOn 10)
  rwa [List.intercalate_splitOn] at hlines

/-- What is written of a place that is searched. -/
theorem mem_found {needle : Bytes} (hne : needle ≠ []) (hbreak : 10 ∉ needle)
    (write : Bytes → Write CNumber) :
    (w ∈ match Lib.strstr needle body with
      | none => []
      | some found => [write (body.drop found)]) ↔
      ∃ found ∈ foundIn needle (body.splitOn 10), w = write (found.1 ++ linesBehind found.2) := by
  have hfound := exists_foundIn hne hbreak body
  cases hplace : Lib.strstr needle body with
  | none =>
    rw [hplace] at hfound
    rw [Option.map_eq_none_iff.mp hfound.symm]
    exact iff_of_false List.not_mem_nil fun ⟨_, hmem, _⟩ => nomatch hmem
  | some place =>
    rw [hplace] at hfound
    obtain ⟨found, hsome, htext⟩ := Option.map_eq_some_iff.mp hfound.symm
    rw [hsome]
    simp only [List.mem_singleton, Option.mem_some_iff, exists_eq_left', htext]

theorem sensorKey_plain (index : ℕ) :
    CollectorSlots.sensorKey index ≠ [] ∧ 10 ∉ CollectorSlots.sensorKey index := by
  refine ⟨by simp [CollectorSlots.sensorKey, ascii], fun h => ?_⟩
  rw [CollectorSlots.sensorKey, List.mem_append, List.mem_append] at h
  rcases h with (h | h) | h
  · revert h
    decide
  · exact absurd (Lib.isDigit_of_mem_decimal h) (by decide)
  · revert h
    decide

/-- What `sample_sensors` writes. -/
theorem mem_sampleSensors (hbody : m.temperatures = some body) :
    w ∈ (c.sampleSensors m : List (Write CNumber)) ↔
      (∃ sensor ∈ c.sensors, ∃ found ∈ foundIn (CollectorSlots.sensorKey sensor.index)
        (body.splitOn 10), w = ⟨.sensor sensor.index, sensor.idx, storedNumber
          ((found.1 ++ linesBehind found.2).drop
            ((CollectorSlots.sensorKey sensor.index).length + 1))⟩) ∨
      (c.idx .fanRpm ≠ 0 ∧ ∃ found ∈ foundIn (ascii "Fan.F0.Status=") (body.splitOn 10),
        w = ⟨.fixed .fanRpm, c.idx .fanRpm, bracketed (found.1 ++ linesBehind found.2)⟩) ∨
      c.idx .heater ≠ 0 ∧ ∃ found ∈ foundIn (ascii "Heater.H0.Status=") (body.splitOn 10),
        w = ⟨.fixed .heater, c.idx .heater,
          heaterState ((found.1 ++ linesBehind found.2).drop 17)⟩ := by
  rw [CollectorSlots.sampleSensors]
  by_cases hidle : c.sensors = [] ∧ c.idx .fanRpm = 0 ∧ c.idx .heater = 0
  · rw [if_pos hidle]
    simp [hidle]
  rw [if_neg hidle, hbody]
  dsimp only
  rw [List.mem_append, List.mem_append, or_assoc]
  refine or_congr ?_ (or_congr ?_ ?_)
  · rw [List.mem_flatMap]
    refine exists_congr fun sensor => and_congr_right fun _ => ?_
    obtain ⟨hne, hbreak⟩ := sensorKey_plain sensor.index
    rw [← mem_found hne hbreak fun text => ⟨.sensor sensor.index, sensor.idx,
      storedNumber (text.drop ((CollectorSlots.sensorKey sensor.index).length + 1))⟩]
    simp only [List.drop_drop, ← Nat.add_assoc]
    rfl
  · rw [← mem_found (by decide) (by decide) fun text =>
      ⟨.fixed .fanRpm, c.idx .fanRpm, bracketed text⟩]
    by_cases hidx : c.idx .fanRpm = 0
    · simp only [hidx, if_true, ne_eq, not_true_eq_false, false_and, iff_false]
      split <;> exact List.not_mem_nil
    · simp only [hidx, if_false, ne_eq, not_false_eq_true, true_and]
      cases Lib.strstr (ascii "Fan.F0.Status=") body with
      | none => rfl
      | some fan =>
        dsimp only
        rw [bracketed]
        cases (body.drop fan).dropWhile (· ≠ 91) with
        | nil =>
          dsimp only
          rw [CollectorSlots.setFixed, toFloat_zero]
        | cons b number => rfl
  · rw [← mem_found (by decide) (by decide) fun text =>
      ⟨.fixed .heater, c.idx .heater, heaterState (text.drop 17)⟩]
    by_cases hidx : c.idx .heater = 0
    · simp only [hidx, if_true, ne_eq, not_true_eq_false, false_and, iff_false]
      split <;> exact List.not_mem_nil
    · simp only [hidx, if_false, ne_eq, not_false_eq_true, true_and]
      cases Lib.strstr (ascii "Heater.H0.Status=") body with
      | none => rfl
      | some heater =>
        simp only [List.drop_drop, heaterState, CollectorSlots.setFixed,
          apply_ite (Narrows.toFloat (V := CNumber)), toFloat_zero, toFloat_one]

-- ════════════════════════════════════════════════════════════════════════
-- Own lines
-- ════════════════════════════════════════════════════════════════════════

theorem readsCelsius_iff {key : Bytes} {lines : List Bytes} : ReadsCelsius key lines ↔
    ∀ found ∈ foundIn key lines, ∃ value ∈ lineValue key lines,
      storedNumber ((found.1 ++ linesBehind found.2).drop (key.length + 1)) =
        storedNumber value := by
  refine forall₂_congr fun found _ => exists_congr fun value => and_congr_right fun _ => ?_
  split
  · next hown =>
    have hdrop : (found.1 ++ linesBehind found.2).drop (key.length + 1) =
        value ++ linesBehind found.2 := by
      rw [hown, ← List.drop_drop, List.append_assoc, List.drop_left]
      rfl
    rw [hdrop]
    exact (storedNumber_lines value found.2).symm
  · exact Iff.rfl

theorem readsFan_iff {lines : List Bytes} : ReadsFan lines ↔
    ∀ found ∈ foundIn (ascii "Fan.F0.Status=") lines,
      ∃ status ∈ lineValue (ascii "Fan.F0.Status") lines,
        bracketed (found.1 ++ linesBehind found.2) = bracketed status := by
  refine forall₂_congr fun found _ => exists_congr fun status => and_congr_right fun _ => ?_
  split
  · next hown =>
    rw [hown, List.append_assoc, bracketed_append (by decide)]
    exact (bracketed_lines status found.2).symm
  · exact Iff.rfl

theorem readsHeater_iff {lines : List Bytes} : ReadsHeater lines ↔
    ∀ found ∈ foundIn (ascii "Heater.H0.Status=") lines,
      ∃ status ∈ lineValue (ascii "Heater.H0.Status") lines,
        heaterState ((found.1 ++ linesBehind found.2).drop 17) = heaterState status := by
  refine forall₂_congr fun found _ => exists_congr fun status => and_congr_right fun _ => ?_
  refine or_iff_right_of_imp fun hown => ?_
  have hdrop : (ascii "Heater.H0.Status=" ++ (status ++ linesBehind found.2)).drop 17 =
      status ++ linesBehind found.2 := by
    rw [show 17 = (ascii "Heater.H0.Status=").length from by decide, List.drop_left]
  rw [hown, List.append_assoc, hdrop, heaterState_lines]

/-- The readings that `sample_sensors` stores are those of their own lines just if each key stands
first in its line, and no number runs over the end of the line. -/
theorem readsOwnLines_iff (c : CollectorSlots) (m : Machine) (body : Bytes)
    (hbody : m.temperatures = some body) :
    ReadsOwnLines (body.splitOn 10) (c.sampleSensors m) ↔
      (∀ sensor ∈ c.sensors, ReadsCelsius (CollectorSlots.sensorKey sensor.index)
        (body.splitOn 10)) ∧
      (c.idx .fanRpm ≠ 0 → ReadsFan (body.splitOn 10)) ∧
      (c.idx .heater ≠ 0 → ReadsHeater (body.splitOn 10)) := by
  simp only [readsCelsius_iff, readsFan_iff, readsHeater_iff]
  constructor
  · rintro ⟨hsensors, hfan, hheater⟩
    refine ⟨fun sensor hsensor found hfound => ?_, fun hidx found hfound => ?_,
      fun hidx found hfound => ?_⟩
    · exact hsensors _ ((mem_sampleSensors hbody).mpr
        (.inl ⟨sensor, hsensor, found, hfound, rfl⟩)) _ rfl
    · exact hfan _ ((mem_sampleSensors hbody).mpr
        (.inr (.inl ⟨hidx, found, hfound, rfl⟩))) rfl
    · exact hheater _ ((mem_sampleSensors hbody).mpr
        (.inr (.inr ⟨hidx, found, hfound, rfl⟩))) rfl
  · rintro ⟨hsensors, hfan, hheater⟩
    refine ⟨fun w hw index hsource => ?_, fun w hw hsource => ?_, fun w hw hsource => ?_⟩
    · rcases (mem_sampleSensors hbody).mp hw with
        ⟨sensor, hsensor, found, hfound, rfl⟩ | ⟨_, _, _, rfl⟩ | ⟨_, _, _, rfl⟩
      · obtain rfl := Source.sensor.inj hsource
        exact hsensors sensor hsensor found hfound
      all_goals cases hsource
    · rcases (mem_sampleSensors hbody).mp hw with
        ⟨_, _, _, _, rfl⟩ | ⟨hidx, found, hfound, rfl⟩ | ⟨_, _, _, rfl⟩
      · cases hsource
      · exact hfan hidx found hfound
      · cases hsource
    · rcases (mem_sampleSensors hbody).mp hw with
        ⟨_, _, _, _, rfl⟩ | ⟨_, _, _, rfl⟩ | ⟨hidx, found, hfound, rfl⟩
      · cases hsource
      · cases hsource
      · exact hheater hidx found hfound

/-- A machine with nothing to read but an answer about the temperatures. -/
def thermalMachine (answer : String) : Machine where
  file _ := none
  isDir _ := false
  fileExists _ := false
  dirNames _ := none
  statvfs _ := none
  vapixGet endpoint := if endpoint = ascii "temperaturecontrol.cgi" then some (ascii answer) else none

/-- A sensor, two fans and a heater. -/
def runningFans : String :=
  "Sensor.S0.Name=Optics\nSensor.S0.Celsius=41.5\nFan.F0.Status=Running[36]\n" ++
    "Fan.F1.Status=Running[37]\nHeater.H0.Status=Running\n"

instance (key : Bytes) (lines : List Bytes) : Decidable (ReadsCelsius key lines) :=
  decidable_of_iff _ readsCelsius_iff.symm

instance (lines : List Bytes) : Decidable (ReadsFan lines) :=
  decidable_of_iff _ readsFan_iff.symm

instance (lines : List Bytes) : Decidable (ReadsHeater lines) :=
  decidable_of_iff _ readsHeater_iff.symm

theorem readsOwnLines_runningFans :
    ReadsOwnLines ((ascii runningFans).splitOn 10)
      ((CollectorSlots.discover (thermalMachine runningFans)).sampleSensors
        (thermalMachine runningFans)) :=
  (readsOwnLines_iff (CollectorSlots.discover (thermalMachine runningFans))
    (thermalMachine runningFans) (ascii runningFans) (by decide +kernel)).mpr (by decide +kernel)

/-- The first fan has stopped. -/
def stoppedFan : String := "Fan.F0.Status=Stopped\nFan.F1.Status=Running[37]\n"

/-- The speed of the second fan is given for the first one. -/
theorem not_readsOwnLines_stoppedFan :
    ¬ ReadsOwnLines ((ascii stoppedFan).splitOn 10)
      ((CollectorSlots.discover (thermalMachine runningFans)).sampleSensors
        (thermalMachine stoppedFan)) := by
  intro hown
  have hidx : (CollectorSlots.discover (thermalMachine runningFans)).idx .fanRpm ≠ 0 := by
    decide +kernel
  have hfound : ∃ found ∈ foundIn (ascii "Fan.F0.Status=") ((ascii stoppedFan).splitOn 10),
      bracketed (found.1 ++ linesBehind found.2) = .number 37 := by decide +kernel
  obtain ⟨found, hfound, hspeed⟩ := hfound
  have hbody : (thermalMachine stoppedFan).temperatures = some (ascii stoppedFan) := by
    decide
  obtain ⟨status, hstatus, hvalue⟩ := hown.fan _ ((mem_sampleSensors hbody).mpr
      (.inr (.inl ⟨hidx, found, hfound, rfl⟩))) rfl
  have hline : lineValue (ascii "Fan.F0.Status") ((ascii stoppedFan).splitOn 10) =
      some (ascii "Stopped") := by decide
  obtain rfl := Option.some.inj (hline.symm.trans hstatus)
  have hsame : bracketed (found.1 ++ linesBehind found.2) = bracketed (ascii "Stopped") := hvalue
  rw [hspeed] at hsame
  exact absurd hsame (by decide)

end AxisMetrics
