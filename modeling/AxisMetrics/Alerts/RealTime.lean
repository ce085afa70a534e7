import AxisMetrics.Alerts.Firing

/-!
# The hold time and the wall clock

`alertsEvaluate` times a breach by the difference of two readings of the wall clock, which may
be set between them. `firesInRealTime_iff` says how far the wall clock may be off for a rule to
fire by the time that has really passed.
-/

namespace AxisMetrics

open Lib (Signal IsBlock IsDue IsTimed Latched firstReading timerAfter ascii)

variable {V T : Type} [AlertArith V T] {registry : MetricRegistry}
variable {alerts : Alerts T} {rule : AlertRule T} {wall mono : ℕ → ℤ}

/-- An unedited rule stays in the table with its timer, and fires when its timer says so. -/
theorem alertsAfter_isTimed (wall : ℕ → ℤ) (samples : ℕ → Fin registry.count → V)
    (hrule : rule ∈ alerts.rules) (hfiring : rule.firing = false) (hsince : rule.breachSince = 0)
    (n : ℕ) :
    ∃ current ∈ (alertsAfter alerts wall samples n).rules, SameConfig rule current ∧
      current.breachSince = timerAfter wall (fun k => readingSignal (samples k) rule) n ∧
      (current.firing = true ↔ Latched
        (IsTimed rule.durationS wall fun k => readingSignal (samples k) rule)
        (fun k => readingSignal (samples k) rule) n) := by
  induction n with
  | zero =>
    refine ⟨rule, hrule, by constructor <;> rfl, hsince, ?_⟩
    exact iff_of_false (by simp [hfiring]) (Lib.not_latched_zero _ _)
  | succ n ih =>
    obtain ⟨current, hcurrent, hconfig, htimer, hfires⟩ := ih
    set events := (alertsAfter alerts wall samples n).events
    set notify := (alertsAfter alerts wall samples n).notify
    have hsignal := readingSignal_congr (samples n) hconfig
    have hnext := evaluateRule_breachSince events notify (wall n) (samples n) current
    rw [hsignal, htimer] at hnext
    have hflag := evaluateRule_firing events notify (wall n) (samples n) current
    rw [hsignal, hnext, hconfig.durationS] at hflag
    refine ⟨_, List.mem_map_of_mem hcurrent,
      hconfig.trans (evaluateRule_sameConfig _ _ _ _ _), hnext, ?_⟩
    rw [hflag, Lib.latched_succ, ← hfires]
    cases hs : readingSignal (samples n) rule with
    | unknown =>
      have hnot : ¬ IsTimed rule.durationS wall
          (fun k => readingSignal (samples k) rule) n := fun h => by simpa [hs] using h.hold
      simp [hnot]
    | clear =>
      have hnot : ¬ IsTimed rule.durationS wall
          (fun k => readingSignal (samples k) rule) n := fun h => by simpa [hs] using h.hold
      simp [hnot]
    | hold =>
      obtain ⟨s, hblock⟩ := @Lib.exists_isBlock (fun k => readingSignal (samples k) rule) n hs
      rw [Lib.isTimed_iff hblock, timerAfter, if_pos hs]
      simp [Or.comm]

/-- The hold time is real time: after any number of evaluations the rule is firing exactly when
its condition had been breached at every evaluation of a stretch as long as its duration on the
monotonic clock, and has not been read clear since. -/
def FiresInRealTime (alerts : Alerts T) (rule : AlertRule T) (wall mono : ℕ → ℤ)
    (samples : ℕ → Fin registry.count → V) : Prop :=
  ∀ n, ∃ current, findRule (alertsAfter alerts wall samples n) rule.id = some current ∧
    (current.firing = true ↔ Latched
      (IsDue rule.durationS mono fun k => readingSignal (samples k) rule)
      (fun k => readingSignal (samples k) rule) n)

/-- The hold time is real time exactly when, for every unbroken breach up to which the rule need
not have fired yet, the wall clock shows the duration if and only if it has passed. -/
theorem firesInRealTime_iff (wall mono : ℕ → ℤ) (samples : ℕ → Fin registry.count → V)
    (hrule : rule ∈ alerts.rules) (hfiring : rule.firing = false)
    (hsince : rule.breachSince = 0) :
    FiresInRealTime alerts rule wall mono samples ↔
      ∀ s k, IsBlock (fun k => readingSignal (samples k) rule) s k →
        ¬ Latched (IsDue rule.durationS mono fun k => readingSignal (samples k) rule)
          (fun k => readingSignal (samples k) rule) k →
        ((rule.durationS : ℤ) ≤ wall k - firstReading wall s k ↔
          (rule.durationS : ℤ) ≤ mono k - mono s) := by
  set signal := fun k => readingSignal (samples k) rule with hsignal
  have hruns : FiresInRealTime alerts rule wall mono samples ↔ ∀ n,
      Latched (IsTimed rule.durationS wall signal) signal n ↔
        Latched (IsDue rule.durationS mono signal) signal n := by
    refine forall_congr' fun n => ?_
    obtain ⟨current, hcurrent, hconfig, -, hfires⟩ :=
      alertsAfter_isTimed wall samples hrule hfiring hsince n
    have hfind := findRule_of_mem hcurrent
    rw [hconfig.id] at hfind
    rw [← hfires]
    constructor
    · rintro ⟨found, hfound, hiff⟩
      rw [hfind] at hfound
      rwa [Option.some.inj hfound]
    · intro hiff
      exact ⟨current, hfind, hiff⟩
  rw [hruns, Lib.latched_congr_iff (fun _ => IsTimed.hold) fun _ => IsDue.hold]
  constructor
  · intro hagree s k hblock hoff
    have hk := hagree k hoff
    rwa [Lib.isTimed_iff hblock, Lib.timerAfter_eq_firstReading hblock,
      Lib.isDue_iff hblock] at hk
  · intro hclocks k hoff
    by_cases hs : signal k = .hold
    · obtain ⟨s, hblock⟩ := Lib.exists_isBlock hs
      rw [Lib.isTimed_iff hblock, Lib.timerAfter_eq_firstReading hblock, Lib.isDue_iff hblock]
      exact hclocks s k hblock hoff
    · exact iff_of_false (fun h => hs h.hold) fun h => hs h.hold

/-- A wall clock that is set forward by an hour after its first reading. -/
def correctedClock (n : ℕ) : ℤ := if n = 0 then 1000 else 4600 + 10 * n

/-- Readings that breach from the second on. -/
def laterReadings (n : ℕ) : Fin cpuRegistry.count → Option ℤ := fun _ => some (if n = 0 then 20 else 95)

/-- The processor rule keeps its time, since its condition does not hold while the clock is set. -/
theorem firesInRealTime_cpuHigh :
    FiresInRealTime cpuAlerts cpuHigh correctedClock (fun n => 10 * (n : ℤ)) laterReadings := by
  refine (firesInRealTime_iff _ _ _ List.mem_cons_self rfl rfl).mpr ?_
  rintro s k hblock -
  have hstart : s ≠ 0 := by
    rintro rfl
    have hfirst : readingSignal (laterReadings 0) cpuHigh = .hold := hblock.hold 0 le_rfl hblock.start_le
    exact absurd hfirst (by decide)
  have hle := hblock.start_le
  have hclock : ∀ n, n ≠ 0 → correctedClock n = 4600 + 10 * n := fun n hn => if_neg hn
  rw [Lib.firstReading_of_ne_zero hle (by rw [hclock s hstart]; omega), hclock s hstart,
    hclock k (by omega)]
  omega

/-- The wall clock is set forward by an hour between two readings a second apart, and the
processor rule, which asks for five minutes, fires at the second. -/
theorem not_firesInRealTime_cpuHigh : ¬ FiresInRealTime cpuAlerts cpuHigh
    (fun n => if n = 0 then 1000 else 4600 + (n : ℤ)) (fun n => (n : ℤ))
    fun _ (_ : Fin cpuRegistry.count) => some (95 : ℤ) := by
  intro hreal
  obtain ⟨current, hcurrent, hiff⟩ := hreal 2
  have hfires : (findRule (alertsAfter cpuAlerts (fun n => if n = 0 then 1000 else 4600 + (n : ℤ))
      (fun _ (_ : Fin cpuRegistry.count) => some (95 : ℤ)) 2) cpuHigh.id).map
        AlertRule.firing = some true := by decide
  rw [hcurrent] at hfires
  obtain ⟨k, hk, ⟨s, -, hdue⟩, -⟩ := hiff.mp (Option.some.inj hfires)
  -- only a second has passed
  have hduration : (300 : ℤ) ≤ k - s := hdue
  omega

end AxisMetrics
