import AxisMetrics.Alerts.Table
import AxisMetrics.Lib.Latch

/-!
# When a rule fires

An unedited rule is a latch with a delay whose observations are the readings of its metric.
Its timer keeps the start of a breach as a clock reading, with zero for none, which is the
latch's memory as long as the clock is positive. `firing_iff` states the result for a rule
inside its table, with what its turn of the loop sends.
-/

namespace AxisMetrics

open Lib (Bytes Signal Latch latchAfter IsBlock IsDue ascii)

variable {V T : Type} [AlertArith V T] {registry : MetricRegistry}

/-- What a sample tells about a rule's condition. -/
def readingSignal (values : Fin registry.count → V) (rule : AlertRule T) : Signal :=
  match registry.metricsFind rule.metric with
  | none => .unknown
  | some index =>
    if rule.enabled = false then .unknown
    else if AlertArith.isnan (values index) then .unknown
    else if isBreached rule (values index) then .hold
    else .clear

/-- Two rules that agree on all that is configured. -/
structure SameConfig (rule rule' : AlertRule T) : Prop where
  id : rule'.id = rule.id
  name : rule'.name = rule.name
  metric : rule'.metric = rule.metric
  op : rule'.op = rule.op
  threshold : rule'.threshold = rule.threshold
  durationS : rule'.durationS = rule.durationS
  enabled : rule'.enabled = rule.enabled
  builtin : rule'.builtin = rule.builtin
  declaration : rule'.declaration = rule.declaration

/-- The three things a turn can do. -/
theorem evaluateRule_cases (events notify : Bool) (now : ℤ) (values : Fin registry.count → V)
    (rule : AlertRule T) :
    (readingSignal values rule = .unknown ∧
      evaluateRule events notify now values rule = ({ rule with breachSince := 0 }, [])) ∨
    (∃ value, readingSignal values rule = .clear ∧
      evaluateRule events notify now values rule =
        clearReading events notify { rule with lastValue := value }) ∨
    (∃ value, readingSignal values rule = .hold ∧
      evaluateRule events notify now values rule =
        breachReading events notify now { rule with lastValue := value }) := by
  unfold evaluateRule readingSignal
  cases registry.metricsFind rule.metric with
  | none => exact Or.inl ⟨rfl, rfl⟩
  | some index =>
    dsimp only
    by_cases hdisabled : rule.enabled = false
    · exact Or.inl ⟨if_pos hdisabled, if_pos hdisabled⟩
    by_cases hnan : AlertArith.isnan (values index) = true
    · exact Or.inl ⟨by rw [if_neg hdisabled, if_pos hnan], by rw [if_neg hdisabled, if_pos hnan]⟩
    rw [if_neg hdisabled, if_neg hnan, if_neg hdisabled, if_neg hnan]
    by_cases hbreach : isBreached rule (values index) = true
    · exact Or.inr (Or.inr ⟨_, if_pos hbreach, if_pos hbreach⟩)
    · exact Or.inr (Or.inl ⟨_, if_neg hbreach, if_neg hbreach⟩)

variable (events notify : Bool) (now : ℤ) (values : Fin registry.count → V) (rule : AlertRule T)

theorem evaluateRule_sameConfig :
    SameConfig rule (evaluateRule events notify now values rule).1 := by
  rcases evaluateRule_cases events notify now values rule with
    ⟨-, h⟩ | ⟨value, -, h⟩ | ⟨value, -, h⟩ <;> rw [h]
  · constructor <;> rfl
  · unfold clearReading
    dsimp only
    split_ifs <;> constructor <;> rfl
  · unfold breachReading
    dsimp only
    split_ifs <;> constructor <;> rfl

omit [AlertArith V T] in
/-- A clear reading: no timer, not firing, and a message if that is news. -/
theorem clearReading_spec :
    (clearReading events notify rule).1.breachSince = 0 ∧
    (clearReading events notify rule).1.firing = false ∧
    (clearReading events notify rule).2 = if rule.firing = false then []
      else sendState events (clearReading events notify rule).1 ++
        callNotify notify (clearReading events notify rule).1 false := by
  unfold clearReading
  dsimp only
  by_cases hf : rule.firing = true
  · rw [if_pos hf, if_neg (by rw [hf]; decide)]
    exact ⟨rfl, rfl, rfl⟩
  · rw [if_neg hf, if_pos (Bool.eq_false_of_not_eq_true hf)]
    exact ⟨rfl, Bool.eq_false_of_not_eq_true hf, rfl⟩

omit [AlertArith V T] in
/-- A breaching reading: the timer runs, the rule fires if it is due, and a message if that is
news. -/
theorem breachReading_spec :
    (breachReading events notify now rule).1.breachSince =
      (if rule.breachSince = 0 then now else rule.breachSince) ∧
    (breachReading events notify now rule).1.firing = (rule.firing ||
      decide ((rule.durationS : ℤ) ≤ now - (breachReading events notify now rule).1.breachSince)) ∧
    (breachReading events notify now rule).2 =
      if (breachReading events notify now rule).1.firing = rule.firing then []
      else sendState events (breachReading events notify now rule).1 ++
        callNotify notify (breachReading events notify now rule).1 true := by
  unfold breachReading
  dsimp only
  generalize (if rule.breachSince = 0 then now else rule.breachSince) = since
  by_cases h : rule.firing = false ∧ (rule.durationS : ℤ) ≤ now - since
  · rw [if_pos h]
    refine ⟨rfl, ?_, ?_⟩
    · simpa [h.1] using h.2
    · have hnews : ¬ true = rule.firing := by simp [h.1]
      exact (if_neg hnews).symm
  · rw [if_neg h]
    refine ⟨rfl, ?_, (if_pos rfl).symm⟩
    cases hf : rule.firing with
    | true => rfl
    | false => simpa [hf] using h

/-- The timer after a turn. -/
theorem evaluateRule_breachSince : (evaluateRule events notify now values rule).1.breachSince =
    if readingSignal values rule = .hold then
      if rule.breachSince = 0 then now else rule.breachSince
    else 0 := by
  rcases evaluateRule_cases events notify now values rule with
    ⟨hs, h⟩ | ⟨value, hs, h⟩ | ⟨value, hs, h⟩ <;> rw [h, hs]
  · rfl
  · exact (clearReading_spec _ _ _).1
  · exact (breachReading_spec _ _ _ _).1

/-- The firing flag after a turn. -/
theorem evaluateRule_firing : (evaluateRule events notify now values rule).1.firing =
    match readingSignal values rule with
    | .unknown => rule.firing
    | .clear => false
    | .hold => rule.firing || decide ((rule.durationS : ℤ) ≤
        now - (evaluateRule events notify now values rule).1.breachSince) := by
  rcases evaluateRule_cases events notify now values rule with
    ⟨hs, h⟩ | ⟨value, hs, h⟩ | ⟨value, hs, h⟩ <;> rw [h, hs]
  · exact (clearReading_spec _ _ _).2.1
  · exact (breachReading_spec _ _ _ _).2.1

/-- A turn sends nothing unless the rule changes its state, and then one event, if the rule is
declared, and one notification, if anyone listens. -/
theorem evaluateRule_outputs : (evaluateRule events notify now values rule).2 =
    if (evaluateRule events notify now values rule).1.firing = rule.firing then []
    else sendState events (evaluateRule events notify now values rule).1 ++
      callNotify notify (evaluateRule events notify now values rule).1
        (evaluateRule events notify now values rule).1.firing := by
  rcases evaluateRule_cases events notify now values rule with
    ⟨-, h⟩ | ⟨value, -, h⟩ | ⟨value, -, h⟩ <;> rw [h]
  · exact (if_pos rfl).symm
  · obtain ⟨-, hfiring, hout⟩ := clearReading_spec events notify { rule with lastValue := value }
    rw [hout, hfiring]
    exact if_congr eq_comm rfl rfl
  · obtain ⟨-, hfiring, hout⟩ :=
      breachReading_spec events notify now { rule with lastValue := value }
    rw [hout]
    split
    · rfl
    · next hchange =>
      -- a breach can only turn the flag on
      have hon : (breachReading events notify now { rule with lastValue := value }).1.firing =
          true := by
        rw [hfiring] at hchange ⊢
        cases hf : rule.firing <;> simp_all
      rw [hon]

/-- A rule's runtime state is that of a latch; the timer's zero is the latch's `none`. -/
structure IsLatch (rule : AlertRule T) (latch : Latch) : Prop where
  firing : rule.firing = latch.on
  breachSince : rule.breachSince = latch.since.getD 0
  since_ne : ∀ t, latch.since = some t → t ≠ 0

variable {now rule}

/-- A turn at a positive clock is an observation. -/
theorem IsLatch.evaluateRule {latch : Latch} (h : IsLatch rule latch) (hnow : 0 < now) :
    IsLatch (evaluateRule events notify now values rule).1
      (latch.observe rule.durationS now (readingSignal values rule)) := by
  have hsince := evaluateRule_breachSince events notify now values rule
  have hfiring := evaluateRule_firing events notify now values rule
  cases hs : readingSignal values rule with
  | unknown =>
    rw [hs] at hsince hfiring
    exact ⟨hfiring.trans h.firing, hsince, fun t ht => by simp [Latch.observe] at ht⟩
  | clear =>
    rw [hs] at hsince hfiring
    exact ⟨hfiring, hsince, fun t ht => by simp [Latch.observe] at ht⟩
  | hold =>
    -- zero stands for no start, and no start is zero
    have hstart : (if rule.breachSince = 0 then now else rule.breachSince) =
        latch.since.getD now := by
      rw [h.breachSince]
      cases hl : latch.since with
      | none => rfl
      | some t => exact if_neg (h.since_ne t hl)
    rw [hs, if_pos rfl, hstart] at hsince
    simp only [hs, hsince, h.firing] at hfiring
    refine ⟨hfiring, hsince, fun t ht => ?_⟩
    obtain rfl := Option.some.inj ht
    cases hl : latch.since with
    | none => exact hnow.ne'
    | some t => exact h.since_ne t hl

theorem readingSignal_congr {rule' : AlertRule T} (h : SameConfig rule rule') :
    readingSignal values rule' = readingSignal values rule := by
  unfold readingSignal isBreached
  rw [h.metric, h.enabled, h.op, h.threshold]

omit [AlertArith V T] in
theorem SameConfig.trans {rule' rule'' : AlertRule T} (h : SameConfig rule rule')
    (h' : SameConfig rule' rule'') : SameConfig rule rule'' :=
  ⟨h'.id.trans h.id, h'.name.trans h.name, h'.metric.trans h.metric, h'.op.trans h.op,
    h'.threshold.trans h.threshold, h'.durationS.trans h.durationS, h'.enabled.trans h.enabled,
    h'.builtin.trans h.builtin, h'.declaration.trans h.declaration⟩

/-- The alerts after the first `n` evaluations of a sequence of clock readings and samples. -/
def alertsAfter (alerts : Alerts T) (clock : ℕ → ℤ) (samples : ℕ → Fin registry.count → V) :
    ℕ → Alerts T
  | 0 => alerts
  | n + 1 => (alertsEvaluate (alertsAfter alerts clock samples n) (clock n) (samples n)).1

variable {alerts : Alerts T} {clock : ℕ → ℤ} {samples : ℕ → Fin registry.count → V}

/-- An unedited rule stays in the table and follows the latch of its readings. -/
theorem alertsAfter_isLatch (samples : ℕ → Fin registry.count → V) (hrule : rule ∈ alerts.rules)
    (hfiring : rule.firing = false) (hsince : rule.breachSince = 0) (hclock : ∀ n, 0 < clock n)
    (n : ℕ) :
    ∃ rule' ∈ (alertsAfter alerts clock samples n).rules, SameConfig rule rule' ∧
      IsLatch rule' (latchAfter rule.durationS clock (fun k => readingSignal (samples k) rule) n) := by
  induction n with
  | zero =>
    exact ⟨rule, hrule, by constructor <;> rfl, hfiring, hsince, fun t ht => by cases ht⟩
  | succ n ih =>
    obtain ⟨rule', hrule', hconfig, hlatch⟩ := ih
    refine ⟨_, List.mem_map_of_mem hrule',
      hconfig.trans (evaluateRule_sameConfig _ _ _ _ _), ?_⟩
    have hstep := hlatch.evaluateRule (alertsAfter alerts clock samples n).events
      (alertsAfter alerts clock samples n).notify (samples n) (hclock n)
    rwa [hconfig.durationS, readingSignal_congr _ hconfig] at hstep

/-- A message that is not about the rule of the given id. -/
def AboutOther (alerts : Alerts T) (id : Bytes) : AlertOutput T → Prop
  | .event declaration _ => ∃ other ∈ alerts.rules, other.id ≠ id ∧ other.declaration = declaration
  | .notify other _ => other.id ≠ id

/-- What a turn sends is about its own rule. -/
theorem aboutOther_of_turn {other : AlertRule T} {id : Bytes} (hother : other ∈ alerts.rules)
    (hid : other.id ≠ id) {output : AlertOutput T}
    (ho : output ∈ (evaluateRule events notify now values other).2) :
    AboutOther alerts id output := by
  have hconfig := evaluateRule_sameConfig events notify now values other
  rw [evaluateRule_outputs] at ho
  split at ho
  · cases ho
  · rcases List.mem_append.mp ho with hsend | hcall
    · unfold sendState at hsend
      split at hsend
      · cases hsend
      · obtain rfl := List.mem_singleton.mp hsend
        exact ⟨other, hother, hid, hconfig.declaration.symm⟩
    · unfold callNotify at hcall
      split at hcall
      · obtain rfl := List.mem_singleton.mp hcall
        exact fun heq => hid (hconfig.id.symm.trans heq)
      · cases hcall

/-- An evaluation sends what the turn of a rule sends, and otherwise nothing about it. -/
theorem alertsEvaluate_split (now : ℤ) (values : Fin registry.count → V)
    (hrule : rule ∈ alerts.rules) :
    ∃ front back, (alertsEvaluate alerts now values).2 =
      front ++ (evaluateRule alerts.events alerts.notify now values rule).2 ++ back ∧
      ∀ output ∈ front ++ back, AboutOther alerts rule.id output := by
  obtain ⟨front, back, hsplit⟩ := List.append_of_mem hrule
  have hnodup := alerts.nodup
  rw [hsplit, List.map_append, List.map_cons, List.nodup_append, List.nodup_cons] at hnodup
  refine ⟨front.flatMap fun rule => (evaluateRule alerts.events alerts.notify now values rule).2,
    back.flatMap fun rule => (evaluateRule alerts.events alerts.notify now values rule).2, ?_, ?_⟩
  · rw [alertsEvaluate, hsplit, List.flatMap_append, List.flatMap_cons, List.append_assoc]
  · intro output ho
    rcases List.mem_append.mp ho with hfront | hback
    · obtain ⟨other, hother, hout⟩ := List.mem_flatMap.mp hfront
      have hmem : other ∈ alerts.rules := hsplit ▸ List.mem_append_left _ hother
      exact aboutOther_of_turn _ _ _ hmem
        (hnodup.2.2 _ (List.mem_map_of_mem hother) _ List.mem_cons_self) hout
    · obtain ⟨other, hother, hout⟩ := List.mem_flatMap.mp hback
      have hmem : other ∈ alerts.rules :=
        hsplit ▸ List.mem_append_right _ (List.mem_cons_of_mem _ hother)
      exact aboutOther_of_turn _ _ _ hmem
        (fun heq : other.id = rule.id => hnodup.2.1.1 (heq ▸ List.mem_map_of_mem hother)) hout

omit [AlertArith V T] in
theorem sendState_eq (events : Bool) (rule : AlertRule T) : sendState events rule =
    if events = true ∧ rule.declaration ≠ 0 then [.event rule.declaration rule.firing] else [] := by
  rw [sendState]
  by_cases hdeclared : events = true ∧ rule.declaration ≠ 0
  · rw [if_pos hdeclared, if_neg (by simp [hdeclared])]
  · rw [if_neg hdeclared, if_pos]
    cases events with
    | false => exact .inl rfl
    | true => exact .inr (by simpa using hdeclared)

/-- The state machine of a rule, by its specification: it fires after `n` evaluations exactly
when it was due at one of them and has not been read clear since. The next evaluation sends nothing
about it if it leaves its state, and otherwise one event of its declaration and one notification,
both with the new state. There is no event without an event handler or a declaration, and no
notification without a callback. -/
def FiringAsSpecified (alerts : Alerts T) (rule : AlertRule T) (clock : ℕ → ℤ)
    (samples : ℕ → Fin registry.count → V) (n : ℕ) : Prop :=
  ∃ before after : AlertRule T,
    findRule (alertsAfter alerts clock samples n) rule.id = some before ∧
    findRule (alertsAfter alerts clock samples (n + 1)) rule.id = some after ∧
    (before.firing = true ↔ ∃ k < n,
      IsDue rule.durationS clock (fun k => readingSignal (samples k) rule) k ∧
        ∀ j, k < j → j < n → readingSignal (samples j) rule ≠ .clear) ∧
    ∃ front messages back,
      (alertsEvaluate (alertsAfter alerts clock samples n) (clock n) (samples n)).2 =
        front ++ messages ++ back ∧
      (∀ output ∈ front ++ back, AboutOther (alertsAfter alerts clock samples n) rule.id output) ∧
      (after.firing = before.firing → messages = []) ∧
      (after.firing ≠ before.firing → messages =
        (if alerts.events = true ∧ rule.declaration ≠ 0 then
          [.event rule.declaration after.firing] else []) ++
        if alerts.notify = true then [.notify after after.firing] else [])

theorem alertsAfter_handlers (alerts : Alerts T) (clock : ℕ → ℤ)
    (samples : ℕ → Fin registry.count → V) (n : ℕ) :
    (alertsAfter alerts clock samples n).events = alerts.events ∧
      (alertsAfter alerts clock samples n).notify = alerts.notify := by
  induction n with
  | zero => exact ⟨rfl, rfl⟩
  | succ n ih => exact ih

/-- Every rule that is left alone meets its specification, from its initial state and at every
positive clock. -/
theorem firingAsSpecified (hrule : rule ∈ alerts.rules) (hfiring : rule.firing = false)
    (hsince : rule.breachSince = 0) (hclock : ∀ n, 0 < clock n)
    (samples : ℕ → Fin registry.count → V) (n : ℕ) :
    FiringAsSpecified alerts rule clock samples n := by
  obtain ⟨before, hbefore, hconfig, hlatch⟩ :=
    alertsAfter_isLatch samples hrule hfiring hsince hclock n
  obtain ⟨hevents, hnotify⟩ := alertsAfter_handlers alerts clock samples n
  obtain ⟨front, back, hsplit, hother⟩ := alertsEvaluate_split (clock n) (samples n) hbefore
  set after := (evaluateRule (alertsAfter alerts clock samples n).events
    (alertsAfter alerts clock samples n).notify (clock n) (samples n) before).1
  have hafter : after ∈ (alertsAfter alerts clock samples (n + 1)).rules :=
    List.mem_map_of_mem hbefore
  have hid : after.id = rule.id := (evaluateRule_id _ _ _ _ _).trans hconfig.id
  have hdeclaration : after.declaration = rule.declaration :=
    (evaluateRule_sameConfig _ _ _ _ _).declaration.trans hconfig.declaration
  have hsent : (evaluateRule (alertsAfter alerts clock samples n).events
      (alertsAfter alerts clock samples n).notify (clock n) (samples n) before).2 =
        if after.firing = before.firing then []
        else sendState alerts.events after ++ callNotify alerts.notify after after.firing := by
    rw [← hevents, ← hnotify]
    exact evaluateRule_outputs _ _ _ _ _
  refine ⟨before, after, hconfig.id ▸ findRule_of_mem hbefore, hid ▸ findRule_of_mem hafter, ?_,
    front, _, back, hsplit, hconfig.id ▸ hother, fun hsame => ?_, fun hchange => ?_⟩
  · rw [hlatch.firing, Lib.latchAfter_on_iff]
  · rw [hsent, if_pos hsame]
  · rw [hsent, if_neg hchange, sendState_eq, hdeclaration, callNotify]

/-- The first built-in rule, and a table of it alone with a listener. -/
abbrev cpuHigh : AlertRule ℤ := builtinRule (Option ℤ)
  ⟨ascii "cpu_high", ascii "CPU usage high", ascii "cpu.usage", 90, 300⟩

abbrev cpuAlerts : Alerts ℤ :=
  ⟨[cpuHigh], false, true, by decide, List.nodup_singleton _⟩

abbrev cpuRegistry : MetricRegistry := .registerAll [ascii "cpu.usage"]

/-- The same rule with its event declared, and a handler for it. -/
abbrev declaredCpuHigh : AlertRule ℤ := { cpuHigh with declaration := 7 }

abbrev declaredAlerts : Alerts ℤ :=
  ⟨[declaredCpuHigh], true, true, by decide, List.nodup_singleton _⟩

/-- A reading every five minutes: 95 percent twice, then 20 percent. -/
def cpuClock (n : ℕ) : ℤ := 1000 + 300 * n

def cpuReadings (n : ℕ) : Fin cpuRegistry.count → Option ℤ := fun _ => some (if n < 2 then 95 else 20)

/-- The processor rule fires at the second reading and is cleared at the third, and both times
there is one event and one notification. -/
theorem firingAsSpecified_cpuHigh :
    FiringAsSpecified declaredAlerts declaredCpuHigh cpuClock cpuReadings 1 ∧
    FiringAsSpecified declaredAlerts declaredCpuHigh cpuClock cpuReadings 2 ∧
    ∃ fired cleared : AlertRule ℤ,
      (alertsEvaluate (alertsAfter declaredAlerts cpuClock cpuReadings 1) (cpuClock 1)
        (cpuReadings 1)).2 = [.event 7 true, .notify fired true] ∧
      (alertsEvaluate (alertsAfter declaredAlerts cpuClock cpuReadings 2) (cpuClock 2)
        (cpuReadings 2)).2 = [.event 7 false, .notify cleared false] := by
  have hclock : ∀ n, 0 < cpuClock n := fun n => by
    rw [cpuClock]
    omega
  exact ⟨firingAsSpecified List.mem_cons_self rfl rfl hclock cpuReadings 1,
    firingAsSpecified List.mem_cons_self rfl rfl hclock cpuReadings 2, _, _, rfl, rfl⟩

end AxisMetrics
