import Mathlib.Data.Int.Order.Basic
import Mathlib.Data.Nat.Basic
import Mathlib.Tactic.Common

/-!
# A latch with a delay

A condition is observed again and again: it holds, it is clear, or nothing is known. The
latch turns on once the condition has held without a break for a duration, and off when it
is seen to be clear. `latchAfter_on_iff` describes its state by the observations alone.
-/

namespace Lib

/-- One observation of a condition. -/
inductive Signal where
  | unknown
  | clear
  | hold
  deriving DecidableEq

/-- A latch, and when the condition began to hold. -/
structure Latch where
  on : Bool
  since : Option ℤ
  deriving DecidableEq

/-- A latch that has not seen anything. -/
def Latch.off : Latch := ⟨false, none⟩

/-- One observation, at clock `now`. -/
def Latch.observe (duration : ℤ) (l : Latch) (now : ℤ) : Signal → Latch
  | .unknown => ⟨l.on, none⟩
  | .clear => ⟨false, none⟩
  | .hold => ⟨l.on || decide (duration ≤ now - l.since.getD now), some (l.since.getD now)⟩

variable (duration : ℤ) (now : ℕ → ℤ) (signal : ℕ → Signal)

/-- The latch after the first `n` observations. -/
def latchAfter : ℕ → Latch
  | 0 => .off
  | n + 1 => (latchAfter n).observe duration (now n) (signal n)

/-- The longest run of observations in which the condition held that ends at `k` starts at `s`. -/
structure IsBlock (s k : ℕ) : Prop where
  start_le : s ≤ k
  hold : ∀ j, s ≤ j → j ≤ k → signal j = .hold
  maximal : s = 0 ∨ signal (s - 1) ≠ .hold

/-- The condition has held for the duration when `k` is observed. -/
def IsDue (k : ℕ) : Prop := ∃ s, IsBlock signal s k ∧ duration ≤ now k - now s

variable {duration now signal}

theorem IsBlock.unique {s s' k : ℕ} (h : IsBlock signal s k) (h' : IsBlock signal s' k) :
    s = s' := by
  -- the later of two starts would have a holding observation right before it
  have hle : ∀ {a b : ℕ}, IsBlock signal a k → IsBlock signal b k → b ≤ a := by
    intro a b ha hb
    by_contra hlt
    rcases hb.maximal with h0 | hbefore
    · omega
    · exact hbefore (ha.hold (b - 1) (by omega) (by have := hb.start_le; omega))
  exact Nat.le_antisymm (hle h' h) (hle h h')

theorem IsDue.hold {k : ℕ} (h : IsDue duration now signal k) : signal k = .hold := by
  obtain ⟨s, hblock, -⟩ := h
  exact hblock.hold k hblock.start_le le_rfl

theorem isDue_iff {s k : ℕ} (hblock : IsBlock signal s k) :
    IsDue duration now signal k ↔ duration ≤ now k - now s := by
  constructor
  · rintro ⟨s', hblock', hle⟩
    rwa [hblock.unique hblock']
  · intro hle
    exact ⟨s, hblock, hle⟩

/-- The latch remembers where the current block started. -/
theorem latchAfter_since (n : ℕ) :
    (signal n = .hold → ∃ s, IsBlock signal s n ∧
      (latchAfter duration now signal (n + 1)).since = some (now s)) ∧
    (signal n ≠ .hold → (latchAfter duration now signal (n + 1)).since = none) := by
  induction n with
  | zero =>
    refine ⟨fun hs => ⟨0, ⟨le_rfl, fun j _ hj => ?_, Or.inl rfl⟩, ?_⟩, fun hs => ?_⟩
    · rw [Nat.le_zero.mp hj, hs]
    · rw [latchAfter, hs]
      rfl
    · rw [latchAfter]
      cases h : signal 0 with
      | hold => exact absurd h hs
      | unknown => rfl
      | clear => rfl
  | succ n ih =>
    refine ⟨fun hs => ?_, fun hs => ?_⟩
    · rw [latchAfter, hs]
      by_cases hprev : signal n = .hold
      · obtain ⟨s, hblock, hsince⟩ := ih.1 hprev
        refine ⟨s, ⟨Nat.le_succ_of_le hblock.start_le, fun j hsj hj => ?_, hblock.maximal⟩, ?_⟩
        · rcases Nat.lt_or_ge j (n + 1) with hlt | hge
          · exact hblock.hold j hsj (by omega)
          · rw [Nat.le_antisymm hj hge, hs]
        · simp only [Latch.observe, hsince, Option.getD_some]
      · refine ⟨n + 1, ⟨le_rfl, fun j hsj hj => ?_, Or.inr hprev⟩, ?_⟩
        · rw [Nat.le_antisymm hj hsj, hs]
        · simp only [Latch.observe, ih.2 hprev, Option.getD_none]
    · rw [latchAfter]
      cases h : signal (n + 1) with
      | hold => exact absurd h hs
      | unknown => rfl
      | clear => rfl

/-- Something was due at one of the first `n` observations, and the condition has not been seen
clear since. -/
def Latched (due : ℕ → Prop) (signal : ℕ → Signal) (n : ℕ) : Prop :=
  ∃ k < n, due k ∧ ∀ j, k < j → j < n → signal j ≠ .clear

theorem not_latched_zero (due : ℕ → Prop) (signal : ℕ → Signal) : ¬ Latched due signal 0 := by
  rintro ⟨k, hk, -⟩
  exact absurd hk (Nat.not_lt_zero k)

/-- What was due before stays latched unless the new observation is clear. -/
theorem latched_succ (due : ℕ → Prop) (n : ℕ) :
    Latched due signal (n + 1) ↔ due n ∨ (signal n ≠ .clear ∧ Latched due signal n) := by
  constructor
  · rintro ⟨k, hk, hdue, hclear⟩
    rcases Nat.lt_or_ge k n with hlt | hge
    · exact Or.inr ⟨hclear n hlt (Nat.lt_succ_self n), k, hlt, hdue,
        fun j hkj hj => hclear j hkj (by omega)⟩
    · exact Or.inl ((show k = n by omega) ▸ hdue)
  · rintro (hdue | ⟨hn, k, hk, hdue, hclear⟩)
    · exact ⟨n, Nat.lt_succ_self n, hdue, fun j hj hj' => by omega⟩
    · refine ⟨k, by omega, hdue, fun j hkj hj => ?_⟩
      rcases Nat.lt_or_ge j n with hlt | hge
      · exact hclear j hkj hlt
      · exact (show j = n by omega) ▸ hn

/-- Two latches are never apart exactly when their conditions agree wherever the second latch is
still off. -/
theorem latched_congr_iff {due due' : ℕ → Prop} (hdue : ∀ k, due k → signal k = .hold)
    (hdue' : ∀ k, due' k → signal k = .hold) :
    (∀ n, Latched due signal n ↔ Latched due' signal n) ↔
      ∀ k, ¬ Latched due' signal k → (due k ↔ due' k) := by
  constructor
  · intro hsame k hoff
    have hnext := hsame (k + 1)
    rw [latched_succ, latched_succ, hsame k] at hnext
    simpa [hoff] using hnext
  · intro hagree n
    induction n with
    | zero => exact iff_of_false (not_latched_zero _ _) (not_latched_zero _ _)
    | succ n ih =>
      rw [latched_succ, latched_succ, ih]
      by_cases hon : Latched due' signal n
      · -- a latch that is on stays on unless this observation is clear, and then nothing is due
        by_cases hs : signal n = .clear
        · have hoff : ¬ due n := fun h => by simpa [hs] using hdue n h
          have hoff' : ¬ due' n := fun h => by simpa [hs] using hdue' n h
          simp [hoff, hoff', hs]
        · simp [hs, hon]
      · rw [hagree n hon]

/-- The latch is on exactly when the condition was due at some observation and has not been
seen clear since. -/
theorem latchAfter_on_iff (n : ℕ) :
    (latchAfter duration now signal n).on = true ↔
      ∃ k < n, IsDue duration now signal k ∧ ∀ j, k < j → j < n → signal j ≠ .clear := by
  change _ ↔ Latched (IsDue duration now signal) signal n
  induction n with
  | zero => exact iff_of_false (by simp [latchAfter, Latch.off]) (not_latched_zero _ _)
  | succ n ih =>
    rw [latched_succ, ← ih, latchAfter]
    cases hs : signal n with
    | unknown =>
      have hnot : ¬ IsDue duration now signal n := fun h => by simp [h.hold] at hs
      simp [Latch.observe, hnot]
    | clear =>
      have hnot : ¬ IsDue duration now signal n := fun h => by simp [h.hold] at hs
      simp [Latch.observe, hnot]
    | hold =>
      -- the start the latch remembers is the start of the block that ends here
      obtain ⟨s, hblock, hsince⟩ := (latchAfter_since n).1 hs
      rw [latchAfter, hs] at hsince
      have hstart : (latchAfter duration now signal n).since.getD (now n) = now s :=
        Option.some.inj hsince
      simp only [Latch.observe, hstart, Bool.or_eq_true, decide_eq_true_eq, isDue_iff hblock, ne_eq,
        reduceCtorEq, not_false_eq_true, true_and]
      exact Or.comm

/-! ## A timer that is a clock reading

A timer kept in one integer, where zero stands for none, starts at the first reading other than
zero. -/

/-- The first reading other than zero from `s` to `k`, or zero. -/
def firstReading (now : ℕ → ℤ) (s k : ℕ) : ℤ :=
  (((List.range' s (k + 1 - s)).map now).find? (· ≠ 0)).getD 0

theorem firstReading_self (now : ℕ → ℤ) (s : ℕ) : firstReading now s s = now s := by
  rw [firstReading, show s + 1 - s = 1 by omega]
  by_cases h : now s = 0
  · simp [h]
  · simp [h]

theorem firstReading_succ (now : ℕ → ℤ) {s k : ℕ} (h : s ≤ k) : firstReading now s (k + 1) =
    if firstReading now s k = 0 then now (k + 1) else firstReading now s k := by
  rw [firstReading, show k + 1 + 1 - s = (k + 1 - s) + 1 by omega, List.range'_1_concat,
    List.map_append, List.find?_append, firstReading, show s + (k + 1 - s) = k + 1 by omega]
  cases hfind : ((List.range' s (k + 1 - s)).map now).find? (· ≠ 0) with
  | none =>
    by_cases hk : now (k + 1) = 0
    · simp [hk]
    · simp [hk]
  | some t =>
    have ht : t ≠ 0 := by simpa using List.find?_some hfind
    simp [ht]

/-- A clock that does not start at zero is read at once. -/
theorem firstReading_of_ne_zero {s k : ℕ} (h : s ≤ k) (hs : now s ≠ 0) :
    firstReading now s k = now s := by
  induction k, h using Nat.le_induction with
  | base => exact firstReading_self now s
  | succ k hk ih => rw [firstReading_succ now hk, ih, if_neg hs]

/-- Every observation at which the condition holds ends a block. -/
theorem exists_isBlock {k : ℕ} (h : signal k = .hold) : ∃ s, IsBlock signal s k := by
  obtain ⟨s, hblock, -⟩ := (@latchAfter_since 0 (fun _ => 0) signal k).1 h
  exact ⟨s, hblock⟩

/-- The timer after the first `n` observations: a holding one starts it, any other resets it. -/
def timerAfter (now : ℕ → ℤ) (signal : ℕ → Signal) : ℕ → ℤ
  | 0 => 0
  | n + 1 =>
    if signal n = .hold then
      if timerAfter now signal n = 0 then now n else timerAfter now signal n
    else 0

/-- The timer holds the first reading of its block. -/
theorem timerAfter_eq_firstReading {s k : ℕ} (hblock : IsBlock signal s k) :
    timerAfter now signal (k + 1) = firstReading now s k := by
  have hstart : timerAfter now signal s = 0 := by
    cases s with
    | zero => rfl
    | succ n =>
      have hbefore : signal n ≠ .hold := hblock.maximal.resolve_left n.succ_ne_zero
      rw [timerAfter, if_neg hbefore]
  have hrun : ∀ j, s ≤ j → j ≤ k → timerAfter now signal (j + 1) = firstReading now s j := by
    intro j hj
    induction j, hj using Nat.le_induction with
    | base =>
      intro hk
      rw [timerAfter, if_pos (hblock.hold s le_rfl hk), if_pos hstart, firstReading_self]
    | succ j hj ih =>
      intro hk
      rw [timerAfter, if_pos (hblock.hold (j + 1) (by omega) hk), ih (by omega),
        firstReading_succ now hj]
  exact hrun k hblock.start_le le_rfl

/-- The timer shows the duration when `k` is observed. -/
def IsTimed (duration : ℤ) (now : ℕ → ℤ) (signal : ℕ → Signal) (k : ℕ) : Prop :=
  ∃ s, IsBlock signal s k ∧ duration ≤ now k - firstReading now s k

theorem IsTimed.hold {k : ℕ} (h : IsTimed duration now signal k) : signal k = .hold := by
  obtain ⟨s, hblock, -⟩ := h
  exact hblock.hold k hblock.start_le le_rfl

theorem isTimed_iff {s k : ℕ} (hblock : IsBlock signal s k) :
    IsTimed duration now signal k ↔ duration ≤ now k - timerAfter now signal (k + 1) := by
  rw [timerAfter_eq_firstReading hblock]
  constructor
  · rintro ⟨s', hblock', hle⟩
    rwa [hblock.unique hblock']
  · intro hle
    exact ⟨s, hblock, hle⟩

end Lib
