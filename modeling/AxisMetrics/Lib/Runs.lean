import Mathlib.Data.List.Basic
import Mathlib.Tactic.Common

/-!
# Runs of a state machine

A machine takes one event after another, and a step may fail. `Always` says that every state
of a run has a property, `Throughout` that every step of it is taken in a state that allows
it. Two rules: an invariant holds always (`always_of_step`), and a property that each allowed
step keeps and each other step breaks holds always exactly when all steps are allowed
(`always_iff_throughout`).

At the end, what a listener is told about a Boolean state that changes.
-/

namespace Lib

variable {S E : Type} {step : S → E → Option S} {start s : S} {e : E} {events : List E}

/-- The state after a list of events, if no step fails. -/
def runFrom (step : S → E → Option S) : S → List E → Option S
  | s, [] => some s
  | s, e :: events => (step s e).bind fun s' => runFrom step s' events

theorem runFrom_append (done rest : List E) :
    runFrom step s (done ++ rest) = (runFrom step s done).bind fun s' => runFrom step s' rest := by
  induction done generalizing s with
  | nil => rfl
  | cons e done ih =>
    rw [List.cons_append, runFrom, runFrom, Option.bind_assoc]
    exact Option.bind_congr fun _ _ => ih

/-- A machine that is part of another one runs as a part of it. -/
theorem map_runFrom {T : Type} {step' : T → E → Option T} (f : T → S)
    (hstep : ∀ t e, (step' t e).map f = step (f t) e) (t : T) (events : List E) :
    (runFrom step' t events).map f = runFrom step (f t) events := by
  induction events generalizing t with
  | nil => rfl
  | cons e events ih =>
    rw [runFrom, runFrom, ← hstep, Option.map_bind, Option.bind_map]
    exact Option.bind_congr fun t' _ => ih t'

/-- Every state of a run has the property. -/
def Always (step : S → E → Option S) (start : S) (events : List E) (p : S → Prop) : Prop :=
  ∀ done s, done <+: events → runFrom step start done = some s → p s

/-- Every step of a run is taken in a state that allows it. -/
def Throughout (step : S → E → Option S) (start : S) (events : List E)
    (allowed : S → E → Prop) : Prop :=
  ∀ done e s, done ++ [e] <+: events → runFrom step start done = some s → allowed s e

theorem always_nil {p : S → Prop} : Always step s [] p ↔ p s := by
  constructor
  · exact fun h => h [] s List.prefix_rfl rfl
  · rintro hs done s' hdone hrun
    rw [List.prefix_nil.mp hdone] at hrun
    exact Option.some.inj hrun ▸ hs

theorem always_cons {p : S → Prop} :
    Always step s (e :: events) p ↔ p s ∧ ∀ s', step s e = some s' → Always step s' events p := by
  constructor
  · intro h
    refine ⟨h [] s List.nil_prefix rfl, fun s' hstep done s'' hdone hrun => ?_⟩
    refine h (e :: done) s'' (List.cons_prefix_cons.mpr ⟨rfl, hdone⟩) ?_
    rw [runFrom, hstep]
    exact hrun
  · rintro ⟨hs, h⟩ done s'' hdone hrun
    cases done with
    | nil => exact Option.some.inj hrun ▸ hs
    | cons e' done =>
      obtain ⟨rfl, htail⟩ := List.cons_prefix_cons.mp hdone
      rw [runFrom] at hrun
      obtain ⟨s', hstep, hrest⟩ := Option.bind_eq_some_iff.mp hrun
      exact h s' hstep done s'' htail hrest

theorem throughout_nil {allowed : S → E → Prop} : Throughout step s [] allowed := by
  intro done e s' hdone
  exact absurd (List.prefix_nil.mp hdone) (by simp)

theorem throughout_cons {allowed : S → E → Prop} :
    Throughout step s (e :: events) allowed ↔
      allowed s e ∧ ∀ s', step s e = some s' → Throughout step s' events allowed := by
  constructor
  · intro h
    refine ⟨h [] e s (List.cons_prefix_cons.mpr ⟨rfl, List.nil_prefix⟩) rfl,
      fun s' hstep done e' s'' hdone hrun => ?_⟩
    refine h (e :: done) e' s'' (List.cons_prefix_cons.mpr ⟨rfl, hdone⟩) ?_
    rw [runFrom, hstep]
    exact hrun
  · rintro ⟨hs, h⟩ done e' s'' hdone hrun
    cases done with
    | nil =>
      obtain ⟨rfl, -⟩ := List.cons_prefix_cons.mp hdone
      exact Option.some.inj hrun ▸ hs
    | cons e'' done =>
      obtain ⟨rfl, htail⟩ := List.cons_prefix_cons.mp hdone
      rw [runFrom] at hrun
      obtain ⟨s', hstep, hrest⟩ := Option.bind_eq_some_iff.mp hrun
      exact h s' hstep done e' s'' htail hrest

/-- The rest of a run, from the state where it starts. -/
theorem Throughout.of_append {done rest : List E} {allowed : S → E → Prop}
    (h : Throughout step start (done ++ rest) allowed) (hrun : runFrom step start done = some s) :
    Throughout step s rest allowed := by
  intro done' e s' hdone hrun'
  refine h (done ++ done') e s' ?_ ?_
  · rw [List.append_assoc]
    exact (List.prefix_append_right_inj done).mpr hdone
  · rw [runFrom_append, hrun]
    exact hrun'

/-- Two runs, one after the other. -/
theorem Throughout.append {done rest : List E} {allowed : S → E → Prop}
    (hdone : Throughout step start done allowed)
    (hrest : ∀ s, runFrom step start done = some s → Throughout step s rest allowed) :
    Throughout step start (done ++ rest) allowed := by
  induction done generalizing start with
  | nil => exact hrest start rfl
  | cons e done ih =>
    obtain ⟨hfirst, hlater⟩ := throughout_cons.mp hdone
    refine throughout_cons.mpr ⟨hfirst, fun s' hstep => ih (hlater s' hstep) fun s hrun => ?_⟩
    refine hrest s ?_
    rw [runFrom, hstep]
    exact hrun

/-- What each allowed step keeps holds always in a run of allowed steps. -/
theorem always_of_step {p : S → Prop} {allowed : S → E → Prop} (hstart : p start)
    (hkeep : ∀ s e s', p s → allowed s e → step s e = some s' → p s')
    (hallowed : Throughout step start events allowed) : Always step start events p := by
  induction events generalizing start with
  | nil => exact always_nil.mpr hstart
  | cons e events ih =>
    obtain ⟨he, hrest⟩ := throughout_cons.mp hallowed
    exact always_cons.mpr ⟨hstart, fun s' hstep =>
      ih (hkeep _ _ _ hstart he hstep) (hrest s' hstep)⟩

/-- What each allowed step keeps and each other step breaks, where `base` is an invariant of all
steps. -/
theorem always_iff_throughout (base : S → Prop) {p : S → Prop} {allowed : S → E → Prop}
    (hbase : base start) (hstart : p start) (hinv : ∀ s e s', base s → step s e = some s' → base s')
    (hkeep : ∀ s e s', base s → p s → allowed s e → step s e = some s' → p s')
    (hbreak : ∀ s e, base s → p s → ¬ allowed s e → ∃ s', step s e = some s' ∧ ¬ p s') :
    Always step start events p ↔ Throughout step start events allowed := by
  induction events generalizing start with
  | nil => exact iff_of_true (always_nil.mpr hstart) throughout_nil
  | cons e events ih =>
    rw [always_cons, throughout_cons]
    constructor
    · rintro ⟨-, hrest⟩
      have he : allowed start e := by
        by_contra hnot
        obtain ⟨s', hstep, hs'⟩ := hbreak start e hbase hstart hnot
        exact hs' (hrest s' hstep [] s' List.nil_prefix rfl)
      exact ⟨he, fun s' hstep => (ih (hinv _ _ _ hbase hstep)
        (hkeep _ _ _ hbase hstart he hstep)).mp (hrest s' hstep)⟩
    · rintro ⟨he, hrest⟩
      exact ⟨hstart, fun s' hstep => (ih (hinv _ _ _ hbase hstep)
        (hkeep _ _ _ hbase hstart he hstep)).mpr (hrest s' hstep)⟩

/-- `true`, `false`, `true` and so on. -/
def Alternates (log : List Bool) : Prop := ∀ i b, log[i]? = some b → b = decide (i % 2 = 0)

/-- What a listener was told alternates, beginning with `true`, and ends in the state `on`. -/
structure Tells (log : List Bool) (on : Bool) : Prop where
  alternates : Alternates log
  last : log.getLast? = some true ↔ on = true

variable {log : List Bool} {on : Bool}

theorem tells_nil : Tells [] false where
  alternates i b h := by simp at h
  last := by simp

/-- How often the listener was told gives the state. -/
theorem Tells.on_eq (h : Tells log on) : on = decide (log.length % 2 = 1) := by
  have hlast := h.last
  rw [List.getLast?_eq_getElem?] at hlast
  cases hlog : log[log.length - 1]? with
  | none =>
    have hlength : log.length = 0 := by
      have := List.getElem?_eq_none_iff.mp hlog
      omega
    rw [hlog] at hlast
    cases on with
    | true => exact absurd (hlast.mpr rfl) (by simp)
    | false => simp [hlength]
  | some b =>
    have hb := h.alternates _ b hlog
    obtain ⟨hlt, -⟩ := List.getElem?_eq_some_iff.mp hlog
    rw [hlog] at hlast
    have hon : on = b := by
      cases on <;> cases b <;> simp_all
    rw [hon, hb, decide_eq_decide]
    omega

/-- Telling of a change. -/
theorem Tells.append (h : Tells log on) : Tells (log ++ [!on]) (!on) where
  alternates i b hb := by
    rcases Nat.lt_or_ge i log.length with hlt | hge
    · rw [List.getElem?_append_left hlt] at hb
      exact h.alternates i b hb
    · rw [List.getElem?_append_right hge, List.getElem?_singleton] at hb
      split at hb
      · next hi =>
        rw [← Option.some.inj hb, h.on_eq, ← decide_not, decide_eq_decide]
        omega
      · cases hb
  last := by simp

/-- Telling of the new state where it is news. -/
theorem Tells.update (h : Tells log on) (on' : Bool) :
    Tells (log ++ if on' = on then [] else [on']) on' := by
  split
  · next hsame => rwa [List.append_nil, hsame]
  · next hchange =>
    rw [Bool.eq_not_of_ne hchange]
    exact h.append

end Lib
