import Mathlib.Data.List.Basic
import Mathlib.Data.List.Induction
import Mathlib.Logic.Function.Basic
import Mathlib.Tactic.Common

/-!
# The last reading of each source

Samples at times, each with readings of sources. Readings are stored under the keys of their
sources, and only the last one is kept. `Continues` says when the one that is kept is the reading of
the sample before.
-/

namespace Lib

variable {K S C Time : Type}

section Latest

variable [DecidableEq K] {stored : K → C} {reads : List (K × C)} {k : K}

/-- What is stored after some readings, each under its key. -/
def latest (stored : K → C) (reads : List (K × C)) : K → C :=
  reads.foldl (fun stored r => Function.update stored r.1 r.2) stored

theorem latest_append (stored : K → C) (reads more : List (K × C)) :
    latest stored (reads ++ more) = latest (latest stored reads) more := List.foldl_append

/-- What is not read is as it was. -/
theorem latest_of_notMem (h : ∀ r ∈ reads, r.1 ≠ k) : latest stored reads k = stored k := by
  induction reads generalizing stored with
  | nil => rfl
  | cons r reads ih =>
    obtain ⟨hr, hreads⟩ := List.forall_mem_cons.mp h
    rw [latest, List.foldl_cons, ← latest, ih hreads, Function.update_of_ne (Ne.symm hr)]

/-- What is read is as it was read last. -/
theorem latest_of_getLast? {r : K × C} (h : (reads.filter fun r => r.1 = k).getLast? = some r) :
    latest stored reads k = r.2 := by
  induction reads using List.reverseRecOn with
  | nil => cases h
  | append_singleton reads r' ih =>
    have hstep : latest stored (reads ++ [r']) =
        Function.update (latest stored reads) r'.1 r'.2 := latest_append stored reads [r']
    rw [hstep]
    by_cases hk : r'.1 = k
    · have hlast : r' = r := by simpa [List.filter_append, hk] using h
      rw [← hk, Function.update_self, hlast]
    · rw [Function.update_of_ne (Ne.symm hk)]
      exact ih (by simpa [List.filter_append, hk] using h)

end Latest

section Sources

variable [DecidableEq K] [DecidableEq S] {key : S → Option K} {stored : K → C}
  {prev reads pre post : List (S × C)} {r : S × C} {c : C} {k : K}

/-- The readings of the sources that have a key, under their keys. -/
def keyed (key : S → Option K) (reads : List (S × C)) : List (K × C) :=
  reads.filterMap fun r => (key r.1).map fun k => (k, r.2)

omit [DecidableEq S] [DecidableEq K] in
theorem keyed_append (key : S → Option K) (reads more : List (S × C)) :
    keyed key (reads ++ more) = keyed key reads ++ keyed key more := List.filterMap_append

omit [DecidableEq S] in
theorem filter_keyed (key : S → Option K) (reads : List (S × C)) (k : K) :
    (keyed key reads).filter (fun r => r.1 = k) =
      (reads.filter fun r => key r.1 = some k).map fun r => (k, r.2) := by
  induction reads with
  | nil => rfl
  | cons r reads ih =>
    rw [keyed, List.filterMap_cons, ← keyed]
    cases hkey : key r.1 with
    | none => simp [hkey, ih]
    | some k' =>
      by_cases hk : k' = k
      · simp [hkey, hk, ih]
      · simp [hkey, hk, ih]

/-- The readings of a source, with their times. -/
def logOf (source : S) (samples : List (Time × List (S × C))) : List (Time × C) :=
  samples.flatMap fun sample => (sample.2.filter fun r => r.1 = source).map fun r => (sample.1, r.2)

/-- The only reading under its key, and in the sample before the last one under the key is of the
same source. -/
structure Continues (key : S → Option K) (prev reads : List (S × C)) (r : S × C) : Prop where
  alone : (reads.filter fun r' => key r'.1 = key r.1).length = 1
  before : ((prev.filter fun r' => key r'.1 = key r.1).getLast?.map Prod.fst) = some r.1

instance (key : S → Option K) (prev reads : List (S × C)) (r : S × C) :
    Decidable (Continues key prev reads r) :=
  decidable_of_iff ((reads.filter fun r' => key r'.1 = key r.1).length = 1 ∧
      ((prev.filter fun r' => key r'.1 = key r.1).getLast?.map Prod.fst) = some r.1)
    ⟨fun h => ⟨h.1, h.2⟩, fun h => ⟨h.1, h.2⟩⟩

/-- A last element that passes a stronger test is the last one that does. -/
theorem getLast?_filter_of_imp {A : Type} {p q : A → Bool} {l : List A} {a : A}
    (h : (l.filter p).getLast? = some a) (ha : q a = true) (himp : ∀ b, q b = true → p b = true) :
    (l.filter q).getLast? = some a := by
  have hfilter : l.filter q = (l.filter p).filter q := by
    rw [List.filter_filter]
    refine List.filter_congr fun b _ => ?_
    cases hq : q b with
    | false => rfl
    | true => rw [himp b hq]; rfl
  obtain ⟨init, hinit⟩ := List.getLast?_eq_some_iff.mp h
  rw [hfilter, hinit, List.filter_append, List.filter_cons_of_pos ha, List.filter_nil,
    List.getLast?_concat]

/-- A reading that continues is compared with that of the sample before, and is the next one of its
source. -/
theorem Continues.baseline (h : Continues key prev reads r) (hk : key r.1 = some k)
    (hreads : reads = pre ++ r :: post) (stored : K → C) (older : List (Time × List (S × C)))
    (t now : Time) :
    ∃ c, latest (latest stored (keyed key prev)) (keyed key pre) k = c ∧
      [(t, c), (now, r.2)] <:+ logOf r.1 (older ++ [(t, prev), (now, reads)]) := by
  obtain ⟨⟨source, c⟩, hlast, hsource⟩ := Option.map_eq_some_iff.mp h.before
  obtain rfl : source = r.1 := hsource
  have hsame : ∀ r' : S × C, decide (r'.1 = r.1) = true → decide (key r'.1 = key r.1) = true := by
    intro r' hr'
    rw [of_decide_eq_true hr']
    exact decide_eq_true rfl
  have halone := h.alone
  rw [hreads, List.filter_append, List.length_append,
    List.filter_cons_of_pos (p := fun r' : S × C => decide (key r'.1 = key r.1)) (decide_eq_true rfl),
    List.length_cons] at halone
  have hnone : ∀ l : List (S × C), (l.filter fun r' => key r'.1 = key r.1).length = 0 →
      ∀ r' ∈ l, key r'.1 ≠ key r.1 := by
    intro l hl r' hr' hsame
    exact List.filter_eq_nil_iff.mp (List.length_eq_zero_iff.mp hl) r' hr' (decide_eq_true hsame)
  have hpre := hnone pre (by omega)
  have hpost := hnone post (by omega)
  refine ⟨c, ?_, ?_⟩
  · rw [latest_of_notMem, latest_of_getLast? (r := (k, c))]
    · rw [filter_keyed, List.getLast?_map, ← hk, hlast]
      rfl
    · intro read hread heq
      obtain ⟨r', hr', hread⟩ := List.mem_filterMap.mp hread
      obtain ⟨k', hk', rfl⟩ := Option.map_eq_some_iff.mp hread
      have hkey : k' = k := heq
      exact hpre r' hr' (hk'.trans (hkey ▸ hk.symm))
  · have hown : reads.filter (fun r' => r'.1 = r.1) = [r] := by
      have hpick : ∀ l : List (S × C), (∀ r' ∈ l, key r'.1 ≠ key r.1) →
          l.filter (fun r' => r'.1 = r.1) = [] := fun l hl =>
        List.filter_eq_nil_iff.mpr fun r' hr' hsame =>
          hl r' hr' (congrArg key (of_decide_eq_true hsame))
      rw [hreads, List.filter_append, hpick pre hpre,
        List.filter_cons_of_pos (p := fun r' : S × C => decide (r'.1 = r.1)) (decide_eq_true rfl),
        hpick post hpost, List.nil_append]
    have hprev := getLast?_filter_of_imp hlast (q := fun r' => decide (r'.1 = r.1))
      (decide_eq_true rfl) hsame
    obtain ⟨init, hinit⟩ := List.getLast?_eq_some_iff.mp hprev
    refine ⟨logOf r.1 older ++ init.map fun r' => (t, r'.2), ?_⟩
    simp [logOf, hinit, hown]

end Sources

end Lib
