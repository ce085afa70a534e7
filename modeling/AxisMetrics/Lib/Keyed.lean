import Mathlib.Data.Finset.Card
import Mathlib.Data.List.Nodup
import Mathlib.Tactic.Common

/-!
# Steps that each act at a key of their own

A state is a function of keys, and a step reads and writes it at one key. A list of steps with
distinct keys does at each key what its own step does there. `firstsBy` is the list of what came
first for each key, and `came` what is in one list but not in another. `firstThat` is a table of
tests that are tried in order.
-/

namespace Lib

variable {K S I : Type}

/-- The step depends on the state at the key only, and changes it there only. -/
structure ActsAt (step : (K → S) → K → S) (key : K) : Prop where
  frame : ∀ s k, k ≠ key → step s k = s k
  own : ∀ s s', s key = s' key → step s key = step s' key

theorem actsAt_id (key : K) : ActsAt (fun s : K → S => s) key := ⟨fun _ _ _ => rfl, fun _ _ h => h⟩

/-- A change at one key, by a function of what is there. -/
theorem actsAt_ite [DecidableEq K] (key : K) (g : S → S) :
    ActsAt (fun (s : K → S) k => if k = key then g (s k) else s k) key where
  frame s k hk := if_neg hk
  own s s' h := by
    rw [if_pos rfl, if_pos rfl, h]

/-- With distinct keys, what is found by its key is the element itself. -/
theorem find?_key {A : Type} [DecidableEq K] {key : A → K} {l : List A}
    (hdistinct : (l.map key).Nodup) {a : A} (ha : a ∈ l) :
    l.find? (fun b => key b = key a) = some a := by
  induction l with
  | nil => cases ha
  | cons b l ih =>
    rw [List.map_cons, List.nodup_cons] at hdistinct
    rcases List.mem_cons.mp ha with rfl | hmem
    · exact List.find?_cons_of_pos (decide_eq_true rfl)
    · have hne : key b ≠ key a := fun heq => hdistinct.1 (heq ▸ List.mem_map_of_mem hmem)
      rw [List.find?_cons_of_neg (by simpa using hne)]
      exact ih hdistinct.2 hmem

variable {step : (K → S) → I → K → S} {key : I → K} {l : List I} {s : K → S}

/-- Keys without a step keep their state. -/
theorem foldl_of_notMem (h : ∀ i ∈ l, ActsAt (fun s => step s i) (key i)) {k : K}
    (hk : k ∉ l.map key) : l.foldl step s k = s k := by
  induction l generalizing s with
  | nil => rfl
  | cons i l ih =>
    rw [List.map_cons, List.mem_cons, not_or] at hk
    obtain ⟨hi, hl⟩ := List.forall_mem_cons.mp h
    rw [List.foldl_cons, ih hl hk.2]
    exact hi.frame s k hk.1

/-- A key with a step gets what its step does to the first state. -/
theorem foldl_of_mem (h : ∀ i ∈ l, ActsAt (fun s => step s i) (key i))
    (hdistinct : (l.map key).Nodup) {i : I} (hi : i ∈ l) :
    l.foldl step s (key i) = step s i (key i) := by
  induction l generalizing s with
  | nil => cases hi
  | cons j l ih =>
    rw [List.map_cons, List.nodup_cons] at hdistinct
    obtain ⟨hj, hl⟩ := List.forall_mem_cons.mp h
    rw [List.foldl_cons]
    rcases List.mem_cons.mp hi with rfl | hmem
    · exact foldl_of_notMem hl hdistinct.1
    · rw [ih hl hdistinct.2 hmem]
      have hne : key i ≠ key j := fun heq => hdistinct.1 (heq ▸ List.mem_map_of_mem hmem)
      exact (hl i hmem).own _ _ (hj.frame s _ hne)

-- ════════════════════════════════════════════════════════════════════════
-- The first of each key
-- ════════════════════════════════════════════════════════════════════════

section Firsts

variable {A : Type} [DecidableEq K] {key : A → K} {seen l : List A} {a : A}

/-- What is there already, and then the first element of each new key. -/
def firstsBy (key : A → K) (seen l : List A) : List A :=
  l.foldl (fun seen a => if seen.any (fun b => key b = key a) then seen else seen ++ [a]) seen

theorem any_key_iff : (seen.any fun b => key b = key a) = true ↔ key a ∈ seen.map key := by
  simp only [List.any_eq_true, decide_eq_true_eq, List.mem_map]

theorem firstsBy_cons (key : A → K) (seen : List A) (a : A) (l : List A) :
    firstsBy key seen (a :: l) =
      firstsBy key (if key a ∈ seen.map key then seen else seen ++ [a]) l := by
  rw [firstsBy, List.foldl_cons]
  congr 1
  exact if_congr any_key_iff rfl rfl

theorem prefix_firstsBy (key : A → K) (seen l : List A) : seen <+: firstsBy key seen l := by
  induction l generalizing seen with
  | nil => exact List.prefix_rfl
  | cons a l ih =>
    rw [firstsBy_cons]
    refine List.IsPrefix.trans ?_ (ih _)
    split
    · exact List.prefix_rfl
    · exact List.prefix_append _ _

theorem nodup_firstsBy (h : (seen.map key).Nodup) (l : List A) :
    ((firstsBy key seen l).map key).Nodup := by
  induction l generalizing seen with
  | nil => exact h
  | cons a l ih =>
    rw [firstsBy_cons]
    apply ih
    split
    · exact h
    · next hnew =>
      rw [List.map_append, List.nodup_append]
      refine ⟨h, List.nodup_singleton _, fun k hk k' hk' heq => hnew ?_⟩
      rw [← List.mem_singleton.mp hk', ← heq]
      exact hk

/-- What is in the second list but not in the first. -/
def came (old new : List K) : List K := new.filter (· ∉ old)

theorem mem_came {old new : List K} {k : K} : k ∈ came old new ↔ k ∈ new ∧ k ∉ old := by
  simp [came]

theorem came_eq_nil {old new : List K} : came old new = [] ↔ ∀ k ∈ new, k ∈ old := by
  rw [List.eq_nil_iff_forall_not_mem]
  simp only [mem_came, not_and, not_not]

/-- Two lists without repetition are equally long just if as much came as went. -/
theorem length_came_eq_iff {old new : List K} (hold : old.Nodup) (hnew : new.Nodup) :
    (came old new).length = (came new old).length ↔ new.length = old.length := by
  have hcard : ∀ {l l' : List K}, l.Nodup → l'.Nodup →
      (came l l').length + l.length = (l.toFinset ∪ l'.toFinset).card := by
    intro l l' hl hl'
    have hcame : (came l l').toFinset = l'.toFinset \ l.toFinset := by
      ext k
      rw [List.mem_toFinset, mem_came, Finset.mem_sdiff, List.mem_toFinset, List.mem_toFinset]
    have hnodup : (came l l').Nodup := hl'.filter _
    rw [← List.toFinset_card_of_nodup hnodup, ← List.toFinset_card_of_nodup hl, hcame,
      Finset.card_sdiff_add_card, Finset.union_comm]
  have hthere := hcard hold hnew
  have hback := hcard hnew hold
  rw [Finset.union_comm] at hback
  omega

end Firsts

-- ════════════════════════════════════════════════════════════════════════
-- Tests tried in order
-- ════════════════════════════════════════════════════════════════════════

section Tests

variable {A B : Type} {test test' : A → Bool} {table : List (A × B)} {other : B}

/-- The value at the first key that passes a test. -/
def firstThat (test : A → Bool) (other : B) (table : List (A × B)) : B :=
  table.foldr (fun entry rest => if test entry.1 then entry.2 else rest) other

theorem firstThat_mem (test : A → Bool) (other : B) (table : List (A × B)) :
    firstThat test other table ∈ other :: table.map Prod.snd := by
  induction table with
  | nil => exact List.mem_cons_self
  | cons entry table ih =>
    rw [firstThat, List.foldr_cons]
    split
    · exact List.mem_cons_of_mem _ List.mem_cons_self
    · refine List.mem_cons.mpr ((List.mem_cons.mp ih).imp_right fun hmem => ?_)
      exact List.mem_cons_of_mem _ hmem

/-- Where the values differ, a test that more keys pass gives the same value just if it passes none
of the keys that come before the first one that passed already. -/
theorem firstThat_eq_iff (hmore : ∀ entry ∈ table, test entry.1 → test' entry.1)
    (hdistinct : (other :: table.map Prod.snd).Nodup) :
    firstThat test' other table = firstThat test other table ↔
      ∀ entry ∈ table.takeWhile (!test ·.1), test' entry.1 = false := by
  induction table with
  | nil => simp [firstThat]
  | cons entry table ih =>
    obtain ⟨hentry, htable⟩ := List.forall_mem_cons.mp hmore
    rw [List.map_cons, List.nodup_cons, List.nodup_cons, List.mem_cons, not_or] at hdistinct
    obtain ⟨⟨hother, hnew⟩, hentryNew, hrest⟩ := hdistinct
    have ih := ih htable (List.nodup_cons.mpr ⟨hnew, hrest⟩)
    have hcons : ∀ t : A → Bool, firstThat t other (entry :: table) =
        if t entry.1 then entry.2 else firstThat t other table := fun _ => rfl
    rw [hcons, hcons]
    by_cases htest : test entry.1 = true
    · simp [htest, hentry htest]
    · rw [if_neg htest, List.takeWhile_cons_of_pos (by simpa using htest), List.forall_mem_cons]
      by_cases htest' : test' entry.1 = true
      · have hne : entry.2 ≠ firstThat test other table := by
          intro heq
          have hmem := firstThat_mem test other table
          rw [← heq, List.mem_cons] at hmem
          exact hmem.elim (fun h => hother h.symm) hentryNew
        simp [htest', hne]
      · rw [if_neg htest', ih]
        simp [htest']

end Tests

end Lib
