import Mathlib.Data.Int.Basic
import Mathlib.Tactic.Common

/-!
# Buckets of a timed list

A list of things with times, cut into consecutive buckets. The first bucket is counted from a
given mark and each later one from the time that closed the one before; a bucket closes with the
first element at least `interval` after its mark. What no bucket has closed over is the rest.
-/

namespace Lib

variable {α : Type*} {time : α → ℤ} {interval mark : ℤ}

/-- The buckets a list is cut into from a mark on, and the rest. -/
inductive Cut (time : α → ℤ) (interval : ℤ) : ℤ → List α → List (List α) → List α → Prop where
  | rest {mark : ℤ} {rest : List α} (hrest : ∀ x ∈ rest, time x - mark < interval) :
      Cut time interval mark rest [] rest
  | bucket {mark : ℤ} {init xs rest : List α} {last : α} {buckets : List (List α)}
      (hinit : ∀ x ∈ init, time x - mark < interval) (hlast : interval ≤ time last - mark)
      (hcut : Cut time interval (time last) xs buckets rest) :
      Cut time interval mark (init ++ last :: xs) ((init ++ [last]) :: buckets) rest

variable {xs rest rest' : List α} {buckets buckets' : List (List α)}

/-- Every element is in exactly one bucket or in the rest, and the order is kept. -/
theorem Cut.eq_flatten (h : Cut time interval mark xs buckets rest) :
    xs = buckets.flatten ++ rest := by
  induction h with
  | rest => rfl
  | bucket _ _ _ ih => simp [ih]

/-- An element that closes a bucket cannot lie before the one that closes it. -/
theorem append_cons_inj_of_first {p : α → Prop} {init init' tail tail' : List α} {x x' : α}
    (hinit : ∀ y ∈ init, ¬ p y) (hx : p x) (hinit' : ∀ y ∈ init', ¬ p y) (hx' : p x')
    (h : init ++ x :: tail = init' ++ x' :: tail') : init = init' ∧ x = x' ∧ tail = tail' := by
  induction init generalizing init' with
  | nil =>
    cases init' with
    | nil =>
      obtain ⟨hhead, htail⟩ := List.cons.inj h
      exact ⟨rfl, hhead, htail⟩
    | cons y init' =>
      obtain ⟨hhead, -⟩ := List.cons.inj h
      exact absurd (hhead ▸ hx) (hinit' y List.mem_cons_self)
  | cons y init ih =>
    cases init' with
    | nil =>
      obtain ⟨hhead, -⟩ := List.cons.inj h
      exact absurd (hhead ▸ hx') (hinit y List.mem_cons_self)
    | cons y' init' =>
      obtain ⟨hhead, htail⟩ := List.cons.inj h
      obtain ⟨hinits, hlast⟩ := ih (fun z hz => hinit z (List.mem_cons_of_mem _ hz))
        (fun z hz => hinit' z (List.mem_cons_of_mem _ hz)) htail
      exact ⟨by rw [hhead, hinits], hlast⟩

/-- The times alone decide how a list is cut. -/
theorem Cut.unique (h : Cut time interval mark xs buckets rest)
    (h' : Cut time interval mark xs buckets' rest') : buckets = buckets' ∧ rest = rest' := by
  induction h generalizing buckets' rest' with
  | rest hrest =>
    cases h' with
    | rest => exact ⟨rfl, rfl⟩
    | bucket _ hlast =>
      have := hrest _ (List.mem_append_right _ List.mem_cons_self)
      omega
  | @bucket mark init xs rest last buckets hinit hlast hcut ih =>
    generalize hys : init ++ last :: xs = ys at h'
    cases h' with
    | rest hrest =>
      have := hrest last (hys ▸ List.mem_append_right _ List.mem_cons_self)
      omega
    | bucket hinit' hlast' hcut' =>
      obtain ⟨rfl, rfl, rfl⟩ := append_cons_inj_of_first
        (p := fun x => interval ≤ time x - mark) (fun y hy => by have := hinit y hy; omega) hlast
        (fun y hy => by have := hinit' y hy; omega) hlast' hys
      obtain ⟨rfl, rfl⟩ := ih hcut'
      exact ⟨rfl, rfl⟩

/-- No bucket closes before its mark and its interval are over. -/
theorem Cut.le_of_mem (hinterval : 0 ≤ interval) (h : Cut time interval mark xs buckets rest) :
    ∀ x ∈ buckets.filterMap List.getLast?, mark + interval ≤ time x := by
  induction h with
  | rest => simp
  | bucket _ hlast _ ih =>
    simp only [List.filterMap_cons, List.getLast?_append, List.getLast?_singleton,
      Option.some_or, List.forall_mem_cons]
    refine ⟨by omega, fun x hx => ?_⟩
    have := ih x hx
    omega

/-- The elements that close buckets are at least an interval apart. -/
theorem Cut.pairwise (hinterval : 0 ≤ interval) (h : Cut time interval mark xs buckets rest) :
    (buckets.filterMap List.getLast?).Pairwise fun x y => time x + interval ≤ time y := by
  induction h with
  | rest => exact List.Pairwise.nil
  | bucket _ _ hcut ih =>
    simp only [List.filterMap_cons, List.getLast?_append, List.getLast?_singleton,
      Option.some_or, List.pairwise_cons]
    exact ⟨hcut.le_of_mem hinterval, ih⟩

end Lib
