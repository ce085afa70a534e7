import Mathlib.Data.List.Basic
import Mathlib.Tactic.Common

/-!
# Checked arrays and loops

A C program run with every index and divisor checked: an access outside its array and a
division by zero are errors, which nothing catches. A program that never ends with an error
is safe. `Checked.forTo_ok` is the invariant rule of a counting loop: when every pass goes
through and keeps the invariant, so does the loop.
-/

namespace Lib

/-- What makes the behaviour of a C program undefined. -/
inductive Fault where
  | outOfBounds
  | divisionByZero
  deriving DecidableEq

/-- A computation that a fault ends. -/
abbrev Checked (α : Type) := Except Fault α

namespace Checked

variable {α β σ : Type}

@[simp] theorem ok_bind (x : α) (f : α → Checked β) : (Except.ok x >>= f : Checked β) = f x := rfl

@[simp] theorem pure_eq (x : α) : (pure x : Checked α) = .ok x := rfl

/-- `xs[i]`. -/
def get (xs : List α) (i : ℕ) : Checked α :=
  match xs[i]? with
  | some x => .ok x
  | none => .error .outOfBounds

/-- `xs[i] = x`. -/
def set (xs : List α) (i : ℕ) (x : α) : Checked (List α) :=
  if i < xs.length then .ok (xs.set i x) else .error .outOfBounds

/-- The `width` elements from `xs + offset` on. -/
def slice (xs : List α) (offset width : ℕ) : Checked (List α) :=
  if offset + width ≤ xs.length then .ok ((xs.drop offset).take width) else .error .outOfBounds

/-- `a % b`. -/
def mod (a b : ℕ) : Checked ℕ := if b = 0 then .error .divisionByZero else .ok (a % b)

theorem get_of_getElem? {xs : List α} {i : ℕ} {x : α} (h : xs[i]? = some x) : get xs i = .ok x := by
  rw [get, h]

theorem set_of_lt {xs : List α} {i : ℕ} (h : i < xs.length) (x : α) :
    set xs i x = .ok (xs.set i x) := if_pos h

theorem slice_of_le {xs : List α} {offset width : ℕ} (h : offset + width ≤ xs.length) :
    slice xs offset width = .ok ((xs.drop offset).take width) := if_pos h

theorem mod_of_pos (a : ℕ) {b : ℕ} (h : 0 < b) : mod a b = .ok (a % b) := if_neg (Nat.ne_of_gt h)

/-- `for (i = 0; i < n; i++)`: the passes before the last, and the last. -/
def forTo : ℕ → (ℕ → σ → Checked σ) → σ → Checked σ
  | 0, _, s => .ok s
  | n + 1, body, s => forTo n body s >>= body n

/-- The invariant rule. -/
theorem forTo_ok {n : ℕ} {body : ℕ → σ → Checked σ} {s : σ} (P : ℕ → σ → Prop) (h0 : P 0 s)
    (hstep : ∀ i < n, ∀ s, P i s → ∃ s', body i s = .ok s' ∧ P (i + 1) s') :
    ∃ s', forTo n body s = .ok s' ∧ P n s' := by
  induction n with
  | zero => exact ⟨s, rfl, h0⟩
  | succ n ih =>
    obtain ⟨mid, hmid, hP⟩ := ih fun i hi => hstep i (Nat.lt_succ_of_lt hi)
    obtain ⟨s', hs', hP'⟩ := hstep n (Nat.lt_succ_self n) mid hP
    exact ⟨s', by rw [forTo, hmid, ok_bind, hs'], hP'⟩

end Checked

end Lib
