import AxisMetrics.Lib.ByteFile
import Mathlib.Tactic.Common

/-!
# Endings

A list of endings none of which ends in another: a text that one of them was put behind can be cut
in two again.
-/

namespace Lib

/-- No text of the list ends in another. -/
def SuffixFree (endings : List Bytes) : Prop :=
  ∀ p ∈ endings, ∀ q ∈ endings, p <:+ q → p = q

instance (endings : List Bytes) : Decidable (SuffixFree endings) :=
  inferInstanceAs (Decidable (∀ p ∈ endings, ∀ q ∈ endings, p <:+ q → p = q))

/-- The text without the first of the endings that it has, and that ending. -/
def cutSuffix (endings : List Bytes) (text : Bytes) : Option (Bytes × Bytes) :=
  (endings.find? fun p => p <:+ text).map fun p => (text.take (text.length - p.length), p)

/-- An ending that was put behind a text is found, if no other ending could be confused with it. -/
theorem cutSuffix_append {endings : List Bytes} {q : Bytes} (hq : q ∈ endings)
    (h : ∀ p ∈ endings, p <:+ q ∨ q <:+ p → p = q) (text : Bytes) :
    cutSuffix endings (text ++ q) = some (text, q) := by
  have hown : q <:+ text ++ q := List.suffix_append _ _
  have hfind : endings.find? (fun p => p <:+ text ++ q) = some q := by
    cases hfound : endings.find? fun p => p <:+ text ++ q with
    | none =>
      have hnone := List.find?_eq_none.mp hfound q hq
      simp [hown] at hnone
    | some p =>
      have hp : p <:+ text ++ q := by simpa using List.find?_some hfound
      have hboth := List.suffix_or_suffix_of_suffix hp hown
      rw [h p (List.mem_of_find?_eq_some hfound) hboth]
  rw [cutSuffix, hfind, Option.map_some, List.length_append, Nat.add_sub_cancel, List.take_left]

theorem SuffixFree.cutSuffix_append {endings : List Bytes} (h : SuffixFree endings) {q : Bytes}
    (hq : q ∈ endings) (text : Bytes) : cutSuffix endings (text ++ q) = some (text, q) := by
  refine Lib.cutSuffix_append hq (fun p hp hboth => ?_) text
  rcases hboth with hpq | hqp
  · exact h p hp q hq hpq
  · exact (h q hq p hp hqp).symm

end Lib
