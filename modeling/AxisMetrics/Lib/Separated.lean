import AxisMetrics.Lib.Json
import AxisMetrics.Lib.Utf8
import Mathlib.Data.List.Induction

/-!
# Texts between separators

Parts that are written with a separator between them are found again, where none of them is empty or
has the separator in it.
-/

namespace Lib

variable {sep : UInt8} {parts : List Bytes}

/-- No part of a text has the separator in it. -/
theorem notMem_of_mem_splitOn {text part : Bytes} (h : part ∈ text.splitOn sep) : sep ∉ part := by
  induction text generalizing part with
  | nil =>
    rw [List.splitOn_nil, List.mem_singleton] at h
    rw [h]
    exact List.not_mem_nil
  | cons b text ih =>
    rw [List.splitOn_cons_eq_if_modifyHead] at h
    split at h
    · rcases List.mem_cons.mp h with rfl | hpart
      · exact List.not_mem_nil
      · exact ih hpart
    · next hb =>
      cases hsplit : text.splitOn sep with
      | nil => exact absurd hsplit (List.splitOn_ne_nil sep text)
      | cons first others =>
        rw [hsplit, List.modifyHead_cons] at h
        rw [hsplit] at ih
        rcases List.mem_cons.mp h with rfl | hpart
        · rw [List.mem_cons, not_or]
          refine ⟨?_, ih List.mem_cons_self⟩
          rintro rfl
          exact hb (beq_self_eq_true _)
        · exact ih (List.mem_cons_of_mem _ hpart)

theorem notMem_of_mem_strsplit {text part : Bytes} (h : part ∈ strsplit sep text) : sep ∉ part := by
  rw [strsplit] at h
  split at h
  · cases h
  · exact notMem_of_mem_splitOn h

theorem intercalate_ne_nil (hne : parts ≠ []) (hempty : [] ∉ parts) :
    [sep].intercalate parts ≠ [] := by
  cases parts with
  | nil => exact absurd rfl hne
  | cons part others =>
    have hpart : part ≠ [] := fun h => hempty (h ▸ List.mem_cons_self)
    cases others with
    | nil => rwa [List.intercalate_singleton]
    | cons next others =>
      rw [List.intercalate_cons_cons, List.append_assoc]
      exact List.append_ne_nil_of_left_ne_nil hpart _

/-- The parts are found again. -/
theorem strsplit_intercalate (hempty : [] ∉ parts) (hsep : ∀ part ∈ parts, sep ∉ part) :
    strsplit sep ([sep].intercalate parts) = parts := by
  by_cases hne : parts = []
  · subst hne
    rfl
  · rw [strsplit, if_neg (intercalate_ne_nil hne hempty), List.splitOn_intercalate sep hsep hne]

/-- A separator behind each part but the last, as a loop writes it. -/
theorem foldl_separated (hempty : [] ∉ parts) :
    parts.foldl (fun text part => (if text = [] then [] else text ++ [sep]) ++ part) [] =
      [sep].intercalate parts := by
  induction parts using List.reverseRecOn with
  | nil => rfl
  | append_singleton parts part ih =>
    have hparts : [] ∉ parts := fun h => hempty (List.mem_append_left _ h)
    rw [List.foldl_concat, ih hparts]
    by_cases hne : parts = []
    · subst hne
      simp
    · rw [if_neg (intercalate_ne_nil hne hparts), intercalate_append [sep] hne (List.cons_ne_nil _ _),
        List.intercalate_singleton]

/-- UTF-8 with an ASCII separator. -/
theorem isUtf8_intercalate (hsep : sep < 0x80) (h : ∀ part ∈ parts, isUtf8 part = true) :
    isUtf8 ([sep].intercalate parts) = true := by
  induction parts with
  | nil => rfl
  | cons part others ih =>
    obtain ⟨hpart, hothers⟩ := List.forall_mem_cons.mp h
    cases others with
    | nil => rwa [List.intercalate_singleton]
    | cons next others =>
      rw [List.intercalate_cons_cons, List.append_assoc]
      refine isUtf8_append hpart ?_
      rw [List.singleton_append, isUtf8_cons_ascii hsep]
      exact ih hothers

end Lib
