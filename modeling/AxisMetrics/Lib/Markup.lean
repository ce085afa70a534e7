import AxisMetrics.Lib.Scan

/-!
# Searching markup

A text of tags and of what stands between them. A search for a tag finds the first one of its name,
since no other tag and no other text holds it. The value of a tag is what stands behind it up to the
next tag.
-/

namespace Lib

/-- A piece of markup. -/
inductive Markup where
  | tag (name : Bytes)
  | text (chars : Bytes)
  deriving DecidableEq

namespace Markup

/-- How a piece is written. -/
def render : Markup → Bytes
  | .tag name => 60 :: (name ++ [62])
  | .text chars => chars

/-- A name has no angle brackets, and what stands between tags begins none. -/
def Plain : Markup → Prop
  | .tag name => 60 ∉ name ∧ 62 ∉ name
  | .text chars => 60 ∉ chars

instance : DecidablePred Plain
  | .tag _ => inferInstanceAs (Decidable (_ ∧ _))
  | .text _ => inferInstanceAs (Decidable (_ ∉ _))

end Markup

/-- A text of markup. -/
def render (pieces : List Markup) : Bytes := pieces.flatMap Markup.render

/-- The text in front of the first tag. -/
def leadingText : List Markup → Bytes
  | .text chars :: pieces => chars ++ leadingText pieces
  | _ => []

/-- What stands behind the first tag of this name. -/
def valueOf (name : Bytes) : List Markup → Option Bytes
  | [] => none
  | piece :: pieces => if piece = .tag name then some (leadingText pieces) else valueOf name pieces

variable {name : Bytes} {pieces pre post more : List Markup} {chars : Bytes}

theorem render_append (pieces more : List Markup) :
    render (pieces ++ more) = render pieces ++ render more := List.flatMap_append

theorem render_cons (piece : Markup) (pieces : List Markup) :
    render (piece :: pieces) = piece.render ++ render pieces := List.flatMap_cons

/-- Text without the first byte of a tag is skipped. -/
theorem strstr_skip {hay : Bytes} (hchars : 60 ∉ chars) :
    strstr (Markup.render (.tag name)) (chars ++ hay) =
      (strstr (Markup.render (.tag name)) hay).map (· + chars.length) :=
  strstr_skip_chars hchars hay

/-- Names up to their brackets are the same. -/
theorem prefix_bracket {other rest : Bytes} (hname : 62 ∉ name) (hother : 62 ∉ other)
    (h : name ++ [62] <+: other ++ 62 :: rest) : name = other := by
  induction name generalizing other with
  | nil =>
    cases other with
    | nil => rfl
    | cons b other =>
      obtain ⟨rfl, -⟩ := List.cons_prefix_cons.mp h
      exact absurd List.mem_cons_self hother
  | cons a name ih =>
    cases other with
    | nil =>
      obtain ⟨rfl, -⟩ := List.cons_prefix_cons.mp h
      exact absurd List.mem_cons_self hname
    | cons b other =>
      obtain ⟨rfl, htail⟩ := List.cons_prefix_cons.mp h
      rw [ih (List.not_mem_of_not_mem_cons hname) (List.not_mem_of_not_mem_cons hother) htail]

/-- A piece that is not the tag is skipped. -/
theorem strstr_piece {piece : Markup} {hay : Bytes} (hname : 62 ∉ name) (hplain : piece.Plain)
    (hne : piece ≠ .tag name) :
    strstr (Markup.render (.tag name)) (piece.render ++ hay) =
      (strstr (Markup.render (.tag name)) hay).map (· + piece.render.length) := by
  cases piece with
  | text chars => exact strstr_skip hplain
  | tag other =>
    have hnot : ¬ Markup.render (.tag name) <+: 60 :: (other ++ [62] ++ hay) := by
      intro h
      have htail := (List.cons_prefix_cons.mp h).2
      rw [List.append_assoc] at htail
      exact hne (by rw [prefix_bracket hname hplain.2 htail])
    have hrest : (60 : UInt8) ∉ other ++ [62] := by
      rw [List.mem_append, not_or]
      exact ⟨hplain.1, by decide⟩
    have hhay : (Markup.tag other).render ++ hay = 60 :: (other ++ [62] ++ hay) := rfl
    rw [hhay, strstr_cons_eq, if_neg hnot, strstr_skip hrest, Option.map_map]
    rfl

/-- The first tag of the name is found. -/
theorem strstr_render (name : Bytes) (post : List Markup) (hname : 62 ∉ name)
    (hpre : ∀ piece ∈ pre, piece.Plain) (hfirst : .tag name ∉ pre) :
    strstr (Markup.render (.tag name)) (render (pre ++ .tag name :: post)) =
      some (render pre).length := by
  induction pre with
  | nil =>
    rw [List.nil_append, render_cons]
    exact if_pos (List.prefix_append _ _)
  | cons piece pre ih =>
    obtain ⟨hpiece, hpre⟩ := List.forall_mem_cons.mp hpre
    obtain ⟨hne, hfirst⟩ := List.ne_and_not_mem_of_not_mem_cons hfirst
    rw [List.cons_append, render_cons, strstr_piece hname hpiece hne.symm, ih hpre hfirst,
      render_cons, List.length_append, Option.map_some, Nat.add_comm]

/-- A tag that is not there is not found. -/
theorem strstr_render_eq_none (hname : 62 ∉ name) (hplain : ∀ piece ∈ pieces, piece.Plain)
    (hnone : .tag name ∉ pieces) :
    strstr (Markup.render (.tag name)) (render pieces) = none := by
  induction pieces with
  | nil => rfl
  | cons piece pieces ih =>
    obtain ⟨hpiece, hplain⟩ := List.forall_mem_cons.mp hplain
    obtain ⟨hne, hnone⟩ := List.ne_and_not_mem_of_not_mem_cons hnone
    rw [render_cons, strstr_piece hname hpiece hne.symm, ih hplain hnone]
    rfl

theorem valueOf_cons (piece : Markup) (pieces : List Markup) : valueOf name (piece :: pieces) =
    if piece = .tag name then some (leadingText pieces) else valueOf name pieces := rfl

theorem valueOf_eq_none : valueOf name pieces = none ↔ .tag name ∉ pieces := by
  induction pieces with
  | nil => simp [valueOf]
  | cons piece pieces ih =>
    rw [valueOf_cons, List.mem_cons, not_or, ← ih]
    by_cases hpiece : piece = .tag name
    · simp [hpiece]
    · simp [hpiece, Ne.symm hpiece]

/-- Where a value stands. -/
theorem exists_of_valueOf {value : Bytes} (h : valueOf name pieces = some value) :
    ∃ pre post, pieces = pre ++ .tag name :: post ∧ .tag name ∉ pre ∧ value = leadingText post := by
  induction pieces with
  | nil => cases h
  | cons piece pieces ih =>
    rw [valueOf_cons] at h
    split at h
    · next hpiece =>
      exact ⟨[], pieces, by rw [hpiece, List.nil_append], List.not_mem_nil,
        (Option.some.inj h).symm⟩
    · next hpiece =>
      obtain ⟨pre, post, rfl, hfirst, hvalue⟩ := ih h
      exact ⟨piece :: pre, post, rfl, List.not_mem_cons_of_ne_of_not_mem (Ne.symm hpiece) hfirst,
        hvalue⟩

/-- The text of a value ends in front of the next tag. -/
theorem leadingText_append_tag (pieces : List Markup) (other : Bytes) (more : List Markup) :
    leadingText (pieces ++ .tag other :: more) = leadingText pieces := by
  induction pieces with
  | nil => rfl
  | cons piece pieces ih =>
    cases piece with
    | tag name => rfl
    | text chars => exact congrArg (chars ++ ·) ih

/-- A value is in front of a tag, or behind it. -/
theorem valueOf_append_tag (pieces : List Markup) (other : Bytes) (more : List Markup) :
    valueOf name (pieces ++ .tag other :: more) =
      (valueOf name pieces).or (valueOf name (.tag other :: more)) := by
  induction pieces with
  | nil => rfl
  | cons piece pieces ih =>
    rw [List.cons_append, valueOf_cons, valueOf_cons, leadingText_append_tag, ih]
    split <;> rfl

theorem valueOf_of_notMem (hnone : .tag name ∉ pre) (post : List Markup) :
    valueOf name (pre ++ post) = valueOf name post := by
  induction pre with
  | nil => rfl
  | cons piece pre ih =>
    obtain ⟨hne, hnone⟩ := List.ne_and_not_mem_of_not_mem_cons hnone
    rw [List.cons_append, valueOf_cons, if_neg (Ne.symm hne), ih hnone]

/-- A text of markup is the text in front of the first tag, and then a tag or nothing. -/
theorem render_eq_leadingText (pieces : List Markup) :
    ∃ behind, render pieces = leadingText pieces ++ behind ∧ ∀ b ∈ behind.head?, b = 60 := by
  induction pieces with
  | nil => exact ⟨[], rfl, nofun⟩
  | cons piece pieces ih =>
    cases piece with
    | tag name =>
      refine ⟨render (.tag name :: pieces), rfl, fun b hb => ?_⟩
      exact (Option.some.inj hb).symm
    | text chars =>
      obtain ⟨behind, hbehind, hhead⟩ := ih
      exact ⟨behind, by rw [render_cons, hbehind, leadingText, List.append_assoc]; rfl, hhead⟩

end Lib
