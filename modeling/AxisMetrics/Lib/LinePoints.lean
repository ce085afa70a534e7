import AxisMetrics.Lib.LineProtocol
import Mathlib.Data.List.Forall2

/-!
# Points of a payload

A payload of the line protocol read point by point: a measurement, its tags, its fields and a
timestamp, with a newline behind each point. A backslash takes the byte behind it as it is,
wherever it stands. `readPoints_point` says that a point written with marks is read back.
-/

namespace Lib

/-- A point as a reader has it. -/
structure LineProtocolPoint where
  measurement : Bytes
  tags : List (Bytes × Bytes)
  fields : List (Bytes × Bytes)
  timestamp : Bytes
  deriving DecidableEq

/-- What ends a measurement or a value: a comma, a space or a newline. -/
def endsText (b : UInt8) : Bool := b = 44 || b = 32 || b = 10

/-- What ends a key: an equals sign, too. -/
def endsKey (b : UInt8) : Bool := b = 61 || endsText b

/-- A key and its value. -/
def linePair (text : Bytes) : Option ((Bytes × Bytes) × Bytes) :=
  let (key, rest) := lineToken endsKey text
  (expect 61 rest).map fun rest =>
    let (value, rest) := lineToken endsText rest
    ((key, value), rest)

/-- Pairs with commas between them; `fuel` bounds their number. -/
def linePairs : ℕ → Bytes → Option (List (Bytes × Bytes) × Bytes)
  | 0, _ => none
  | fuel + 1, text => (linePair text).bind fun (pair, rest) =>
    if rest.head? = some 44 then
      (linePairs fuel rest.tail).map fun (pairs, rest) => (pair :: pairs, rest)
    else some ([pair], rest)

/-- Read one point, with the newline behind it. -/
def readPoint (text : Bytes) : Option (LineProtocolPoint × Bytes) :=
  let (measurement, rest) := lineToken endsText text
  (if rest.head? = some 44 then linePairs rest.length rest.tail else some ([], rest)).bind
    fun (tags, rest) => (expect 32 rest).bind fun rest =>
      (linePairs rest.length rest).bind fun (fields, rest) => (expect 32 rest).bind fun rest =>
        let (timestamp, rest) := lineToken (fun b => b = 10) rest
        (expect 10 rest).map fun rest => (⟨measurement, tags, fields, timestamp⟩, rest)

/-- Read every point of a payload; `fuel` bounds their number. -/
def readPoints : ℕ → Bytes → Option (List LineProtocolPoint)
  | _, [] => some []
  | 0, _ :: _ => none
  | fuel + 1, b :: text => (readPoint (b :: text)).bind fun read =>
    (readPoints fuel read.2).map (read.1 :: ·)

/-- Text with a backslash before each marked byte. -/
def markText (marked : UInt8 → Bool) (text : Bytes) : Bytes :=
  text.flatMap fun b => if marked b then [92, b] else [b]

section Token

variable {stop marked : UInt8 → Bool} {text : Bytes}

/-- Marked text is read up to the byte that ends it. -/
theorem lineToken_markText (hbackslash : stop 92 = false)
    (h : ∀ b ∈ text, marked b = true ∨ stop b = false ∧ b ≠ 92) {last : UInt8}
    (hlast : stop last = true) (rest : Bytes) :
    lineToken stop (markText marked text ++ last :: rest) = (text, last :: rest) := by
  rw [markText, lineToken_mark stop marked text hbackslash h, lineToken_stop hlast,
    List.append_nil]

/-- So is text that needs no marks. -/
theorem lineToken_plain_stop (hbackslash : stop 92 = false)
    (h : ∀ b ∈ text, stop b = false ∧ b ≠ 92) {last : UInt8} (hlast : stop last = true)
    (rest : Bytes) : lineToken stop (text ++ last :: rest) = (text, last :: rest) := by
  rw [lineToken_plain hbackslash h, lineToken_stop hlast, List.append_nil]

theorem mem_markText_newline (hmarked : marked 10 = false) :
    10 ∈ markText marked text ↔ 10 ∈ text := by
  rw [markText, List.mem_flatMap]
  constructor
  · rintro ⟨b, hb, hmem⟩
    split at hmem
    · simp only [List.mem_cons, List.not_mem_nil, or_false] at hmem
      exact hmem.elim (fun h => absurd h (by decide)) fun h => h ▸ hb
    · exact List.mem_singleton.mp hmem ▸ hb
  · intro h
    refine ⟨10, h, ?_⟩
    rw [hmarked]
    exact List.mem_singleton_self _

end Token

/-- `text` is written for a pair: wherever a comma or a space follows, it is read as the pair. -/
def WritesPair (text : Bytes) (pair : Bytes × Bytes) : Prop :=
  text ≠ [] ∧ ∀ separator rest, separator = 44 ∨ separator = 32 →
    linePair (text ++ separator :: rest) = some (pair, separator :: rest)

/-- A key with its marks, an equals sign and a value with its marks are a pair. -/
theorem writesPair_of_tokens {key value keyText valueText : Bytes}
    (hkey : ∀ rest, lineToken endsKey (keyText ++ 61 :: rest) = (key, 61 :: rest))
    (hvalue : ∀ separator rest, separator = 44 ∨ separator = 32 →
      lineToken endsText (valueText ++ separator :: rest) = (value, separator :: rest)) :
    WritesPair (keyText ++ 61 :: valueText) (key, value) := by
  refine ⟨by simp, fun separator rest hseparator => ?_⟩
  rw [linePair, List.append_assoc, List.cons_append, hkey]
  dsimp only
  rw [expect_cons, Option.map_some, hvalue separator rest hseparator]

/-- Reading pairs gives them back. -/
theorem linePairs_intercalate {pairs : List (Bytes × Bytes)} {texts : List Bytes}
    (h : List.Forall₂ WritesPair texts pairs) (hne : pairs ≠ []) (rest : Bytes) :
    ∀ fuel, pairs.length ≤ fuel →
      linePairs fuel ([44].intercalate texts ++ 32 :: rest) = some (pairs, 32 :: rest) := by
  induction h with
  | nil => exact absurd rfl hne
  | @cons text pair texts pairs hpair hpairs ih =>
    intro fuel hfuel
    cases fuel with
    | zero => cases hfuel
    | succ fuel =>
      cases hpairs with
      | nil =>
        rw [List.intercalate_singleton, linePairs, hpair.2 32 rest (.inr rfl), Option.bind_some]
        rfl
      | @cons next nextPair texts pairs hnext hmore =>
        have hread := ih (List.cons_ne_nil _ _) fuel (Nat.le_of_succ_le_succ hfuel)
        rw [List.intercalate_cons_cons, List.append_assoc, List.append_assoc,
          List.singleton_append, linePairs, hpair.2 44 _ (.inl rfl), Option.bind_some]
        dsimp only
        rw [List.head?_cons, if_pos rfl, List.tail_cons, hread]
        rfl

theorem readPoints_succ {text : Bytes} (h : text ≠ []) (fuel : ℕ) :
    readPoints (fuel + 1) text = (readPoint text).bind fun read =>
      (readPoints fuel read.2).map (read.1 :: ·) := by
  cases text with
  | nil => exact absurd rfl h
  | cons b text => rfl

/-- A point written with its marks is read back, and nothing else with it. -/
theorem readPoints_point {measurement measurementText timestamp : Bytes}
    {tags fields : List (Bytes × Bytes)} {tagTexts fieldTexts : List Bytes}
    (hmeasurement : ∀ separator rest, separator = 44 ∨ separator = 32 →
      lineToken endsText (measurementText ++ separator :: rest) = (measurement, separator :: rest))
    (htags : List.Forall₂ WritesPair tagTexts tags) (htagsNe : tags ≠ [])
    (hfields : List.Forall₂ WritesPair fieldTexts fields) (hfieldsNe : fields ≠ [])
    (htimestamp : ∀ b ∈ timestamp, b ≠ 10 ∧ b ≠ 92) {fuel : ℕ} (hfuel : 0 < fuel) :
    readPoints fuel (measurementText ++ 44 :: ([44].intercalate tagTexts ++
        32 :: ([44].intercalate fieldTexts ++ 32 :: (timestamp ++ [10])))) =
      some [⟨measurement, tags, fields, timestamp⟩] := by
  have hlength {texts : List Bytes} {pairs : List (Bytes × Bytes)}
      (h : List.Forall₂ WritesPair texts pairs) (rest : Bytes) :
      pairs.length ≤ ([44].intercalate texts ++ 32 :: rest).length := by
    have hle : texts.length ≤ ([44].intercalate texts).length :=
      length_le_intercalate ((List.forall₂_and_left _ _).mp h).1
    rw [← h.length_eq, List.length_append]
    omega
  have hlast : lineToken (fun b => b = 10) (timestamp ++ [10]) = (timestamp, [10]) :=
    lineToken_plain_stop rfl (fun b hb => ⟨decide_eq_false (htimestamp b hb).1, (htimestamp b hb).2⟩)
      rfl []
  have htagsLength : tags.length ≤ (44 :: ([44].intercalate tagTexts ++
      32 :: ([44].intercalate fieldTexts ++ 32 :: (timestamp ++ [10])))).length :=
    (hlength htags _).trans (Nat.le_succ _)
  obtain ⟨fuel, rfl⟩ := Nat.exists_eq_add_of_lt hfuel
  rw [Nat.zero_add, readPoints_succ (by simp), readPoint, hmeasurement 44 _ (.inl rfl)]
  dsimp only
  rw [List.head?_cons, if_pos rfl, List.tail_cons,
    linePairs_intercalate htags htagsNe _ _ htagsLength, Option.bind_some]
  dsimp only
  rw [expect_cons, Option.bind_some,
    linePairs_intercalate hfields hfieldsNe _ _ (hlength hfields _), Option.bind_some]
  dsimp only
  rw [expect_cons, Option.bind_some, hlast]
  dsimp only
  rw [expect_cons, Option.map_some, Option.bind_some]
  cases fuel <;> rfl

end Lib
