import AxisMetrics.Api.Query
import AxisMetrics.Lib.FormUrl
import AxisMetrics.Lib.Keyed

/-!
# Form bodies

`url_decode` undoes the encoding of the browser.
-/

namespace AxisMetrics

open Lib (Bytes cString urlencode urlencodeByte isAlnum isXDigit xdigitValue hexDigitUpper)

/-- A byte that stands for itself. -/
theorem urlDecodeBytes_cons {b : UInt8} (hplus : b ≠ 43) (hpercent : b ≠ 37) (rest : Bytes) :
    urlDecodeBytes (b :: rest) = b :: urlDecodeBytes rest := by
  rw [urlDecodeBytes.eq_def]
  dsimp only
  rw [if_neg hplus]
  split
  · exact if_neg fun h => hpercent h.1
  · rfl

/-- A byte that was written as two digits. -/
theorem urlDecodeBytes_percent {high low : UInt8} (hhigh : isXDigit high = true)
    (hlow : isXDigit low = true) (rest : Bytes) :
    urlDecodeBytes (37 :: high :: low :: rest) =
      UInt8.ofNat (xdigitValue high * 16 + xdigitValue low) :: urlDecodeBytes rest := by
  rw [urlDecodeBytes.eq_def]
  dsimp only
  rw [if_neg (by decide), if_pos ⟨rfl, hhigh, hlow⟩]

theorem urlDecodeBytes_urlencodeByte (b : UInt8) (rest : Bytes) :
    urlDecodeBytes (urlencodeByte b ++ rest) = b :: urlDecodeBytes rest := by
  unfold urlencodeByte
  split_ifs with hplain hspace
  · have hne : b ≠ 43 ∧ b ≠ 37 := by
      constructor <;> rintro rfl <;> exact absurd hplain (by decide)
    exact urlDecodeBytes_cons hne.1 hne.2 rest
  · rw [hspace, List.cons_append, urlDecodeBytes.eq_def]
    exact if_pos rfl
  · have hlt := b.toNat_lt
    obtain ⟨hhigh, hhighValue, -⟩ := Lib.hexDigitUpper_spec (n := b.toNat / 16) (by omega)
    obtain ⟨hlow, hlowValue, -⟩ := Lib.hexDigitUpper_spec (n := b.toNat % 16) (by omega)
    rw [List.cons_append, List.cons_append, List.cons_append, List.nil_append,
      urlDecodeBytes_percent hhigh hlow, hhighValue, hlowValue,
      show b.toNat / 16 * 16 + b.toNat % 16 = b.toNat by omega, UInt8.ofNat_toNat]

/-- Decoding undoes encoding, up to a zero byte. -/
theorem urlDecode_urlencode {text : Bytes} (h : 0 ∉ text) : urlDecode (urlencode text) = text := by
  have hbytes : ∀ rest, urlDecodeBytes (urlencode text ++ rest) = text ++ urlDecodeBytes rest := by
    intro rest
    induction text with
    | nil => rfl
    | cons b text ih =>
      rw [List.mem_cons, not_or] at h
      rw [urlencode, List.flatMap_cons, List.append_assoc, urlDecodeBytes_urlencodeByte]
      exact congrArg (b :: ·) (ih h.2)
  have hall := hbytes []
  rw [List.append_nil, urlDecodeBytes, List.append_nil] at hall
  rw [urlDecode, hall, Lib.cString_eq_self h]

/-- A part of a body with a single equals sign is about a name if it begins with both. -/
theorem isParam_iff {name name' rest : Bytes} (hname' : 61 ∉ name') (hrest : 61 ∉ rest) :
    (name.length < (name' ++ 61 :: rest).length ∧ name <+: name' ++ 61 :: rest ∧
      (name' ++ 61 :: rest)[name.length]? = some 61) ↔ name' = name := by
  constructor
  · rintro ⟨-, hprefix, hequals⟩
    rcases lt_trichotomy name.length name'.length with hlt | heq | hgt
    · rw [List.getElem?_append_left hlt] at hequals
      exact absurd (List.mem_of_getElem? hequals) hname'
    · exact (List.IsPrefix.eq_of_length (List.prefix_of_prefix_length_le hprefix
        (List.prefix_append ..) heq.le) heq).symm
    · -- the sign would be behind the one that ends the name
      obtain ⟨k, hk⟩ := Nat.exists_eq_add_of_lt hgt
      rw [List.getElem?_append_right (by omega), hk,
        show name'.length + k + 1 - name'.length = k + 1 by omega, List.getElem?_cons_succ]
        at hequals
      exact absurd (List.mem_of_getElem? hequals) hrest
  · rintro rfl
    refine ⟨?_, List.prefix_append .., ?_⟩
    · rw [List.length_append, List.length_cons]
      omega
    · rw [List.getElem?_append_right le_rfl, Nat.sub_self]
      rfl

/-- A path is not looked at for parameters. -/
theorem apiQueryParam_path {path : Bytes} (hpath : 63 ∉ path) (pairs : List (Bytes × Bytes))
    (name : Bytes) :
    apiQueryParam (path ++ 63 :: Lib.formText pairs) name =
      apiQueryParam (Lib.formText pairs) name := by
  have hdrop : (path ++ 63 :: Lib.formText pairs).dropWhile (· ≠ 63) =
      63 :: Lib.formText pairs := by
    rw [List.dropWhile_append_of_pos]
    · exact List.dropWhile_cons_of_neg (by decide)
    · intro b hb
      have hne : b ≠ 63 := fun h => hpath (h ▸ hb)
      simpa using hne
  rw [apiQueryParam, apiQueryParam, afterQuestionMark, afterQuestionMark,
    if_pos (List.mem_append_right _ List.mem_cons_self), hdrop, List.tail_cons,
    if_neg (Lib.questionMark_notMem_formText pairs)]

/-- The parameter of a name in a body, where names need no encoding: the first of that name. -/
theorem apiQueryParam_eq_find {pairs : List (Bytes × Bytes)}
    (hnames : ∀ pair ∈ pairs, urlencode pair.1 = pair.1) (hvalues : ∀ pair ∈ pairs, 0 ∉ pair.2)
    (name : Bytes) :
    apiQueryParam (Lib.formText pairs) name =
      (pairs.find? fun pair => pair.1 = name).map Prod.snd := by
  have hpart : ∀ pair ∈ pairs, (if name.length < (Lib.pairText pair).length ∧
      name <+: Lib.pairText pair ∧ (Lib.pairText pair)[name.length]? = some 61 then
        some (urlDecode ((Lib.pairText pair).drop (name.length + 1))) else none) =
      if pair.1 = name then some pair.2 else none := by
    intro pair hpair
    have hequals : ∀ {text : Bytes}, 61 ∉ urlencode text := fun hmem =>
      (Lib.ne_of_mem_urlencode hmem).2.1 rfl
    have hname : 61 ∉ pair.1 := fun hmem => hequals ((hnames pair hpair).symm ▸ hmem)
    rw [Lib.pairText, hnames pair hpair]
    by_cases hsame : pair.1 = name
    · rw [if_pos hsame, if_pos ((isParam_iff hname hequals).mpr hsame), ← hsame,
        ← List.singleton_append, ← List.append_assoc, List.drop_left' (by simp),
        urlDecode_urlencode (hvalues pair hpair)]
    · rw [if_neg hsame, if_neg fun h => hsame ((isParam_iff hname hequals).mp h)]
  rw [apiQueryParam, afterQuestionMark, if_neg (Lib.questionMark_notMem_formText pairs)]
  by_cases hnil : pairs = []
  · subst hnil
    simp [Lib.formText]
  · rw [Lib.splitOn_formText hnil, List.findSome?_map]
    clear hnil
    induction pairs with
    | nil => rfl
    | cons pair pairs ih =>
      obtain ⟨hpair, hpairs⟩ := List.forall_mem_cons.mp hpart
      rw [List.findSome?_cons, Function.comp_apply, hpair, List.find?_cons]
      by_cases hsame : pair.1 = name
      · simp [hsame]
      · rw [if_neg hsame, decide_eq_false hsame]
        exact ih (fun _ h => hnames _ (List.mem_cons_of_mem _ h))
          (fun _ h => hvalues _ (List.mem_cons_of_mem _ h)) hpairs

/-- A parameter of a body that the browser sent, where names differ and need no encoding. -/
theorem apiQueryParam_formText {pairs : List (Bytes × Bytes)}
    (hnames : ∀ pair ∈ pairs, urlencode pair.1 = pair.1) (hdistinct : (pairs.map Prod.fst).Nodup)
    (hvalues : ∀ pair ∈ pairs, 0 ∉ pair.2) {pair : Bytes × Bytes} (hpair : pair ∈ pairs) :
    apiQueryParam (Lib.formText pairs) pair.1 = some pair.2 := by
  rw [apiQueryParam_eq_find hnames hvalues, Lib.find?_key hdistinct hpair, Option.map_some]

end AxisMetrics
