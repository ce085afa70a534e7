import AxisMetrics.Settings.RoundTrip

/-!
# Two readers of forms

`main.c` has a copy of `url_decode` and its own way to take a form apart. It reads what
`api_query_param` reads: the pairs that were encoded, in their order.
-/

namespace AxisMetrics

open Lib (Bytes ascii cString isXDigit xdigitValue strsplit urlencode formText pairText)

/-- The loop of the `url_decode` of `main.c` from index `i` on. -/
def urlDecodeFrom (value : Bytes) (length i : ℕ) : Bytes :=
  if i < length then
    let byte := fun k => value.getD k 0
    if byte i = 43 then 32 :: urlDecodeFrom value length (i + 1)
    else if byte i = 37 ∧ i + 2 < length ∧ isXDigit (byte (i + 1)) ∧ isXDigit (byte (i + 2)) then
      UInt8.ofNat (xdigitValue (byte (i + 1)) * 16 + xdigitValue (byte (i + 2))) ::
        urlDecodeFrom value length (i + 3)
    else byte i :: urlDecodeFrom value length (i + 1)
  else []
termination_by length - i

/-- `url_decode` of `main.c`: the first `length` bytes at `value`, decoded. -/
def mainUrlDecode (value : Bytes) (length : ℕ) : Bytes := cString (urlDecodeFrom value length 0)

/-- The name and the value that a turn of the loop of `apply_settings_body` decodes; `none` where
there is no separator. -/
def settingsPair (pair : Bytes) : Option (Bytes × Bytes) :=
  if 61 ∈ pair then
    let separator := pair.idxOf 61
    let value := pair.drop (separator + 1)
    some (mainUrlDecode pair separator, mainUrlDecode value value.length)
  else none

/-- The pairs that `apply_settings_body` sees. -/
def settingsPairs (body : Bytes) : List (Bytes × Bytes) := (strsplit 38 body).filterMap settingsPair

/-- What it does with one of them. -/
def applyNamed (axParameterSet : Bytes → Bytes → Bool) (state : ParameterValues × Bool)
    (pair : Bytes × Bytes) : ParameterValues × Bool :=
  match findParameter pair.1 with
  | none => state
  | some p => setParameter axParameterSet state p pair.2

-- ════════════════════════════════════════════════════════════════════════
-- The two copies of the decoder
-- ════════════════════════════════════════════════════════════════════════

theorem urlDecodeBytes_cons_cons (b high low : UInt8) (rest : Bytes) :
    urlDecodeBytes (b :: high :: low :: rest) =
      if b = 43 then 32 :: urlDecodeBytes (high :: low :: rest)
      else if b = 37 ∧ isXDigit high ∧ isXDigit low then
        UInt8.ofNat (xdigitValue high * 16 + xdigitValue low) :: urlDecodeBytes rest
      else b :: urlDecodeBytes (high :: low :: rest) := by
  rw [urlDecodeBytes.eq_def]

/-- An escape needs two more bytes. -/
theorem urlDecodeBytes_short (b : UInt8) {rest : Bytes} (h : rest.length < 2) :
    urlDecodeBytes (b :: rest) = (if b = 43 then 32 else b) :: urlDecodeBytes rest := by
  have hshort : rest = [] ∨ ∃ c, rest = [c] := by
    cases rest with
    | nil => exact .inl rfl
    | cons c rest =>
      rw [List.length_cons] at h
      exact .inr ⟨c, by rw [List.length_eq_zero_iff.mp (by omega : rest.length = 0)]⟩
  rw [urlDecodeBytes.eq_def]
  dsimp only
  obtain rfl | ⟨c, rfl⟩ := hshort
  all_goals
    by_cases hplus : b = 43
    · rw [if_pos hplus, if_pos hplus]
    · rw [if_neg hplus, if_neg hplus]

/-- From an index on, the loop decodes the bytes from there to the length. -/
theorem urlDecodeFrom_eq (value : Bytes) {length : ℕ} (hlength : length ≤ value.length) (i : ℕ) :
    urlDecodeFrom value length i = urlDecodeBytes ((value.take length).drop i) := by
  have htake : (value.take length).length = length := by
    rw [List.length_take, Nat.min_eq_left hlength]
  have hdrop : ∀ k < length,
      (value.take length).drop k = value.getD k 0 :: (value.take length).drop (k + 1) := by
    intro k hk
    rw [List.drop_eq_getElem_cons (by omega), List.getElem_take, List.getD_eq_getElem _ _ (by omega)]
  fun_induction urlDecodeFrom value length i with
  | case1 i h byte hplus ih =>
    have hplus : value.getD i 0 = 43 := hplus
    rw [ih, hdrop i h, hplus, urlDecodeBytes.eq_def ((43 : UInt8) :: _)]
    exact (if_pos rfl).symm
  | case2 i h byte hplus hescape ih =>
    obtain ⟨hpercent, hmore, hhigh, hlow⟩ := hescape
    have hpercent : value.getD i 0 = 37 := hpercent
    rw [ih, hdrop i h, hdrop (i + 1) (by omega), hdrop (i + 2) hmore, hpercent,
      urlDecodeBytes_percent hhigh hlow]
  | case3 i h byte hplus hescape ih =>
    have hplus : value.getD i 0 ≠ 43 := hplus
    rw [ih, hdrop i h]
    by_cases hmore : i + 2 < length
    · have hplain : ¬ (value.getD i 0 = 37 ∧ isXDigit (value.getD (i + 1) 0) ∧
          isXDigit (value.getD (i + 2) 0)) := fun h => hescape ⟨h.1, hmore, h.2⟩
      rw [hdrop (i + 1) (by omega), hdrop (i + 2) hmore, urlDecodeBytes_cons_cons, if_neg hplus,
        if_neg hplain]
    · have hshort : ((value.take length).drop (i + 1)).length < 2 := by
        rw [List.length_drop, htake]
        omega
      rw [urlDecodeBytes_short _ hshort, if_neg hplus]
  | case4 i h =>
    rw [List.drop_of_length_le (by omega)]
    rfl

/-- The copies agree on every part of a buffer. -/
theorem mainUrlDecode_eq (value : Bytes) {length : ℕ} (hlength : length ≤ value.length) :
    mainUrlDecode value length = urlDecode (value.take length) := by
  rw [mainUrlDecode, urlDecodeFrom_eq value hlength, List.drop_zero, urlDecode]

theorem settingsPair_eq (pair : Bytes) :
    settingsPair pair = if 61 ∈ pair then
      some (urlDecode (pair.takeWhile (· ≠ 61)), urlDecode (pair.dropWhile (· ≠ 61)).tail)
    else none := by
  have hidx : pair.findIdx (fun b => !decide (b ≠ 61)) = pair.idxOf 61 := by
    rw [List.idxOf]
    congr 1
    funext b
    rw [decide_not, Bool.not_not, beq_eq_decide]
  have hlength := List.idxOf_le_length (a := (61 : UInt8)) (l := pair)
  rw [settingsPair]
  dsimp only
  rw [mainUrlDecode_eq pair hlength, mainUrlDecode_eq _ le_rfl, List.take_length,
    List.takeWhile_eq_take_findIdx_not, List.dropWhile_eq_drop_findIdx_not, hidx, List.tail_drop]

/-- `apply_settings_body` goes through the pairs that it sees. -/
theorem applySettingsBody_eq_foldl (axParameterSet : Bytes → Bytes → Bool)
    (values : ParameterValues) (body : Bytes) :
    applySettingsBody axParameterSet values body =
      (settingsPairs body).foldl (applyNamed axParameterSet) (values, false) := by
  rw [applySettingsBody, settingsPairs, List.foldl_filterMap]
  congr 1
  funext state pair
  rw [settingsPair_eq, applyPair]
  split <;> rfl

/-- A pair that was encoded. -/
theorem settingsPair_pairText {pair : Bytes × Bytes} (hname : 0 ∉ pair.1) (hvalue : 0 ∉ pair.2) :
    settingsPair (pairText pair) = some pair := by
  have hplain : ∀ b ∈ urlencode pair.1, decide (b ≠ 61) = true :=
    fun b hb => decide_eq_true (Lib.mem_urlencode hb).2
  rw [settingsPair_eq, pairText, if_pos (List.mem_append_right _ List.mem_cons_self),
    List.takeWhile_append_of_pos hplain, List.dropWhile_append_of_pos hplain,
    List.takeWhile_cons_of_neg (by decide), List.dropWhile_cons_of_neg (by decide),
    List.append_nil, List.tail_cons, urlDecode_urlencode hname, urlDecode_urlencode hvalue]

theorem settingsPairs_formText {pairs : List (Bytes × Bytes)}
    (hpairs : ∀ pair ∈ pairs, 0 ∉ pair.1 ∧ 0 ∉ pair.2) : settingsPairs (formText pairs) = pairs := by
  rw [settingsPairs, Lib.strsplit_formText, List.filterMap_map]
  calc pairs.filterMap (settingsPair ∘ pairText)
      = pairs.filterMap some := List.filterMap_congr fun pair hpair =>
        settingsPair_pairText (hpairs pair hpair).1 (hpairs pair hpair).2
    _ = pairs := List.filterMap_some

/-- The readers of a form see the pairs that it was made of: a query in front of which a path may
stand, and a body of settings. -/
def ReadBack (pairs : List (Bytes × Bytes)) : Prop :=
  (∀ name, apiQueryParam (formText pairs) name =
      (pairs.find? fun pair => pair.1 = name).map Prod.snd) ∧
    (∀ path name, 63 ∉ path → apiQueryParam (path ++ 63 :: formText pairs) name =
      (pairs.find? fun pair => pair.1 = name).map Prod.snd) ∧
    settingsPairs (formText pairs) = pairs ∧
    ∀ axParameterSet values, applySettingsBody axParameterSet values (formText pairs) =
      pairs.foldl (applyNamed axParameterSet) (values, false)

/-- Every form of plain names and of values without a zero byte is read back, and the two decoders
agree on every part of every buffer. -/
theorem readBack_formText (pairs : List (Bytes × Bytes))
    (hnames : ∀ pair ∈ pairs, pair.1 ≠ [] ∧ urlencode pair.1 = pair.1)
    (hvalues : ∀ pair ∈ pairs, 0 ∉ pair.2) :
    ReadBack pairs ∧ ∀ value length, length ≤ value.length →
      mainUrlDecode value length = urlDecode (value.take length) := by
  have hzero : ∀ pair ∈ pairs, 0 ∉ pair.1 ∧ 0 ∉ pair.2 := by
    intro pair hpair
    refine ⟨fun hmem => ?_, hvalues pair hpair⟩
    rw [← (hnames pair hpair).2] at hmem
    rcases Lib.mem_urlencode_cases hmem with halnum | hmark
    · cases halnum
    · exact absurd hmark (by decide)
  have hfind := apiQueryParam_eq_find (fun pair hpair => (hnames pair hpair).2) hvalues
  refine ⟨⟨hfind, ?_, settingsPairs_formText hzero, ?_⟩, fun value length => mainUrlDecode_eq value⟩
  · intro path name hpath
    rw [apiQueryParam_path hpath, hfind]
  · intro axParameterSet values
    rw [applySettingsBody_eq_foldl, settingsPairs_formText hzero]

/-- A form with a repeated name, an empty value and a value full of separators. -/
def awkwardForm : List (Bytes × Bytes) :=
  [(ascii "a", ascii "x=1&b=2?+ %41"), (ascii "ab", []), (ascii "a", ascii "later")]

theorem readBack_awkwardForm :
    ReadBack awkwardForm ∧ ∀ value length, length ≤ value.length →
      mainUrlDecode value length = urlDecode (value.take length) :=
  readBack_formText awkwardForm (by decide) (by decide)

end AxisMetrics
