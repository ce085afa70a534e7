import AxisMetrics.Http.Whole
import AxisMetrics.Lib.Lowered

/-!
# Segments

However a complete request is cut into reads, `on_http_request` stops behind its last byte and hands
it on. The length of the body is scanned from the lower-cased header, where its name stands only at
the beginning of a field.
-/

namespace AxisMetrics

open Lib (Bytes ascii cString strstr strdown tolower tolower_eq_iff strtol gsizeOfLong isSpace
  isDigit digitsValue words foundIn linesBehind)

variable {V D T : Type} [SampleArith V D] [RenderArith V T] [AlertArith V T]

/-- The reads that the loop of `on_http_request` leaves to come. -/
def readLoopLeft : List Bytes → Bytes → ℕ → ℤ → List Bytes
  | [], _, _, _ => []
  | segment :: segments, buffer, headerLength, contentLength =>
    if MAX_REQUEST - 1 ≤ buffer.length then segment :: segments
    else if segment = [] then segments
    else
      let buffer := buffer ++ segment.take (MAX_REQUEST - 1 - buffer.length)
      match strstr headerEnd (cString buffer) with
      | none => readLoopLeft segments buffer headerLength contentLength
      | some i =>
        let headerLength := i + 4
        let contentLength :=
          if contentLength = 0 then scanContentLength (buffer.take headerLength)
          else contentLength
        if buffer.length - headerLength ≥ gsizeOfLong contentLength then segments
        else readLoopLeft segments buffer headerLength contentLength

/-- The text behind which the length of the body stands. -/
def lengthMark : Bytes := ascii "content-length:"

/-- The text is in the header only as the beginning of a field. -/
def OnlyAsField (header : Bytes) : Prop :=
  (∀ i, ¬ lengthMark <+: (strdown (requestLine header)).drop i) ∧
    ∀ line ∈ fieldLines header, ∀ i, lengthMark <+: (strdown line).drop i → i = 0

/-- A complete request: a header with a method and a target that fit their buffers, and a body of
the length that the header declares, without zero bytes and all within the buffer. -/
structure CompleteRequest (sent : Bytes) (request : Request) : Prop where
  length_le : sent.length ≤ MAX_REQUEST - 1
  zero_notMem : 0 ∉ sent
  method_le : request.method.length ≤ 7
  path_le : request.path.length ≤ MAX_PATH_LENGTH - 1
  parts : ∃ header, sent = header ++ headerEnd ++ request.body ∧
    strstr headerEnd sent = some header.length ∧
    (∃ others, words (requestLine header) = request.method :: request.path :: others) ∧
    OnlyAsField header ∧ declaredLength header = some request.body.length

-- ════════════════════════════════════════════════════════════════════════
-- The declared length
-- ════════════════════════════════════════════════════════════════════════

theorem isContentLength_iff (line : Bytes) :
    isContentLength line = true ↔ lengthMark <+: strdown line := by
  have hmark : lengthMark = ascii "content-length" ++ [58] := by decide
  have hcolon : 58 ∈ line ↔ 58 ∈ strdown line := by
    rw [strdown, List.mem_map]
    constructor
    · exact fun h => ⟨58, h, by decide⟩
    · rintro ⟨b, hb, heq⟩
      exact (tolower_eq_iff (by decide)).mp heq ▸ hb
  have htake : strdown (line.takeWhile (· ≠ 58)) = (strdown line).takeWhile (· ≠ 58) := by
    rw [strdown, strdown, List.takeWhile_map]
    congr 2
    funext b
    simp [tolower_eq_iff (b := b) (c := 58) (by decide)]
  rw [isContentLength, Bool.and_eq_true, decide_eq_true_eq, beq_iff_eq, htake, hcolon, hmark]
  exact Lib.takeWhile_eq_iff (by decide)

/-- The field that is found is the first one. -/
theorem foundIn_fields {lines : List Bytes}
    (honly : ∀ line ∈ lines, ∀ i, lengthMark <+: (strdown line).drop i → i = 0) :
    (lines.filter isContentLength = [] → foundIn lengthMark (lines.map strdown) = none) ∧
      ∀ line others, lines.filter isContentLength = line :: others →
        ∃ behind, foundIn lengthMark (lines.map strdown) = some (strdown line, behind) := by
  induction lines with
  | nil => simp [foundIn]
  | cons line lines ih =>
    obtain ⟨hline, hlines⟩ := List.forall_mem_cons.mp honly
    rw [List.map_cons, foundIn]
    cases hfound : strstr lengthMark (strdown line) with
    | some i =>
      have hbegins := Lib.prefix_of_strstr hfound
      obtain rfl := hline i hbegins
      rw [List.filter_cons_of_pos ((isContentLength_iff line).mpr hbegins)]
      refine ⟨fun h => absurd h (List.cons_ne_nil _ _), fun first others h => ?_⟩
      obtain ⟨rfl, -⟩ := List.cons.inj h
      exact ⟨_, rfl⟩
    | none =>
      rw [List.filter_cons_of_neg]
      · exact ih hlines
      · rw [isContentLength_iff]
        exact Lib.not_prefix_of_strstr hfound 0

theorem foundIn_header {header : Bytes} (honly : OnlyAsField header) :
    foundIn lengthMark (((header.dropWhile isSpace).splitOn 10).map strdown) =
      foundIn lengthMark ((fieldLines header).map strdown) := by
  have hlines : (header.dropWhile isSpace).splitOn 10 =
      requestLine header :: fieldLines header := Lib.splitOn_eq_cons_tail _ _
  have hfirst : strstr lengthMark (strdown (requestLine header)) = none := by
    cases hfound : strstr lengthMark (strdown (requestLine header)) with
    | none => rfl
    | some i => exact absurd (Lib.prefix_of_strstr hfound) (honly.1 i)
  rw [hlines, List.map_cons, foundIn, hfirst]

/-- Where the lines of a header are searched, in the lower-cased text. -/
theorem strstr_header (header : Bytes) :
    (strstr lengthMark (strdown header)).map ((strdown header).drop ·) =
      (foundIn lengthMark (((header.dropWhile isSpace).splitOn 10).map strdown)).map
        fun found => found.1 ++ linesBehind found.2 := by
  have hparts : strdown header = strdown (header.takeWhile isSpace) ++
      [10].intercalate (((header.dropWhile isSpace).splitOn 10).map strdown) := by
    rw [← Lib.strdown_intercalate, List.intercalate_splitOn, strdown, strdown, strdown,
      ← List.map_append, List.takeWhile_append_dropWhile]
  have hspace : (99 : UInt8) ∉ strdown (header.takeWhile isSpace) := by
    intro hmem
    obtain ⟨b, hb, hletter⟩ := List.mem_map.mp hmem
    have hblank := (Lib.isSpace_tolower b).trans (List.mem_takeWhile_imp hb)
    rw [hletter] at hblank
    cases hblank
  rw [hparts, show lengthMark = 99 :: lengthMark.tail from by decide, Lib.strstr_skip_chars hspace,
    Option.map_map, ← Lib.strstr_intercalate (by decide) (by decide)]
  congr 1
  funext i
  rw [Function.comp_apply, Nat.add_comm, ← List.drop_drop, List.drop_left]

/-- What stands behind the name of a field, in lower case. -/
theorem drop_lengthMark {line : Bytes} (h : isContentLength line = true) (more : Bytes) :
    (strdown line ++ more).drop lengthMark.length =
      strdown (line.dropWhile (· ≠ 58)).tail ++ more := by
  rw [isContentLength, Bool.and_eq_true, decide_eq_true_eq, beq_iff_eq] at h
  obtain ⟨hcolon, hname⟩ := h
  obtain ⟨rest, hrest⟩ : ∃ rest, line.dropWhile (· ≠ 58) = 58 :: rest := by
    have hne : line.dropWhile (· ≠ 58) ≠ [] := by
      rw [Ne, List.dropWhile_eq_nil_iff]
      exact fun hall => absurd (hall 58 hcolon) (by decide)
    obtain ⟨b, rest, hb⟩ := List.exists_cons_of_ne_nil hne
    have hhead := List.head?_dropWhile_not (· ≠ (58 : UInt8)) line
    rw [hb] at hhead
    exact ⟨rest, by rw [hb, show b = 58 by simpa using hhead]⟩
  have hparts : strdown line = lengthMark ++ strdown rest := by
    conv_lhs => rw [← List.takeWhile_append_dropWhile (p := (· ≠ 58)) (l := line), hrest]
    rw [strdown, List.map_append, ← strdown, hname]
    rfl
  rw [hparts, hrest, List.append_assoc, List.drop_left, List.tail_cons]

theorem fieldNumber_eq_some {line : Bytes} {n : ℕ} (h : fieldNumber line = some n) :
    ∃ value, words (line.dropWhile (· ≠ 58)).tail = [value] ∧ value.all isDigit = true ∧
      digitsValue value = n := by
  unfold fieldNumber at h
  split at h
  · next value hwords =>
    split at h
    · next hdigits => exact ⟨value, hwords, hdigits, Option.some.inj h⟩
    · cases h
  · cases h

/-- The length that the code scans is the declared one. -/
theorem scanContentLength_eq {header : Bytes} {n : ℕ} (hzero : 0 ∉ header)
    (honly : OnlyAsField header) (hlength : declaredLength header = some n) (hn : n < 2 ^ 63) :
    scanContentLength (header ++ headerEnd) = n := by
  have htext : strdown (header ++ headerEnd) = strdown header ++ headerEnd := by
    rw [strdown, List.map_append]
    rfl
  have hfields := foundIn_fields honly.2
  have hsearch := strstr_header header
  rw [foundIn_header honly] at hsearch
  rw [declaredLength] at hlength
  rw [scanContentLength, htext]
  cases hfilter : (fieldLines header).filter isContentLength with
  | nil =>
    rw [hfilter] at hlength
    obtain rfl := Option.some.inj hlength
    rw [hfields.1 hfilter, Option.map_none, Option.map_eq_none_iff] at hsearch
    have hnone : strstr lengthMark (strdown header ++ headerEnd) = none := by
      rw [show headerEnd = 13 :: [10, 13, 10] from rfl,
        Lib.strstr_skip_sep (by decide) (by decide) hsearch]
      exact Option.map_eq_none_iff.mpr (by decide)
    rw [lengthMark] at hnone
    rw [hnone]
    rfl
  | cons line lines =>
    rw [hfilter] at hlength
    obtain ⟨behind, hfound⟩ := hfields.2 line lines hfilter
    rw [hfound, Option.map_some] at hsearch
    obtain ⟨i, hi, hdrop⟩ := Option.map_eq_some_iff.mp hsearch
    have hplace := Lib.strstr_append hi headerEnd
    have hbefore : (strdown header ++ headerEnd).drop (i + lengthMark.length) =
        (strdown line ++ (linesBehind behind ++ headerEnd)).drop lengthMark.length := by
      have hi := Lib.length_le_of_strstr hi
      rw [← List.drop_drop, List.drop_append_of_le_length (by omega), hdrop, List.append_assoc]
    have hfield : isContentLength line = true := by
      have hmem : line ∈ (fieldLines header).filter isContentLength :=
        hfilter ▸ List.mem_cons_self
      exact (List.mem_filter.mp hmem).2
    rw [drop_lengthMark hfield] at hbefore
    rw [lengthMark] at hplace hbefore
    rw [hplace]
    dsimp only
    rw [hbefore]
    have hnone : 0 ∉ strdown (line.dropWhile (· ≠ 58)).tail ++
        (linesBehind behind ++ headerEnd) := by
      intro hmem
      rw [← hbefore] at hmem
      rcases List.mem_append.mp (List.mem_of_mem_drop hmem) with hheader | hend
      · exact Lib.zero_notMem_strdown hzero hheader
      · exact absurd hend (by decide)
    have hnumber : fieldNumber line = some n := by
      dsimp only at hlength
      split at hlength
      · exact hlength
      · cases hlength
    obtain ⟨value, hwords, hdigits, rfl⟩ := fieldNumber_eq_some hnumber
    refine Lib.strtol_strdown_word hnone hwords hdigits (fun b hb => ?_) hn
    cases behind with
    | nil =>
      obtain rfl : (13 : UInt8) = b := Option.some.inj hb
      rfl
    | cons next behind =>
      obtain rfl : (10 : UInt8) = b := Option.some.inj hb
      rfl

-- ════════════════════════════════════════════════════════════════════════
-- The reads
-- ════════════════════════════════════════════════════════════════════════

section Reads

variable {sent buffer : Bytes} {i headerLength : ℕ} {contentLength : ℤ}

/-- From every state in which the loop waits, the rest of what is sent ends it with the last read,
and with all of it in the buffer. -/
theorem readLoop_whole (segments more : List Bytes) (hzero : 0 ∉ sent)
    (hfits : sent.length ≤ MAX_REQUEST - 1) (hheader : strstr headerEnd sent = some i)
    (hwanted : wantedLength sent i = sent.length)
    (hpending : Pending buffer headerLength contentLength)
    (hsegments : ∀ segment ∈ segments, segment ≠ []) (hsent : buffer ++ segments.flatten = sent) :
    readLoop (segments ++ more) buffer headerLength contentLength = (sent, i + 4) ∧
      readLoopLeft (segments ++ more) buffer headerLength contentLength = more := by
  induction segments generalizing buffer headerLength contentLength with
  | nil =>
    -- what waits is not complete
    rw [List.flatten_nil, List.append_nil] at hsent
    subst hsent
    rw [← Lib.cString_eq_self hzero] at hheader
    cases hpending with
    | unseen h =>
      rw [h] at hheader
      cases hheader
    | waiting h hlt =>
      obtain rfl := Option.some.inj (h.symm.trans hheader)
      omega
  | cons segment segments ih =>
    obtain ⟨hsegment, hsegments⟩ := List.forall_mem_cons.mp hsegments
    rw [List.flatten_cons, ← List.append_assoc] at hsent
    have hlength := congrArg List.length hsent
    simp only [List.length_append] at hlength
    have hpos := List.length_pos_iff.mpr hsegment
    have htake : segment.take (MAX_REQUEST - 1 - buffer.length) = segment :=
      List.take_of_length_le (by omega)
    rw [List.cons_append, readLoop, readLoopLeft, if_neg (by simp [hsegment]; omega),
      if_neg (by omega), if_neg hsegment, htake]
    dsimp only
    have hplain : cString (buffer ++ segment) = buffer ++ segment :=
      Lib.cString_eq_self fun hmem => hzero (hsent ▸ List.mem_append_left _ hmem)
    cases hfound : strstr headerEnd (cString (buffer ++ segment)) with
    | none => exact ih (hpending.of_none hfound) hsegments hsent
    | some j =>
      have hwhole := Lib.strstr_append (hplain ▸ hfound) segments.flatten
      rw [hsent] at hwhole
      obtain rfl := Option.some.inj (hwhole.symm.trans hheader)
      have hscan := hpending.scan_eq hfound
      have hlater : wantedLength (buffer ++ segment) j = sent.length := by
        rw [← wantedLength_append (headerEnd_le hfound) segments.flatten, hsent, hwanted]
      have hend := headerEnd_le hfound
      dsimp only
      rw [hscan]
      by_cases hdone : sent.length ≤ (buffer ++ segment).length
      · -- nothing is left, for a read is not empty
        have hnil : segments = [] := by
          cases segments with
          | nil => rfl
          | cons next segments =>
            have hnext := List.length_pos_iff.mpr (List.forall_mem_cons.mp hsegments).1
            simp only [List.length_append, List.flatten_cons] at hlength hdone
            omega
        subst hnil
        rw [List.flatten_nil, List.append_nil] at hsent
        rw [wantedLength] at hlater
        rw [if_pos (by omega), if_pos (by omega), hsent]
        exact ⟨rfl, rfl⟩
      · rw [if_neg, if_neg]
        · exact ih (Pending.waiting hfound (by omega)) hsegments hsent
        all_goals
          rw [wantedLength] at hlater
          omega

end Reads

/-- A complete request is read to its last byte and handed on, however it is cut into reads and
whatever comes behind it. -/
theorem onHttpRequest_complete (env : RequestEnv) (app : App V D T) (readOnly : Bool)
    (sent : Bytes) (request : Request) (hcomplete : CompleteRequest sent request)
    (segments more : List Bytes) (hsegments : ∀ segment ∈ segments, segment ≠ [])
    (hsent : segments.flatten = sent) :
    readLoopLeft (segments ++ more) [] 0 0 = more ∧
      readRequest (segments ++ more) = some request ∧
      onHttpRequest env app (segments ++ more) readOnly =
        handleRequest env app request readOnly := by
  obtain ⟨header, hparts, hheader, ⟨others, hwords⟩, honly, hlength⟩ := hcomplete.parts
  have hzero : 0 ∉ header ∧ 0 ∉ request.body := by
    have hzero := hcomplete.zero_notMem
    rw [hparts] at hzero
    simp only [List.mem_append, not_or] at hzero
    exact ⟨hzero.1.1, hzero.2⟩
  have htotal := congrArg List.length hparts
  simp only [List.length_append, show headerEnd.length = 4 from rfl] at htotal
  have hsmall := hcomplete.length_le
  rw [show MAX_REQUEST - 1 = 16383 from rfl] at hsmall
  have htake : sent.take (header.length + 4) = header ++ headerEnd := by
    rw [hparts]
    exact List.take_left' (by simp [headerEnd, ascii])
  have hwanted : wantedLength sent header.length = sent.length := by
    rw [wantedLength, htake, scanContentLength_eq hzero.1 honly hlength (by omega), gsizeOfLong]
    omega
  obtain ⟨hloop, hleft⟩ := readLoop_whole segments more hcomplete.zero_notMem hcomplete.length_le
    hheader hwanted (Pending.unseen rfl) hsegments
    (show [] ++ segments.flatten = sent from hsent)
  have hspace : ∀ b ∈ (headerEnd ++ request.body).head?, isSpace b = true := by
    intro b hb
    obtain rfl : (13 : UInt8) = b := Option.some.inj hb
    rfl
  have hline : scanRequestLine sent = some (request.method, request.path) := by
    rw [hparts, List.append_assoc]
    exact scanRequestLine_eq hwords hspace hcomplete.method_le hcomplete.path_le
  have hbody : sent.drop (header.length + 4) = request.body := by
    rw [hparts]
    exact List.drop_left' (by simp [headerEnd, ascii])
  have hread : readRequest (segments ++ more) = some request := by
    rw [readRequest, hloop]
    dsimp only
    rw [if_neg (by omega), Lib.cString_eq_self hcomplete.zero_notMem, hline, hbody,
      Lib.cString_eq_self hzero.2]
    rfl
  refine ⟨hleft, hread, ?_⟩
  rw [onHttpRequest, hread]

/-- A form with a blank line in its body, cut inside the end of the header. -/
def cutHeader : List Bytes :=
  [ascii "POST /settings HTTP/1.1\r\nContent-Length: 7\r\n\r", ascii "\nA=\r\n\r\n", ascii "b"]

theorem onHttpRequest_cutHeader :
    readLoopLeft (cutHeader ++ [ascii "GET /"]) [] 0 0 = [ascii "GET /"] ∧
      readRequest (cutHeader ++ [ascii "GET /"]) =
        some ⟨ascii "POST", ascii "/settings", ascii "A=\r\n\r\nb"⟩ ∧
      onHttpRequest quietEnv (blankApp fun _ => none) (cutHeader ++ [ascii "GET /"]) false =
        handleRequest quietEnv (blankApp fun _ => none)
          ⟨ascii "POST", ascii "/settings", ascii "A=\r\n\r\nb"⟩ false := by
  refine onHttpRequest_complete quietEnv (blankApp fun _ => none) false cutHeader.flatten _ ?_
    cutHeader [ascii "GET /"] (by decide) rfl
  refine ⟨by decide, by decide, by decide, by decide,
    ascii "POST /settings HTTP/1.1\r\nContent-Length: 7", by decide, by decide,
    ⟨[ascii "HTTP/1.1"], by decide⟩, ⟨?_, ?_⟩, by decide⟩
  · exact Lib.not_prefix_of_strstr (by decide)
  · intro line hline i hbegins
    obtain rfl : line = ascii "Content-Length: 7" := by
      have hlines : fieldLines (ascii "POST /settings HTTP/1.1\r\nContent-Length: 7") =
          [ascii "Content-Length: 7"] := by decide
      rw [hlines, List.mem_singleton] at hline
      exact hline
    cases i with
    | zero => rfl
    | succ i =>
      rw [← List.drop_tail] at hbegins
      exact absurd hbegins (Lib.not_prefix_of_strstr (by decide) i)

end AxisMetrics
