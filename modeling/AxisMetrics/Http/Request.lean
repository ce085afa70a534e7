import AxisMetrics.Lib.Scan

/-!
# Reading a request

`on_http_request` collects what the client sends until the body is as long as the header says, the
stream ends or the buffer is full. A stream is the list of what its reads return; an empty read is
the end of the stream or an error.
-/

namespace AxisMetrics

open Lib (Bytes ascii cString strstr strdown strtol gsizeOfLong scanWord)

def MAX_REQUEST : ℕ := 16384

/-- A series request names every metric it wants, so paths get long. -/
def MAX_PATH_LENGTH : ℕ := 8192

/-- The arguments of `handle_request` that come from the client. -/
structure Request where
  method : Bytes
  path : Bytes
  body : Bytes
  deriving DecidableEq

/-- The blank line that ends a header. -/
def headerEnd : Bytes := ascii "\r\n\r\n"

/-- The number behind the first `content-length:` in a header, in any case. -/
def scanContentLength (header : Bytes) : ℤ :=
  match strstr (ascii "content-length:") (strdown header) with
  | none => 0
  | some i => strtol ((strdown header).drop (i + (ascii "content-length:").length))

/-- The read loop: the buffer and `header_length` at its end. -/
def readLoop : List Bytes → Bytes → ℕ → ℤ → Bytes × ℕ
  | [], buffer, headerLength, _ => (buffer, headerLength)
  | segment :: segments, buffer, headerLength, contentLength =>
    if MAX_REQUEST - 1 ≤ buffer.length ∨ segment = [] then (buffer, headerLength)
    else
      let buffer := buffer ++ segment.take (MAX_REQUEST - 1 - buffer.length)
      match strstr headerEnd (cString buffer) with
      | none => readLoop segments buffer headerLength contentLength
      | some i =>
        let headerLength := i + 4
        let contentLength :=
          if contentLength = 0 then scanContentLength (buffer.take headerLength)
          else contentLength
        if buffer.length - headerLength ≥ gsizeOfLong contentLength then (buffer, headerLength)
        else readLoop segments buffer headerLength contentLength

/-- `sscanf (buffer, "%7s %8191s", method, path)`. -/
def scanRequestLine (text : Bytes) : Option (Bytes × Bytes) :=
  (scanWord 7 text).bind fun (method, rest) =>
    (scanWord (MAX_PATH_LENGTH - 1) rest).map fun (path, _) => (method, path)

/-- The part of `on_http_request` before `handle_request`: the request, or `none` where the client
is told of a bad one. -/
def readRequest (segments : List Bytes) : Option Request :=
  let (buffer, headerLength) := readLoop segments [] 0 0
  if headerLength = 0 then none
  else (scanRequestLine (cString buffer)).map fun (method, path) =>
    ⟨method, path, cString (buffer.drop headerLength)⟩

/-- All that the reads of a stream return. -/
def arrived (segments : List Bytes) : Bytes := (segments.takeWhile (· ≠ [])).flatten

/-- What the reads have returned when there are `n` bytes or the stream ends. -/
def arrivedWith (n : ℕ) : List Bytes → Bytes
  | [] => []
  | segment :: segments =>
    if n = 0 ∨ segment = [] then [] else segment ++ arrivedWith (n - segment.length) segments

/-- The length of header and body, where the length of the body is what the code scans. -/
def wantedLength (sent : Bytes) (i : ℕ) : ℕ :=
  i + 4 + gsizeOfLong (scanContentLength (sent.take (i + 4)))

variable {segments : List Bytes} {buffer : Bytes} {i n : ℕ}

theorem arrived_cons (segment : Bytes) (segments : List Bytes) :
    arrived (segment :: segments) = if segment = [] then [] else segment ++ arrived segments := by
  rw [arrived, List.takeWhile_cons]
  by_cases h : segment = [] <;> simp [h, arrived]

theorem prefix_arrivedWith (n : ℕ) (segments : List Bytes) :
    arrivedWith n segments <+: arrived segments := by
  induction segments generalizing n with
  | nil => exact List.prefix_rfl
  | cons segment segments ih =>
    rw [arrivedWith, arrived_cons]
    split_ifs with hstop hend
    · exact List.nil_prefix
    · exact List.nil_prefix
    · exact absurd (Or.inr ‹segment = []›) hstop
    · exact (List.prefix_append_right_inj segment).mpr (ih _)

/-- The header of a text is the header of a longer text. -/
theorem strstr_cString_append (h : strstr headerEnd (cString buffer) = some i) (more : Bytes) :
    strstr headerEnd (cString (buffer ++ more)) = some i := by
  obtain ⟨rest, hrest⟩ := Lib.cString_prefix_append buffer more
  rw [← hrest]
  exact Lib.strstr_append h rest

/-- A part of the text that has all of the header has it in the same place. -/
theorem strstr_cString_take {text : Bytes} (h : strstr headerEnd (cString text) = some i)
    (hn : i + 4 ≤ n) : strstr headerEnd (cString (text.take n)) = some i := by
  rw [Lib.cString_take]
  exact Lib.strstr_take h hn

theorem headerEnd_le (h : strstr headerEnd (cString buffer) = some i) : i + 4 ≤ buffer.length := by
  have hlength := (Lib.cString_prefix buffer).length_le
  have hmatch := Lib.length_le_of_strstr h
  rw [show headerEnd.length = 4 from rfl] at hmatch
  omega

/-- Where the read loop stands: it has not seen a header, or waits for the rest of the body. -/
inductive Pending (buffer : Bytes) : ℕ → ℤ → Prop where
  | unseen (h : strstr headerEnd (cString buffer) = none) : Pending buffer 0 0
  | waiting {i : ℕ} (h : strstr headerEnd (cString buffer) = some i)
      (hlt : buffer.length < wantedLength buffer i) :
      Pending buffer (i + 4) (scanContentLength (buffer.take (i + 4)))

theorem Pending.of_none {headerLength : ℕ} {contentLength : ℤ} {more : Bytes}
    (h : Pending buffer headerLength contentLength)
    (hnone : strstr headerEnd (cString (buffer ++ more)) = none) :
    Pending (buffer ++ more) headerLength contentLength := by
  cases h with
  | unseen h => exact Pending.unseen hnone
  | waiting h hlt =>
    rw [strstr_cString_append h] at hnone
    cases hnone

/-- The length is scanned when the header is there, and once more where it was zero. -/
theorem Pending.scan_eq {headerLength : ℕ} {contentLength : ℤ} {more : Bytes}
    (h : Pending buffer headerLength contentLength)
    (hfound : strstr headerEnd (cString (buffer ++ more)) = some i) :
    (if contentLength = 0 then scanContentLength ((buffer ++ more).take (i + 4))
      else contentLength) = scanContentLength ((buffer ++ more).take (i + 4)) := by
  cases h with
  | unseen h => exact if_pos rfl
  | waiting h hlt =>
    obtain rfl := Option.some.inj ((strstr_cString_append h _).symm.trans hfound)
    rw [List.take_append_of_le_length (headerEnd_le h), ite_self]

/-- A read that is cut at the end of the buffer loses only what is cut off anyway. -/
theorem take_append_take_append (k : ℕ) (buffer segment more : Bytes) :
    (buffer ++ segment.take (k - buffer.length) ++ more).take k =
      (buffer ++ (segment ++ more)).take k := by
  rw [List.append_assoc, List.take_append, List.take_append, List.take_append, List.take_append]
  rcases Nat.le_total segment.length (k - buffer.length) with hfits | hlong
  · rw [List.take_of_length_le hfits, List.take_of_length_le hfits]
  · rw [List.take_take, Nat.min_self, List.length_take, Nat.min_eq_left hlong, Nat.sub_self,
      Nat.sub_eq_zero_of_le hlong]

theorem wantedLength_append (h : i + 4 ≤ buffer.length) (more : Bytes) :
    wantedLength (buffer ++ more) i = wantedLength buffer i := by
  rw [wantedLength, wantedLength, List.take_append_of_le_length h]

/-- The buffer and the header length with which the loop ends: it stops behind the wanted length of
what is sent, at the end of the stream or at the end of the buffer. -/
def readEnd (buffer : Bytes) (segments : List Bytes) : Bytes × ℕ :=
  let sent := (buffer ++ arrived segments).take (MAX_REQUEST - 1)
  match strstr headerEnd (cString sent) with
  | none => (sent, 0)
  | some i => ((buffer ++ arrivedWith (wantedLength sent i - buffer.length) segments).take
      (MAX_REQUEST - 1), i + 4)

/-- Where nothing more fits or comes, the loop ends as it stands. -/
theorem readEnd_of_stop {headerLength : ℕ} {contentLength : ℤ}
    (hpending : Pending buffer headerLength contentLength)
    (hall : (buffer ++ arrived segments).take (MAX_REQUEST - 1) = buffer)
    (hwith : ∀ n, (buffer ++ arrivedWith n segments).take (MAX_REQUEST - 1) = buffer) :
    readEnd buffer segments = (buffer, headerLength) := by
  cases hpending with
  | unseen h => simp only [readEnd, hall, h]
  | waiting h => simp only [readEnd, hall, h, hwith]

/-- Where all of the body is there, the loop ends. -/
theorem readEnd_of_wanted (hfits : buffer.length ≤ MAX_REQUEST - 1)
    (h : strstr headerEnd (cString buffer) = some i) (hwanted : wantedLength buffer i ≤ buffer.length) :
    readEnd buffer segments = (buffer, i + 4) := by
  have hsent : (buffer ++ arrived segments).take (MAX_REQUEST - 1) =
      buffer ++ (arrived segments).take (MAX_REQUEST - 1 - buffer.length) := by
    rw [List.take_append, List.take_of_length_le hfits]
  have hnone : arrivedWith 0 segments = [] := by
    cases segments <;> simp [arrivedWith]
  simp only [readEnd, hsent, strstr_cString_append h]
  rw [wantedLength_append (headerEnd_le h), Nat.sub_eq_zero_of_le hwanted, hnone, List.append_nil,
    List.take_of_length_le hfits]

/-- A read takes the loop further to the same end. -/
theorem readEnd_of_read {headerLength : ℕ} {contentLength : ℤ} {segment : Bytes}
    (hpending : Pending buffer headerLength contentLength)
    (hfits : buffer.length ≤ MAX_REQUEST - 1) (hsegment : segment ≠ []) :
    readEnd buffer (segment :: segments) =
      readEnd (buffer ++ segment.take (MAX_REQUEST - 1 - buffer.length)) segments := by
  have hsent : (buffer ++ segment.take (MAX_REQUEST - 1 - buffer.length) ++ arrived segments).take
      (MAX_REQUEST - 1) = (buffer ++ arrived (segment :: segments)).take (MAX_REQUEST - 1) := by
    rw [take_append_take_append, arrived_cons, if_neg hsegment]
  simp only [readEnd, hsent]
  split
  · rfl
  · next i hfound =>
    -- the wanted length is behind the buffer, so the read is wanted
    have hlt : buffer.length <
        wantedLength ((buffer ++ arrived (segment :: segments)).take (MAX_REQUEST - 1)) i := by
      rw [List.take_append, List.take_of_length_le hfits] at hfound ⊢
      cases hpending with
      | unseen h =>
        have hheader : buffer.length < i + 4 := by
          by_contra hle
          have hin := strstr_cString_take hfound (not_lt.mp hle)
          rw [List.take_append_of_le_length le_rfl, List.take_length, h] at hin
          cases hin
        exact hheader.trans_le (Nat.le_add_right _ _)
      | waiting h hlt =>
        obtain rfl := Option.some.inj ((strstr_cString_append h _).symm.trans hfound)
        rwa [wantedLength_append (headerEnd_le h)]
    congr 1
    rw [arrivedWith, if_neg (by simp [hsegment]; omega), ← take_append_take_append]
    rcases Nat.le_total segment.length (MAX_REQUEST - 1 - buffer.length) with hshort | hlong
    · rw [List.take_of_length_le hshort, List.length_append, Nat.sub_sub]
    · have hfull : (buffer ++ segment.take (MAX_REQUEST - 1 - buffer.length)).length =
          MAX_REQUEST - 1 := by
        rw [List.length_append, List.length_take]
        omega
      rw [List.take_append_of_le_length hfull.ge, List.take_append_of_le_length hfull.ge]

/-- The loop ends there. -/
theorem readLoop_eq (segments : List Bytes) {headerLength : ℕ} {contentLength : ℤ}
    (hpending : Pending buffer headerLength contentLength)
    (hfits : buffer.length ≤ MAX_REQUEST - 1) :
    readLoop segments buffer headerLength contentLength = readEnd buffer segments := by
  induction segments generalizing buffer headerLength contentLength with
  | nil =>
    rw [readLoop, readEnd_of_stop hpending]
    · rw [arrived, List.takeWhile_nil, List.flatten_nil, List.append_nil, List.take_of_length_le hfits]
    · intro n
      rw [arrivedWith, List.append_nil, List.take_of_length_le hfits]
  | cons segment segments ih =>
    rw [readLoop]
    by_cases hend : MAX_REQUEST - 1 ≤ buffer.length ∨ segment = []
    · have hsame : ∀ more : Bytes, (segment = [] → more = []) →
          (buffer ++ more).take (MAX_REQUEST - 1) = buffer := by
        intro more hmore
        rcases hend with hfull | hsegment
        · rw [List.take_append_of_le_length hfull, List.take_of_length_le hfits]
        · rw [hmore hsegment, List.append_nil, List.take_of_length_le hfits]
      rw [if_pos hend, readEnd_of_stop hpending]
      · exact hsame _ fun hsegment => by rw [arrived_cons, if_pos hsegment]
      · exact fun n => hsame _ fun hsegment => by rw [arrivedWith, if_pos (Or.inr hsegment)]
    · rw [if_neg hend]
      rw [not_or, not_le] at hend
      have hfits' : (buffer ++ segment.take (MAX_REQUEST - 1 - buffer.length)).length ≤
          MAX_REQUEST - 1 := by
        rw [List.length_append, List.length_take]
        omega
      rw [readEnd_of_read hpending hfits hend.2]
      simp only
      split
      · next hnone => exact ih (hpending.of_none hnone) hfits'
      · next i hfound =>
        have hscan := hpending.scan_eq hfound
        have hlength := headerEnd_le hfound
        rw [hscan]
        split
        · next hdone =>
          rw [readEnd_of_wanted hfits' hfound]
          rw [wantedLength]
          omega
        · next hmore =>
          refine ih (Pending.waiting hfound ?_) hfits'
          rw [wantedLength]
          omega

end AxisMetrics
