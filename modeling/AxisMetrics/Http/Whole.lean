import AxisMetrics.Http.Handler

/-!
# Whole requests

The client means the method and the path of its request line, and a body of the length that the
`Content-Length` field declares. `on_http_request` hands a request on once there is a header,
whatever is there of the body, and cuts what does not fit. `handledWhole_iff` says for which
streams this is what the client sent.
-/

namespace AxisMetrics

open Lib (Bytes ascii cString strstr strdown isSpace isDigit digitsValue words scanWord afterWord)

variable {V D T : Type} [SampleArith V D] [RenderArith V T] [AlertArith V T]

/-- The first line of a header, behind empty ones. -/
def requestLine (header : Bytes) : Bytes := (header.dropWhile isSpace).takeWhile (· ≠ 10)

/-- The lines that follow it. -/
def fieldLines (header : Bytes) : List Bytes := ((header.dropWhile isSpace).splitOn 10).tail

/-- A `Content-Length` field. -/
def isContentLength (line : Bytes) : Bool :=
  58 ∈ line && strdown (line.takeWhile (· ≠ 58)) == ascii "content-length"

/-- The number in a field. -/
def fieldNumber (line : Bytes) : Option ℕ :=
  match words (line.dropWhile (· ≠ 58)).tail with
  | [value] => if value.all isDigit then some (digitsValue value) else none
  | _ => none

/-- The declared length of the body; `none` where the fields give no number, or several. -/
def declaredLength (header : Bytes) : Option ℕ :=
  match (fieldLines header).filter isContentLength with
  | [] => some 0
  | line :: lines =>
    if lines.all fun other => fieldNumber other = fieldNumber line then fieldNumber line else none

/-- The client has sent all of the request, and the request is what it sent. -/
def WholeRequest (sent : Bytes) (request : Request) : Prop :=
  ∃ i, strstr headerEnd sent = some i ∧
    (∃ others, words (requestLine (sent.take i)) = request.method :: request.path :: others) ∧
    declaredLength (sent.take i) = some request.body.length ∧ request.body <+: sent.drop (i + 4)

/-- `handle_request` is called with a whole request, or not at all: then the client gets an error
and the app stays as it is. -/
def HandledWhole (env : RequestEnv) (app : App V D T) (readOnly : Bool) (segments : List Bytes) :
    Prop :=
  match readRequest segments with
  | none => onHttpRequest env app segments readOnly = some (app.respond badRequest)
  | some request => onHttpRequest env app segments readOnly =
      handleRequest env app request readOnly ∧ WholeRequest (arrived segments) request

/-- What is there when reading stops: the body is as long as the code wants it, the stream ends or
the buffer is full. -/
def received (segments : List Bytes) (i : ℕ) : Bytes :=
  (arrivedWith (wantedLength (arrived segments) i) segments).take (MAX_REQUEST - 1)

/-- The streams that are handled whole: where there is a header with two words in its request line,
these fit their buffers, and the body that has arrived when reading stops, up to a first zero, has
the declared length. -/
def ArrivesWhole (segments : List Bytes) : Prop :=
  ∀ i, strstr headerEnd (cString ((arrived segments).take (MAX_REQUEST - 1))) = some i →
    (scanRequestLine (cString (received segments i))).isSome →
      (∃ method path others,
        words (requestLine ((arrived segments).take i)) = method :: path :: others ∧
        method.length ≤ 7 ∧ path.length ≤ MAX_PATH_LENGTH - 1) ∧
      declaredLength ((arrived segments).take i) =
        some (cString ((received segments i).drop (i + 4))).length

variable {segments : List Bytes} {i : ℕ}

/-- The text in front of the end of a header is not looked at twice: what follows is white space. -/
theorem scanRequestLine_eq {header rest method path : Bytes} {others : List Bytes}
    (hwords : words (requestLine header) = method :: path :: others)
    (hrest : ∀ b ∈ rest.head?, isSpace b = true) (hmethod : method.length ≤ 7)
    (hpath : path.length ≤ MAX_PATH_LENGTH - 1) :
    scanRequestLine (header ++ rest) = some (method, path) := by
  have hsplit := List.takeWhile_append_dropWhile (p := (· ≠ 10)) (l := header.dropWhile isSpace)
  rw [← requestLine] at hsplit
  have hdrop : (header ++ rest).dropWhile isSpace =
      requestLine header ++ ((header.dropWhile isSpace).dropWhile (· ≠ 10) ++ rest) := by
    rw [← List.append_assoc, hsplit, List.dropWhile_append, if_neg]
    intro hempty
    rw [requestLine, List.isEmpty_iff.mp hempty] at hwords
    cases hwords
  have hspace : ∀ b ∈ ((header.dropWhile isSpace).dropWhile (· ≠ 10) ++ rest).head?,
      isSpace b = true := by
    intro b hb
    cases hline : (header.dropWhile isSpace).dropWhile (· ≠ 10) with
    | nil =>
      rw [hline] at hb
      exact hrest b hb
    | cons c tail =>
      have hhead := List.head?_dropWhile_not (· ≠ (10 : UInt8)) (header.dropWhile isSpace)
      rw [hline] at hb hhead
      obtain rfl := Option.some.inj hb
      have hc : c = 10 := by simpa using hhead
      rw [hc]
      rfl
  obtain ⟨hfirst, hothers⟩ := Lib.scanWord_line hwords hspace hmethod
  obtain ⟨hsecond, -⟩ := Lib.scanWord_line hothers hspace hpath
  rw [scanRequestLine, ← Lib.scanWord_dropWhile, hdrop, hfirst, Option.bind_some]
  simp only [hsecond, Option.map_some]

/-- The words are cut to their buffers. -/
theorem length_le_of_scanRequestLine {text method path : Bytes}
    (h : scanRequestLine text = some (method, path)) :
    method.length ≤ 7 ∧ path.length ≤ MAX_PATH_LENGTH - 1 := by
  obtain ⟨⟨method', rest⟩, hmethod, hrest⟩ := Option.bind_eq_some_iff.mp h
  obtain ⟨⟨path', rest'⟩, hpath, hsame⟩ := Option.map_eq_some_iff.mp hrest
  obtain ⟨rfl, rfl⟩ := Prod.mk.inj hsame
  exact ⟨Lib.length_le_of_scanWord hmethod, Lib.length_le_of_scanWord hpath⟩

theorem length_arrivedWith (n : ℕ) (segments : List Bytes) :
    min n (arrived segments).length ≤ (arrivedWith n segments).length := by
  induction segments generalizing n with
  | nil => simp [arrived]
  | cons segment segments ih =>
    rw [arrivedWith, arrived_cons]
    by_cases hempty : segment = []
    · simp [hempty]
    · rw [if_neg hempty]
      by_cases hn : n = 0
      · simp [hn]
      · rw [if_neg (by simp [hn, hempty]), List.length_append, List.length_append]
        have hrest := ih (n - segment.length)
        omega

theorem prefix_received (segments : List Bytes) (i : ℕ) : received segments i <+: arrived segments :=
  (List.take_prefix _ _).trans (prefix_arrivedWith _ _)

section Received

variable (h : strstr headerEnd (cString ((arrived segments).take (MAX_REQUEST - 1))) = some i)
include h

theorem strstr_arrived : strstr headerEnd (arrived segments) = some i := by
  obtain ⟨rest, hrest⟩ := (Lib.cString_prefix _).trans
    (List.take_prefix (MAX_REQUEST - 1) (arrived segments))
  rw [← hrest]
  exact Lib.strstr_append h rest

/-- All of the header is received. -/
theorem cString_received :
    ∃ more, cString (received segments i) = (arrived segments).take i ++ (headerEnd ++ more) := by
  have hi := headerEnd_le h
  rw [List.length_take] at hi
  have hlength : i + 4 ≤ (received segments i).length := by
    have harrived := length_arrivedWith (wantedLength (arrived segments) i) segments
    have hwanted : i + 4 ≤ wantedLength (arrived segments) i := Nat.le_add_right _ _
    rw [received, List.length_take]
    omega
  have hcut : received segments i =
      ((arrived segments).take (MAX_REQUEST - 1)).take (received segments i).length :=
    List.prefix_iff_eq_take.mp
      (List.prefix_take_iff.mpr ⟨prefix_received segments i, List.length_take_le _ _⟩)
  have hfound : strstr headerEnd (cString (received segments i)) = some i := by
    rw [hcut]
    exact strstr_cString_take h hlength
  obtain ⟨more, hmore⟩ := Lib.prefix_of_strstr hfound
  refine ⟨more, ?_⟩
  have hhead : (cString (received segments i)).take i = (arrived segments).take i := by
    have hbegins := (Lib.cString_prefix _).trans (prefix_received segments i)
    rw [List.prefix_iff_eq_take.mp hbegins, List.take_take, Nat.min_eq_left]
    have := Lib.length_le_of_strstr hfound
    omega
  rw [← hhead, hmore, List.take_append_drop]

/-- Where there is a header, the request is read from what is received. -/
theorem readRequest_eq : readRequest segments =
    (scanRequestLine (cString (received segments i))).map fun (method, path) =>
      ⟨method, path, cString ((received segments i).drop (i + 4))⟩ := by
  have hwanted : wantedLength ((arrived segments).take (MAX_REQUEST - 1)) i =
      wantedLength (arrived segments) i := by
    conv_rhs => rw [← List.take_append_drop (MAX_REQUEST - 1) (arrived segments)]
    exact (wantedLength_append (headerEnd_le h) _).symm
  have hloop : readLoop segments [] 0 0 = (received segments i, i + 4) := by
    rw [readLoop_eq segments (Pending.unseen rfl) (Nat.zero_le _)]
    simp only [readEnd, List.nil_append, h, hwanted, List.length_nil, Nat.sub_zero, received]
  simp only [readRequest, hloop]
  rw [if_neg (by omega)]

end Received

theorem readRequest_of_none
    (h : strstr headerEnd (cString ((arrived segments).take (MAX_REQUEST - 1))) = none) :
    readRequest segments = none := by
  have hloop : readLoop segments [] 0 0 = readEnd [] segments :=
    readLoop_eq segments (Pending.unseen rfl) (Nat.zero_le _)
  simp only [readEnd, List.nil_append, h] at hloop
  simp only [readRequest, hloop, if_true]

/-- A stream is handled whole in exactly these cases. -/
theorem handledWhole_iff (env : RequestEnv) (app : App V D T) (readOnly : Bool)
    (segments : List Bytes) :
    HandledWhole env app readOnly segments ↔ ArrivesWhole segments := by
  unfold HandledWhole ArrivesWhole
  cases hfound : strstr headerEnd (cString ((arrived segments).take (MAX_REQUEST - 1))) with
  | none =>
    have hnone := readRequest_of_none hfound
    simp [hnone, onHttpRequest]
  | some i =>
    have hrequest := readRequest_eq hfound
    cases hscan : scanRequestLine (cString (received segments i)) with
    | none =>
      rw [hscan] at hrequest
      simp [hrequest, onHttpRequest, hscan]
    | some scanned =>
      obtain ⟨method, path⟩ := scanned
      rw [hscan, Option.map_some] at hrequest
      have hcalled : onHttpRequest env app segments readOnly = handleRequest env app
          ⟨method, path, cString ((received segments i).drop (i + 4))⟩ readOnly := by
        rw [onHttpRequest, hrequest]
      have hsent := strstr_arrived hfound
      simp only [hrequest]
      constructor
      · rintro ⟨-, j, hj, ⟨others, hwords⟩, hlength, -⟩ i' hi' -
        obtain rfl := Option.some.inj hi'
        obtain rfl := Option.some.inj (hj.symm.trans hsent)
        obtain ⟨hmethod, hpath⟩ := length_le_of_scanRequestLine hscan
        exact ⟨⟨method, path, others, hwords, hmethod, hpath⟩, hlength⟩
      · intro harrives
        obtain ⟨⟨method', path', others, hwords, hmethod, hpath⟩, hlength⟩ :=
          harrives i rfl (by rw [hscan]; rfl)
        obtain ⟨more, htext⟩ := cString_received hfound
        -- the two words that are scanned are those of the request line
        have hspace : ∀ b ∈ (headerEnd ++ more).head?, isSpace b = true := by
          intro b hb
          obtain rfl : (13 : UInt8) = b := Option.some.inj hb
          rfl
        have hline : scanRequestLine ((arrived segments).take i ++ (headerEnd ++ more)) =
            some (method', path') := scanRequestLine_eq hwords hspace hmethod hpath
        rw [← htext, hscan] at hline
        obtain ⟨rfl, rfl⟩ := Prod.mk.inj (Option.some.inj hline)
        refine ⟨hcalled, i, hsent, ⟨others, hwords⟩, hlength, ?_⟩
        exact (Lib.cString_prefix _).trans ((prefix_received segments i).drop _)

/-- The connection ends in the middle of the body. -/
def cutBody : List Bytes :=
  [ascii "POST /settings HTTP/1.1\r\nContent-Length: 20\r\n\r\nMqttHost=a"]

theorem not_handledWhole_cutBody :
    ¬ HandledWhole quietEnv (blankApp fun _ => none) false cutBody := by
  intro hwhole
  have hread : readRequest cutBody =
      some ⟨ascii "POST", ascii "/settings", ascii "MqttHost=a"⟩ := by
    decide
  have hheader : strstr headerEnd (arrived cutBody) = some 43 ∧
      declaredLength ((arrived cutBody).take 43) = some 20 := by
    decide
  simp only [HandledWhole, hread] at hwhole
  obtain ⟨-, i, hi, -, hlength, -⟩ := hwhole
  obtain rfl := Option.some.inj (hi.symm.trans hheader.1)
  rw [hheader.2] at hlength
  exact absurd (Option.some.inj hlength) (by decide)

end AxisMetrics
