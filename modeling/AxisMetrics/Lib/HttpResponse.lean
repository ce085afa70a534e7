import AxisMetrics.Lib.Decimal
import AxisMetrics.Lib.Lowered

/-!
# HTTP responses

A reader of responses on a connection that is closed after each: the status, the header fields up to an
empty line, and a body, which is as long as `Content-Length` says where there is one. What is written as
a status line, fields and a body of the length they declare is read as that.
-/

namespace Lib

structure HttpResponse where
  /-- The code and the reason. -/
  status : Bytes
  fields : List (Bytes × Bytes)
  body : Bytes

/-- A line up to its carriage return and line feed, and what follows. -/
def crlfLine (text : Bytes) : Option (Bytes × Bytes) :=
  match text.dropWhile (· ≠ 13) with
  | 13 :: 10 :: rest => some (text.takeWhile (· ≠ 13), rest)
  | _ => none

/-- The name and value of a field; white space in front of the value does not count. -/
def headerField (line : Bytes) : Bytes × Bytes :=
  (line.takeWhile (· ≠ 58), (line.dropWhile (· ≠ 58)).tail.dropWhile isSpace)

/-- The fields up to the empty line, and what follows; `fuel` bounds their number. -/
def headerFields : ℕ → Bytes → Option (List (Bytes × Bytes) × Bytes)
  | 0, _ => none
  | fuel + 1, text => do
    let (line, rest) ← crlfLine text
    if line = [] then some ([], rest)
    else
      let (fields, body) ← headerFields fuel rest
      some (headerField line :: fields, body)

/-- The length that the fields declare. Names of fields have no case. -/
def contentLength (fields : List (Bytes × Bytes)) : Option ℕ :=
  (fields.find? fun field => strdown field.1 = ascii "content-length").map fun field =>
    digitsValue field.2

/-- A whole response, and nothing behind it. -/
def readResponse (text : Bytes) : Option HttpResponse := do
  let (line, rest) ← crlfLine text
  let (fields, body) ← headerFields rest.length rest
  if ascii "HTTP/1.1 " <+: line ∧ ∀ n ∈ contentLength fields, n = body.length then
    some ⟨line.drop 9, fields, body⟩
  else none

/-- A field as it is written. -/
def fieldLine (field : Bytes × Bytes) : Bytes := field.1 ++ ascii ": " ++ field.2 ++ ascii "\r\n"

def responseText (response : HttpResponse) : Bytes :=
  ascii "HTTP/1.1 " ++ response.status ++ ascii "\r\n" ++ response.fields.flatMap fieldLine ++
    ascii "\r\n" ++ response.body

/-- A field that can be written. -/
structure IsField (field : Bytes × Bytes) : Prop where
  name : 13 ∉ field.1 ∧ 58 ∉ field.1
  value : 13 ∉ field.2 ∧ ∀ b ∈ field.2.head?, isSpace b = false

theorem crlfLine_append {line : Bytes} (h : 13 ∉ line) (rest : Bytes) :
    crlfLine (line ++ ascii "\r\n" ++ rest) = some (line, rest) := by
  have hends : ascii "\r\n" = [13, 10] := rfl
  have hline : ∀ b ∈ line, decide (b ≠ 13) = true := fun b hb =>
    decide_eq_true fun hb' => h (hb' ▸ hb)
  rw [crlfLine, List.append_assoc, hends, List.cons_append, List.singleton_append,
    List.dropWhile_append_of_pos hline, List.takeWhile_append_of_pos hline,
    List.dropWhile_cons_of_neg (by decide), List.takeWhile_cons_of_neg (by decide), List.append_nil]
  rfl

section Fields

variable {field : Bytes × Bytes} {fields : List (Bytes × Bytes)}

theorem headerField_eq (h : IsField field) :
    headerField (field.1 ++ ascii ": " ++ field.2) = field := by
  have hcolon : ascii ": " = [58, 32] := rfl
  have hname : ∀ b ∈ field.1, decide (b ≠ 58) = true := fun b hb =>
    decide_eq_true fun hb' => h.name.2 (hb' ▸ hb)
  have hvalue : field.2.dropWhile isSpace = field.2 := by
    cases hsplit : field.2 with
    | nil => rfl
    | cons b rest =>
      have hb := h.value.2 b (by rw [hsplit]; rfl)
      rw [List.dropWhile_cons_of_neg (by rw [hb]; exact Bool.false_ne_true)]
  rw [headerField, List.append_assoc, hcolon, List.cons_append, List.singleton_append,
    List.dropWhile_append_of_pos hname, List.takeWhile_append_of_pos hname,
    List.dropWhile_cons_of_neg (by decide), List.takeWhile_cons_of_neg (by decide), List.append_nil,
    List.tail_cons, List.dropWhile_cons_of_pos (by decide), hvalue]

/-- Written fields are read back. -/
theorem headerFields_eq (h : ∀ field ∈ fields, IsField field) (body : Bytes) {fuel : ℕ}
    (hfuel : fields.length < fuel) :
    headerFields fuel (fields.flatMap fieldLine ++ ascii "\r\n" ++ body) = some (fields, body) := by
  induction fields generalizing fuel with
  | nil =>
    obtain ⟨fuel, rfl⟩ := Nat.exists_eq_add_of_lt hfuel
    rw [List.flatMap_nil, headerFields, crlfLine_append (List.not_mem_nil : 13 ∉ ([] : Bytes)) body]
    rfl
  | cons field fields ih =>
    obtain ⟨hfield, hfields⟩ := List.forall_mem_cons.mp h
    cases fuel with
    | zero => cases hfuel
    | succ fuel =>
      have hline : 13 ∉ field.1 ++ ascii ": " ++ field.2 := by
        rw [List.mem_append, List.mem_append, not_or, not_or]
        exact ⟨⟨hfield.name.1, by decide⟩, hfield.value.1⟩
      have hne : field.1 ++ ascii ": " ++ field.2 ≠ [] := by simp [ascii]
      have htext : (field :: fields).flatMap fieldLine ++ ascii "\r\n" ++ body =
          field.1 ++ ascii ": " ++ field.2 ++ ascii "\r\n" ++
            (fields.flatMap fieldLine ++ ascii "\r\n" ++ body) := by
        rw [List.flatMap_cons, fieldLine]
        simp only [List.append_assoc]
      rw [htext, headerFields, crlfLine_append hline, Option.bind_eq_bind, Option.bind_some]
      dsimp only
      rw [if_neg hne, ih hfields (Nat.lt_of_succ_lt_succ hfuel), headerField_eq hfield]
      rfl

end Fields

/-- What is written is read back, if the body is as long as it is said to be. -/
theorem readResponse_responseText {response : HttpResponse} (hstatus : 13 ∉ response.status)
    (hfields : ∀ field ∈ response.fields, IsField field)
    (hlength : ∀ n ∈ contentLength response.fields, n = response.body.length) :
    readResponse (responseText response) = some response := by
  have hline : 13 ∉ ascii "HTTP/1.1 " ++ response.status := by
    rw [List.mem_append, not_or]
    exact ⟨by decide, hstatus⟩
  have hfuel : response.fields.length <
      (response.fields.flatMap fieldLine ++ ascii "\r\n" ++ response.body).length := by
    have hlong : ∀ fields : List (Bytes × Bytes),
        fields.length ≤ (fields.flatMap fieldLine).length := by
      intro fields
      induction fields with
      | nil => exact Nat.le_refl 0
      | cons field fields ih =>
        have hfield : 0 < (fieldLine field).length := by simp [fieldLine, ascii]
        rw [List.flatMap_cons, List.length_append, List.length_cons]
        omega
    have hends : (ascii "\r\n").length = 2 := rfl
    have := hlong response.fields
    rw [List.length_append, List.length_append, hends]
    omega
  have htext : responseText response = ascii "HTTP/1.1 " ++ response.status ++ ascii "\r\n" ++
      (response.fields.flatMap fieldLine ++ ascii "\r\n" ++ response.body) := by
    simp only [responseText, List.append_assoc]
  rw [htext, readResponse, crlfLine_append hline, Option.bind_eq_bind, Option.bind_some]
  dsimp only
  rw [headerFields_eq hfields response.body hfuel, Option.bind_eq_bind, Option.bind_some]
  dsimp only
  rw [if_pos ⟨List.prefix_append _ _, hlength⟩, show 9 = (ascii "HTTP/1.1 ").length from rfl,
    List.drop_left]

end Lib
