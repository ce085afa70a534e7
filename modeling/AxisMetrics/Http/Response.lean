import AxisMetrics.Http.Viewer
import AxisMetrics.Lib.HttpResponse

/-!
# What is sent back

Whatever bytes come in on a connection and whatever state the app is in, what goes out is one whole HTTP
response, with a body of the length that it declares, or the head of an event stream. On the port for
viewers there always is one (`answered_connection`).
-/

namespace AxisMetrics

open Lib (Bytes ascii decimal HttpResponse readResponse responseText IsField contentLength)

/-- The response that `send_response` writes. -/
def sentResponse (status contentType body : Bytes) : HttpResponse where
  status := status
  fields := [(ascii "Content-Type", contentType), (ascii "Content-Length", decimal body.length),
    (ascii "Cache-Control", ascii "no-store"), (ascii "X-Content-Type-Options", ascii "nosniff"),
    (ascii "Connection", ascii "close")]
  body := body

/-- The response that `sse_add` writes; the frames are its body. -/
def streamResponse : HttpResponse where
  status := ascii "200 OK"
  fields := [(ascii "Content-Type", ascii "text/event-stream"),
    (ascii "Cache-Control", ascii "no-store"), (ascii "X-Content-Type-Options", ascii "nosniff"),
    (ascii "Connection", ascii "keep-alive")]
  body := []

/-- A document that says why there is no other. -/
def errorJson (reason : Bytes) : Bytes := ascii "\x7b\"error\":\"" ++ reason ++ ascii "\"\x7d"

/-- The answers that there are. -/
inductive IsAnswer : Bool → HttpResponse → Prop
  | stream : IsAnswer true streamResponse
  | ok (contentType body : Bytes)
      (htype : contentType ∈ [ascii "application/json",
        ascii "text/plain; version=0.0.4; charset=utf-8"]) :
      IsAnswer false (sentResponse (ascii "200 OK") contentType body)
  | error (status reason : Bytes)
      (hreason : (status, reason) ∈ [(ascii "400 Bad Request", ascii "bad request"),
        (ascii "403 Forbidden", ascii "forbidden"), (ascii "404 Not Found", ascii "not found")]) :
      IsAnswer false (sentResponse status (ascii "application/json") (errorJson reason))

theorem sendResponse_eq (status contentType body : Bytes) :
    sendResponse status contentType body = responseText (sentResponse status contentType body) := by
  simp [sendResponse, responseText, sentResponse, Lib.fieldLine, ascii]

theorem streamHeaders_eq : streamHeaders = responseText streamResponse := by decide

theorem isField_decimal (n : ℕ) : IsField (ascii "Content-Length", decimal n) where
  name := by
    change 13 ∉ ascii "Content-Length" ∧ 58 ∉ ascii "Content-Length"
    decide
  value := by
    have hdigit : ∀ b ∈ decimal n, Lib.isDigit b = true := fun b => Lib.isDigit_of_mem_decimal
    have hspace : ∀ b, Lib.isDigit b = true → Lib.isSpace b = false := by
      have hall : ∀ n < 256, Lib.isDigit (UInt8.ofNat n) = true →
          Lib.isSpace (UInt8.ofNat n) = false := by decide +kernel
      intro b hb
      have hbyte := hall b.toNat b.toNat_lt
      rw [UInt8.ofNat_toNat] at hbyte
      exact hbyte hb
    exact ⟨fun h => absurd (hdigit 13 h) (by decide),
      fun b hb => hspace b (hdigit b (List.mem_of_mem_head? hb))⟩

/-- What `send_response` writes is read as a whole, whatever the body is. -/
theorem readResponse_sendResponse {status contentType : Bytes} (hstatus : 13 ∉ status)
    (htype : IsField (ascii "Content-Type", contentType)) (body : Bytes) :
    readResponse (sendResponse status contentType body) =
      some (sentResponse status contentType body) := by
  rw [sendResponse_eq]
  refine Lib.readResponse_responseText hstatus ?_ fun n hn => ?_
  · simp only [sentResponse, List.forall_mem_cons, List.not_mem_nil, false_implies, implies_true,
      and_true]
    exact ⟨htype, isField_decimal _, ⟨by decide +kernel, by decide +kernel⟩,
      ⟨by decide, by decide +kernel⟩, by decide, by decide +kernel⟩
  · have hlength : contentLength (sentResponse status contentType body).fields =
        some (Lib.digitsValue (decimal body.length)) := rfl
    rw [hlength, Lib.digitsValue_decimal] at hn
    exact (Option.some.inj hn).symm

theorem isField_json : IsField (ascii "Content-Type", ascii "application/json") :=
  ⟨by decide, by decide +kernel⟩

theorem IsAnswer.ok_json (body : Bytes) :
    readResponse (sendJson body) =
      some (sentResponse (ascii "200 OK") (ascii "application/json") body)
      ∧ IsAnswer false (sentResponse (ascii "200 OK") (ascii "application/json") body) :=
  ⟨readResponse_sendResponse (by decide) isField_json body, .ok _ body List.mem_cons_self⟩

variable {V D T : Type}

/-- What comes of a request is a whole answer. -/
def Answered (result : Option (Handled V D T)) : Prop :=
  ∀ handled ∈ result, ∃ response, readResponse handled.response = some response ∧
    IsAnswer handled.keepOpen response

theorem answered_ite {c : Prop} [Decidable c] {f g : Option (Handled V D T)} (hf : Answered f)
    (hg : Answered g) : Answered (if c then f else g) := by
  split
  · exact hf
  · exact hg

theorem answered_json (app : App V D T) (json : Bytes) :
    Answered (some (app.respond (sendJson json))) := by
  rintro _ ⟨⟩
  exact ⟨_, IsAnswer.ok_json json⟩

/-- The three errors. -/
theorem answered_error (app : App V D T) {response status reason : Bytes}
    (hresponse : response = sendResponse status (ascii "application/json") (errorJson reason))
    (hreason : (status, reason) ∈ [(ascii "400 Bad Request", ascii "bad request"),
      (ascii "403 Forbidden", ascii "forbidden"), (ascii "404 Not Found", ascii "not found")]) :
    Answered (some (app.respond response)) := by
  rintro _ ⟨⟩
  have hstatus : 13 ∉ status := by
    simp only [List.mem_cons, List.not_mem_nil, or_false, Prod.mk.injEq] at hreason
    obtain ⟨rfl, -⟩ | ⟨rfl, -⟩ | ⟨rfl, -⟩ := hreason <;> decide
  refine ⟨_, ?_, .error status reason hreason⟩
  rw [App.respond, hresponse, readResponse_sendResponse hstatus isField_json]

theorem forbidden_eq : forbidden = sendResponse (ascii "403 Forbidden") (ascii "application/json")
    (errorJson (ascii "forbidden")) := by
  rw [forbidden, errorJson]
  rfl

theorem notFound_eq : notFound = sendResponse (ascii "404 Not Found") (ascii "application/json")
    (errorJson (ascii "not found")) := by
  rw [notFound, errorJson]
  rfl

theorem badRequest_eq : badRequest = sendResponse (ascii "400 Bad Request")
    (ascii "application/json") (errorJson (ascii "bad request")) := by
  rw [badRequest, errorJson]
  rfl

section Handle

variable [SampleArith V D] [RenderArith V T] [AlertArith V T]

/-- The routes. -/
theorem answered_handleRequest (env : RequestEnv) (app : App V D T) (request : Request)
    (readOnly : Bool) : Answered (handleRequest env app request readOnly) := by
  have hpostSettings : Answered (some (app.postSettings env request.body)) := by
    rintro _ ⟨⟩
    simp only [App.postSettings]
    split
    · exact ⟨_, IsAnswer.ok_json _⟩
    · exact ⟨_, IsAnswer.ok_json _⟩
  have hprometheus : Answered (some (app.respond (sendResponse (ascii "200 OK")
      (ascii "text/plain; version=0.0.4; charset=utf-8") (apiPrometheusText app.api)))) := by
    rintro _ ⟨⟩
    exact ⟨_, readResponse_sendResponse (by decide) ⟨by decide, by decide +kernel⟩ _,
      .ok _ _ (List.mem_cons_of_mem _ List.mem_cons_self)⟩
  have hpostRules : Answered (app.postRules env request.body) := by
    intro handled hhandled
    obtain ⟨result, -, rfl⟩ := Option.map_eq_some_iff.mp hhandled
    exact ⟨_, IsAnswer.ok_json _⟩
  have hpostMetrics : Answered (some (app.postMetrics request.body)) := by
    rintro _ ⟨⟩
    simp only [App.postMetrics]
    split
    · exact ⟨_, IsAnswer.ok_json _⟩
    · exact ⟨_, IsAnswer.ok_json _⟩
  have hstream : Answered (some (⟨{ app with sseClients := sseAdd app.sseClients env.written },
      streamHeaders, true, []⟩ : Handled V D T)) := by
    rintro _ ⟨⟩
    refine ⟨streamResponse, ?_, .stream⟩
    rw [streamHeaders_eq]
    refine Lib.readResponse_responseText (by decide) ?_ ?_
    · simp only [streamResponse, List.forall_mem_cons, List.not_mem_nil, false_implies,
        implies_true, and_true]
      exact ⟨⟨by decide, by decide +kernel⟩, ⟨by decide +kernel, by decide +kernel⟩,
        ⟨by decide +kernel, by decide +kernel⟩, by decide +kernel, by decide +kernel⟩
    · decide +kernel
  unfold handleRequest
  dsimp only
  refine answered_ite (answered_error app forbidden_eq (by decide)) ?_
  refine answered_ite (answered_json app _) (answered_ite hpostSettings ?_)
  refine answered_ite (answered_json app _) (answered_ite (answered_json app _) ?_)
  refine answered_ite (answered_json app _) (answered_ite (answered_json app _) ?_)
  refine answered_ite hprometheus (answered_ite (answered_json app _) ?_)
  refine answered_ite (answered_json app _) (answered_ite hpostRules ?_)
  refine answered_ite hpostMetrics (answered_ite hstream ?_)
  exact answered_error app notFound_eq (by decide)

/-- Whatever comes in on a connection, what goes out is one whole answer, and a viewer always gets
one. -/
theorem answered_connection (env : RequestEnv) (app : App V D T) (segments : List Bytes)
    (readOnly : Bool) :
    (readOnly = true → (onHttpRequest env app segments readOnly).isSome = true) ∧
      Answered (onHttpRequest env app segments readOnly) := by
  constructor
  · rintro rfl
    obtain ⟨handled, clients, hhandled, -⟩ := (onHttpRequest_cases env segments true).hide app
    exact Option.isSome_iff_exists.mpr ⟨handled, hhandled⟩
  · unfold onHttpRequest
    cases readRequest segments with
    | none => exact answered_error app badRequest_eq (by decide)
    | some request => exact answered_handleRequest env app request readOnly

end Handle

end AxisMetrics
