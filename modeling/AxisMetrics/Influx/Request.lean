import AxisMetrics.Influx.Points
import AxisMetrics.Lib.RequestTarget
import Mathlib.Data.List.DropRight

/-!
# Write requests

What the worker asks curl for, and how a server reads it: the path and the parameters of the target,
the token of a header, and the points of the body. `readWrite_writeRequest` says that a server finds
what the settings say.
-/

namespace AxisMetrics

open Lib (Bytes ascii)

/-- What `write_payload` asks curl for. -/
structure WriteRequest where
  url : Bytes
  headers : List Bytes
  /-- `CURLOPT_USERNAME` and `CURLOPT_PASSWORD`. -/
  login : Option (Bytes × Bytes)
  body : Bytes

section Requests

variable (curlEscape : Bytes → Option Bytes)

/-- `build_url`. -/
def buildUrl (config : InfluxConfig) : Bytes :=
  let base := config.url.rdropWhile (· = 47)
  let database := (curlEscape config.database).getD []
  let org := (curlEscape config.org).getD []
  if config.version = .v2 then
    base ++ ascii "/api/v2/write?org=" ++ org ++ ascii "&bucket=" ++ database ++
      ascii "&precision=s"
  else base ++ ascii "/write?db=" ++ database ++ ascii "&precision=s"

/-- The request of `write_payload`. -/
def writeRequest (config : InfluxConfig) (payload : Bytes) : WriteRequest where
  url := buildUrl curlEscape config
  headers := ascii "Content-Type: text/plain; charset=utf-8" ::
    if config.version = .v2 ∧ config.token ≠ [] then [ascii "Authorization: Token " ++ config.token]
    else []
  login := if config.version = .v1 ∧ config.username ≠ [] then
      some (config.username, config.password)
    else none
  body := payload

end Requests

/-! ## A server -/

/-- Where a write goes, and as whom. -/
structure WriteTarget where
  path : Bytes
  parameters : List (Bytes × Bytes)
  token : Option Bytes
  login : Option (Bytes × Bytes)

/-- A write as a server has it. -/
structure InfluxWrite extends WriteTarget where
  points : List Lib.LineProtocolPoint

/-- The token of a header, if it has one. -/
def tokenHeader (header : Bytes) : Option Bytes :=
  if ascii "Authorization: Token " <+: header then
    some (header.drop (ascii "Authorization: Token ").length)
  else none

/-- Read a request as a server does. -/
def readWrite (request : WriteRequest) : Option InfluxWrite :=
  (Lib.readPoints request.body.length request.body).map fun points => {
    path := (Lib.readTarget request.url).1
    parameters := (Lib.readTarget request.url).2
    token := request.headers.findSome? tokenHeader
    login := request.login
    points := points }

/-- Where the settings say that a write goes. -/
def InfluxConfig.target (config : InfluxConfig) : WriteTarget :=
  let base := config.url.rdropWhile (· = 47)
  if config.version = .v2 then {
    path := base ++ ascii "/api/v2/write"
    parameters := [(ascii "org", config.org), (ascii "bucket", config.database),
      (ascii "precision", ascii "s")]
    token := if config.token ≠ [] then some config.token else none
    login := none }
  else {
    path := base ++ ascii "/write"
    parameters := [(ascii "db", config.database), (ascii "precision", ascii "s")]
    token := none
    login := if config.username ≠ [] then some (config.username, config.password) else none }

section Server

variable {curlEscape : Bytes → Option Bytes}
  (hescape : ∀ value, ∃ text, curlEscape value = some text ∧ Lib.Escaped value text)
include hescape

/-- The server finds the write of the settings. -/
theorem readTarget_buildUrl {config : InfluxConfig} (hurl : 63 ∉ config.url) :
    Lib.readTarget (buildUrl curlEscape config) = (config.target.path, config.target.parameters) := by
  obtain ⟨database, hdatabase, hdatabaseText⟩ := hescape config.database
  obtain ⟨org, horg, horgText⟩ := hescape config.org
  have hword : ∀ word ∈ [ascii "org", ascii "bucket", ascii "db", ascii "precision", ascii "s"],
      Lib.Escaped word word := by
    intro word hword
    refine Lib.escaped_self ?_
    revert word
    decide
  have hpath : ∀ path : Bytes, 63 ∉ path → 63 ∉ config.url.rdropWhile (· = 47) ++ path := by
    intro path hpath hmem
    obtain hbase | hrest := List.mem_append.mp hmem
    · exact hurl ((List.rdropWhile_prefix (fun b => decide (b = 47)) config.url).subset hbase)
    · exact hpath hrest
  have hprecision : Lib.EscapedParameter (ascii "precision", ascii "s")
      (ascii "precision", ascii "s") := ⟨hword _ (by decide), hword _ (by decide)⟩
  rw [buildUrl, hdatabase, horg, InfluxConfig.target]
  dsimp only [Option.getD_some]
  split
  · have hwritten : List.Forall₂ Lib.EscapedParameter
        [(ascii "org", config.org), (ascii "bucket", config.database), (ascii "precision", ascii "s")]
        [(ascii "org", org), (ascii "bucket", database), (ascii "precision", ascii "s")] :=
      .cons ⟨hword (ascii "org") (by decide), horgText⟩
        (.cons ⟨hword (ascii "bucket") (by decide), hdatabaseText⟩ (.cons hprecision .nil))
    rw [← Lib.readTarget_targetText (hpath (ascii "/api/v2/write") (by decide)) hwritten
      (List.cons_ne_nil _ _)]
    simp [Lib.targetText, Lib.parameterText, ascii]
  · have hwritten : List.Forall₂ Lib.EscapedParameter
        [(ascii "db", config.database), (ascii "precision", ascii "s")]
        [(ascii "db", database), (ascii "precision", ascii "s")] :=
      .cons ⟨hword (ascii "db") (by decide), hdatabaseText⟩ (.cons hprecision .nil)
    rw [← Lib.readTarget_targetText (hpath (ascii "/write") (by decide)) hwritten
      (List.cons_ne_nil _ _)]
    simp [Lib.targetText, Lib.parameterText, ascii]

/-- A token is sent to a second-generation server, a name and a password to a first-generation one. -/
theorem readWrite_writeRequest {config : InfluxConfig} (hurl : 63 ∉ config.url) {payload : Bytes}
    {points : List Lib.LineProtocolPoint}
    (hpoints : Lib.readPoints payload.length payload = some points) :
    readWrite (writeRequest curlEscape config payload) = some ⟨config.target, points⟩ := by
  have htarget := readTarget_buildUrl hescape hurl
  have htype : tokenHeader (ascii "Content-Type: text/plain; charset=utf-8") = none := by
    decide +kernel
  have htoken : ∀ token, tokenHeader (ascii "Authorization: Token " ++ token) = some token := by
    intro token
    rw [tokenHeader, if_pos (List.prefix_append _ _), List.drop_left]
  rw [readWrite, writeRequest]
  dsimp only
  rw [hpoints, Option.map_some, htarget, List.findSome?_cons, htype, InfluxConfig.target]
  cases config.version with
  | v1 => simp
  | v2 =>
    by_cases hnone : config.token = []
    · simp [hnone]
    · simp [hnone, htoken]

end Server

end AxisMetrics
