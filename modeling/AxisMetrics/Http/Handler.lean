import AxisMetrics.Alerts.Document
import AxisMetrics.Api.Prometheus
import AxisMetrics.Http.Request
import AxisMetrics.Http.Stream
import AxisMetrics.Procs
import AxisMetrics.Settings.Apply

/-!
# Handling a request

`handle_request` and its routes, over the state of the whole app. What a request needs from outside
(clocks, the parameter store, the event handler, sockets) comes with it.
-/

namespace AxisMetrics

open Lib (Bytes ascii strstr strtoull guint decimal)

/-- The globals of `main.c`. -/
structure App (V D T : Type) where
  parameters : ParameterValues
  sampler : Sampler
  api : Api V D
  alerts : Alerts T
  procs : Procs T
  mqtt : MqttClient
  influx : Influx
  sseClients : List SseClient

/-- What the functions called for a request find outside of the app. -/
structure RequestEnv where
  /-- The wall clock. -/
  now : ℤ
  axParameterSet : Bytes → Bytes → Bool
  /-- The declaration of an alert, as the event handler gives it. -/
  declare : Bytes → Bytes → ℕ
  /-- Whether the library can create an MQTT client. -/
  created : Bool
  /-- Whether the headers of an event stream can be written. -/
  written : Bool

/-- What comes of a request: the bytes sent, whether the connection stays open, the app and what it
publishes. -/
structure Handled (V D T : Type) where
  app : App V D T
  response : Bytes
  keepOpen : Bool
  messages : List MqttMessage

variable {V D T : Type}

/-- `send_response`. -/
def sendResponse (status contentType body : Bytes) : Bytes :=
  ascii "HTTP/1.1 " ++ status ++ ascii "\r\nContent-Type: " ++ contentType ++
  ascii "\r\nContent-Length: " ++ decimal body.length ++
  ascii "\r\nCache-Control: no-store\r\nX-Content-Type-Options: nosniff\r\nConnection: close\r\n\r\n" ++
  body

/-- `route_is`: the proxy may or may not strip the path, so routes are matched on the trailing
segment. -/
def routeIs (path name : Bytes) : Bool :=
  match strstr name path with
  | none => false
  | some i =>
    match path.drop (i + name.length) with
    | [] => true
    | next :: _ => next == 63 || next == 47

/-- `send_json`. -/
def sendJson (json : Bytes) : Bytes := sendResponse (ascii "200 OK") (ascii "application/json") json

/-- The response `{"status":"ok"}`. -/
def statusOk : Bytes := sendJson (ascii "\x7b\"status\":\"ok\"\x7d")

def forbidden : Bytes :=
  sendResponse (ascii "403 Forbidden") (ascii "application/json") (ascii "\x7b\"error\":\"forbidden\"\x7d")

def notFound : Bytes :=
  sendResponse (ascii "404 Not Found") (ascii "application/json") (ascii "\x7b\"error\":\"not found\"\x7d")

def badRequest : Bytes :=
  sendResponse (ascii "400 Bad Request") (ascii "application/json")
    (ascii "\x7b\"error\":\"bad request\"\x7d")

/-- The response headers of `sse_add`. -/
def streamHeaders : Bytes :=
  ascii "HTTP/1.1 200 OK\r\nContent-Type: text/event-stream\r\nCache-Control: no-store\r\n" ++
  ascii "X-Content-Type-Options: nosniff\r\nConnection: keep-alive\r\n\r\n"

/-- A response that leaves the app alone. -/
def App.respond (app : App V D T) (response : Bytes) : Handled V D T := ⟨app, response, false, []⟩

/-- `POST settings`. -/
def App.postSettings (app : App V D T) (env : RequestEnv) (body : Bytes) : Handled V D T :=
  let (parameters, changed) := applySettingsBody env.axParameterSet app.parameters body
  if changed then
    let (mqtt, messages) := applyMqttSettings app.mqtt app.api parameters env.created
    ⟨{ app with
        parameters := parameters
        sampler := restartSampler app.sampler parameters
        mqtt := mqtt
        influx := applyInfluxSettings app.influx parameters }, statusOk, false, messages⟩
  else ⟨{ app with parameters := parameters }, statusOk, false, []⟩

/-- `POST metrics`. -/
def App.postMetrics (app : App V D T) (body : Bytes) : Handled V D T :=
  match apiQueryParam body (ascii "scope"), apiQueryParam body (ascii "disabled") with
  | some scope, some disabled =>
    let scope := if scope = ascii "transmit" then SelectScope.transmit else .display
    ({ app with api := { app.api with
        selection := selectionSetDisabled app.api.selection scope disabled } }).respond statusOk
  | _, _ => app.respond statusOk

/-- The number of processes a request asks for. -/
def processLimit (path : Bytes) : ℕ :=
  clamp (((apiQueryParam path (ascii "limit")).map fun limit => guint (strtoull limit)).getD 12) 1 100

section Handle

variable [SampleArith V D] [RenderArith V T] [AlertArith V T]

/-- `POST rules`. -/
def App.postRules (app : App V D T) (env : RequestEnv) (body : Bytes) : Option (Handled V D T) :=
  (alertsApply V env.declare app.alerts body).map fun (alerts, _) =>
    ({ app with alerts := alerts }).respond (sendJson (alertsJson V alerts))

/-- `handle_request`; `none` for a crash. -/
def handleRequest (env : RequestEnv) (app : App V D T) (request : Request) (readOnly : Bool) :
    Option (Handled V D T) :=
  let isGet := request.method == ascii "GET"
  let isPost := request.method == ascii "POST"
  let route := fun name => routeIs request.path (ascii name)
  if readOnly && (!isGet || route "settings") then some (app.respond forbidden)
  else if isGet && route "settings" then
    some (app.respond (sendJson (settingsJson app.parameters)))
  else if isPost && route "settings" then some (app.postSettings env request.body)
  else if isGet && route "meta" then some (app.respond (sendJson (apiMetaJson app.api)))
  else if isGet && route "current" then some (app.respond (sendJson (apiCurrentJson app.api)))
  else if isGet && route "series" then
    some (app.respond (sendJson (seriesText (apiSeriesJson app.api.store env.now request.path))))
  else if isGet && route "health" then
    some (app.respond (sendJson (apiHealthJson app.api env.now)))
  else if isGet && route "prometheus" then
    some (app.respond (sendResponse (ascii "200 OK")
      (ascii "text/plain; version=0.0.4; charset=utf-8") (apiPrometheusText app.api)))
  else if isGet && route "processes" then
    some (app.respond (sendJson (procsJson V app.procs (processLimit request.path))))
  else if isGet && route "alerts" then some (app.respond (sendJson (alertsJson V app.alerts)))
  else if isPost && route "rules" then app.postRules env request.body
  else if isPost && route "metrics" then some (app.postMetrics request.body)
  else if isGet && route "stream" then
    some ⟨{ app with sseClients := sseAdd app.sseClients env.written }, streamHeaders, true, []⟩
  else some (app.respond notFound)

/-- `on_http_request`, for a stream of reads. -/
def onHttpRequest (env : RequestEnv) (app : App V D T) (segments : List Bytes) (readOnly : Bool) :
    Option (Handled V D T) :=
  match readRequest segments with
  | none => some (app.respond badRequest)
  | some request => handleRequest env app request readOnly

end Handle

/-- An app without metrics, rules and processes. -/
def blankApp (parameters : ParameterValues) : App (Option ℤ) ℤ ℤ where
  parameters := parameters
  sampler := ⟨1, true⟩
  api := {
    registry := ⟨[]⟩
    store := storeNew ⟨[]⟩ 1 0
    selection := ⟨fun _ => []⟩
    device := ⟨⟨[], [], [], by decide⟩, [], [], [], [], []⟩
    appVersion := ascii "0.1.2"
    persistPath := none
    mqttStatus := ascii "disabled"
    influxStatus := ascii "disabled"
    started := 0 }
  alerts := ⟨[], false, false, by decide, List.nodup_nil⟩
  procs := ⟨[], 1⟩
  mqtt := mqttNew
  influx := ⟨⟨false, .v2, [], [], [], [], [], [], [], 30⟩, [], false, 0, ascii "disabled"⟩
  sseClients := []

/-- A time and place where nothing fails. -/
def quietEnv : RequestEnv := ⟨0, fun _ _ => true, fun _ _ => 0, true, true⟩

end AxisMetrics
