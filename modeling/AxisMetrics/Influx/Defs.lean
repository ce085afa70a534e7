import AxisMetrics.Api.Documents

/-!
# InfluxDB

The line protocol payload and the part of the writer that runs on the sampler: it builds payloads
and queues the newest one for the worker.
-/

namespace AxisMetrics

open Lib (Bytes ascii decimalInt)

inductive InfluxVersion where
  | v1
  | v2
  deriving DecidableEq

/-- `InfluxConfig`. -/
structure InfluxConfig where
  enabled : Bool
  version : InfluxVersion
  /-- Base server URL, no path. -/
  url : Bytes
  /-- v1 database, v2 bucket. -/
  database : Bytes
  org : Bytes
  token : Bytes
  username : Bytes
  password : Bytes
  measurement : Bytes
  intervalS : ℕ

/-- `Influx`, with the payloads in its queue, oldest first. -/
structure Influx where
  config : InfluxConfig
  queue : List Bytes
  stopping : Bool
  lastWrite : ℤ
  state : Bytes

/-- What comes of `write_payload`. -/
inductive WriteOutcome where
  /-- `curl_easy_init` failed. -/
  | noHandle
  /-- `curl_easy_perform` did. -/
  | failed
  | answered (status : ℕ)

/-- The state that `write_payload` sets. -/
def WriteOutcome.state : WriteOutcome → Bytes
  | .noHandle | .failed => ascii "error"
  | .answered status =>
    if status = 401 ∨ status = 403 then ascii "unauthorized"
    else if status < 200 ∨ 300 ≤ status then ascii "error"
    else ascii "connected"

/-- `append_escaped_tag`. -/
def appendEscapedTag (value : Bytes) : Bytes :=
  value.flatMap fun b => if b = 44 ∨ b = 61 ∨ b = 32 ∨ b = 92 then [92, b] else [b]

/-- `append_escaped_measurement`. -/
def appendEscapedMeasurement (value : Bytes) : Bytes :=
  value.flatMap fun b => if b = 44 ∨ b = 32 ∨ b = 92 then [92, b] else [b]

/-- A device field, or `unknown` where it is empty. -/
def orUnknown (value : Bytes) : Bytes := if value = [] then ascii "unknown" else value

section Payload

variable {V D T : Type} [SampleArith V D] [RenderArith V T]

/-- The fields of a line: the metrics that leave the device and have a reading. -/
def influxFields (api : Api V D) (row : Row V api.registry.count) : List Bytes :=
  ((List.finRange api.registry.count).filter fun i => !SampleArith.isnan (row.values i) &&
      selectionEnabled api.selection .transmit (api.registry.id i)).map fun i =>
    appendEscapedTag (api.registry.id i) ++ ascii "=" ++ RenderArith.format7g (row.values i)

/-- `build_payload`: one line with every metric as a field. -/
def buildPayload (measurement : Bytes) (api : Api V D) : Option Bytes :=
  match storeLatest api.store with
  | none => none
  | some row =>
    if influxFields api row = [] then none
    else some (appendEscapedMeasurement measurement ++
      ascii ",device=" ++ appendEscapedTag (orUnknown api.device.serial) ++
      ascii ",model=" ++ appendEscapedTag (orUnknown api.device.model) ++
      ascii " " ++ (ascii ",").intercalate (influxFields api row) ++
      ascii " " ++ decimalInt row.timestamp.toInt ++ ascii "\n")

/-- `influx_tick` at a monotonic clock in seconds; the payload it built, if any. -/
def influxTick (influx : Influx) (api : Api V D) (now : ℤ) : Influx × Option Bytes :=
  if influx.config.enabled = false ∨ influx.stopping = true ∨ influx.config.url = [] then
    (influx, none)
  else if influx.lastWrite ≠ 0 ∧ now - influx.lastWrite < influx.config.intervalS then
    (influx, none)
  else
    -- a queued payload means the last write is still running, so it is dropped
    let payload := buildPayload influx.config.measurement api
    ({ influx with lastWrite := now, queue := payload.toList }, payload)

end Payload

/-- `influx_apply`. -/
def influxApply (influx : Influx) (config : InfluxConfig) : Influx :=
  let wasEnabled := influx.config.enabled
  { influx with
    config := config
    state := if config.enabled = false then ascii "disabled"
      else if wasEnabled = false then ascii "pending" else influx.state
    -- write on the next tick rather than waiting out an interval
    lastWrite := if config.enabled ∧ wasEnabled = false then 0 else influx.lastWrite }

/-- `influx_state`. -/
def influxState (influx : Influx) : Bytes :=
  if influx.config.enabled then influx.state else ascii "disabled"

end AxisMetrics
