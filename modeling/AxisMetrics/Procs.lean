import AxisMetrics.Api.Documents

/-!
# Top processes

The process table and the document of its busiest entries.
-/

namespace AxisMetrics

open Lib (Bytes ascii decimal decimalInt)

def PROCS_INTERVAL_S : ℕ := 10

/-- The fields of a `Proc` that are shown. -/
structure Proc (T : Type) where
  pid : ℤ
  name : Bytes
  rssBytes : ℕ
  cpuPercent : T

/-- `Procs`: the table and the number of cores. -/
structure Procs (T : Type) where
  entries : List (Proc T)
  cores : ℕ

variable (V : Type) {T : Type} [RenderArith V T]

/-- `by_cpu (a, b) <= 0`: top consumers by CPU, then by memory. -/
def byCpu (a b : Proc T) : Bool :=
  if RenderArith.greater V b.cpuPercent a.cpuPercent then false
  else if RenderArith.greater V a.cpuPercent b.cpuPercent then true
  else b.rssBytes ≤ a.rssBytes

/-- One byte of `append_escaped` of `procs.c`. -/
def procsEscapeByte (b : UInt8) : Bytes :=
  (if b = 34 ∨ b = 92 then [92] else []) ++
  (if b < 32 then
    ascii "\\u00" ++ [hexDigitLower (b.toNat / 16), hexDigitLower (b.toNat % 16)]
  else [b])

/-- A process in `procs_json`. -/
def procJson (proc : Proc T) : Bytes :=
  ascii "\x7b\"pid\":" ++ decimalInt proc.pid ++ ascii ",\"name\":\"" ++
  proc.name.flatMap procsEscapeByte ++ ascii "\",\"cpu\":" ++
  RenderArith.format2f V proc.cpuPercent ++ ascii ",\"rss\":" ++ decimal proc.rssBytes ++
  ascii "\x7d"

/-- `procs_json`. Ties keep the order of the table. -/
def procsJson (procs : Procs T) (limit : ℕ) : Bytes :=
  ascii "\x7b\"interval\":" ++ decimal PROCS_INTERVAL_S ++ ascii ",\"cores\":" ++
  decimal procs.cores ++ ascii ",\"processes\":[" ++
  (ascii ",").intercalate (((procs.entries.mergeSort (byCpu V)).take limit).map (procJson V)) ++
  ascii "],\"total\":" ++ decimal procs.entries.length ++ ascii "\x7d"

end AxisMetrics
