import AxisMetrics.Api.Answers
import AxisMetrics.Lib.Tokens
import AxisMetrics.Page.MetricList

/-!
# The charts of the page

The page derives its charts from the metrics that the device reports, asks for all their series at
once, and hands the answer to the plots. Every line of a chart is a displayed metric
(`drawn_buildChartSpecs`), and its points are the rows of the tier that answers the window
(`charts_show`).
-/

namespace AxisMetrics.Page

open Lib (Bytes ascii Json jsonDocument isDigit decimal encodeURIComponent)

/-- A metric of `meta.metrics` as the charts read it. -/
structure ChartMetric where
  id : Bytes
  unit : Bytes
  group : Bytes
  display : Bool

/-- A member of the array, where only `false` is off. -/
def chartMetric (metric : Json) : Option ChartMetric := do
  let id ← stringMember metric (ascii "id")
  let unit ← stringMember metric (ascii "unit")
  let group ← stringMember metric (ascii "group")
  pure ⟨id, unit, group, boolMember metric (ascii "display") ≠ some false⟩

/-- `meta.metrics` of the document that `getJson` reads. -/
def chartMetrics (document : Bytes) : Option (List ChartMetric) :=
  match (jsonDocument document).bind fun payload => member payload (ascii "metrics") with
  | some (.array metrics) => metrics.mapM chartMetric
  | _ => none

/-- A line of a chart. -/
structure ChartLine where
  id : Bytes
  label : Bytes
  deriving DecidableEq

/-- What a chart is made from. -/
structure ChartSpec where
  title : Bytes
  unit : Bytes
  max : Option ℕ
  series : List ChartLine

/-! ### Patterns of ids -/

/-- What an id has between a beginning and an end. -/
def between (before after id : Bytes) : Option Bytes :=
  if before <+: id ∧ after <:+ id ∧ before.length + after.length ≤ id.length then
    some ((id.take (id.length - after.length)).drop before.length)
  else none

/-- The class `[^.]+`. -/
def isComponent (text : Bytes) : Bool := text ≠ [] && !text.contains 46

/-- The class `\d+`. -/
def isNumber (text : Bytes) : Bool := text ≠ [] && text.all isDigit

/-- `id.split(".")[1]`. -/
def secondComponent (id : Bytes) : Bytes := ((id.splitOn 46)[1]?).getD []

/-- The label of a thermal zone or a sensor. -/
def temperatureLabel (id : Bytes) : Bytes :=
  (if ascii "temp." <+: id then id.drop 5 else if ascii "sensor." <+: id then id.drop 7 else id).map
    fun b => if b = 95 then 32 else b

section Specs

variable (metrics : List ChartMetric)

/-- `displayable`: metrics that are switched off are still collected and exported, just not
charted. -/
def displayable : List ChartMetric := metrics.filter ChartMetric.display

/-- `hasId`. -/
def hasId (id : Bytes) : Bool := (displayable metrics).any fun m => m.id = id

/-- `idsMatching`. -/
def idsMatching (pattern : Bytes → Bool) : List ChartMetric :=
  (displayable metrics).filter fun m => pattern m.id

/-- `pick`. -/
def pick (ids labels : List Bytes) : List ChartLine :=
  ((ids.zip labels).filter fun entry => hasId metrics entry.1).map fun entry => ⟨entry.1, entry.2⟩

/-- The id of a metric of a device. -/
def deviceId (family device suffix : Bytes) : Bytes := family ++ 46 :: device ++ 46 :: suffix

/-- `byDevice`: every interface or disk that the device reports gets its lines. -/
def byDevice (family probe : Bytes) (suffixes labels : List Bytes) : List ChartLine :=
  let devices := (idsMatching metrics fun id =>
    ((between (family ++ [46]) (46 :: probe) id).map isComponent).getD false).map fun m =>
      secondComponent m.id
  devices.flatMap fun device =>
    ((suffixes.zip labels).filter fun entry => hasId metrics (deviceId family device entry.1)).map
      fun entry => ⟨deviceId family device entry.1, device ++ 32 :: entry.2⟩

/-- `byUnit`. -/
def byUnit (group unit : Bytes) : List ChartMetric :=
  (displayable metrics).filter fun m => m.group = group && m.unit = unit

/-- The lines of the cores. A core is the second component without "core". -/
def coreLines : List ChartLine :=
  (idsMatching metrics fun id =>
    ((between (ascii "cpu.core") (ascii ".usage") id).map isNumber).getD false).map fun m =>
      ⟨m.id, ascii "core " ++ (secondComponent m.id).drop 4⟩

/-- The lines of the thermal zones and the sensors that report degrees. -/
def temperatureLines : List ChartLine :=
  (byUnit metrics (ascii "temperature") (ascii "C")).map fun m => ⟨m.id, temperatureLabel m.id⟩

/-- The lines of the powered ports. -/
def portLines : List ChartLine :=
  (displayable metrics).filterMap fun m =>
    (between (ascii "poe.port") (ascii ".power") m.id).bind fun port =>
      if isNumber port then some ⟨m.id, ascii "port " ++ port⟩ else none

/-- The lines of the mounts. -/
def mountLines : List ChartLine :=
  (idsMatching metrics fun id =>
    ((between (ascii "fs.") (ascii ".usage") id).map isComponent).getD false).map fun m =>
      ⟨m.id, secondComponent m.id⟩

/-- A chart, where there is something to show. -/
def chartWhen (shown : Bool) (title unit : Bytes) (max : Option ℕ) (series : List ChartLine) :
    List ChartSpec :=
  if shown then [⟨title, unit, max, series⟩] else []

/-- `buildChartSpecs`. -/
def buildChartSpecs : List ChartSpec :=
  let cpu := pick metrics
    [ascii "cpu.usage", ascii "cpu.user", ascii "cpu.system", ascii "cpu.iowait", ascii "cpu.irq",
      ascii "cpu.steal"]
    [ascii "total", ascii "user", ascii "system", ascii "iowait", ascii "irq", ascii "steal"]
  let cores := coreLines metrics
  let load := pick metrics [ascii "load.1", ascii "load.5", ascii "load.15"]
    [ascii "1 min", ascii "5 min", ascii "15 min"]
  let mem := pick metrics
    [ascii "mem.used", ascii "mem.cached", ascii "mem.buffers", ascii "mem.available"]
    [ascii "used", ascii "cached", ascii "buffers", ascii "available"]
  let swap := pick metrics [ascii "mem.swap_usage"] [ascii "swap used"]
  let temps := temperatureLines metrics
  let ports := portLines metrics
  let throughput := byDevice metrics (ascii "net") (ascii "rx_bps")
    [ascii "rx_bps", ascii "tx_bps"] [ascii "in", ascii "out"]
  let errors := byDevice metrics (ascii "net") (ascii "rx_errors")
    [ascii "rx_errors", ascii "tx_errors", ascii "rx_drops", ascii "tx_drops"]
    [ascii "rx err", ascii "tx err", ascii "rx drop", ascii "tx drop"]
  let diskIo := byDevice metrics (ascii "disk") (ascii "read_bps")
    [ascii "read_bps", ascii "write_bps"] [ascii "read", ascii "write"]
  let fs := mountLines metrics
  let sys := pick metrics
    [ascii "sys.processes", ascii "sys.sockets", ascii "sys.context_switches"]
    [ascii "processes", ascii "sockets", ascii "ctx switches/s"]
  chartWhen (cpu ≠ []) (ascii "CPU") (ascii "%") (some 100) cpu ++
  chartWhen (1 < cores.length) (ascii "CPU per core") (ascii "%") (some 100) cores ++
  chartWhen (load ≠ []) (ascii "Load average") [] none load ++
  chartWhen (mem ≠ []) (ascii "Memory") (ascii "B") none mem ++
  chartWhen (swap ≠ [] && hasId metrics (ascii "mem.swap_total")) (ascii "Swap") (ascii "%")
    (some 100) swap ++
  -- the unit keeps fan speed and heater state out
  chartWhen (temps ≠ []) (ascii "Temperature") (ascii "C") none temps ++
  chartWhen (hasId metrics (ascii "sensor.fan_rpm")) (ascii "Fan") (ascii "rpm") none
    [⟨ascii "sensor.fan_rpm", ascii "speed"⟩] ++
  chartWhen (ports ≠ []) (ascii "PoE power") (ascii "W") none
    (ports ++
      if hasId metrics (ascii "poe.total") then [⟨ascii "poe.total", ascii "total"⟩] else []) ++
  chartWhen (throughput ≠ []) (ascii "Network throughput") (ascii "B/s") none throughput ++
  chartWhen (errors ≠ []) (ascii "Network errors and drops") [] none errors ++
  chartWhen (diskIo ≠ []) (ascii "Disk throughput") (ascii "B/s") none diskIo ++
  chartWhen (fs ≠ []) (ascii "Filesystem usage") (ascii "%") (some 100) fs ++
  chartWhen (sys ≠ []) (ascii "System") [] none sys

end Specs

/-! ### The data of the plots -/

/-- `wantedMetricIds`: the keys of an object, in the order they were set. -/
def wantedMetricIds (charts : List ChartSpec) : List Bytes :=
  (charts.flatMap fun chart => chart.series.map ChartLine.id).eraseDups

/-- The path that `refreshSeries` asks for, behind the base of the page. -/
def seriesPath (base : Bytes) (window : ℕ) (charts : List ChartSpec) : Bytes :=
  base ++ ascii "series?window=" ++ decimal window ++ ascii "&metrics=" ++
    encodeURIComponent ([44].intercalate (wantedMetricIds charts))

/-- A member that is an array; `|| []` stands in for one that is not there. -/
def arrayMember (value : Json) (key : Bytes) : List Json :=
  match member value key with
  | some (.array items) => items
  | _ => []

/-- What `refreshSeries` hands to the plot of a chart: the times, and the values of each line; `none`
where the answer has no series. -/
def plotData (payload : Json) (spec : ChartSpec) : Option (List Json × List (List Json)) :=
  let timestamps := arrayMember payload (ascii "timestamps")
  (member payload (ascii "series")).map fun series =>
    (timestamps, spec.series.map fun line =>
      let values := arrayMember series line.id
      if values.length = timestamps.length then values
      else List.replicate timestamps.length .null)

section Displayed

variable {metrics : List ChartMetric}

theorem hasId_iff {id : Bytes} :
    hasId metrics id = true ↔ ∃ m ∈ metrics, m.display = true ∧ m.id = id := by
  simp [hasId, displayable]

theorem hasId_of_mem {m : ChartMetric} (h : m ∈ displayable metrics) : hasId metrics m.id = true := by
  rw [hasId, List.any_eq_true]
  exact ⟨m, h, decide_eq_true rfl⟩

/-- Lines of displayed metrics. -/
def Displayed (metrics : List ChartMetric) (lines : List ChartLine) : Prop :=
  ∀ line ∈ lines, hasId metrics line.id = true

theorem displayed_pick (ids labels : List Bytes) : Displayed metrics (pick metrics ids labels) := by
  intro line hline
  obtain ⟨entry, hentry, rfl⟩ := List.mem_map.mp hline
  exact (List.mem_filter.mp hentry).2

theorem displayed_byDevice (family probe : Bytes) (suffixes labels : List Bytes) :
    Displayed metrics (byDevice metrics family probe suffixes labels) := by
  intro line hline
  obtain ⟨device, -, hline⟩ := List.mem_flatMap.mp hline
  obtain ⟨entry, hentry, rfl⟩ := List.mem_map.mp hline
  exact (List.mem_filter.mp hentry).2

/-- One line for each of some displayed metrics. -/
theorem displayed_map {p : ChartMetric → Bool} (label : ChartMetric → Bytes) :
    Displayed metrics (((displayable metrics).filter p).map fun m => ⟨m.id, label m⟩) := by
  intro line hline
  obtain ⟨m, hm, rfl⟩ := List.mem_map.mp hline
  exact hasId_of_mem (List.mem_of_mem_filter hm)

theorem displayed_portLines : Displayed metrics (portLines metrics) := by
  intro line hline
  obtain ⟨m, hm, hport⟩ := List.mem_filterMap.mp hline
  obtain ⟨port, -, hsome⟩ := Option.bind_eq_some_iff.mp hport
  split at hsome
  · obtain rfl := Option.some.inj hsome
    exact hasId_of_mem hm
  · cases hsome

theorem Displayed.append {lines lines' : List ChartLine} (h : Displayed metrics lines)
    (h' : Displayed metrics lines') : Displayed metrics (lines ++ lines') := fun line hline =>
  (List.mem_append.mp hline).elim (h line) (h' line)

theorem displayed_ite {id label : Bytes} :
    Displayed metrics (if hasId metrics id then [⟨id, label⟩] else []) := by
  intro line hline
  split at hline
  · next hid =>
    rw [List.mem_singleton.mp hline]
    exact hid
  · cases hline

/-- A chart that has lines, all of displayed metrics. -/
structure ChartSpec.Drawn (metrics : List ChartMetric) (spec : ChartSpec) : Prop where
  ne_nil : spec.series ≠ []
  displayed : Displayed metrics spec.series

theorem drawn_chartWhen {shown : Bool} {title unit : Bytes} {max : Option ℕ}
    {series : List ChartLine} (hne : shown = true → series ≠ [])
    (h : shown = true → Displayed metrics series) :
    ∀ spec ∈ chartWhen shown title unit max series, spec.Drawn metrics := by
  intro spec hspec
  rw [chartWhen] at hspec
  split at hspec
  · next hshown =>
    rw [List.mem_singleton.mp hspec]
    exact ⟨hne hshown, h hshown⟩
  · cases hspec

/-- The common case: a chart of what there is. -/
theorem drawn_chartWhen_ne {title unit : Bytes} {max : Option ℕ} {series : List ChartLine}
    (h : Displayed metrics series) :
    ∀ spec ∈ chartWhen (series ≠ []) title unit max series, spec.Drawn metrics :=
  drawn_chartWhen (fun hshown => of_decide_eq_true hshown) fun _ => h

/-- Every chart has lines, and every line is a displayed metric. -/
theorem drawn_buildChartSpecs : ∀ spec ∈ buildChartSpecs metrics, spec.Drawn metrics := by
  have happend : ∀ {l l' : List ChartSpec}, (∀ spec ∈ l, spec.Drawn metrics) →
      (∀ spec ∈ l', spec.Drawn metrics) → ∀ spec ∈ l ++ l', spec.Drawn metrics :=
    fun h h' spec hspec => (List.mem_append.mp hspec).elim (h spec) (h' spec)
  rw [buildChartSpecs]
  refine happend (happend (happend (happend (happend (happend (happend (happend (happend (happend
    (happend (happend ?cpu ?cores) ?load) ?mem) ?swap) ?temps) ?fan) ?poe) ?throughput) ?errors)
    ?diskIo) ?fs) ?sys
  case cpu => exact drawn_chartWhen_ne (displayed_pick _ _)
  case cores =>
    refine drawn_chartWhen (fun hshown hnil => ?_) fun _ => displayed_map _
    rw [hnil] at hshown
    cases hshown
  case load => exact drawn_chartWhen_ne (displayed_pick _ _)
  case mem => exact drawn_chartWhen_ne (displayed_pick _ _)
  case swap =>
    refine drawn_chartWhen (fun hshown => ?_) fun _ => displayed_pick _ _
    exact of_decide_eq_true (Bool.and_eq_true_iff.mp hshown).1
  case temps => exact drawn_chartWhen_ne (displayed_map _)
  case fan =>
    refine drawn_chartWhen (fun _ => List.cons_ne_nil _ _) fun hfan line hline => ?_
    rw [List.mem_singleton.mp hline]
    exact hfan
  case poe =>
    refine drawn_chartWhen (fun hshown => ?_) fun _ => displayed_portLines.append displayed_ite
    exact List.append_ne_nil_of_left_ne_nil (of_decide_eq_true hshown) _
  case throughput => exact drawn_chartWhen_ne (displayed_byDevice _ _ _ _)
  case errors => exact drawn_chartWhen_ne (displayed_byDevice _ _ _ _)
  case diskIo => exact drawn_chartWhen_ne (displayed_byDevice _ _ _ _)
  case fs => exact drawn_chartWhen_ne (displayed_map _)
  case sys => exact drawn_chartWhen_ne (displayed_pick _ _)

end Displayed

section Read

/-- A metric as the charts read it. -/
def reportedChartMetric (selection : Selection) (d : MetricDef) : ChartMetric :=
  ⟨d.id, d.unit, d.group, selectionEnabled selection .display d.id⟩

theorem chartMetric_metricFields (selection : Selection) (d : MetricDef) :
    chartMetric (Lib.JsonPart.object (metricFields selection d)).value =
      some (reportedChartMetric selection d) := by
  have hid : stringMember (Lib.JsonPart.object (metricFields selection d)).value (ascii "id") =
      some d.id := rfl
  have hunit : stringMember (Lib.JsonPart.object (metricFields selection d)).value (ascii "unit") =
      some d.unit := rfl
  have hgroup : stringMember (Lib.JsonPart.object (metricFields selection d)).value
      (ascii "group") = some d.group := rfl
  have hdisplay : boolMember (Lib.JsonPart.object (metricFields selection d)).value
      (ascii "display") = some (selectionEnabled selection .display d.id) := rfl
  rw [chartMetric, hid, hunit, hgroup, hdisplay, reportedChartMetric]
  simp

theorem chartMetrics_apiMetaJson {V D : Type} {api : Api V D} (h : MetaReadable api) :
    chartMetrics (apiMetaJson api) =
      some (api.registry.defs.map (reportedChartMetric api.selection)) := by
  have hmetrics : member (Lib.JsonPart.object (metaFields api)).value (ascii "metrics") =
      some (.array (api.registry.defs.map fun d =>
        (Lib.JsonPart.object (metricFields api.selection d)).value)) := by
    have hvalues : (api.registry.defs.map fun d =>
        Lib.JsonPart.object (metricFields api.selection d)).map Lib.JsonPart.value =
        api.registry.defs.map fun d =>
          (Lib.JsonPart.object (metricFields api.selection d)).value := List.map_map
    exact congrArg (fun items => some (Json.array items)) hvalues
  rw [chartMetrics, jsonDocument_apiMetaJson h, Option.bind_some, hmetrics]
  dsimp only
  generalize api.registry.defs = defs
  induction defs with
  | nil => rfl
  | cons d defs ih =>
    rw [List.map_cons, List.mapM_cons, chartMetric_metricFields, ih]
    rfl

/-- A displayed metric of the page is a displayed metric of the device. -/
theorem exists_of_hasId {registry : MetricRegistry} {selection : Selection} {id : Bytes}
    (h : hasId (registry.defs.map (reportedChartMetric selection)) id = true) :
    (∃ i, registry.id i = id) ∧ selectionEnabled selection .display id = true := by
  obtain ⟨m, hm, hdisplay, rfl⟩ := hasId_iff.mp h
  obtain ⟨d, hd, rfl⟩ := List.mem_map.mp hm
  obtain ⟨i, hi, rfl⟩ := List.mem_iff_getElem.mp hd
  exact ⟨⟨⟨i, hi⟩, rfl⟩, hdisplay⟩

end Read

section Request

variable {charts : List ChartSpec}

theorem mem_wantedMetricIds {id : Bytes} : id ∈ wantedMetricIds charts ↔
    ∃ chart ∈ charts, ∃ line ∈ chart.series, line.id = id := by
  simp [wantedMetricIds]

/-- The two encodings of the browser agree on ids and commas. -/
theorem encodeURIComponent_eq {text : Bytes} (h : ∀ b ∈ text, IsIdByte b ∨ b = 44) :
    encodeURIComponent text = Lib.urlencode text := by
  have hall : ∀ n < 256, IsIdByte (UInt8.ofNat n) ∨ UInt8.ofNat n = 44 →
      Lib.componentByte (UInt8.ofNat n) = Lib.urlencodeByte (UInt8.ofNat n) := by decide +kernel
  refine List.flatMap_congr fun b hb => ?_
  have hbyte := hall b.toNat b.toNat_lt
  rw [UInt8.ofNat_toNat] at hbyte
  exact hbyte (h b hb)

variable (hclean : ∀ id ∈ wantedMetricIds charts, CleanId id)

include hclean

/-- What is asked for. -/
def seriesPairs (window : ℕ) (charts : List ChartSpec) : List (Bytes × Bytes) :=
  [(ascii "window", decimal window),
    (ascii "metrics", [44].intercalate (wantedMetricIds charts))]

theorem byte_metrics : ∀ b ∈ [44].intercalate (wantedMetricIds charts), IsIdByte b ∨ b = 44 := by
  intro b hb
  obtain hcomma | ⟨id, hid, hb⟩ := Lib.mem_intercalate hb
  · exact Or.inr (List.mem_singleton.mp hcomma)
  · exact Or.inl ((hclean id hid).2 b hb)

theorem seriesPath_eq (base : Bytes) (window : ℕ) : seriesPath base window charts =
    (base ++ ascii "series") ++ 63 :: Lib.formText (seriesPairs window charts) := by
  have hdigits : Lib.urlencode (decimal window) = decimal window := by
    have hbyte : ∀ b ∈ decimal window, Lib.urlencodeByte b = [b] := fun b hb =>
      if_pos (Or.inl (by rw [Lib.isAlnum, Lib.isDigit_of_mem_decimal hb]; rfl))
    rw [Lib.urlencode, List.flatMap_congr hbyte, List.flatMap_singleton']
  have hwindow : Lib.urlencode (ascii "window") = ascii "window" := by decide
  have hmetrics : Lib.urlencode (ascii "metrics") = ascii "metrics" := by decide
  rw [seriesPath, encodeURIComponent_eq (byte_metrics hclean), Lib.formText, seriesPairs,
    List.map_cons, List.map_singleton, List.intercalate_cons_cons, List.intercalate_singleton,
    Lib.pairText, Lib.pairText, hdigits, hwindow, hmetrics]
  simp [ascii]

/-- The device reads what is asked for. -/
theorem apiQueryParam_seriesPath {base : Bytes} (hbase : 63 ∉ base) (window : ℕ)
    {pair : Bytes × Bytes} (hpair : pair ∈ seriesPairs window charts) :
    apiQueryParam (seriesPath base window charts) pair.1 = some pair.2 := by
  have hpath : 63 ∉ base ++ ascii "series" := by
    rw [List.mem_append, not_or]
    exact ⟨hbase, by decide⟩
  have hzero : 0 ∉ [44].intercalate (wantedMetricIds charts) := by
    intro h
    obtain hbyte | hcomma := byte_metrics hclean 0 h
    · exact absurd hbyte (by decide)
    · exact absurd hcomma (by decide)
  rw [seriesPath_eq hclean, apiQueryParam_path hpath]
  refine apiQueryParam_formText ?_ ?_ ?_ hpair
  · simp only [seriesPairs, List.forall_mem_cons, List.not_mem_nil, false_implies, implies_true,
      and_true]
    exact ⟨by decide, by decide⟩
  · exact (by decide : [ascii "window", ascii "metrics"].Nodup)
  · simp only [seriesPairs, List.forall_mem_cons, List.not_mem_nil, false_implies, implies_true,
      and_true]
    refine ⟨fun h => ?_, hzero⟩
    exact absurd (Lib.isDigit_of_mem_decimal h) (by decide)

theorem seriesWindow_seriesPath {base : Bytes} (hbase : 63 ∉ base) {window : ℕ}
    (hpos : 0 < window) (hlt : window < 2 ^ 32) :
    seriesWindow (seriesPath base window charts) = window := by
  have hparam := apiQueryParam_seriesPath hclean hbase window (List.mem_cons_self)
  have hread : Lib.guint (Lib.strtoull (decimal window)) = window := by
    rw [Lib.strtoull_decimal (by omega), Lib.guint_of_lt hlt]
  rw [seriesWindow, show ascii "window" = (ascii "window", decimal window).1 from rfl, hparam]
  simp only [hread]
  exact if_neg (by omega)

theorem seriesWanted_seriesPath {base : Bytes} (hbase : 63 ∉ base) (window : ℕ) {id : Bytes}
    (hid : id ∈ wantedMetricIds charts) :
    seriesWanted (seriesPath base window charts) id = true := by
  have hparam := apiQueryParam_seriesPath hclean hbase window
    (List.mem_cons_of_mem _ List.mem_cons_self)
  have hsplit : Lib.strsplit 44 ([44].intercalate (wantedMetricIds charts)) =
      wantedMetricIds charts := by
    refine Lib.strsplit_intercalate (fun h => (hclean [] h).1 rfl) fun part hpart hcomma => ?_
    exact absurd ((hclean part hpart).2 44 hcomma) (by decide)
  rw [seriesWanted, show ascii "metrics" =
    (ascii "metrics", [44].intercalate (wantedMetricIds charts)).1 from rfl, hparam]
  dsimp only
  rw [hsplit, List.contains_iff_mem]
  exact hid

end Request

/-- The plot of a chart has the times of some rows, and for each line their readings of a displayed
metric of its id. -/
structure ShowsRows {registry : MetricRegistry} (selection : Selection)
    (rows : List (Row CFloat registry.count)) (spec : ChartSpec)
    (data : List Json × List (List Json)) : Prop where
  times : data.1 = rows.map fun row => .number (Lib.decimalInt row.timestamp.toInt)
  lines : List.Forall₂ (fun line values => selectionEnabled selection .display line.id = true ∧
    ∃ i, registry.id i = line.id ∧ values = rows.map fun row => readingValue (row.values i))
      spec.series data.2

section Plot

variable {registry : MetricRegistry}

theorem member_seriesValue (doc : SeriesDoc CFloat) :
    member (seriesValue doc) (ascii "series") = some (.object (doc.series.map fun series =>
      (series.1, .array (series.2.map readingValue)))) := rfl

theorem timestamps_seriesValue (doc : SeriesDoc CFloat) :
    arrayMember (seriesValue doc) (ascii "timestamps") =
      doc.timestamps.map fun t => .number (Lib.decimalInt t.toInt) := rfl

/-- The values of an id are those of a metric of that id. -/
theorem exists_arrayMember (store : Store CFloat Float registry) (now : ℤ) {query id : Bytes}
    (hwanted : seriesWanted query id = true) (hid : ∃ i, registry.id i = id) :
    ∃ i, registry.id i = id ∧ arrayMember (.object ((apiSeriesJson store now query).series.map
      fun series => (series.1, Json.array (series.2.map readingValue)))) id =
        ((requestedRows store now query).take MAX_SERIES_POINTS).map
          fun row => readingValue (row.values i) := by
  obtain ⟨i, rfl⟩ := hid
  -- the first series of the id is the one that is read
  have hfind : ∃ series, (apiSeriesJson store now query).series.find?
      (fun series => series.1 = registry.id i) = some series := by
    have hmem := apiSeriesJson_mem_series store now query hwanted
    exact Option.isSome_iff_exists.mp (List.find?_isSome.mpr ⟨_, hmem, by simp⟩)
  obtain ⟨series, hseries⟩ := hfind
  have hname : series.1 = registry.id i := by simpa using List.find?_some hseries
  obtain ⟨j, -, rfl⟩ := List.mem_map.mp (List.mem_of_find?_eq_some hseries)
  refine ⟨j, hname, ?_⟩
  rw [arrayMember, member, List.find?_map]
  simp only [Function.comp_def]
  rw [hseries]
  simp [storeSeries_eq, requestedRows, Function.comp_def]

/-- A chart whose lines are all asked for shows the rows that are answered. -/
theorem showsRows_plotData (store : Store CFloat Float registry) (now : ℤ) {query : Bytes}
    {selection : Selection} {spec : ChartSpec}
    (hdrawn : spec.Drawn (registry.defs.map (reportedChartMetric selection)))
    (hwanted : ∀ line ∈ spec.series, seriesWanted query line.id = true) :
    ∃ data, plotData (seriesValue (apiSeriesJson store now query)) spec = some data ∧
      ShowsRows selection ((requestedRows store now query).take MAX_SERIES_POINTS) spec data := by
  refine ⟨_, by rw [plotData, member_seriesValue, Option.map_some], ?_, ?_⟩
  · obtain ⟨line, hline⟩ := List.exists_mem_of_ne_nil _ hdrawn.ne_nil
    obtain ⟨i, hi⟩ := (exists_of_hasId (hdrawn.displayed line hline)).1
    have htimes := apiSeriesJson_timestamps store now query (i := i) (hi ▸ hwanted line hline)
    dsimp only
    rw [timestamps_seriesValue, htimes, List.map_map]
    rfl
  · dsimp only
    rw [List.forall₂_map_right_iff, List.forall₂_same]
    intro line hline
    obtain ⟨hid, hdisplay⟩ := exists_of_hasId (hdrawn.displayed line hline)
    obtain ⟨i, hi, hvalues⟩ := exists_arrayMember store now (hwanted line hline) hid
    have htimes := apiSeriesJson_timestamps store now query (i := i) (hi ▸ hwanted line hline)
    refine ⟨hdisplay, i, hi, ?_⟩
    rw [hvalues, timestamps_seriesValue, htimes, if_pos (by simp)]

end Plot

/-- Whatever the machine and its history, the page reads the device's metrics, and each of its charts
shows the rows of the tier that answers the window, as far as a response holds them. -/
theorem charts_show (m : Machine) {api : Api CFloat Float} (hregistry : api.registry = m.registry)
    (hmeta : MetaReadable api) (now : ℤ) {base : Bytes} (hbase : 63 ∉ base) {window : ℕ}
    (hpos : 0 < window) (hlt : window < 2 ^ 32) :
    ∃ metrics payload, chartMetrics (apiMetaJson api) = some metrics ∧
      jsonDocument (seriesText (apiSeriesJson api.store now
        (seriesPath base window (buildChartSpecs metrics)))) = some payload ∧
      ∀ spec ∈ buildChartSpecs metrics, ∃ data, plotData payload spec = some data ∧
        ShowsRows api.selection ((rowsSince
          (api.store.tiers (storeTierForWindow api.store window)) (now - window)).take
            MAX_SERIES_POINTS) spec data := by
  have hclean := cleanId_of_discovered hregistry
  refine ⟨_, _, chartMetrics_apiMetaJson hmeta, jsonDocument_seriesText fun series hseries => ?_,
    fun spec hspec => ?_⟩
  · obtain ⟨i, -, rfl⟩ := List.mem_map.mp hseries
    exact hclean i
  · have hdrawn := drawn_buildChartSpecs spec hspec
    have hids : ∀ id ∈ wantedMetricIds (buildChartSpecs (api.registry.defs.map
        (reportedChartMetric api.selection))), CleanId id := by
      intro id hid
      obtain ⟨chart, hchart, line, hline, rfl⟩ := mem_wantedMetricIds.mp hid
      obtain ⟨⟨i, hi⟩, -⟩ :=
        exists_of_hasId ((drawn_buildChartSpecs chart hchart).displayed line hline)
      exact hi ▸ hclean i
    have hshows := showsRows_plotData api.store now hdrawn fun line hline =>
      seriesWanted_seriesPath hids hbase window
        (mem_wantedMetricIds.mpr ⟨spec, hspec, line, hline, rfl⟩)
    rw [requestedRows, seriesWindow_seriesPath hids hbase hpos hlt] at hshows
    exact hshows

/-- A row of the fine tier, and a store with three of them. -/
def chartedRow (timestamp : Int64) {n : ℕ} : Row CFloat n := ⟨timestamp, fun i => cpuReading i⟩

def chartedStore (registry : MetricRegistry) : Store CFloat Float registry :=
  restoreAll (storeNew registry 1 (2 ^ 30)) 0 [chartedRow 1000, chartedRow 2900, chartedRow 2901]

/-- At a clock of 3000 two of the rows are in the window of half an hour. -/
theorem rowsSince_chartedStore (registry : MetricRegistry)
    (hcapacity : tierCapacity registry.count 1 (2 ^ 30) 0 = 1800) :
    rowsSince ((chartedStore registry).tiers
      (storeTierForWindow (chartedStore registry) (1800 : ℕ))) (3000 - (1800 : ℕ)) =
        [chartedRow 2900, chartedRow 2901] := by
  have hnew : StoreReachable registry 1 (2 ^ 30)
      (storeNew registry 1 (2 ^ 30) : Store CFloat Float registry) := StoreReachable.new
  have htier : storeTierForWindow (chartedStore registry) (1800 : ℕ) = 0 := by
    rw [storeTierForWindow_eq, chartedStore, ((hnew.restoreAll 0 _).shape 0).1]
    rfl
  have hrows : tierRows ((chartedStore registry).tiers 0) =
      [chartedRow 1000, chartedRow 2900, chartedRow 2901] := by
    rw [chartedStore, tierRows_restoreAll, (hnew.shape 0).2, hcapacity, tierRows_storeNew,
      List.nil_append, Lib.rtake_of_length_le (by simp)]
  rw [htier, rowsSince, hrows]
  rfl

/-- A device that shows them, except for one metric. -/
def chartedApi (registry : MetricRegistry) : Api CFloat Float where
  registry := registry
  store := chartedStore registry
  selection := ⟨fun
    | .display => [ascii "cpu.steal"]
    | .transmit => []⟩
  device := mutedApi.device
  appVersion := ascii "0.1.2"
  persistPath := none
  mqttStatus := ascii "disabled"
  influxStatus := ascii "disabled"
  started := 0

theorem metaReadable_chartedApi : MetaReadable (chartedApi mutedMachine.registry) where
  version := by decide
  device := by
    simp only [deviceTexts, List.forall_mem_cons, List.not_mem_nil, false_implies, implies_true]
    decide
  persistPath := by decide
  metrics := by
    have hall : ∀ d ∈ mutedMachine.registry.defs, ∀ text ∈ metricTexts d,
        Lib.isUtf8 text.2 = true := by decide +kernel
    exact hall

/-- The charts of that device, for half an hour at a clock of 3000. -/
theorem charts_show_rows : ∃ metrics payload,
    chartMetrics (apiMetaJson (chartedApi mutedMachine.registry)) = some metrics ∧
    (buildChartSpecs metrics).map (·.title) = [ascii "CPU", ascii "Load average", ascii "Memory",
      ascii "Swap", ascii "System"] ∧
    jsonDocument (seriesText (apiSeriesJson (chartedApi mutedMachine.registry).store 3000
      (seriesPath (ascii "data/") 1800 (buildChartSpecs metrics)))) = some payload ∧
    ∀ spec ∈ buildChartSpecs metrics, ∃ data, plotData payload spec = some data ∧
      @ShowsRows mutedMachine.registry (chartedApi mutedMachine.registry).selection
        [chartedRow 2900, chartedRow 2901] spec data := by
  have hmeta := metaReadable_chartedApi
  have hcapacity : tierCapacity mutedMachine.registry.count 1 (2 ^ 30) 0 = 1800 := by decide +kernel
  have htitles : (buildChartSpecs (mutedMachine.registry.defs.map
      (reportedChartMetric (chartedApi mutedMachine.registry).selection))).map (·.title) =
        [ascii "CPU", ascii "Load average", ascii "Memory", ascii "Swap", ascii "System"] := by
    decide +kernel
  generalize hregistry : mutedMachine.registry = registry at *
  obtain ⟨metrics, payload, hmetrics, hpayload, hshows⟩ := charts_show mutedMachine
    (hregistry.symm : (chartedApi registry).registry = mutedMachine.registry) hmeta
    3000 (by decide : 63 ∉ ascii "data/") (by decide : 0 < 1800) (by decide)
  have hread := chartMetrics_apiMetaJson hmeta
  obtain rfl := Option.some.inj (hmetrics.symm.trans hread)
  refine ⟨_, payload, hread, htitles, hpayload, fun spec hspec => ?_⟩
  obtain ⟨data, hdata, hrows⟩ := hshows spec hspec
  refine ⟨data, hdata, ?_⟩
  rw [show rowsSince ((chartedApi registry).store.tiers (storeTierForWindow (chartedApi registry).store
    (1800 : ℕ))) (3000 - (1800 : ℕ)) = _ from rowsSince_chartedStore registry hcapacity] at hrows
  exact hrows

end AxisMetrics.Page
