import AxisMetrics.Api.SeriesNames
import AxisMetrics.Numbers

/-!
# The exposition, line by line

The text of `api_prometheus_text` is a list of lines: what is said of the device, then for every
reading a sample, with HELP and TYPE in front of the first sample of each name.
`exposition_identity` says that this is a good exposition.
-/

namespace AxisMetrics

open Lib (Bytes ascii isAlnum isDigit)

/-- A line of the exposition. -/
inductive ExpositionLine where
  | help (name text : Bytes)
  | type (name : Bytes)
  | sample (name labelKey label value : Bytes)
  deriving DecidableEq

namespace ExpositionLine

/-- The name a line is about. -/
def name : ExpositionLine → Bytes
  | help name _ => name
  | type name => name
  | sample name _ _ _ => name

/-- The label of a sample. -/
def label : ExpositionLine → Bytes
  | sample _ _ label _ => label
  | _ => []

def isSample : ExpositionLine → Bool
  | sample _ _ _ _ => true
  | _ => false

/-- The line without the newline at its end. -/
def text : ExpositionLine → Bytes
  | help name text => ascii "# HELP " ++ name ++ ascii " " ++ text
  | type name => ascii "# TYPE " ++ name ++ ascii " gauge"
  | sample name labelKey label value =>
    if label = [] then name ++ ascii " " ++ value
    else name ++ ascii "\x7b" ++ labelKey ++ ascii "=\"" ++ label ++ ascii "\"\x7d " ++ value

end ExpositionLine

/-- The lines about the device. -/
def deviceInfoLines (device : DeviceIdentity) : List Bytes :=
  [ascii "# HELP axis_device_info Device identity, always 1.",
    ascii "# TYPE axis_device_info gauge",
    ascii "axis_device_info\x7bmodel=\"" ++ device.model ++ ascii "\",serial=\"" ++
      device.serial ++ ascii "\",firmware=\"" ++ device.firmware ++ ascii "\"\x7d 1"]

section Lines

variable {registry : MetricRegistry} (row : Row CFloat registry.count)

/-- The sample of a metric. -/
def sampleLine (i : Fin registry.count) : ExpositionLine :=
  .sample (prometheusName (registry.defs.get i)).1 (prometheusName (registry.defs.get i)).2.1
    (prometheusName (registry.defs.get i)).2.2 (RenderArith.format7g (row.values i))

/-- The metrics that have a reading. -/
def reporting : List (Fin registry.count) → List (Fin registry.count) :=
  List.filter fun i => !SampleArith.isnan (row.values i)

/-- HELP and TYPE of a metric, unless its name is declared. -/
def headerLines (d : MetricDef) (declared : List Bytes) : List ExpositionLine :=
  if (prometheusName d).1 ∈ declared then []
  else [.help (prometheusName d).1 d.label, .type (prometheusName d).1]

/-- The lines of the metrics still to come, with the names declared. -/
def expositionLines : List (Fin registry.count) → List Bytes → List ExpositionLine
  | [], _ => []
  | i :: rest, declared =>
    if SampleArith.isnan (row.values i) then expositionLines rest declared
    else headerLines (registry.defs.get i) declared ++ sampleLine row i ::
      expositionLines rest ((prometheusName (registry.defs.get i)).1 :: declared)

/-- Lines with a newline behind each. -/
def linesText (lines : List Bytes) : Bytes := lines.flatMap (· ++ [10])

theorem linesText_append (a b : List Bytes) : linesText (a ++ b) = linesText a ++ linesText b :=
  List.flatMap_append

theorem prometheusLines_eq (declared : List Bytes) (i : Fin registry.count) :
    prometheusLines ((prometheusName (registry.defs.get i)).1 ∈ declared) (registry.defs.get i)
        (row.values i) =
      linesText ((headerLines (registry.defs.get i) declared ++
        [sampleLine row i]).map ExpositionLine.text) := by
  have hnewline : ascii "\n" = [10] := rfl
  have htype : ascii "\n# TYPE " = 10 :: ascii "# TYPE " := rfl
  have hgauge : ascii " gauge\n" = ascii " gauge" ++ [10] := rfl
  unfold prometheusLines linesText sampleLine headerLines
  by_cases hdeclared : (prometheusName (registry.defs.get i)).1 ∈ declared <;>
    by_cases hlabel : (prometheusName (registry.defs.get i)).2.2 = [] <;>
    simp [ExpositionLine.text, hdeclared, hlabel, hnewline, htype, hgauge]

/-- The loop writes these lines. -/
theorem prometheusLoop_eq (rest : List (Fin registry.count)) (declared : List Bytes) :
    prometheusLoop row rest declared =
      linesText ((expositionLines row rest declared).map ExpositionLine.text) := by
  induction rest generalizing declared with
  | nil => rfl
  | cons i rest ih =>
    rw [prometheusLoop, expositionLines]
    split
    · exact ih declared
    · dsimp only
      rw [ih, prometheusLines_eq, ← linesText_append, ← List.map_append, List.append_assoc,
        List.singleton_append]

/-- The text is these lines behind those about the device. -/
theorem apiPrometheusText_eq {api : Api CFloat Float} {row : Row CFloat api.registry.count}
    (hlatest : storeLatest api.store = some row) :
    apiPrometheusText api = linesText (deviceInfoLines api.device ++
      (expositionLines row (List.finRange api.registry.count) []).map ExpositionLine.text) := by
  have hinfo : ascii
      "# HELP axis_device_info Device identity, always 1.\n# TYPE axis_device_info gauge\n" =
      ascii "# HELP axis_device_info Device identity, always 1." ++ 10 ::
        (ascii "# TYPE axis_device_info gauge" ++ [10]) := by decide
  have hend : ascii "\"\x7d 1\n" = ascii "\"\x7d 1" ++ [10] := rfl
  rw [apiPrometheusText, hlatest]
  dsimp only
  rw [prometheusLoop_eq, linesText_append, hinfo, hend]
  simp [linesText, deviceInfoLines]

-- ════════════════════════════════════════════════════════════════════════
-- Samples and headers
-- ════════════════════════════════════════════════════════════════════════

theorem name_headerLines {d : MetricDef} {declared : List Bytes} {line : ExpositionLine}
    (h : line ∈ headerLines d declared) :
    line.name = (prometheusName d).1 ∧ line.isSample = false ∧ line.name ∉ declared := by
  rw [headerLines] at h
  split at h
  · cases h
  · next hnew => rcases List.mem_pair.mp h with rfl | rfl <;> exact ⟨rfl, rfl, hnew⟩

/-- One sample for each metric that has a reading, in the order of the registry. -/
theorem samples_expositionLines (rest : List (Fin registry.count)) (declared : List Bytes) :
    (expositionLines row rest declared).filter ExpositionLine.isSample =
      (reporting row rest).map (sampleLine row) := by
  induction rest generalizing declared with
  | nil => rfl
  | cons i rest ih =>
    rw [expositionLines, reporting, List.filter_cons]
    split
    · next hnan =>
      rw [ih, hnan]
      rfl
    · next hnan =>
      have hreads : (!SampleArith.isnan (row.values i)) = true := by simpa using hnan
      have hsample : (sampleLine row i).isSample = true := rfl
      have hheader : (headerLines (registry.defs.get i) declared).filter
          ExpositionLine.isSample = [] := by
        rw [List.filter_eq_nil_iff]
        intro line hline
        rw [(name_headerLines hline).2.1]
        exact Bool.false_ne_true
      rw [if_pos hreads, List.filter_append, hheader, List.nil_append,
        List.filter_cons_of_pos hsample, ih, List.map_cons]
      rfl

variable {rest : List (Fin registry.count)} {declared : List Bytes} {line : ExpositionLine}
  (h : line ∈ expositionLines row rest declared)

include h

/-- Every line is about the name of a metric. -/
theorem name_expositionLines : ∃ i, line.name = (prometheusName (registry.defs.get i)).1 := by
  induction rest generalizing declared with
  | nil => cases h
  | cons i rest ih =>
    rw [expositionLines] at h
    split at h
    · exact ih h
    · rcases List.mem_append.mp h with hheader | hlater
      · exact ⟨i, (name_headerLines hheader).1⟩
      · rcases List.mem_cons.mp hlater with rfl | hrest
        · exact ⟨i, rfl⟩
        · exact ih hrest

/-- Of a name that is declared already there are samples only. -/
theorem isSample_of_declared (hname : line.name ∈ declared) : line.isSample = true := by
  induction rest generalizing declared with
  | nil => cases h
  | cons i rest ih =>
    rw [expositionLines] at h
    split at h
    · exact ih h hname
    · rcases List.mem_append.mp h with hheader | hlater
      · exact absurd hname (name_headerLines hheader).2.2
      · rcases List.mem_cons.mp hlater with rfl | hrest
        · rfl
        · exact ih hrest (List.mem_cons_of_mem _ hname)

omit h

/-- HELP and TYPE of a name, in front of everything else about it. -/
def DeclaredOnce (lines : List ExpositionLine) (name : Bytes) : Prop :=
  ∃ front text back, lines = front ++ .help name text :: .type name :: back ∧
    (∀ other ∈ front, other.name ≠ name) ∧
    ∀ other ∈ back, other.name = name → other.isSample = true

theorem DeclaredOnce.append {lines : List ExpositionLine} {name : Bytes}
    (h : DeclaredOnce lines name) {front : List ExpositionLine}
    (hfront : ∀ other ∈ front, other.name ≠ name) : DeclaredOnce (front ++ lines) name := by
  obtain ⟨front', text, back, rfl, hfront', hback⟩ := h
  refine ⟨front ++ front', text, back, (List.append_assoc _ _ _).symm, fun other hother => ?_, hback⟩
  exact (List.mem_append.mp hother).elim (hfront other) (hfront' other)

/-- A line whose name is not declared yet has HELP and TYPE in front. -/
theorem declaredOnce_expositionLines (h : line ∈ expositionLines row rest declared)
    (hname : line.name ∉ declared) :
    DeclaredOnce (expositionLines row rest declared) line.name := by
  induction rest generalizing declared with
  | nil => cases h
  | cons i rest ih =>
    rw [expositionLines] at h ⊢
    split at h
    · next hnan =>
      rw [if_pos hnan]
      exact ih h hname
    · next hnan =>
      rw [if_neg hnan]
      by_cases hsame : line.name = (prometheusName (registry.defs.get i)).1
      · rw [hsame] at hname ⊢
        rw [headerLines, if_neg hname]
        refine ⟨[], (registry.defs.get i).label, sampleLine row i :: expositionLines row rest
          ((prometheusName (registry.defs.get i)).1 :: declared), rfl, ?_, ?_⟩
        · intro other hother
          cases hother
        · intro other hother hothername
          rcases List.mem_cons.mp hother with rfl | hrest
          · rfl
          · exact isSample_of_declared row hrest (hothername ▸ List.mem_cons_self)
      · -- the lines of this metric are about another name
        have hfront : ∀ other ∈ headerLines (registry.defs.get i) declared ++ [sampleLine row i],
            other.name = (prometheusName (registry.defs.get i)).1 := by
          intro other hother
          rcases List.mem_append.mp hother with hheader | hsample
          · exact (name_headerLines hheader).1
          · rw [List.mem_singleton.mp hsample]
            rfl
        rw [List.append_cons] at h ⊢
        refine DeclaredOnce.append (ih ((List.mem_append.mp h).resolve_left fun hline =>
          hsame (hfront line hline)) ?_) fun other hother hline =>
            hsame (hline.symm.trans (hfront other hother))
        exact fun hmem => (List.mem_cons.mp hmem).elim hsame hname

end Lines

-- ════════════════════════════════════════════════════════════════════════
-- A good exposition
-- ════════════════════════════════════════════════════════════════════════

section Readable

theorem newline_notMem_of_isSafe {part : Bytes} (h : IsSafe part) : 10 ∉ part := fun hmem =>
  absurd (h 10 hmem) (by decide)

theorem newline_notMem_format7g (x : CFloat) : 10 ∉ (RenderArith.format7g x : Bytes) := fun hmem =>
  absurd (bytes_format7g x 10 hmem) (by decide)

theorem newline_notMem_header {name text : Bytes} (hname : 10 ∉ name) (htext : 10 ∉ text) :
    10 ∉ (ExpositionLine.help name text).text ∧ 10 ∉ (ExpositionLine.type name).text := by
  have hhelp : 10 ∉ ascii "# HELP " := by decide
  have htype : 10 ∉ ascii "# TYPE " := by decide
  have hspace : 10 ∉ ascii " " := by decide
  have hgauge : 10 ∉ ascii " gauge" := by decide
  simp [ExpositionLine.text, hname, htext, hhelp, htype, hspace, hgauge]

theorem newline_notMem_sample {name key label value : Bytes} (hname : 10 ∉ name)
    (hkey : 10 ∉ key) (hlabel : 10 ∉ label) (hvalue : 10 ∉ value) :
    10 ∉ (ExpositionLine.sample name key label value).text := by
  have hspace : 10 ∉ ascii " " := by decide
  have hopen : 10 ∉ ascii "\x7b" := by decide
  have hquote : 10 ∉ ascii "=\"" := by decide
  have hclose : 10 ∉ ascii "\"\x7d " := by decide
  rw [ExpositionLine.text]
  split
  · simp [hname, hvalue, hspace]
  · simp [hname, hkey, hlabel, hvalue, hopen, hquote, hclose]

variable {registry : MetricRegistry} (row : Row CFloat registry.count)
  (hformed : ∀ d ∈ registry.defs, Formed d.id d.unit)

include hformed

theorem isSeries_get (i : Fin registry.count) :
    IsSeries (prometheusName (registry.defs.get i)) := by
  have hmem : registry.defs.get i ∈ registry.defs := List.get_mem _ _
  rw [prometheusName_eq]
  exact (hformed _ hmem).isSeries (registry.defs.get i).id_lt

/-- A metric is known by the name and the label of its series. -/
theorem series_inj (hdistinct : registry.Distinct) {i j : Fin registry.count}
    (hname : (prometheusName (registry.defs.get i)).1 = (prometheusName (registry.defs.get j)).1)
    (hlabel : (prometheusName (registry.defs.get i)).2.2 =
      (prometheusName (registry.defs.get j)).2.2) : i = j := by
  have hi := (hformed _ (List.get_mem registry.defs i)).restoreSeries (registry.defs.get i).id_lt
  have hj := (hformed _ (List.get_mem registry.defs j)).restoreSeries (registry.defs.get j).id_lt
  rw [prometheusName_eq, prometheusName_eq] at hname hlabel
  rw [hname, hlabel, hj] at hi
  exact hdistinct hi.symm

/-- No line goes on behind a newline, where no label of a metric does. -/
theorem newline_notMem_text (hlabels : ∀ d ∈ registry.defs, 10 ∉ d.label)
    {rest : List (Fin registry.count)} {declared : List Bytes} {line : ExpositionLine}
    (h : line ∈ expositionLines row rest declared) : 10 ∉ line.text := by
  induction rest generalizing declared with
  | nil => cases h
  | cons i rest ih =>
    have hseries := isSeries_get hformed i
    have hname := newline_notMem_of_isSafe hseries.name.1
    have hhelp := hlabels _ (List.get_mem registry.defs i)
    rw [expositionLines] at h
    split at h
    · exact ih h
    · rcases List.mem_append.mp h with hheader | hlater
      · rw [headerLines] at hheader
        split at hheader
        · cases hheader
        · rcases List.mem_pair.mp hheader with rfl | rfl
          · exact (newline_notMem_header hname hhelp).1
          · exact (newline_notMem_header hname hhelp).2
      · rcases List.mem_cons.mp hlater with rfl | hrest
        · exact newline_notMem_sample hname (newline_notMem_of_isSafe hseries.labelKey)
            (newline_notMem_of_isSafe hseries.label) (newline_notMem_format7g _)
        · exact ih hrest

end Readable

/-- A good exposition of a row: the samples are the reporting, no two of them share a name and a
label, and each name is valid and declared once. -/
structure IsExposition {registry : MetricRegistry} (row : Row CFloat registry.count)
    (lines : List ExpositionLine) : Prop where
  samples : lines.filter ExpositionLine.isSample =
    (reporting row (List.finRange registry.count)).map (sampleLine row)
  distinct : ((lines.filter ExpositionLine.isSample).map fun line =>
    (line.name, line.label)).Nodup
  names : ∀ line ∈ lines,
    IsPrometheusName line.name ∧ line.name ≠ ascii "axis_device_info"
  declared : ∀ line ∈ lines, DeclaredOnce lines line.name

theorem isExposition_expositionLines {registry : MetricRegistry} (hdistinct : registry.Distinct)
    (hformed : ∀ d ∈ registry.defs, Formed d.id d.unit) (row : Row CFloat registry.count) :
    IsExposition row (expositionLines row (List.finRange registry.count) []) where
  samples := samples_expositionLines row _ []
  distinct := by
    have hnodup : (reporting row (List.finRange registry.count)).Nodup :=
      (List.nodup_finRange _).filter _
    rw [samples_expositionLines, List.map_map]
    refine hnodup.map fun i j hsame => ?_
    obtain ⟨hname, hlabel⟩ := Prod.mk.inj hsame
    exact series_inj hformed hdistinct hname hlabel
  names := by
    intro line hline
    obtain ⟨i, hi⟩ := name_expositionLines row hline
    have hname := (isSeries_get hformed i).name
    rw [hi]
    exact ⟨hname.isPrometheusName, hname.ne_deviceInfo⟩
  declared := fun line hline => declaredOnce_expositionLines row hline List.not_mem_nil

/-- What `api_prometheus_text` answers is a good exposition of the sample, behind the lines about
the device. Where no label of a metric has a newline, its lines are these lines. -/
theorem exposition_identity {api : Api CFloat Float} (hdistinct : api.registry.Distinct)
    (hformed : ∀ d ∈ api.registry.defs, Formed d.id d.unit)
    {row : Row CFloat api.registry.count} (hlatest : storeLatest api.store = some row) :
    ∃ lines, apiPrometheusText api =
        linesText (deviceInfoLines api.device ++ lines.map ExpositionLine.text) ∧
      IsExposition row lines ∧
      ((∀ d ∈ api.registry.defs, 10 ∉ d.label) → ∀ line ∈ lines, 10 ∉ line.text) :=
  ⟨expositionLines row (List.finRange api.registry.count) [], apiPrometheusText_eq hlatest,
    isExposition_expositionLines hdistinct hformed row,
    fun hlabels _ hline => newline_notMem_text row hformed hlabels hline⟩

/-- Two interfaces, the load of the processor and that of a core. -/
def exposedRegistry : MetricRegistry :=
  [(ascii "net.eth0.rx_bps", ascii "B/s"), (ascii "net.eth1.rx_bps", ascii "B/s"),
    (ascii "cpu.usage", ascii "%"), (ascii "cpu.core0.usage", ascii "%")].foldl
      (fun r metric => (r.metricsRegister metric.1 none (some metric.2) none).1) ⟨[]⟩

theorem length_exposedSerial_lt : (ascii "ACCC8E").length < 32 := by decide

/-- They read 1.5, and the second interface reads nothing. -/
def exposedApi : Api CFloat Float where
  registry := exposedRegistry
  store := { storeNew exposedRegistry 1 0 with
    latest := ⟨100, fun i => if (i : ℕ) = 1 then CFloat.nan else ⟨0x3fc00000⟩⟩
    hasLatest := true }
  selection := ⟨fun _ => []⟩
  device := ⟨⟨ascii "M1", ascii "ACCC8E", ascii "11", length_exposedSerial_lt⟩, [], [], [], [], []⟩
  appVersion := ascii "0.1.2"
  persistPath := none
  mqttStatus := ascii "disabled"
  influxStatus := ascii "disabled"
  started := 0

theorem formed_exposedRegistry : ∀ d ∈ exposedRegistry.defs, Formed d.id d.unit := by
  have heth0 : Formed (ascii "net.eth0.rx_bps") (ascii "B/s") := .iface (ascii "eth0") .rxBps
  have heth1 : Formed (ascii "net.eth1.rx_bps") (ascii "B/s") := .iface (ascii "eth1") .rxBps
  have hcpu : Formed (ascii "cpu.usage") (ascii "%") := .fixed .cpuUsage
  have hcore : Formed (ascii "cpu.core0.usage") (ascii "%") := .core 0 .usage
  have hdefs : exposedRegistry.defs.map (fun d => (d.id, d.unit)) =
      [(ascii "net.eth0.rx_bps", ascii "B/s"), (ascii "net.eth1.rx_bps", ascii "B/s"),
        (ascii "cpu.usage", ascii "%"), (ascii "cpu.core0.usage", ascii "%")] := by decide
  intro d hd
  have hmem : (d.id, d.unit) ∈ exposedRegistry.defs.map fun d => (d.id, d.unit) :=
    List.mem_map_of_mem hd
  rw [hdefs] at hmem
  simp only [List.mem_cons, Prod.mk.injEq, List.not_mem_nil, or_false] at hmem
  rcases hmem with ⟨hid, hunit⟩ | ⟨hid, hunit⟩ | ⟨hid, hunit⟩ | ⟨hid, hunit⟩ <;> rw [hid, hunit]
  · exact heth0
  · exact heth1
  · exact hcpu
  · exact hcore

theorem exposition_identity_exposed : ∃ lines, apiPrometheusText exposedApi =
    linesText (deviceInfoLines exposedApi.device ++ lines.map ExpositionLine.text) ∧
      IsExposition exposedApi.store.latest lines := by
  have hdistinct : exposedApi.registry.Distinct := by decide
  have hlatest : storeLatest exposedApi.store = some exposedApi.store.latest := rfl
  obtain ⟨lines, htext, hlines, -⟩ :=
    exposition_identity hdistinct formed_exposedRegistry hlatest
  exact ⟨lines, htext, hlines⟩

end AxisMetrics
