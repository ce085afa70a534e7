import AxisMetrics.Api.Prometheus
import AxisMetrics.Collect.Formed
import AxisMetrics.Lib.Suffixes

/-!
# Names and labels of series

`prometheus_name` writes ids of two and of three parts by different rules, and puts the unit behind.
`restoreSeries` finds the id again, so no two metrics that discovery forms share a name and a label.
-/

namespace AxisMetrics

open Lib (Bytes ascii dotted decimal isAlnum isDigit snprintf strlcpy strsplit cutSuffix)

/-- `prometheusName`, of an id and a unit. -/
def seriesOf (id unit : Bytes) : Bytes × Bytes × Bytes :=
  match strsplit 46 id with
  | [family, device, leaf] =>
    if family = ascii "cpu" ∧ ascii "core" <+: device then
      (snprintf 160 (ascii "axis_cpu_core_" ++ leaf ++ unitSuffix unit),
        strlcpy 32 (labelKeyFor family), strlcpy 96 (device.drop 4))
    else
      (snprintf 160 (ascii "axis_" ++ family ++ ascii "_" ++ leaf ++ unitSuffix unit),
        strlcpy 32 (labelKeyFor family), strlcpy 96 device)
  | parts =>
    (snprintf 160 (ascii "axis_" ++ (ascii "_").intercalate parts ++ unitSuffix unit), [], [])

theorem prometheusName_eq (d : MetricDef) : prometheusName d = seriesOf d.id d.unit := rfl

theorem length_unitSuffix_le (unit : Bytes) : (unitSuffix unit).length ≤ 21 := by
  unfold unitSuffix
  split_ifs <;> decide

theorem isSafe_unitSuffix (unit : Bytes) : IsSafe (unitSuffix unit) := by
  unfold unitSuffix
  split_ifs <;> decide

theorem IsSafe.zero_notMem {part : Bytes} (h : IsSafe part) : 0 ∉ part := fun hzero =>
  absurd (h 0 hzero) (by decide)

-- ════════════════════════════════════════════════════════════════════════
-- What the buffers hold
-- ════════════════════════════════════════════════════════════════════════

section Series

variable {family name leaf unit : Bytes} (hfamily : IsSafe family) (hname : IsSafe name)
  (hleaf : IsSafe leaf)

include hfamily hname

theorem strsplit_two : strsplit 46 (dotted [family, name]) = [family, name] := by
  have hne : dotted [family, name] ≠ [] := by simp [Lib.dotted_two]
  rw [strsplit, if_neg hne, Lib.splitOn_dotted (List.cons_ne_nil _ _)]
  simp [hfamily.dot_notMem, hname.dot_notMem]

theorem seriesOf_two (hlength : (dotted [family, name]).length < METRIC_ID_MAX) :
    seriesOf (dotted [family, name]) unit =
      (ascii "axis_" ++ family ++ 95 :: name ++ unitSuffix unit, [], []) := by
  have hunit := length_unitSuffix_le unit
  rw [METRIC_ID_MAX, Lib.dotted_two, List.length_append, List.length_cons] at hlength
  have htext : ascii "axis_" ++ (ascii "_").intercalate [family, name] ++ unitSuffix unit =
      ascii "axis_" ++ family ++ 95 :: name ++ unitSuffix unit := by
    rw [List.intercalate_cons_cons, List.intercalate_singleton, List.append_assoc family,
      ← List.append_assoc (ascii "axis_")]
    rfl
  rw [seriesOf, strsplit_two hfamily hname]
  dsimp only
  rw [htext, Lib.snprintf_eq_self]
  simp only [List.length_append, List.length_cons, show (ascii "axis_").length = 5 from rfl]
  omega

include hleaf

theorem strsplit_three :
    strsplit 46 (dotted [family, name, leaf]) = [family, name, leaf] := by
  have hne : dotted [family, name, leaf] ≠ [] := by simp [Lib.dotted_three]
  rw [strsplit, if_neg hne, Lib.splitOn_dotted (List.cons_ne_nil _ _)]
  simp [hfamily.dot_notMem, hname.dot_notMem, hleaf.dot_notMem]

theorem seriesOf_three (hcpu : family ≠ ascii "cpu")
    (hlength : (dotted [family, name, leaf]).length < METRIC_ID_MAX) :
    seriesOf (dotted [family, name, leaf]) unit =
      (ascii "axis_" ++ family ++ 95 :: leaf ++ unitSuffix unit,
        strlcpy 32 (labelKeyFor family), name) := by
  have hunit := length_unitSuffix_le unit
  rw [METRIC_ID_MAX, Lib.dotted_three, List.length_append, List.length_cons, List.length_append,
    List.length_cons] at hlength
  have htext : ascii "axis_" ++ family ++ ascii "_" ++ leaf ++ unitSuffix unit =
      ascii "axis_" ++ family ++ 95 :: leaf ++ unitSuffix unit := by
    rw [List.append_assoc (ascii "axis_" ++ family)]
    rfl
  rw [seriesOf, strsplit_three hfamily hname hleaf]
  dsimp only
  rw [if_neg fun h => hcpu h.1, htext, Lib.snprintf_eq_self,
    Lib.strlcpy_eq_self hname.zero_notMem (by omega)]
  simp only [List.length_append, List.length_cons, show (ascii "axis_").length = 5 from rfl]
  omega

end Series

theorem seriesOf_core (core : ℕ) {leaf unit : Bytes} (hleaf : IsSafe leaf)
    (hlength : (dotted [ascii "cpu", coreName core, leaf]).length < METRIC_ID_MAX) :
    seriesOf (dotted [ascii "cpu", coreName core, leaf]) unit =
      (ascii "axis_cpu_core_" ++ leaf ++ unitSuffix unit, ascii "core", decimal core) := by
  have hunit := length_unitSuffix_le unit
  rw [METRIC_ID_MAX, Lib.dotted_three, coreName] at hlength
  simp only [List.length_append, List.length_cons] at hlength
  have hprefix : ascii "core" <+: coreName core := List.prefix_append _ _
  have hdrop : (coreName core).drop 4 = decimal core := List.drop_left' rfl
  have hkey : strlcpy 32 (labelKeyFor (ascii "cpu")) = ascii "core" := by decide
  rw [seriesOf, strsplit_three (by decide) (isSafe_coreName core) hleaf]
  dsimp only
  rw [if_pos ⟨rfl, hprefix⟩, hdrop, hkey, Lib.snprintf_eq_self,
    Lib.strlcpy_eq_self (isSafe_decimal core).zero_notMem (by omega)]
  simp only [List.length_append, show (ascii "axis_cpu_core_").length = 14 from rfl]
  omega

-- ════════════════════════════════════════════════════════════════════════
-- From the series back to the id
-- ════════════════════════════════════════════════════════════════════════

/-- The endings that stand for units. -/
def unitEndings : List Bytes :=
  [ascii "_percent", ascii "_bytes", ascii "_bytes_per_second", ascii "_celsius",
    ascii "_megahertz", ascii "_megabits_per_second", ascii "_seconds", ascii "_per_second"]

/-- The quantities of a family, each with what stands behind the family in its name. -/
def seriesNames (family : Bytes) : List (Bytes × Bytes) :=
  if family = ascii "cpu" then CollectorSlots.coreFields.map fun q =>
    (ascii q.strings.1, ascii "core_" ++ ascii q.strings.1 ++ unitSuffix (ascii q.strings.2.2))
  else if family = ascii "net" then CollectorSlots.ifaceFields.map fun q =>
    (ascii q.strings.1, ascii q.strings.1 ++ unitSuffix (ascii q.strings.2.2))
  else if family = ascii "disk" then CollectorSlots.diskFields.map fun q =>
    (ascii q.strings.1, ascii q.strings.1 ++ unitSuffix (ascii q.strings.2.2))
  else if family = ascii "fs" then CollectorSlots.mountFields.map fun q =>
    (ascii q.strings.1, ascii q.strings.1 ++ unitSuffix (ascii q.strings.2.2))
  else if family = ascii "poe" then CollectorSlots.poeFields.map fun q =>
    (ascii q.strings.1, ascii q.strings.1 ++ unitSuffix (ascii q.strings.2.2))
  else []

/-- The family in a name. -/
def seriesFamily (name : Bytes) : Bytes := (name.drop 5).takeWhile (· ≠ 95)

/-- What is behind the family. -/
def seriesBody (name : Bytes) : Bytes := name.drop (6 + (seriesFamily name).length)

/-- The id of a series. A label may be empty where a device has no name. -/
def restoreSeries (name label : Bytes) : Bytes :=
  let family := seriesFamily name
  let body := seriesBody name
  if label ≠ [] ∨ family = ascii "net" ∨ family = ascii "disk" ∨ family = ascii "fs" then
    dotted [family, if family = ascii "cpu" then ascii "core" ++ label else label,
      (((seriesNames family).find? fun entry => entry.2 = body).map Prod.fst).getD []]
  else dotted [family, ((cutSuffix unitEndings body).map Prod.fst).getD body]

theorem seriesFamily_eq {family : Bytes} (h : 95 ∉ family) (body : Bytes) :
    seriesFamily (ascii "axis_" ++ family ++ 95 :: body) = family ∧
      seriesBody (ascii "axis_" ++ family ++ 95 :: body) = body := by
  have htake : seriesFamily (ascii "axis_" ++ family ++ 95 :: body) = family := by
    have hdrop : (ascii "axis_" ++ (family ++ 95 :: body)).drop 5 = family ++ 95 :: body :=
      List.drop_left' rfl
    rw [seriesFamily, List.append_assoc, hdrop, List.takeWhile_append_of_pos,
      List.takeWhile_cons_of_neg (by decide), List.append_nil]
    intro b hb
    rw [decide_eq_true_eq]
    rintro rfl
    exact h hb
  refine ⟨htake, ?_⟩
  rw [seriesBody, htake, ← List.singleton_append, ← List.append_assoc]
  refine List.drop_left' ?_
  rw [List.length_append, List.length_append, List.length_singleton,
    show (ascii "axis_").length = 5 from rfl]
  omega

/-- A series with a label, or of a family of devices only. -/
theorem restoreSeries_three {family leaf body label : Bytes} (hfamily : 95 ∉ family)
    (hcpu : family ≠ ascii "cpu")
    (hdevice : label ≠ [] ∨ family = ascii "net" ∨ family = ascii "disk" ∨ family = ascii "fs")
    (hleaf : (((seriesNames family).find? fun entry => entry.2 = body).map Prod.fst) = some leaf) :
    restoreSeries (ascii "axis_" ++ family ++ 95 :: body) label = dotted [family, label, leaf] := by
  obtain ⟨htake, hbody⟩ := seriesFamily_eq hfamily body
  rw [restoreSeries, htake, hbody, if_pos hdevice, if_neg hcpu, hleaf, Option.getD_some]

theorem restoreSeries_core {leaf body label : Bytes} (hlabel : label ≠ [])
    (hleaf : (((seriesNames (ascii "cpu")).find? fun entry => entry.2 = body).map Prod.fst) =
      some leaf) :
    restoreSeries (ascii "axis_cpu_" ++ body) label =
      dotted [ascii "cpu", ascii "core" ++ label, leaf] := by
  have hcpu : 95 ∉ ascii "cpu" := by decide
  obtain ⟨htake, hbody⟩ := seriesFamily_eq hcpu body
  have hname : ascii "axis_cpu_" ++ body = ascii "axis_" ++ ascii "cpu" ++ 95 :: body := rfl
  rw [hname, restoreSeries, htake, hbody, if_pos (Or.inl hlabel), if_pos rfl, hleaf,
    Option.getD_some]

/-- A temperature: the unit is cut off again. -/
theorem restoreSeries_celsius {family : Bytes} (hfamily : 95 ∉ family)
    (hdevice : ¬ (family = ascii "net" ∨ family = ascii "disk" ∨ family = ascii "fs"))
    (name : Bytes) :
    restoreSeries (ascii "axis_" ++ family ++ 95 :: name ++ unitSuffix (ascii "C")) [] =
      dotted [family, name] := by
  have hcelsius : unitSuffix (ascii "C") = ascii "_celsius" := by decide
  obtain ⟨htake, hbody⟩ := seriesFamily_eq hfamily (name ++ ascii "_celsius")
  have hcut : cutSuffix unitEndings (name ++ ascii "_celsius") = some (name, ascii "_celsius") :=
    Lib.cutSuffix_append (by decide) (by decide) name
  have hnone : ¬ (([] : Bytes) ≠ [] ∨ family = ascii "net" ∨ family = ascii "disk" ∨
      family = ascii "fs") := not_or.mpr ⟨fun h => h rfl, hdevice⟩
  rw [hcelsius, List.append_assoc, List.cons_append, restoreSeries, htake, hbody, if_neg hnone, hcut]
  rfl

theorem restoreSeries_fixed : ∀ f ∈ fixedMetrics,
    restoreSeries (seriesOf (ascii f.strings.1) (ascii f.strings.2.2.1)).1
      (seriesOf (ascii f.strings.1) (ascii f.strings.2.2.1)).2.2 = ascii f.strings.1 := by
  decide

/-- The id of every metric that discovery forms can be found again from its name and label. -/
theorem Formed.restoreSeries {id unit : Bytes} (h : Formed id unit)
    (hlength : id.length < METRIC_ID_MAX) :
    restoreSeries (seriesOf id unit).1 (seriesOf id unit).2.2 = id := by
  cases h with
  | fixed f => exact restoreSeries_fixed f (mem_fixedMetrics f)
  | core core q =>
    rw [seriesOf_core core q.isSafe hlength]
    exact restoreSeries_core (Lib.decimal_ne_nil core) (by cases q <;> decide)
  | zone type =>
    rw [seriesOf_two (by decide) (isSafe_sanitizeName _ _) hlength]
    exact restoreSeries_celsius (by decide) (by decide) _
  | iface name q =>
    rw [seriesOf_three (by decide) (isSafe_sanitizeName _ _) q.isSafe (by decide) hlength,
      List.append_assoc, List.cons_append]
    exact restoreSeries_three (by decide) (by decide) (Or.inr (by decide)) (by cases q <;> decide)
  | disk name q =>
    rw [seriesOf_three (by decide) (isSafe_sanitizeName _ _) q.isSafe (by decide) hlength,
      List.append_assoc, List.cons_append]
    exact restoreSeries_three (by decide) (by decide) (Or.inr (by decide)) (by cases q <;> decide)
  | mount mountpoint q =>
    have hname : IsSafe (mountName mountpoint) := isSafe_sanitizeName _ _
    rw [seriesOf_three (by decide) hname q.isSafe (by decide) hlength, List.append_assoc,
      List.cons_append]
    exact restoreSeries_three (by decide) (by decide) (Or.inr (by decide)) (by cases q <;> decide)
  | sensor name =>
    rw [seriesOf_two (by decide) (isSafe_sanitizeName _ _) hlength]
    exact restoreSeries_celsius (by decide) (by decide) _
  | poe port q =>
    rw [seriesOf_three (by decide) (isSafe_portName port) q.isSafe (by decide) hlength,
      List.append_assoc, List.cons_append]
    exact restoreSeries_three (by decide) (by decide)
      (Or.inl (List.append_ne_nil_of_left_ne_nil (by decide) _)) (by cases q <;> decide)

-- ════════════════════════════════════════════════════════════════════════
-- Names that a scraper takes
-- ════════════════════════════════════════════════════════════════════════

/-- Names of letters, digits, underscores and colons, with no digit in front. -/
def IsPrometheusName (name : Bytes) : Prop :=
  (∃ b ∈ name.head?, isDigit b = false) ∧ ∀ b ∈ name, isAlnum b = true ∨ b = 95 ∨ b = 58

/-- The names of series: they are safe, and no name of the device. -/
def IsSeriesName (name : Bytes) : Prop :=
  IsSafe name ∧ ascii "axis_" <+: name ∧ seriesFamily name ≠ ascii "device"

instance (name : Bytes) : Decidable (IsSeriesName name) :=
  inferInstanceAs (Decidable (_ ∧ _ ∧ _))

theorem IsSeriesName.isPrometheusName {name : Bytes} (h : IsSeriesName name) :
    IsPrometheusName name := by
  obtain ⟨hsafe, ⟨body, rfl⟩, -⟩ := h
  exact ⟨⟨97, rfl, by decide⟩, fun b hb => (hsafe b hb).imp_right Or.inl⟩

theorem IsSeriesName.ne_deviceInfo {name : Bytes} (h : IsSeriesName name) :
    name ≠ ascii "axis_device_info" := by
  rintro rfl
  exact h.2.2 (by decide)

theorem isSeriesName_append {family body : Bytes} (hfamily : IsSafe family)
    (hunderscore : 95 ∉ family) (hdevice : family ≠ ascii "device") (hbody : IsSafe body) :
    IsSeriesName (ascii "axis_" ++ family ++ 95 :: body) := by
  have haxis : IsSafe (ascii "axis_") := by decide
  refine ⟨(haxis.append hfamily).append ?_, ?_, ?_⟩
  · exact IsSafe.append (a := [95]) (by decide) hbody
  · rw [List.append_assoc]
    exact List.prefix_append _ _
  · rw [(seriesFamily_eq hunderscore body).1]
    exact hdevice

/-- A name of three parts, or of two with the unit behind. -/
theorem isSeriesName_unit {family name : Bytes} (hfamily : IsSafe family)
    (hunderscore : 95 ∉ family) (hdevice : family ≠ ascii "device") (hname : IsSafe name)
    (unit : Bytes) : IsSeriesName (ascii "axis_" ++ family ++ 95 :: name ++ unitSuffix unit) := by
  rw [List.append_assoc, List.cons_append]
  exact isSeriesName_append hfamily hunderscore hdevice (hname.append (isSafe_unitSuffix unit))

theorem isSafe_nil : IsSafe [] := fun b hb => by cases hb

/-- A series whose name, key and label a scraper takes. -/
structure IsSeries (series : Bytes × Bytes × Bytes) : Prop where
  name : IsSeriesName series.1
  labelKey : IsSafe series.2.1
  label : IsSafe series.2.2

theorem isSeries_fixed : ∀ f ∈ fixedMetrics,
    IsSeriesName (seriesOf (ascii f.strings.1) (ascii f.strings.2.2.1)).1 ∧
      (seriesOf (ascii f.strings.1) (ascii f.strings.2.2.1)).2 = ([], []) := by
  decide

section Series

variable {family name leaf unit : Bytes} (hfamily : IsSafe family) (hunderscore : 95 ∉ family)
  (hdevice : family ≠ ascii "device") (hname : IsSafe name)

include hfamily hunderscore hdevice hname

theorem isSeries_two (hlength : (dotted [family, name]).length < METRIC_ID_MAX) :
    IsSeries (seriesOf (dotted [family, name]) unit) := by
  rw [seriesOf_two hfamily hname hlength]
  exact ⟨isSeriesName_unit hfamily hunderscore hdevice hname unit, isSafe_nil, isSafe_nil⟩

theorem isSeries_three (hleaf : IsSafe leaf) (hcpu : family ≠ ascii "cpu")
    (hlength : (dotted [family, name, leaf]).length < METRIC_ID_MAX) :
    IsSeries (seriesOf (dotted [family, name, leaf]) unit) := by
  have hkey : IsSafe (strlcpy 32 (labelKeyFor family)) := by
    unfold labelKeyFor
    split_ifs <;> decide
  rw [seriesOf_three hfamily hname hleaf hcpu hlength]
  exact ⟨isSeriesName_unit hfamily hunderscore hdevice hleaf unit, hkey, hname⟩

end Series

theorem Formed.isSeries {id unit : Bytes} (h : Formed id unit)
    (hlength : id.length < METRIC_ID_MAX) : IsSeries (seriesOf id unit) := by
  cases h with
  | fixed f =>
    obtain ⟨hname, hlabel⟩ := isSeries_fixed f (mem_fixedMetrics f)
    refine ⟨hname, ?_, ?_⟩
    · rw [hlabel]
      exact isSafe_nil
    · rw [hlabel]
      exact isSafe_nil
  | core core q =>
    rw [seriesOf_core core q.isSafe hlength]
    have hkey : IsSafe (ascii "core") := by decide
    have hcpu : IsSafe (ascii "cpu") := by decide
    have hbody : IsSafe (ascii "core_" ++ ascii q.strings.1) := IsSafe.append (by decide) q.isSafe
    exact ⟨isSeriesName_append hcpu (by decide) (by decide)
      (hbody.append (isSafe_unitSuffix _)), hkey, isSafe_decimal core⟩
  | zone type =>
    exact isSeries_two (by decide) (by decide) (by decide) (isSafe_sanitizeName _ _) hlength
  | iface name q =>
    exact isSeries_three (by decide) (by decide) (by decide) (isSafe_sanitizeName _ _) q.isSafe
      (by decide) hlength
  | disk name q =>
    exact isSeries_three (by decide) (by decide) (by decide) (isSafe_sanitizeName _ _) q.isSafe
      (by decide) hlength
  | mount mountpoint q =>
    exact isSeries_three (by decide) (by decide) (by decide) (isSafe_sanitizeName _ _) q.isSafe
      (by decide) hlength
  | sensor name =>
    exact isSeries_two (by decide) (by decide) (by decide) (isSafe_sanitizeName _ _) hlength
  | poe port q =>
    exact isSeries_three (by decide) (by decide) (by decide) (isSafe_portName port) q.isSafe
      (by decide) hlength

end AxisMetrics
