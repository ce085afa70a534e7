import AxisMetrics.Collect.Formed
import AxisMetrics.Lib.Suffixes
import AxisMetrics.Mqtt.Defs

/-!
# Object ids

`publish_discovery` writes an underscore for the dots of an id, which may have underscores anywhere
already. `restoreId` finds the dots again from the family and the quantity, so metrics with
different ids have different object ids (`objectId_ne`).
-/

namespace AxisMetrics

open Lib (Bytes ascii dotted isAlnum snprintf SuffixFree cutSuffix)

/-- An underscore for all that is not alphanumeric. -/
def underscored (text : Bytes) : Bytes := text.map fun c => if isAlnum c then c else 95

theorem underscored_append (a b : Bytes) : underscored (a ++ b) = underscored a ++ underscored b :=
  List.map_append

theorem IsSafe.underscored {part : Bytes} (h : IsSafe part) : underscored part = part := by
  refine (List.map_congr_left fun b hb => ?_).trans (List.map_id part)
  split
  · rfl
  · next hother => exact ((h b hb).resolve_left hother).symm

/-- Quantities with the underscore in front. -/
def quantityEndings (family : Bytes) : List Bytes := (quantities family).map (95 :: ·)

/-- No quantity of a family ends in an underscore and another one. -/
theorem suffixFree_quantityEndings (family : Bytes) : SuffixFree (quantityEndings family) := by
  unfold quantityEndings quantities
  split_ifs <;> decide

/-- The id that an object id was made of. -/
def restoreId (text : Bytes) : Bytes :=
  let family := text.takeWhile (· ≠ 95)
  let body := text.drop (family.length + 1)
  match cutSuffix (quantityEndings family) body with
  | none => dotted [family, body]
  | some (name, ending) => dotted [family, name, ending.tail]

theorem takeWhile_family {family : Bytes} (h : 95 ∉ family) (body : Bytes) :
    (family ++ 95 :: body).takeWhile (· ≠ 95) = family ∧
      (family ++ 95 :: body).drop (family.length + 1) = body := by
  constructor
  · rw [List.takeWhile_append_of_pos, List.takeWhile_cons_of_neg (by decide), List.append_nil]
    intro b hb
    rw [decide_eq_true_eq]
    rintro rfl
    exact h hb
  · rw [← List.singleton_append, ← List.append_assoc]
    exact List.drop_left' (by rw [List.length_append, List.length_singleton])

/-- A family without quantities has ids of two parts. -/
theorem restoreId_two {family name : Bytes} (hfamily : 95 ∉ family) (hsafe : IsSafe family)
    (hname : IsSafe name) (hnone : quantities family = []) :
    restoreId (underscored (dotted [family, name])) = dotted [family, name] := by
  obtain ⟨htake, hdrop⟩ := takeWhile_family hfamily name
  have htext : underscored (dotted [family, name]) = family ++ 95 :: name := by
    rw [Lib.dotted_two, underscored_append, hsafe.underscored]
    exact congrArg (family ++ 95 :: ·) hname.underscored
  rw [htext, restoreId, htake, hdrop, quantityEndings, hnone]
  rfl

theorem restoreId_three {family name quantity : Bytes} (hfamily : 95 ∉ family)
    (hsafe : IsSafe family) (hname : IsSafe name) (hquantity : IsSafe quantity)
    (hmem : quantity ∈ quantities family) :
    restoreId (underscored (dotted [family, name, quantity])) = dotted [family, name, quantity] := by
  obtain ⟨htake, hdrop⟩ := takeWhile_family hfamily (name ++ 95 :: quantity)
  have htext : underscored (dotted [family, name, quantity]) =
      family ++ 95 :: (name ++ 95 :: quantity) := by
    rw [Lib.dotted_three, underscored_append, hsafe.underscored]
    change family ++ 95 :: underscored (name ++ 46 :: quantity) = _
    rw [underscored_append, hname.underscored]
    exact congrArg (fun text => family ++ 95 :: (name ++ 95 :: text)) hquantity.underscored
  have hending : 95 :: quantity ∈ quantityEndings family := List.mem_map_of_mem hmem
  rw [htext, restoreId, htake, hdrop, (suffixFree_quantityEndings family).cutSuffix_append hending]
  rfl

theorem restoreId_fixed : ∀ f ∈ fixedMetrics,
    restoreId (underscored (ascii f.strings.1)) = ascii f.strings.1 := by
  decide

/-- The dots of every id that discovery forms can be found again. -/
theorem Formed.restoreId {id unit : Bytes} (h : Formed id unit) :
    restoreId (underscored id) = id := by
  cases h with
  | fixed f => exact restoreId_fixed f (mem_fixedMetrics f)
  | core core q =>
    exact restoreId_three (by decide) (by decide) (isSafe_coreName core) q.isSafe
      (by cases q <;> decide)
  | zone type =>
    exact restoreId_two (by decide) (by decide) (isSafe_sanitizeName _ _) (by decide)
  | iface name q =>
    exact restoreId_three (by decide) (by decide) (isSafe_sanitizeName _ _) q.isSafe
      (by cases q <;> decide)
  | disk name q =>
    exact restoreId_three (by decide) (by decide) (isSafe_sanitizeName _ _) q.isSafe
      (by cases q <;> decide)
  | mount mountpoint q =>
    exact restoreId_three (by decide) (by decide) (isSafe_sanitizeName _ _) q.isSafe
      (by cases q <;> decide)
  | sensor name =>
    exact restoreId_two (by decide) (by decide) (isSafe_sanitizeName _ _) (by decide)
  | poe port q =>
    exact restoreId_three (by decide) (by decide) (isSafe_portName port) q.isSafe
      (by cases q <;> decide)

/-- An id of a shape that discovery forms. -/
def IsFormed (id : Bytes) : Prop := ∃ unit, Formed id unit

/-- No buffer cuts an object id. -/
theorem objectId_eq (device : DeviceInfo) (d : MetricDef) :
    objectId device d = underscored device.serial ++ underscored (ascii "_") ++ underscored d.id := by
  have hserial := device.serial_lt
  have hid : d.id.length < 64 := d.id_lt
  rw [objectId, Lib.snprintf_eq_self, ← underscored_append, ← underscored_append]
  · rfl
  · rw [List.length_append, List.length_append, show (ascii "_").length = 1 from rfl]
    omega

/-- Nor a topic. -/
theorem configTopic_objectId (device : DeviceInfo) (d : MetricDef) :
    configTopic (objectId device d) =
      ascii "homeassistant/sensor/" ++ objectId device d ++ ascii "/config" := by
  have hserial := device.serial_lt
  have hid : d.id.length < 64 := d.id_lt
  refine Lib.snprintf_eq_self ?_
  rw [objectId_eq]
  simp only [List.length_append, underscored, List.length_map,
    show (ascii "homeassistant/sensor/").length = 21 from rfl,
    show (ascii "/config").length = 7 from rfl, show (ascii "_").length = 1 from rfl]
  omega

theorem objectId_inj {device : DeviceInfo} {d d' : MetricDef} (h : IsFormed d.id)
    (h' : IsFormed d'.id) (hsame : objectId device d = objectId device d') : d.id = d'.id := by
  rw [objectId_eq, objectId_eq] at hsame
  obtain ⟨unit, h⟩ := h
  obtain ⟨unit', h'⟩ := h'
  rw [← h.restoreId, List.append_cancel_left hsame, h'.restoreId]

/-- Metrics of a registry with distinct ids, each as discovery forms it, have different object ids,
topics of their configs and unique ids, whatever the serial number is. -/
theorem objectId_ne {registry : MetricRegistry} (hdistinct : registry.Distinct)
    (hformed : ∀ d ∈ registry.defs, IsFormed d.id) (device : DeviceInfo)
    {i j : Fin registry.count} (hij : i ≠ j) :
    objectId device (registry.defs.get i) ≠ objectId device (registry.defs.get j) ∧
    configTopic (objectId device (registry.defs.get i)) ≠
      configTopic (objectId device (registry.defs.get j)) ∧
    ascii "axis_" ++ objectId device (registry.defs.get i) ≠
      ascii "axis_" ++ objectId device (registry.defs.get j) := by
  have hne : objectId device (registry.defs.get i) ≠ objectId device (registry.defs.get j) := by
    intro hsame
    exact hij (hdistinct (objectId_inj (hformed _ (List.get_mem _ _)) (hformed _ (List.get_mem _ _))
      hsame))
  refine ⟨hne, fun htopic => hne ?_, fun hunique => hne (List.append_cancel_left hunique)⟩
  rw [configTopic_objectId, configTopic_objectId] at htopic
  exact List.append_cancel_left (List.append_cancel_right htopic)

/-- Names that imitate the quantities of each other. -/
def rivalRegistry : MetricRegistry :=
  .registerAll [ascii "net.eth0.rx_bps", ascii "net.eth0_rx_bps.link", ascii "net.eth0_rx.up",
    ascii "cpu.usage"]

theorem isFormed_rivalRegistry : ∀ d ∈ rivalRegistry.defs, IsFormed d.id := by
  have hids : rivalRegistry.defs.map MetricDef.id = [ascii "net.eth0.rx_bps",
      ascii "net.eth0_rx_bps.link", ascii "net.eth0_rx.up", ascii "cpu.usage"] := by decide
  intro d hd
  have hmem : d.id ∈ rivalRegistry.defs.map MetricDef.id := List.mem_map_of_mem hd
  rw [hids] at hmem
  simp only [List.mem_cons, List.not_mem_nil, or_false] at hmem
  rcases hmem with hid | hid | hid | hid <;> rw [hid]
  · exact ⟨_, .iface (ascii "eth0") .rxBps⟩
  · exact ⟨_, .iface (ascii "eth0_rx_bps") .link⟩
  · exact ⟨_, .iface (ascii "eth0_rx") .up⟩
  · exact ⟨_, .fixed .cpuUsage⟩

theorem one_lt_rivals : 1 < rivalRegistry.count := by decide

/-- The receive rate of `eth0`. -/
def rateOfEth0 : Fin rivalRegistry.count := ⟨0, Nat.zero_lt_of_lt one_lt_rivals⟩

/-- The link speed of `eth0_rx_bps`. -/
def linkOfRival : Fin rivalRegistry.count := ⟨1, one_lt_rivals⟩

theorem length_rivalSerial_lt : (ascii "AC_CC-8E").length < 32 := by decide

def rivalDevice : DeviceInfo := ⟨ascii "M1", ascii "AC_CC-8E", ascii "11", length_rivalSerial_lt⟩

/-- One object id begins with the other, and they differ all the same. -/
theorem objectId_ne_rivals :
    objectId rivalDevice (rivalRegistry.defs.get rateOfEth0) = ascii "AC_CC_8E_net_eth0_rx_bps" ∧
    objectId rivalDevice (rivalRegistry.defs.get linkOfRival) =
      ascii "AC_CC_8E_net_eth0_rx_bps_link" ∧
    objectId rivalDevice (rivalRegistry.defs.get rateOfEth0) ≠
      objectId rivalDevice (rivalRegistry.defs.get linkOfRival) ∧
    configTopic (objectId rivalDevice (rivalRegistry.defs.get rateOfEth0)) ≠
      configTopic (objectId rivalDevice (rivalRegistry.defs.get linkOfRival)) ∧
    ascii "axis_" ++ objectId rivalDevice (rivalRegistry.defs.get rateOfEth0) ≠
      ascii "axis_" ++ objectId rivalDevice (rivalRegistry.defs.get linkOfRival) :=
  ⟨by decide, by decide, objectId_ne (by decide) isFormed_rivalRegistry rivalDevice (by decide)⟩

end AxisMetrics
