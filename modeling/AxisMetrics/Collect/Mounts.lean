import AxisMetrics.Collect.Found
import AxisMetrics.Lib.Keyed
import AxisMetrics.Persist.Opening

/-!
# Storage that comes and goes

`collector_mounts_changed` counts the interesting devices of the mount table as `discover_mounts`
did, and compares the two numbers. So it sees every change of the devices but one in which as many
come as go (`storageNoticed_iff`).
-/

namespace AxisMetrics

open Lib (Bytes ascii strlcpy firstsBy came)

namespace Machine

/-- The devices of the interesting mounts, each once. -/
def mountDevices (m : Machine) : List Bytes := m.mountsFound.map MountEntry.device

/-- The loop of `collector_mounts_changed`, with the devices seen so far. -/
def seenDevices (seen : List Bytes) : List MountEntry → List Bytes
  | [] => seen
  | entry :: rest =>
    if MAX_MOUNTS ≤ seen.length then seen
    else if mountIsInteresting entry = false then seenDevices seen rest
    else if entry.device ∈ seen then seenDevices seen rest
    else seenDevices (seen ++ [strlcpy 128 entry.device]) rest

end Machine

open Machine (MountEntry mountEntries mountIsInteresting seenDevices)

/-- `collector_mounts_changed`. -/
def collectorMountsChanged (c : CollectorSlots) (m : Machine) : Bool :=
  match m.file (ascii "/proc/mounts") with
  | none => false
  | some text => (seenDevices [] (mountEntries text.length text)).length ≠ c.mounts.length

/-- What `try_open_persistence` does first: it asks whether the mounts have changed, and goes on to
open the files if they have not. -/
def attemptAt (c : CollectorSlots) (m : Machine) (results : Fin STORE_TIERS → Option StorageBase)
    (sampleIntervalS memory : ℕ) (next : Attempt) : Attempt :=
  if collectorMountsChanged c m then
    .changed (CollectorSlots.discover m).discovery.registry sampleIntervalS memory next
  else .opens results

/-- `discover_mounts` has registered the metrics of a mount of the device. -/
def HasMountMetrics (found : Machine) (device : Bytes) : Prop :=
  ∃ entry ∈ found.mountsFound, entry.device = device ∧
    ∀ q, ∃ i, (CollectorSlots.discover found).discovery.Has (.mount entry.mountpoint q) i

/-- The history is only opened without a rebuild where every device has its metrics, and a table with
other devices is a change. -/
structure StorageNoticed (found later : Machine) : Prop where
  covered : ∀ results sampleIntervalS memory next,
    attemptAt (.discover found) later results sampleIntervalS memory next = .opens results →
    ∀ entry ∈ later.mountsFound, HasMountMetrics found entry.device
  noticed : later.file (ascii "/proc/mounts") ≠ none →
    (∃ device, ¬ (device ∈ later.mountDevices ↔ device ∈ found.mountDevices)) →
    collectorMountsChanged (.discover found) later = true

/-- No device has come, or not as many as have gone. -/
def CountTells (found later : Machine) : Prop :=
  came found.mountDevices later.mountDevices = [] ∨
    (came found.mountDevices later.mountDevices).length ≠
      (came later.mountDevices found.mountDevices).length

-- ════════════════════════════════════════════════════════════════════════
-- The two loops
-- ════════════════════════════════════════════════════════════════════════

variable {m found later : Machine}

/-- A device that was scanned fits the buffer it is copied to. -/
theorem strlcpy_device {n : ℕ} {text : Bytes} {entry : MountEntry}
    (h : entry ∈ mountEntries n text) : strlcpy 128 entry.device = entry.device := by
  obtain ⟨before, rest, hscan⟩ := Machine.exists_scanMount h
  simp only [Machine.scanMount, Option.bind_eq_bind, Option.bind_eq_some_iff,
    Option.pure_def] at hscan
  obtain ⟨⟨word, _⟩, hword, _, _, _, _, _, _, hpair⟩ := hscan
  obtain ⟨rfl, -⟩ := Prod.mk.inj (Option.some.inj hpair)
  have hlength := Lib.length_le_of_scanWord hword
  have hprefix := (Lib.cString_prefix word).length_le
  refine Lib.strlcpy_eq_self (Lib.zero_notMem_cString _) ?_
  dsimp only
  omega

/-- Both loops keep the first interesting mount of each device, as long as there is room. -/
theorem seenDevices_eq {entries : List MountEntry} (seen : List MountEntry)
    (hroom : seen.length ≤ MAX_MOUNTS)
    (hdevices : ∀ entry ∈ entries, strlcpy 128 entry.device = entry.device) :
    seenDevices (seen.map MountEntry.device) entries =
      ((firstsBy MountEntry.device seen (entries.filter mountIsInteresting)).take MAX_MOUNTS).map
        MountEntry.device := by
  induction entries generalizing seen with
  | nil => exact congrArg (List.map MountEntry.device) (List.take_of_length_le hroom).symm
  | cons entry rest ih =>
    obtain ⟨hentry, hrest⟩ := List.forall_mem_cons.mp hdevices
    rw [seenDevices, List.length_map]
    by_cases hfull : MAX_MOUNTS ≤ seen.length
    · rw [if_pos hfull]
      have hlength : seen.length = MAX_MOUNTS := le_antisymm hroom hfull
      -- what the table has room for is there already
      obtain ⟨more, hmore⟩ := Lib.prefix_firstsBy MountEntry.device seen
        ((entry :: rest).filter mountIsInteresting)
      rw [← hmore, ← hlength, List.take_left]
    · rw [if_neg hfull]
      by_cases hplain : mountIsInteresting entry = false
      · rw [if_pos hplain, ih seen hroom hrest, List.filter_cons_of_neg (by simp [hplain])]
      · rw [if_neg hplain, List.filter_cons_of_pos (by simpa using hplain), Lib.firstsBy_cons]
        by_cases hseen : entry.device ∈ seen.map MountEntry.device
        · rw [if_pos hseen, if_pos hseen, ih seen hroom hrest]
        · rw [if_neg hseen, if_neg hseen, hentry, ← ih _ _ hrest, List.map_append]
          · rfl
          · rw [List.length_append, List.length_singleton]
            omega

theorem mountsFound_eq (m : Machine) : m.mountsFound =
    (firstsBy MountEntry.device [] ((mountEntries ((m.file (ascii "/proc/mounts")).getD []).length
      ((m.file (ascii "/proc/mounts")).getD [])).filter mountIsInteresting)).take MAX_MOUNTS := rfl

theorem nodup_mountDevices (m : Machine) : m.mountDevices.Nodup := by
  rw [Machine.mountDevices, mountsFound_eq, List.map_take]
  have hnodup : (([] : List MountEntry).map MountEntry.device).Nodup := List.nodup_nil
  exact (Lib.nodup_firstsBy hnodup _).sublist (List.take_sublist _ _)

/-- One mount is kept for each device that was found. -/
theorem length_mounts_discover (found : Machine) :
    (CollectorSlots.discover found).mounts.length = found.mountDevices.length := by
  have hmounts : (CollectorSlots.discover found).mounts.map Mount.mountpoint =
      found.mountpoints.map (strlcpy 128) :=
    CollectorSlots.map_regDevices fun entry => rfl
  have hlength := congrArg List.length hmounts
  rwa [List.length_map, List.length_map, Machine.mountpoints, List.length_map,
    ← List.length_map (f := MountEntry.device)] at hlength

/-- It compares how many devices there are. -/
theorem collectorMountsChanged_iff (found : Machine)
    (hfile : later.file (ascii "/proc/mounts") ≠ none) :
    collectorMountsChanged (.discover found) later = true ↔
      later.mountDevices.length ≠ found.mountDevices.length := by
  obtain ⟨text, htext⟩ := Option.ne_none_iff_exists'.mp hfile
  have hseen : seenDevices [] (mountEntries text.length text) = later.mountDevices := by
    rw [Machine.mountDevices, mountsFound_eq, htext, Option.getD_some]
    exact seenDevices_eq [] (Nat.zero_le _) fun entry hentry => strlcpy_device hentry
  rw [collectorMountsChanged, htext]
  dsimp only
  rw [hseen, length_mounts_discover, decide_eq_true_eq]

theorem mountDevices_of_unreadable (hfile : m.file (ascii "/proc/mounts") = none) :
    m.mountDevices = [] := by
  rw [Machine.mountDevices, mountsFound_eq, hfile]
  rfl

-- ════════════════════════════════════════════════════════════════════════
-- What is noticed
-- ════════════════════════════════════════════════════════════════════════

/-- The devices that were found are those with metrics. -/
theorem hasMountMetrics_iff {device : Bytes} :
    HasMountMetrics found device ↔ device ∈ found.mountDevices := by
  constructor
  · rintro ⟨entry, hentry, rfl, -⟩
    exact List.mem_map_of_mem hentry
  · intro h
    obtain ⟨entry, hentry, rfl⟩ := List.mem_map.mp h
    refine ⟨entry, hentry, rfl, fun q => ?_⟩
    have hfound : CollectorSlots.Found found (q.registration entry.mountpoint) :=
      .mount (List.mem_map_of_mem hentry) q
    obtain ⟨e, he, hkey⟩ := List.mem_map.mp
      (((CollectorSlots.filed_discover (m := found)).keys _).mpr ⟨_, hfound, rfl⟩)
    exact ⟨e.idx, e, he, congrArg Prod.fst hkey, rfl⟩

theorem attemptAt_opens_iff {c : CollectorSlots} {results : Fin STORE_TIERS → Option StorageBase}
    {sampleIntervalS memory : ℕ} {next : Attempt} :
    attemptAt c m results sampleIntervalS memory next = .opens results ↔
      collectorMountsChanged c m = false := by
  rw [attemptAt]
  split
  · next h => simp [h]
  · next h => simpa using h

/-- Storage that comes or goes is noticed exactly if no device has come or not as many as have
gone. -/
theorem storageNoticed_iff (found later : Machine) :
    StorageNoticed found later ↔ CountTells found later := by
  have hcount := Lib.length_came_eq_iff (nodup_mountDevices found) (nodup_mountDevices later)
  by_cases hfile : later.file (ascii "/proc/mounts") = none
  · have hdevices := mountDevices_of_unreadable hfile
    refine iff_of_true ⟨fun _ _ _ _ _ entry hentry => ?_, fun h => absurd hfile h⟩ (.inl ?_)
    · have hmem : entry.device ∈ later.mountDevices := List.mem_map_of_mem hentry
      rw [hdevices] at hmem
      cases hmem
    · rw [hdevices]
      rfl
  have hchanged := collectorMountsChanged_iff found hfile
  constructor
  · intro h
    refine or_iff_not_imp_right.mpr fun hsame => ?_
    have hunchanged : collectorMountsChanged (.discover found) later = false := by
      rw [← Bool.not_eq_true, hchanged, not_not]
      exact hcount.mp (not_not.mp hsame)
    rw [Lib.came_eq_nil]
    intro device hdevice
    obtain ⟨entry, hentry, rfl⟩ := List.mem_map.mp hdevice
    exact hasMountMetrics_iff.mp (h.covered (fun _ => none) 0 0 (.opens fun _ => none)
      (attemptAt_opens_iff.mpr hunchanged) entry hentry)
  · intro h
    refine ⟨fun _ _ _ _ hopens entry hentry => ?_, fun _ hdiffer => ?_⟩
    · rw [attemptAt_opens_iff, ← Bool.not_eq_true, hchanged, not_not] at hopens
      have hnone := h.resolve_right (not_not.mpr (hcount.mpr hopens))
      exact hasMountMetrics_iff.mpr
        (Lib.came_eq_nil.mp hnone entry.device (List.mem_map_of_mem hentry))
    · rw [hchanged]
      intro hsame
      have hnone := h.resolve_right (not_not.mpr (hcount.mpr hsame))
      have hgone : came later.mountDevices found.mountDevices = [] := by
        rw [← List.length_eq_zero_iff, ← hcount.mpr hsame, hnone, List.length_nil]
      obtain ⟨device, hdevice⟩ := hdiffer
      exact hdevice ⟨Lib.came_eq_nil.mp hnone device, Lib.came_eq_nil.mp hgone device⟩

/-- The card is taken out and a disk is put in. -/
theorem not_storageNoticed_swap : ¬ StorageNoticed
    (tableMachine (ascii "/dev/mmcblk0p1 /var/spool/storage/SD_DISK ext4 rw 0 0\n"))
    (tableMachine (ascii "/dev/sda1 /var/spool/storage/disk1 ext4 rw 0 0\n")) := by
  intro h
  have hfound : (tableMachine (ascii
      "/dev/mmcblk0p1 /var/spool/storage/SD_DISK ext4 rw 0 0\n")).mountDevices =
        [ascii "/dev/mmcblk0p1"] := by decide
  have hlater : (tableMachine (ascii
      "/dev/sda1 /var/spool/storage/disk1 ext4 rw 0 0\n")).mountDevices = [ascii "/dev/sda1"] := by
    decide
  have htable : (tableMachine (ascii
      "/dev/sda1 /var/spool/storage/disk1 ext4 rw 0 0\n")).file (ascii "/proc/mounts") ≠ none := by
    decide
  have hchanged := h.noticed htable ⟨ascii "/dev/sda1", by rw [hfound, hlater]; decide⟩
  rw [collectorMountsChanged_iff _ htable, hfound, hlater] at hchanged
  exact hchanged rfl

end AxisMetrics
