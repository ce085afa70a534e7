import AxisMetrics.Collect.Discover

/-!
# Where the history is kept

`find_storage` reads the mount table for the largest real filesystem that looks like edge storage.
-/

namespace AxisMetrics

open Lib (Bytes ascii strlcpy guint64)
open Machine (MountEntry mountEntries)

/-- `fstype_is_volatile`. -/
def fstypeIsVolatile (fstype : Bytes) : Bool :=
  fstype ∈ [ascii "tmpfs", ascii "ramfs", ascii "devtmpfs", ascii "vcrfs"]

/-- `is_area_root`. -/
def isAreaRoot (mountpoint : Bytes) : Bool :=
  (ascii "/var/spool/storage/areas/").isPrefixOf mountpoint && (ascii "/root").isSuffixOf mountpoint

/-- The best filesystem so far. -/
structure Candidate where
  mountpoint : Bytes
  total : ℕ
  preferred : Bool

/-- An entry that the loop of `find_storage` does not skip. -/
def isStorageMount (entry : MountEntry) : Bool :=
  !fstypeIsVolatile entry.fstype &&
    !((ascii "ro,").isPrefixOf entry.options || entry.options = ascii "ro") &&
    !(ascii "/var/volatile").isPrefixOf entry.mountpoint &&
    (ascii "/var/spool/storage/").isPrefixOf entry.mountpoint

/-- One turn of the loop of `find_storage`. -/
def considerStorage (m : Machine) (best : Candidate) (entry : MountEntry) : Candidate :=
  if isStorageMount entry then
    match m.statvfs entry.mountpoint with
    | none => best
    | some st =>
      let total := guint64 (st.blocks * st.frsize)
      let preferred := isAreaRoot entry.mountpoint
      if st.blocks = 0 then best
      else if best.total < total ∨ (total = best.total ∧ preferred ∧ best.preferred = false) then
        ⟨strlcpy 256 entry.mountpoint, total, preferred⟩
      else best
  else best

/-- `find_storage`, into a buffer of `size` bytes. -/
def findStorage (m : Machine) (size : ℕ) : Option Bytes :=
  match m.file (ascii "/proc/mounts") with
  | none => none
  | some text =>
    let best := (mountEntries text.length text).foldl (considerStorage m) ⟨[], 0, false⟩
    if best.total = 0 then none else some (strlcpy size best.mountpoint)

/-- Skipped entries make no difference. -/
theorem foldl_considerStorage (m : Machine) (best : Candidate) (entries : List MountEntry) :
    entries.foldl (considerStorage m) best =
      (entries.filter isStorageMount).foldl (considerStorage m) best := by
  induction entries generalizing best with
  | nil => rfl
  | cons entry entries ih =>
    rw [List.foldl_cons, ih]
    by_cases hstorage : isStorageMount entry = true
    · rw [List.filter_cons_of_pos hstorage, List.foldl_cons]
    · rw [List.filter_cons_of_neg hstorage, considerStorage, if_neg hstorage]

end AxisMetrics
