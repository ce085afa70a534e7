import AxisMetrics.Collect.Metrics
import AxisMetrics.Selection

/-!
# Discovery

What the collector finds at startup, and the metrics it registers for it. `Machine` is what it can
read: files, directories and the CGIs of the device.
-/

namespace AxisMetrics

open Lib (Bytes ascii strlcpy decimal guint strstr fgetsLines scanLiteral scanUnsigned scanWord)

def MAX_CORES : ℕ := 32
def MAX_IFACES : ℕ := 32
def MAX_DISKS : ℕ := 24
def MAX_MOUNTS : ℕ := 16
def MAX_ZONES : ℕ := 16
def MAX_SENSORS : ℕ := 16
def MAX_POE_PORTS : ℕ := 16

/-- The fields of `struct statvfs` that are read. -/
structure Statvfs where
  blocks : ℕ
  frsize : ℕ
  bavail : ℕ
  bfree : ℕ

/-- What the device lets the collector read at one time. -/
structure Machine where
  /-- The content of a file that can be opened. -/
  file : Bytes → Option Bytes
  isDir : Bytes → Bool
  fileExists : Bytes → Bool
  /-- The names in a directory, in the order of `g_dir_read_name`. -/
  dirNames : Bytes → Option (List Bytes)
  statvfs : Bytes → Option Statvfs
  /-- `vapix_get`. -/
  vapixGet : Bytes → Option Bytes

/-- A device with this mount table and nothing else. -/
def tableMachine (table : Bytes) : Machine where
  file path := if path = ascii "/proc/mounts" then some table else none
  isDir _ := false
  fileExists _ := false
  dirNames _ := none
  statvfs _ := none
  vapixGet _ := none

namespace Machine

/-- The lines of a file that `fgets` reads with a buffer of `size` bytes. -/
def lines (m : Machine) (path : Bytes) (size : ℕ) : List Bytes :=
  ((m.file path).map (fgetsLines size)).getD []

/-- `read_text`. -/
def readText (m : Machine) (path : Bytes) (len : ℕ) : Option Bytes :=
  (m.file path).bind fun content =>
    let buf := content.take (len - 1)
    if buf = [] then none else some (Lib.cString buf)

/-- The body of a CGI answer, a C string. -/
def body (m : Machine) (endpoint : Bytes) : Option Bytes := (m.vapixGet endpoint).map Lib.cString

/-- `sscanf (line, "cpu%u ", &core)`. -/
def scanCore (line : Bytes) : Option ℕ :=
  ((scanLiteral (ascii "cpu") line).bind scanUnsigned).map fun scanned => guint scanned.1

/-- The cores that `/proc/stat` lists. -/
def cores (m : Machine) : List ℕ :=
  ((m.lines (ascii "/proc/stat") 512).filterMap scanCore).filter (· < MAX_CORES)

def zonePath (zone : ℕ) (name : Bytes) : Bytes :=
  ascii "/sys/class/thermal/thermal_zone" ++ decimal zone ++ name

/-- The types of the thermal zones from `zone` on, of `n` at most. -/
def zoneTypesFrom (m : Machine) (zone : ℕ) : ℕ → List Bytes
  | 0 => []
  | n + 1 =>
    match m.readText (zonePath zone (ascii "/type")) 64 with
    | none => []
    | some type => strstrip type :: zoneTypesFrom m (zone + 1) n

def zoneTypes (m : Machine) : List Bytes := m.zoneTypesFrom 0 MAX_ZONES

/-- A line of `/proc/net/dev`: the name, and what is behind the colon. -/
def ifaceLine (line : Bytes) : Option (Bytes × Bytes) :=
  if 58 ∈ line then
    some (strstrip (line.takeWhile (· ≠ 58)), (line.dropWhile (· ≠ 58)).tail)
  else none

/-- The lines of `/proc/net/dev` below its header. -/
def ifaceLines (m : Machine) : List (Bytes × Bytes) :=
  ((m.lines (ascii "/proc/net/dev") 512).drop 2).filterMap ifaceLine

def ifaceNames (m : Machine) : List Bytes :=
  ((m.ifaceLines.map Prod.fst).filter (· ≠ ascii "lo")).take MAX_IFACES

/-- `sscanf (line, " %*u %*u %[width]s", name)`, and what follows. -/
def scanDisk (width : ℕ) (line : Bytes) : Option (Bytes × Bytes) := do
  let (_, rest) ← scanUnsigned line
  let (_, rest) ← scanUnsigned rest
  scanWord width rest

/-- The whole name in a line of `/proc/diskstats`. `%31s` keeps 31 bytes of it. -/
def diskWord (line : Bytes) : Option Bytes := (scanDisk (line.length + 31) line).map Prod.fst

/-- The whole devices that `/proc/diskstats` lists: those with an entry in `/sys/block`. -/
def diskNames (m : Machine) : List Bytes :=
  (((m.lines (ascii "/proc/diskstats") 512).filterMap diskWord).filter fun word =>
    !(ascii "loop").isPrefixOf (word.take 31) && !(ascii "ram").isPrefixOf (word.take 31) &&
      m.isDir (ascii "/sys/block/" ++ word.take 31)).take MAX_DISKS

/-- An entry of the mount table. -/
structure MountEntry where
  device : Bytes
  mountpoint : Bytes
  fstype : Bytes
  options : Bytes

/-- `fscanf (f, "%127s %255s %31s %255s %*d %*d\n", ...)`, and what follows. -/
def scanMount (text : Bytes) : Option (MountEntry × Bytes) := do
  let (device, rest) ← scanWord 127 text
  let (mountpoint, rest) ← scanWord 255 rest
  let (fstype, rest) ← scanWord 31 rest
  let (options, rest) ← scanWord 255 rest
  let (dump, rest) := Lib.skipInteger rest
  let (pass, rest) := if dump then Lib.skipInteger rest else (false, rest)
  pure (⟨Lib.cString device, Lib.cString mountpoint, Lib.cString fstype, Lib.cString options⟩,
    if pass then rest.dropWhile Lib.isSpace else rest)

/-- The entries of a mount table, of `n` at most. An entry takes one byte at least, so that the
length of the text is enough. -/
def mountEntries : ℕ → Bytes → List MountEntry
  | 0, _ => []
  | n + 1, text =>
    match scanMount text with
    | none => []
    | some (entry, rest) => entry :: mountEntries n rest

/-- `mount_is_interesting`. -/
def mountIsInteresting (entry : MountEntry) : Bool :=
  ((ascii "/dev/").isPrefixOf entry.device || entry.fstype = ascii "cifs" ||
      entry.fstype = ascii "nfs") &&
    !(ascii "/var/volatile").isPrefixOf entry.mountpoint &&
    !((ascii "ro,").isPrefixOf entry.options || entry.options = ascii "ro") &&
    entry.fstype ∈ [ascii "ext2", ascii "ext3", ascii "ext4", ascii "xfs", ascii "f2fs",
      ascii "vfat", ascii "exfat", ascii "ubifs", ascii "cifs", ascii "nfs"]

/-- The interesting entries of the mount table, the first of each device. -/
def mountsFound (m : Machine) : List MountEntry :=
  let text := (m.file (ascii "/proc/mounts")).getD []
  let interesting := (mountEntries text.length text).filter mountIsInteresting
  (interesting.foldl (fun seen entry =>
    if seen.any (·.device = entry.device) then seen else seen ++ [entry]) []).take MAX_MOUNTS

def mountpoints (m : Machine) : List Bytes := m.mountsFound.map MountEntry.mountpoint

/-- `temperaturecontrol.cgi`. -/
def temperatures (m : Machine) : Option Bytes := m.body (ascii "temperaturecontrol.cgi")

/-- `sscanf (line, "Sensor.S%u.Name=%47s", &index, name)`. -/
def scanSensor (line : Bytes) : Option (ℕ × Bytes) := do
  let rest ← scanLiteral (ascii "Sensor.S") line
  let (index, rest) ← scanUnsigned rest
  let rest ← scanLiteral (ascii ".Name=") rest
  let (name, _) ← scanWord 47 rest
  pure (guint index, strstrip name)

/-- The named sensors with their numbers. -/
def sensorNames (m : Machine) : List (ℕ × Bytes) :=
  (((m.temperatures.map (Lib.strsplit 10)).getD []).filterMap scanSensor).take MAX_SENSORS

/-- The answer about the sensors mentions this text. -/
def mentions (m : Machine) (text : Bytes) : Bool :=
  m.temperatures.any fun body => (strstr text body).isSome

/-- `nvr/poe/getportstatuses.cgi`. -/
def portStatuses (m : Machine) : Option Bytes := m.body (ascii "nvr/poe/getportstatuses.cgi")

/-- The number behind each `<Port>`. The text cannot overlap itself, so that the search from behind
a match finds the next one. -/
def portNumbers : Bytes → List ℕ
  | [] => []
  | b :: rest =>
    if ascii "<Port>" <+: b :: rest then
      guint (Lib.strtoull ((b :: rest).drop 6)) :: portNumbers rest
    else portNumbers rest

/-- The ports in the answer, if it has a status. -/
def ports (m : Machine) : List ℕ :=
  match m.portStatuses with
  | none => []
  | some body =>
    if (strstr (ascii "<PortStatus>") body).isSome then (portNumbers body).take MAX_POE_PORTS
    else []

/-- The life time and pre-EOL files of the first card that has them. -/
def flashPaths (m : Machine) : Option (Bytes × Bytes) :=
  ((m.dirNames (ascii "/sys/class/mmc_host")).getD []).findSome? fun host =>
    let pattern := Lib.snprintf 192 (ascii "/sys/class/mmc_host/" ++ host)
    ((m.dirNames pattern).getD []).findSome? fun card =>
      let life := Lib.snprintf 192 (pattern ++ ascii "/" ++ card ++ ascii "/life_time")
      let eol := Lib.snprintf 192 (pattern ++ ascii "/" ++ card ++ ascii "/pre_eol_info")
      if m.fileExists life then some (strlcpy 160 life, strlcpy 160 eol) else none

end Machine

end AxisMetrics
