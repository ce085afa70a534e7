import AxisMetrics.Collect.Collector
import AxisMetrics.Collect.Doubles
import AxisMetrics.Sample

/-!
# Sampling

`collector_sample` reads the sources again and writes a value for each metric. A write names its
source, which the code does not: the device the text at hand is about, and the quantity.

Values are of type `V` (a C `float`), computed in type `T` (a C `double`); `DoubleArith` and
`Narrows` list what the code does with them.
-/

namespace AxisMetrics

open Lib (Bytes ascii decimal guint guint64 guint64Sub strstr strtoull scanLiteral scanUnsigned
  scanNumbers scanHex)

/-- A call of `set`: the value, where it goes, and what it is a reading of. -/
structure Write (V : Type) where
  source : Source
  idx : ℕ
  value : V

structure CpuTimes where
  total : ℕ
  idle : ℕ

/-- The counters of an interface at its last reading. -/
structure IfaceCounters where
  rxBytes : ℕ
  txBytes : ℕ
  rxPkts : ℕ
  txPkts : ℕ

/-- The counters of a disk at its last reading. -/
structure DiskCounters where
  readSectors : ℕ
  writeSectors : ℕ
  reads : ℕ
  writes : ℕ
  ioMs : ℕ

/-- The part of `Collector` that sampling changes. Counters of interfaces and disks are by their
position. -/
structure CollectorState (V : Type) where
  prevTotal : CpuTimes
  prevCore : ℕ → CpuTimes
  /-- user, nice, system, idle, iowait, irq, softirq, steal -/
  prevCpuField : ℕ → ℕ
  prevCtxt : ℕ
  ifaces : ℕ → IfaceCounters
  disks : ℕ → DiskCounters
  slowCache : ℕ → V
  slowDeadline : ℤ
  prevUs : ℤ

namespace CollectorSlots

variable {V T : Type} [DoubleArith T] [Narrows V T]

open DoubleArith (nan isnan less strtod scanDouble)

/-- `set` of a metric that is not of a device. -/
def setFixed (c : CollectorSlots) (metric : FixedMetric) (value : T) : Write V :=
  ⟨.fixed metric, c.idx metric, Narrows.toFloat value⟩

/-- `read_double (path, NAN)`. -/
def readDouble (m : Machine) (path : Bytes) : T := ((m.readText path 64).map strtod).getD nan

/-- `rate`. -/
def rate (now prev : ℕ) (seconds : T) : T :=
  if !less ((0 : ℕ) : T) seconds || decide (now < prev) then nan else ((now - prev : ℕ) : T) / seconds

/-- Steps through a text, each with its writes. -/
def sampleEach {S A : Type} (step : S → A → S × List (Write V)) (s : S) (l : List A) :
    S × List (Write V) :=
  l.foldl (fun state a => ((step state.1 a).1, state.2 ++ (step state.1 a).2)) (s, [])

-- ════════════════════════════════════════════════════════════════════════
-- Processors
-- ════════════════════════════════════════════════════════════════════════

/-- A line of `/proc/stat` for a processor, or for all of them, with its counters. -/
inductive CpuLine where
  | aggregate (rest : Bytes)
  | core (core : ℕ) (rest : Bytes)

/-- Which a line is. A core that was not found below another that was is taken. -/
def cpuLine (c : CollectorSlots) (text : Bytes) : Option CpuLine :=
  if ¬ ascii "cpu" <+: text then none
  else if text[3]? = some 32 then some (.aggregate (text.drop 4))
  else
    match Machine.scanCore text with
    | none => none
    | some core =>
      if c.nCores ≤ core then none
      else
        match text.dropWhile (· ≠ 32) with
        | [] => none
        | rest => some (.core core rest)

/-- Total and idle times of the counters. -/
def cpuTimes (v : ℕ → ℕ) : CpuTimes where
  total := guint64 (v 0 + v 1 + v 2 + v 3 + v 4 + v 5 + v 6 + v 7)
  idle := guint64 (v 3 + v 4)

/-- `usage` between two readings. -/
def cpuUsage (times prev : CpuTimes) (first : Bool) : T :=
  let dt := guint64Sub times.total prev.total
  let didle := guint64Sub times.idle prev.idle
  if !first && decide (prev.total < times.total) && decide (didle ≤ dt) then
    ((100 : ℕ) : T) * ((dt - didle : ℕ) : T) / ((dt : ℕ) : T)
  else nan

/-- A line of `/proc/stat` that begins with `cpu`. -/
def sampleCpuLine (c : CollectorSlots) (first : Bool) (s : CollectorState V) (line : CpuLine) :
    CollectorState V × List (Write V) :=
  match line with
  | .aggregate rest =>
    let numbers := scanNumbers 8 rest
    let v : ℕ → ℕ := fun i => numbers.getD i 0
    let times := cpuTimes v
    let dt := guint64Sub times.total s.prevTotal.total
    let scale : T := ((100 : ℕ) : T) / ((dt : ℕ) : T)
    let share : ℕ → ℕ → T := fun now prev => ((guint64Sub now prev : ℕ) : T) * scale
    ({ s with prevTotal := times, prevCpuField := v },
      c.setFixed .cpuUsage (cpuUsage times s.prevTotal first) ::
        if !first && decide (0 < dt) then
          [c.setFixed .cpuUser (share (v 0 + v 1) (s.prevCpuField 0 + s.prevCpuField 1)),
            c.setFixed .cpuSystem (share (v 2 + v 6) (s.prevCpuField 2 + s.prevCpuField 6)),
            c.setFixed .cpuIowait (share (v 4) (s.prevCpuField 4)),
            c.setFixed .cpuIrq (share (v 5) (s.prevCpuField 5)),
            c.setFixed .cpuSteal (share (v 7) (s.prevCpuField 7))]
        else [])
  | .core core rest =>
    let numbers := scanNumbers 8 rest
    let times := cpuTimes fun i => numbers.getD i 0
    ({ s with prevCore := Function.update s.prevCore core times },
      [⟨.core core .usage, c.idxCore core .usage,
        Narrows.toFloat (cpuUsage times (s.prevCore core) first)⟩])

/-- A line of `/proc/stat`. -/
def sampleStatLine (c : CollectorSlots) (seconds : T) (first : Bool) (s : CollectorState V)
    (line : Bytes) : CollectorState V × List (Write V) :=
  if ascii "ctxt " <+: line then
    let ctxt := strtoull (line.drop 5)
    ({ s with prevCtxt := ctxt },
      if first then [] else [c.setFixed .ctxt (rate ctxt s.prevCtxt seconds)])
  else if ascii "procs_running " <+: line then
    (s, [c.setFixed .procsRunning ((strtoull (line.drop 14) : ℕ) : T)])
  else
    match c.cpuLine line with
    | none => (s, [])
    | some cpu => c.sampleCpuLine first s cpu

def freqPath (core : ℕ) : Bytes :=
  ascii "/sys/devices/system/cpu/cpu" ++ decimal core ++ ascii "/cpufreq/scaling_cur_freq"

/-- The frequencies that can be read, with their cores. -/
def coreFreqs (c : CollectorSlots) (m : Machine) : List (ℕ × T) :=
  ((List.range c.nCores).map fun core => (core, readDouble m (freqPath core))).filter
    fun freq => !isnan freq.2

/-- `sample_cpu`. -/
def sampleCpu (c : CollectorSlots) (m : Machine) (seconds : T) (first : Bool)
    (s : CollectorState V) : CollectorState V × List (Write V) :=
  match m.file (ascii "/proc/stat") with
  | none => (s, [])
  | some _ =>
    let (s, writes) := sampleEach (c.sampleStatLine seconds first) s
      (m.lines (ascii "/proc/stat") 512)
    let freqs := (c.coreFreqs m).map fun freq => (freq.1, freq.2 / ((1000 : ℕ) : T))
    let sum : T := freqs.foldl (fun sum freq => sum + freq.2) ((0 : ℕ) : T)
    (s, writes ++
      freqs.map (fun freq =>
        ⟨.core freq.1 .freq, c.idxCore freq.1 .freq, Narrows.toFloat freq.2⟩) ++
      [c.setFixed .cpuFreq (if freqs = [] then nan else sum / ((freqs.length : ℕ) : T))])

-- ════════════════════════════════════════════════════════════════════════
-- Memory and system
-- ════════════════════════════════════════════════════════════════════════

/-- The number in the last line of `/proc/meminfo` with this key. -/
def memInfo (m : Machine) (key : Bytes) : ℕ :=
  ((m.lines (ascii "/proc/meminfo") 128).filterMap fun line =>
    ((scanLiteral key line).bind scanUnsigned).map Prod.fst).getLastD 0

/-- `sample_memory`. -/
def sampleMemory (c : CollectorSlots) (m : Machine) : List (Write V) :=
  match m.file (ascii "/proc/meminfo") with
  | none => []
  | some _ =>
    let total := memInfo m (ascii "MemTotal: ")
    let available := memInfo m (ascii "MemAvailable: ")
    let swapTotal := memInfo m (ascii "SwapTotal: ")
    let swapFree := memInfo m (ascii "SwapFree: ")
    let bytes : ℕ → T := fun kb => ((kb : ℕ) : T) * ((1024 : ℕ) : T)
    let percent : ℕ → ℕ → T := fun part whole =>
      if whole = 0 then nan else ((100 : ℕ) : T) * ((part : ℕ) : T) / ((whole : ℕ) : T)
    [c.setFixed .memTotal (bytes total),
      c.setFixed .memFree (bytes (memInfo m (ascii "MemFree: "))),
      c.setFixed .memAvailable (bytes available),
      c.setFixed .memBuffers (bytes (memInfo m (ascii "Buffers: "))),
      c.setFixed .memCached (bytes (memInfo m (ascii "Cached: "))),
      c.setFixed .memUsed (bytes (guint64Sub total available)),
      c.setFixed .memUsage (percent (guint64Sub total available) total),
      c.setFixed .swapTotal (bytes swapTotal),
      c.setFixed .swapUsed (bytes (guint64Sub swapTotal swapFree)),
      c.setFixed .swapUsage (percent (guint64Sub swapTotal swapFree) swapTotal)]

/-- `sscanf (buf, "%lf %lf %lf %*u/%u", ...)` into zeros. -/
def scanLoad (text : Bytes) : T × T × T × ℕ :=
  match scanDouble (T := T) text with
  | none => (((0 : ℕ) : T), ((0 : ℕ) : T), ((0 : ℕ) : T), 0)
  | some (l1, text) =>
    match scanDouble (T := T) text with
    | none => (l1, ((0 : ℕ) : T), ((0 : ℕ) : T), 0)
    | some (l5, text) =>
      match scanDouble (T := T) text with
      | none => (l1, l5, ((0 : ℕ) : T), 0)
      | some (l15, text) =>
        (l1, l5, l15, ((((scanUnsigned text).bind fun running => scanLiteral (ascii "/") running.2).bind
          scanUnsigned).map fun procs => guint procs.1).getD 0)

/-- A line of `/proc/net/sockstat`. -/
def sampleSockLine (c : CollectorSlots) (line : Bytes) : List (Write V) :=
  let number : String → Option ℕ := fun format =>
    ((scanLiteral (ascii format) line).bind scanUnsigned).map fun v => guint v.1
  match number "sockets: used " with
  | some v => [c.setFixed .sockets ((v : ℕ) : T)]
  | none =>
    match number "TCP: inuse " with
    | some v => [c.setFixed .tcpInuse ((v : ℕ) : T)]
    | none =>
      match number "UDP: inuse " with
      | some v => [c.setFixed .udpInuse ((v : ℕ) : T)]
      | none => []

/-- `sample_system`. -/
def sampleSystem (c : CollectorSlots) (m : Machine) : List (Write V) :=
  (match m.readText (ascii "/proc/loadavg") 256 with
    | none => []
    | some buf =>
      let (l1, l5, l15, procs) := scanLoad (T := T) buf
      [c.setFixed .load1 l1, c.setFixed .load5 l5, c.setFixed .load15 l15,
        c.setFixed .procs ((procs : ℕ) : T)]) ++
    c.setFixed .uptime (readDouble m (ascii "/proc/uptime") : T) ::
    (m.lines (ascii "/proc/net/sockstat") 128).flatMap c.sampleSockLine

/-- `sample_zones`. -/
def sampleZones (c : CollectorSlots) (m : Machine) : List (Write V) :=
  c.zones.map fun zone => ⟨.zone zone.zone, zone.idx, Narrows.toFloat
    (readDouble m (Machine.zonePath zone.zone (ascii "/temp")) / ((1000 : ℕ) : T))⟩

-- ════════════════════════════════════════════════════════════════════════
-- Interfaces, disks and mounts
-- ════════════════════════════════════════════════════════════════════════

/-- The last entry with this name, and its position. -/
def findIface (c : CollectorSlots) (name : Bytes) : Option (Iface × ℕ) :=
  (c.ifaces.zipIdx.filter fun entry => entry.1.name = name).getLast?

/-- A line of `/proc/net/dev`. -/
def sampleIfaceLine (c : CollectorSlots) (m : Machine) (seconds : T) (first : Bool)
    (s : CollectorState V) (line : Bytes × Bytes) : CollectorState V × List (Write V) :=
  match c.findIface line.1 with
  | none => (s, [])
  | some (iface, i) =>
    let numbers := scanNumbers 12 line.2
    let v : ℕ → ℕ := fun k => numbers.getD k 0
    let prev := s.ifaces i
    let write : IfaceMetric → T → Write V := fun q value =>
      ⟨.iface line.1 q, iface.idx q, Narrows.toFloat value⟩
    let path : String → Bytes := fun name =>
      ascii "/sys/class/net/" ++ iface.name ++ ascii name
    let speed : T := readDouble m (path "/speed")
    ({ s with ifaces := Function.update s.ifaces i ⟨v 0, v 8, v 1, v 9⟩ },
      (if first then [] else
        [write .rxBps (rate (v 0) prev.rxBytes seconds),
          write .txBps (rate (v 8) prev.txBytes seconds),
          write .rxPps (rate (v 1) prev.rxPkts seconds),
          write .txPps (rate (v 9) prev.txPkts seconds)]) ++
      [write .rxErr ((v 2 : ℕ) : T), write .txErr ((v 10 : ℕ) : T),
        write .rxDrop ((v 3 : ℕ) : T), write .txDrop ((v 11 : ℕ) : T),
        write .link (if less speed ((0 : ℕ) : T) then nan else speed)] ++
      match m.readText (path "/operstate") 32 with
      | none => []
      | some state => [write .up (if strstrip state = ascii "up" then ((1 : ℕ) : T)
          else ((0 : ℕ) : T))])

/-- `sample_ifaces`. -/
def sampleIfaces (c : CollectorSlots) (m : Machine) (seconds : T) (first : Bool)
    (s : CollectorState V) : CollectorState V × List (Write V) :=
  sampleEach (c.sampleIfaceLine m seconds first) s m.ifaceLines

/-- The last entry with this name, and its position. -/
def findDisk (c : CollectorSlots) (name : Bytes) : Option (Disk × ℕ) :=
  (c.disks.zipIdx.filter fun entry => entry.1.name = name).getLast?

/-- A line of `/proc/diskstats`: the name that `%31s` leaves, and the five numbers, if all of them
are there. -/
def scanDiskLine (line : Bytes) : Option (Bytes × DiskCounters) := do
  let (name, rest) ← Machine.scanDisk 31 line
  let (reads, rest) ← scanUnsigned rest
  let (_, rest) ← scanUnsigned rest
  let (readSectors, rest) ← scanUnsigned rest
  let (_, rest) ← scanUnsigned rest
  let (writes, rest) ← scanUnsigned rest
  let (_, rest) ← scanUnsigned rest
  let (writeSectors, rest) ← scanUnsigned rest
  let (_, rest) ← scanUnsigned rest
  let (_, rest) ← scanUnsigned rest
  let (ioMs, _) ← scanUnsigned rest
  pure (name, ⟨readSectors, writeSectors, reads, writes, ioMs⟩)

/-- A line of `/proc/diskstats`. It is about the device whose whole name it has. -/
def sampleDiskLine (c : CollectorSlots) (seconds : T) (first : Bool) (s : CollectorState V)
    (line : Bytes) : CollectorState V × List (Write V) :=
  match scanDiskLine line with
  | none => (s, [])
  | some (name, now) =>
    match c.findDisk name with
    | none => (s, [])
    | some (disk, i) =>
      let prev := s.disks i
      let write : DiskMetric → T → Write V := fun q value =>
        ⟨.disk ((Machine.diskWord line).getD []) q, disk.idx q, Narrows.toFloat value⟩
      let busyMs : T := rate now.ioMs prev.ioMs ((1 : ℕ) : T)
      let util := busyMs / (seconds * ((10 : ℕ) : T))
      ({ s with disks := Function.update s.disks i now },
        if first then [] else
          [write .readBps (rate now.readSectors prev.readSectors seconds * ((512 : ℕ) : T)),
            write .writeBps (rate now.writeSectors prev.writeSectors seconds * ((512 : ℕ) : T)),
            write .readIops (rate now.reads prev.reads seconds),
            write .writeIops (rate now.writes prev.writes seconds),
            write .util (if isnan busyMs then nan
              else if less ((100 : ℕ) : T) util then ((100 : ℕ) : T) else util)])

/-- `sample_disks`. -/
def sampleDisks (c : CollectorSlots) (m : Machine) (seconds : T) (first : Bool)
    (s : CollectorState V) : CollectorState V × List (Write V) :=
  sampleEach (c.sampleDiskLine seconds first) s (m.lines (ascii "/proc/diskstats") 512)

/-- What a mount is asked for: total, used, free and usage. -/
def mountValue (st : Option Statvfs) (q : MountMetric) : T :=
  match st with
  | none => nan
  | some st =>
    if st.blocks = 0 then nan
    else
      let bytes : ℕ → T := fun blocks => ((blocks : ℕ) : T) * ((st.frsize : ℕ) : T)
      let total := bytes st.blocks
      let used := total - bytes st.bfree
      match q with
      | .total => total
      | .used => used
      | .free => bytes st.bavail
      | .usage => if less ((0 : ℕ) : T) total then ((100 : ℕ) : T) * used / total else nan

/-- `sample_mounts`. -/
def sampleMounts (c : CollectorSlots) (m : Machine) : List (Write V) :=
  c.mounts.flatMap fun mount => mountFields.map fun q =>
    ⟨.mount mount.mountpoint q, mount.idx q,
      Narrows.toFloat (mountValue (m.statvfs mount.mountpoint) q : T)⟩

-- ════════════════════════════════════════════════════════════════════════
-- Slow sources
-- ════════════════════════════════════════════════════════════════════════

/-- `Sensor.S%u.Celsius`. -/
def sensorKey (index : ℕ) : Bytes := ascii "Sensor.S" ++ decimal index ++ ascii ".Celsius"

/-- `sample_sensors`. -/
def sampleSensors (c : CollectorSlots) (m : Machine) : List (Write V) :=
  if c.sensors = [] ∧ c.idx .fanRpm = 0 ∧ c.idx .heater = 0 then []
  else
    match m.temperatures with
    | none => []
    | some body =>
      (c.sensors.flatMap fun sensor =>
        match strstr (sensorKey sensor.index) body with
        | none => []
        | some found => [⟨.sensor sensor.index, sensor.idx, Narrows.toFloat
            (strtod (body.drop (found + (sensorKey sensor.index).length + 1)) : T)⟩]) ++
      (match strstr (ascii "Fan.F0.Status=") body with
        | none => []
        | some fan =>
          if c.idx .fanRpm = 0 then []
          else
            match (body.drop fan).dropWhile (· ≠ 91) with
            | [] => [c.setFixed .fanRpm ((0 : ℕ) : T)]
            | _ :: number => [c.setFixed .fanRpm (strtod number : T)]) ++
      match strstr (ascii "Heater.H0.Status=") body with
      | none => []
      | some heater =>
        if c.idx .heater = 0 then []
        else [c.setFixed .heater (if ascii "Running" <+: body.drop (heater + 17) then ((1 : ℕ) : T)
          else ((0 : ℕ) : T))]

/-- `xml_value`. -/
def xmlValue (cursor : Bytes) (tag : Bytes) : T :=
  match strstr (ascii "<" ++ tag ++ ascii ">") cursor with
  | none => nan
  | some found => strtod (cursor.drop (found + tag.length + 2))

/-- The statuses in the answer, `n` of them at most, each with what follows its beginning. -/
def statusesFrom : ℕ → Bytes → List Bytes
  | 0, _ => []
  | n + 1, cursor =>
    match strstr (ascii "<PortStatus>") cursor with
    | none => []
    | some found =>
      let cursor := cursor.drop found
      cursor :: statusesFrom n
        (match strstr (ascii "</PortStatus>") cursor with
          | some close => cursor.drop (close + 1)
          | none => cursor.drop 1)

/-- The port that a status is of: the number in it behind `<Port>`. The code does not read it. -/
def statusPort (cursor : Bytes) : Option ℕ :=
  let status := match strstr (ascii "</PortStatus>") cursor with
    | some close => cursor.take close
    | none => cursor
  (strstr (ascii "<Port>") status).map fun found => guint (strtoull (status.drop (found + 6)))

/-- What a status says of a quantity. -/
def poeValue (cursor : Bytes) : PoeMetric → T
  | .power => xmlValue cursor (ascii "PowerConsumption")
  | .allocated => xmlValue cursor (ascii "AllocatedPower")
  | .poeClass => xmlValue cursor (ascii "PoeClass")
  | .connected =>
    if less ((0 : ℕ) : T) (xmlValue cursor (ascii "StatusCode")) then ((1 : ℕ) : T) else ((0 : ℕ) : T)

/-- `sample_poe`: the first status goes to the first port, and so on. -/
def samplePoe (c : CollectorSlots) (m : Machine) : List (Write V) :=
  if c.poe = [] then []
  else
    match m.portStatuses with
    | none => []
    | some body =>
      let statuses := statusesFrom c.poe.length body
      let powers : List T := (statuses.map fun cursor => poeValue cursor .power).filter fun power =>
        !isnan power
      ((c.poe.zip statuses).flatMap fun entry => poeFields.map fun q =>
        ⟨.poe (statusPort entry.2) q, entry.1.idx q, Narrows.toFloat (poeValue entry.2 q : T)⟩) ++
      c.setFixed .poeTotal (powers.foldl (· + ·) ((0 : ℕ) : T)) ::
      match m.body (ascii "nvr/poe/gettotalpowerlimit.cgi") with
      | none => []
      | some limit => [c.setFixed .poeBudget (xmlValue limit (ascii "Limit") : T)]

/-- `sample_flash_wear`. -/
def sampleFlashWear (c : CollectorSlots) (m : Machine) : List (Write V) :=
  if c.flashLifePath = [] then []
  else
    (match (m.readText c.flashLifePath 64).bind scanHex with
      | none => []
      | some (a, rest) =>
        let worst := max (guint a) (guint (((scanHex rest).map Prod.fst).getD 0))
        if worst = 0 then []
        else [c.setFixed .flashLife (((worst - 1 : ℕ) : T) * ((10 : ℕ) : T))]) ++
    match m.readText c.flashEolPath 64 with
    | none => []
    | some buf => [c.setFixed .flashEol (((((scanHex buf).map Prod.fst).getD 0 : ℕ) : ℕ) : T)]

-- ════════════════════════════════════════════════════════════════════════
-- A sample
-- ════════════════════════════════════════════════════════════════════════

/-- The writes of a sample: those into the values, and those into the readings that are held. -/
structure SampleWrites (V : Type) where
  values : List (Write V)
  held : List (Write V)

/-- The readings of `collector_sample` at `now`, and what sampling keeps of them. -/
def sampleReadings (c : CollectorSlots) (now : ℤ) (m : Machine) (s : CollectorState V) :
    CollectorState V × SampleWrites V :=
  let first := decide (s.prevUs = 0)
  let seconds : T :=
    if first then ((0 : ℕ) : T) else (((now - s.prevUs).toNat : ℕ) : T) / ((1000000 : ℕ) : T)
  let (cpuState, cpu) := c.sampleCpu m seconds first s
  let (ifaceState, ifaces) := c.sampleIfaces m seconds first cpuState
  let (diskState, disks) := c.sampleDisks m seconds first ifaceState
  let due := decide (s.slowDeadline ≤ now)
  let held := if due then c.sampleSensors m ++ c.samplePoe m ++ c.sampleFlashWear m else []
  ({ diskState with
      slowDeadline := if due then now + 30 * 1000000 else s.slowDeadline
      slowCache := held.foldl (fun cache w => Function.update cache w.idx w.value) s.slowCache
      prevUs := now },
    ⟨cpu ++ c.sampleMemory m ++ c.sampleSystem m ++ c.sampleZones m ++ ifaces ++ disks ++
      c.sampleMounts m, held⟩)

/-- `collector_sample`: the values it leaves. -/
def sampleValues (c : CollectorSlots) (s : CollectorState V) (writes : SampleWrites V) : ℕ → V :=
  let values := writes.values.foldl (fun values w => Function.update values w.idx w.value)
    fun _ => Narrows.toFloat (nan : T)
  fun i => if c.isSlow i then s.slowCache i else values i

end CollectorSlots

/-- `Collector`. -/
structure Collector (V : Type) where
  slots : CollectorSlots
  state : CollectorState V

section Collector

variable {V T : Type} [DoubleArith T] [Narrows V T]

/-- `collector_new`. -/
def collectorNew (m : Machine) : Collector V where
  slots := .discover m
  state := {
    prevTotal := ⟨0, 0⟩
    prevCore := fun _ => ⟨0, 0⟩
    prevCpuField := fun _ => 0
    prevCtxt := 0
    ifaces := fun _ => ⟨0, 0, 0, 0⟩
    disks := fun _ => ⟨0, 0, 0, 0, 0⟩
    slowCache := fun _ => Narrows.toFloat (DoubleArith.nan : T)
    slowDeadline := 0
    prevUs := 0 }

/-- `collector_sample`. -/
def collectorSample (c : Collector V) (now : ℤ) (m : Machine) : Collector V × (ℕ → V) :=
  let (state, writes) := c.slots.sampleReadings now m c.state
  (⟨c.slots, state⟩, c.slots.sampleValues state writes)

end Collector

end AxisMetrics
