import AxisMetrics.Lib.Decimal
import AxisMetrics.Lib.Lines
import AxisMetrics.Metrics

/-!
# What the collector measures

A source is a device and a quantity of it. Each has the id, label, unit and group that it is
registered with; the ids of devices contain their names.
-/

namespace AxisMetrics

open Lib (Bytes ascii dotted decimal)

/-- The metrics that are not of a device, by their fields in the collector. -/
inductive FixedMetric where
  | cpuUsage | cpuUser | cpuSystem | cpuIowait | cpuIrq | cpuSteal | cpuFreq
  | load1 | load5 | load15 | uptime | procs | procsRunning | ctxt | sockets | tcpInuse | udpInuse
  | memTotal | memUsed | memFree | memAvailable | memBuffers | memCached | memUsage
  | swapTotal | swapUsed | swapUsage
  | fanRpm | heater | poeTotal | poeBudget | flashLife | flashEol
  deriving DecidableEq

inductive CoreMetric where
  | usage | freq
  deriving DecidableEq

inductive IfaceMetric where
  | rxBps | txBps | rxPps | txPps | rxErr | txErr | rxDrop | txDrop | link | up
  deriving DecidableEq

inductive DiskMetric where
  | readBps | writeBps | readIops | writeIops | util
  deriving DecidableEq

inductive MountMetric where
  | total | used | free | usage
  deriving DecidableEq

inductive PoeMetric where
  | power | allocated | poeClass | connected
  deriving DecidableEq

/-- A device and a quantity of it. Cores, thermal zones, sensors and ports have numbers, a mount is
what is mounted at its mount point, and a port status may be of no port. -/
inductive Source where
  | fixed (metric : FixedMetric)
  | core (core : ℕ) (metric : CoreMetric)
  | zone (zone : ℕ)
  | iface (name : Bytes) (metric : IfaceMetric)
  | disk (name : Bytes) (metric : DiskMetric)
  | mount (mountpoint : Bytes) (metric : MountMetric)
  | sensor (index : ℕ)
  | poe (port : Option ℕ) (metric : PoeMetric)
  deriving DecidableEq

/-- An id in a buffer of `METRIC_ID_MAX` bytes. -/
structure MetricId where
  text : Bytes
  length_lt : text.length < METRIC_ID_MAX
  zero_notMem : 0 ∉ text

theorem length_metricId_lt (text : Bytes) : (Lib.strlcpy METRIC_ID_MAX text).length < METRIC_ID_MAX :=
  Lib.length_strlcpy_lt (by decide) text

/-- `g_snprintf (id, METRIC_ID_MAX, ...)`. -/
def MetricId.print (text : Bytes) : MetricId where
  text := Lib.strlcpy METRIC_ID_MAX text
  length_lt := length_metricId_lt text
  zero_notMem := Lib.zero_notMem_strlcpy _ text

theorem MetricId.text_print {text : Bytes} (h : 0 ∉ text) :
    (MetricId.print text).text = text.take (METRIC_ID_MAX - 1) := by
  change Lib.strlcpy METRIC_ID_MAX text = _
  rw [Lib.strlcpy, Lib.cString_eq_self h]

/-- What `reg` is called with, and what for. -/
structure Registration where
  source : Source
  id : MetricId
  label : Bytes
  unit : Bytes
  group : Bytes

/-- What an index is registered for, and under which id. -/
def Registration.key (r : Registration) : Source × Bytes := (r.source, r.id.text)

/-- `sanitize`, into a buffer of `size` bytes. -/
def sanitizeName (size : ℕ) (name : Bytes) : Bytes :=
  (name.take (size - 1)).map fun b => if Lib.isAlnum b ∨ b = 95 then b else 95

/-- `mount_short_name`. -/
def mountShortName (mountpoint : Bytes) : Bytes :=
  if mountpoint = ascii "/" then ascii "root"
  else if ascii "/var/spool/storage/areas/" <+: mountpoint then mountpoint.drop 25
  else if ascii "/var/spool/storage/" <+: mountpoint then mountpoint.drop 19
  else mountpoint.tail

/-- Id, label, unit and group of the metrics that are not of a device. -/
def FixedMetric.strings : FixedMetric → String × String × String × String
  | .cpuUsage => ("cpu.usage", "CPU usage", "%", "cpu")
  | .cpuUser => ("cpu.user", "CPU user", "%", "cpu")
  | .cpuSystem => ("cpu.system", "CPU system", "%", "cpu")
  | .cpuIowait => ("cpu.iowait", "CPU iowait", "%", "cpu")
  | .cpuIrq => ("cpu.irq", "CPU irq", "%", "cpu")
  | .cpuSteal => ("cpu.steal", "CPU steal", "%", "cpu")
  | .cpuFreq => ("cpu.freq", "CPU frequency", "MHz", "cpu")
  | .load1 => ("load.1", "Load average 1m", "", "system")
  | .load5 => ("load.5", "Load average 5m", "", "system")
  | .load15 => ("load.15", "Load average 15m", "", "system")
  | .uptime => ("sys.uptime", "Uptime", "s", "system")
  | .procs => ("sys.processes", "Processes", "", "system")
  | .procsRunning => ("sys.processes_running", "Runnable processes", "", "system")
  | .ctxt => ("sys.context_switches", "Context switches", "/s", "system")
  | .sockets => ("sys.sockets", "Sockets in use", "", "system")
  | .tcpInuse => ("sys.tcp_inuse", "TCP sockets", "", "system")
  | .udpInuse => ("sys.udp_inuse", "UDP sockets", "", "system")
  | .memTotal => ("mem.total", "Memory total", "B", "memory")
  | .memUsed => ("mem.used", "Memory used", "B", "memory")
  | .memFree => ("mem.free", "Memory free", "B", "memory")
  | .memAvailable => ("mem.available", "Memory available", "B", "memory")
  | .memBuffers => ("mem.buffers", "Buffers", "B", "memory")
  | .memCached => ("mem.cached", "Cached", "B", "memory")
  | .memUsage => ("mem.usage", "Memory usage", "%", "memory")
  | .swapTotal => ("mem.swap_total", "Swap total", "B", "memory")
  | .swapUsed => ("mem.swap_used", "Swap used", "B", "memory")
  | .swapUsage => ("mem.swap_usage", "Swap usage", "%", "memory")
  | .fanRpm => ("sensor.fan_rpm", "Fan speed", "rpm", "temperature")
  | .heater => ("sensor.heater", "Heater running", "", "temperature")
  | .poeTotal => ("poe.total", "PoE total draw", "W", "poe")
  | .poeBudget => ("poe.budget", "PoE budget", "W", "poe")
  | .flashLife => ("flash.life_used", "Flash life used", "%", "storage")
  | .flashEol => ("flash.pre_eol", "Flash pre-EOL state", "", "storage")

def FixedMetric.registration (metric : FixedMetric) : Registration where
  source := .fixed metric
  id := .print (ascii metric.strings.1)
  label := ascii metric.strings.2.1
  unit := ascii metric.strings.2.2.1
  group := ascii metric.strings.2.2.2

/-- The registration of a quantity of a device: the id is made of the parts, and the label of the
name of the device and a text. -/
def deviceRegistration (source : Source) (parts : List Bytes) (name text : Bytes)
    (unit group : String) : Registration where
  source := source
  id := .print (dotted parts)
  label := Lib.snprintf METRIC_LABEL_MAX (name ++ text)
  unit := ascii unit
  group := ascii group

def coreName (core : ℕ) : Bytes := ascii "core" ++ decimal core

/-- Suffix, text and unit of the metrics of a core. -/
def CoreMetric.strings : CoreMetric → String × String × String
  | .usage => ("usage", " usage", "%")
  | .freq => ("freq", " frequency", "MHz")

def CoreMetric.registration (core : ℕ) (metric : CoreMetric) : Registration :=
  deviceRegistration (.core core metric) [ascii "cpu", coreName core, ascii metric.strings.1]
    (ascii "Core " ++ decimal core) (ascii metric.strings.2.1) metric.strings.2.2 "cpu"

def zoneRegistration (zone : ℕ) (type : Bytes) : Registration :=
  deviceRegistration (.zone zone) [ascii "temp", sanitizeName 64 type] type (ascii " temperature")
    "C" "temperature"

/-- `IFACE_METRIC`: suffix, text and unit. -/
def IfaceMetric.strings : IfaceMetric → String × String × String
  | .rxBps => ("rx_bps", " receive", "B/s")
  | .txBps => ("tx_bps", " transmit", "B/s")
  | .rxPps => ("rx_pps", " receive packets", "/s")
  | .txPps => ("tx_pps", " transmit packets", "/s")
  | .rxErr => ("rx_errors", " receive errors", "")
  | .txErr => ("tx_errors", " transmit errors", "")
  | .rxDrop => ("rx_drops", " receive drops", "")
  | .txDrop => ("tx_drops", " transmit drops", "")
  | .link => ("link", " link speed", "Mb/s")
  | .up => ("up", " link up", "")

def IfaceMetric.registration (name : Bytes) (metric : IfaceMetric) : Registration :=
  deviceRegistration (.iface name metric)
    [ascii "net", sanitizeName 32 name, ascii metric.strings.1] name (ascii metric.strings.2.1)
    metric.strings.2.2 "network"

/-- `DISK_METRIC`: suffix, text and unit. -/
def DiskMetric.strings : DiskMetric → String × String × String
  | .readBps => ("read_bps", " read", "B/s")
  | .writeBps => ("write_bps", " write", "B/s")
  | .readIops => ("read_iops", " read ops", "/s")
  | .writeIops => ("write_iops", " write ops", "/s")
  | .util => ("util", " utilisation", "%")

/-- The name is what `%31s` left of it. -/
def DiskMetric.registration (name : Bytes) (metric : DiskMetric) : Registration :=
  deviceRegistration (.disk name metric)
    [ascii "disk", sanitizeName 32 (name.take 31), ascii metric.strings.1] (name.take 31)
    (ascii metric.strings.2.1) metric.strings.2.2 "disk"

/-- `FS_METRIC`: suffix, text and unit. -/
def MountMetric.strings : MountMetric → String × String × String
  | .total => ("total", " total", "B")
  | .used => ("used", " used", "B")
  | .free => ("free", " free", "B")
  | .usage => ("usage", " usage", "%")

def mountName (mountpoint : Bytes) : Bytes := sanitizeName 128 (mountShortName mountpoint)

def MountMetric.registration (mountpoint : Bytes) (metric : MountMetric) : Registration :=
  deviceRegistration (.mount mountpoint metric)
    [ascii "fs", mountName mountpoint, ascii metric.strings.1] mountpoint
    (ascii metric.strings.2.1) metric.strings.2.2 "storage"

def sensorRegistration (index : ℕ) (name : Bytes) : Registration :=
  deviceRegistration (.sensor index) [ascii "sensor", sanitizeName 48 name] name
    (ascii " temperature") "C" "temperature"

/-- `POE_METRIC`: suffix, text and unit. -/
def PoeMetric.strings : PoeMetric → String × String × String
  | .power => ("power", " power draw", "W")
  | .allocated => ("allocated", " allocated power", "W")
  | .poeClass => ("class", " PoE class", "")
  | .connected => ("connected", " device connected", "")

def portName (port : ℕ) : Bytes := ascii "port" ++ decimal port

def PoeMetric.registration (port : ℕ) (metric : PoeMetric) : Registration :=
  deviceRegistration (.poe (some port) metric)
    [ascii "poe", portName port, ascii metric.strings.1] (ascii "PoE port " ++ decimal port)
    (ascii metric.strings.2.1) metric.strings.2.2 "poe"

end AxisMetrics
