import AxisMetrics.Collect.Discover
import AxisMetrics.Collect.Register

/-!
# The collector after discovery

`collector_new` finds the sources and registers a metric for each. `CollectorSlots` is what the
collector keeps of that and never changes: names, and the index of each metric.
-/

namespace AxisMetrics

open Lib (Bytes ascii strlcpy decimal)

structure Iface where
  name : Bytes
  idx : IfaceMetric → ℕ

structure Disk where
  name : Bytes
  idx : DiskMetric → ℕ

structure Mount where
  mountpoint : Bytes
  idx : MountMetric → ℕ

/-- A thermal zone; its path has its number. -/
structure Zone where
  zone : ℕ
  idx : ℕ

/-- A named sensor; the name of its reading has its number. -/
structure Sensor where
  index : ℕ
  idx : ℕ

structure PoePort where
  port : ℕ
  idx : PoeMetric → ℕ

/-- The part of `Collector` that discovery fills. Indices that nothing sets are zero. -/
structure CollectorSlots where
  discovery : Discovery
  nCores : ℕ
  idxCore : ℕ → CoreMetric → ℕ
  idx : FixedMetric → ℕ
  ifaces : List Iface
  disks : List Disk
  mounts : List Mount
  zones : List Zone
  sensors : List Sensor
  poe : List PoePort
  flashLifePath : Bytes
  flashEolPath : Bytes

namespace CollectorSlots

/-- `g_new0 (Collector, 1)`. -/
def zeroed : CollectorSlots where
  discovery := .init
  nCores := 0
  idxCore := fun _ _ => 0
  idx := fun _ => 0
  ifaces := []
  disks := []
  mounts := []
  zones := []
  sensors := []
  poe := []
  flashLifePath := []
  flashEolPath := []

/-- Registers metrics that are not of a device. -/
def regFixed (c : CollectorSlots) (metrics : List FixedMetric) : CollectorSlots :=
  let registered := c.discovery.regFields c.idx metrics FixedMetric.registration
  { c with discovery := registered.1, idx := registered.2 }

def cpuMetrics : List FixedMetric :=
  [.cpuUsage, .cpuUser, .cpuSystem, .cpuIowait, .cpuIrq, .cpuSteal, .cpuFreq]

def systemMetrics : List FixedMetric :=
  [.load1, .load5, .load15, .uptime, .procs, .procsRunning, .ctxt, .sockets, .tcpInuse, .udpInuse,
    .memTotal, .memUsed, .memFree, .memAvailable, .memBuffers, .memCached, .memUsage, .swapTotal,
    .swapUsed, .swapUsage]

def sensorMetrics (m : Machine) : List FixedMetric :=
  (if m.mentions (ascii "Fan.F0.") then [.fanRpm] else []) ++
    if m.mentions (ascii "Heater.H0.") then [.heater] else []

def poeMetrics (m : Machine) : List FixedMetric :=
  if m.ports = [] then [] else [.poeTotal, .poeBudget]

def flashMetrics (m : Machine) : List FixedMetric :=
  if m.flashPaths.isSome then [.flashLife, .flashEol] else []

def coreFields : List CoreMetric := [.usage, .freq]

def ifaceFields : List IfaceMetric :=
  [.rxBps, .txBps, .rxPps, .txPps, .rxErr, .txErr, .rxDrop, .txDrop, .link, .up]

def diskFields : List DiskMetric := [.readBps, .writeBps, .readIops, .writeIops, .util]

def mountFields : List MountMetric := [.total, .used, .free, .usage]

def poeFields : List PoeMetric := [.power, .allocated, .poeClass, .connected]

/-- `discover_cpu`. -/
def discoverCpu (m : Machine) (c : CollectorSlots) : CollectorSlots :=
  let c := c.regFixed cpuMetrics
  let registered := c.discovery.regDevices m.cores coreFields CoreMetric.registration
  { c with
    discovery := registered.1
    nCores := m.cores.foldl (fun n core => max n (core + 1)) c.nCores
    idxCore := registered.2.foldl (fun idx entry => Function.update idx entry.1 entry.2) c.idxCore }

/-- `discover_system`. -/
def discoverSystem (c : CollectorSlots) : CollectorSlots := c.regFixed systemMetrics

/-- `discover_zones`. -/
def discoverZones (m : Machine) (c : CollectorSlots) : CollectorSlots :=
  let registered := c.discovery.regDevices m.zoneTypes.zipIdx [()] fun zone _ =>
    zoneRegistration zone.2 zone.1
  { c with
    discovery := registered.1
    zones := registered.2.map fun entry => ⟨entry.1.2, entry.2 ()⟩ }

/-- `discover_ifaces`. -/
def discoverIfaces (m : Machine) (c : CollectorSlots) : CollectorSlots :=
  let registered := c.discovery.regDevices m.ifaceNames ifaceFields IfaceMetric.registration
  { c with
    discovery := registered.1
    ifaces := registered.2.map fun entry => ⟨strlcpy 32 entry.1, entry.2⟩ }

/-- `discover_disks`. -/
def discoverDisks (m : Machine) (c : CollectorSlots) : CollectorSlots :=
  let registered := c.discovery.regDevices m.diskNames diskFields DiskMetric.registration
  { c with
    discovery := registered.1
    disks := registered.2.map fun entry => ⟨strlcpy 32 (entry.1.take 31), entry.2⟩ }

/-- `discover_mounts`. -/
def discoverMounts (m : Machine) (c : CollectorSlots) : CollectorSlots :=
  let registered := c.discovery.regDevices m.mountpoints mountFields MountMetric.registration
  { c with
    discovery := registered.1
    mounts := registered.2.map fun entry => ⟨strlcpy 128 entry.1, entry.2⟩ }

/-- `discover_sensors`. -/
def discoverSensors (m : Machine) (c : CollectorSlots) : CollectorSlots :=
  let registered := c.discovery.regDevices m.sensorNames [()] fun sensor _ =>
    sensorRegistration sensor.1 sensor.2
  regFixed { c with
    discovery := registered.1
    sensors := registered.2.map fun entry => ⟨entry.1.1, entry.2 ()⟩ } (sensorMetrics m)

/-- `discover_poe`. -/
def discoverPoe (m : Machine) (c : CollectorSlots) : CollectorSlots :=
  let registered := c.discovery.regDevices m.ports poeFields PoeMetric.registration
  regFixed { c with
    discovery := registered.1
    poe := registered.2.map fun entry => ⟨entry.1, entry.2⟩ } (poeMetrics m)

/-- `discover_flash_wear`. -/
def discoverFlashWear (m : Machine) (c : CollectorSlots) : CollectorSlots :=
  regFixed { c with
    flashLifePath := (m.flashPaths.map Prod.fst).getD []
    flashEolPath := (m.flashPaths.map Prod.snd).getD [] } (flashMetrics m)

/-- The discovery in `collector_new`. -/
def discover (m : Machine) : CollectorSlots :=
  discoverFlashWear m <| discoverPoe m <| discoverSensors m <| discoverMounts m <|
    discoverDisks m <| discoverIfaces m <| discoverZones m <| discoverSystem <|
      discoverCpu m zeroed

/-- `mark_slow`: the indices of the readings that come from slow sources. -/
def isSlow (c : CollectorSlots) (i : ℕ) : Bool :=
  c.sensors.any (·.idx = i) ||
    [FixedMetric.fanRpm, .heater, .poeTotal, .poeBudget, .flashLife, .flashEol].any
      (fun metric => c.idx metric ≠ 0 ∧ c.idx metric = i) ||
    c.poe.any fun port => poeFields.any fun field => port.idx field = i

end CollectorSlots

end AxisMetrics
