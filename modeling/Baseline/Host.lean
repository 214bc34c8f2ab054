import Baseline.MetricSet.Basic

/-!
# The host collector

Network and disk counters only ever grow, so they are reported as rates and deltas; processor
and memory usage are gauges.

* `hostMetrics` : the definitions of the host's metrics.
* `HostReading.values` : the raw values by metric name; what the host does not expose is left
  out.
* `collectHost` : one cycle of the collector on a metric set.
-/

set_option autoImplicit false

namespace Baseline

/-- The event under which the host reports. -/
def hostEventType : String := "SystemSample"

/-- The network counters of a reading. -/
structure NetworkCounters where
  bytesSent : Value
  bytesReceived : Value
  packetsSent : Value
  packetsReceived : Value
  errorsIn : Value
  errorsOut : Value
  droppedIn : Value
  droppedOut : Value

/-- What reading the disks gave: nothing, two counters, a failure that only means that the
host does not expose them, or one that ends the reading. -/
inductive DiskReading where
  | absent
  | counters (readBytes writtenBytes : Value)
  | unavailable
  | failed (fault : Fault)

/-- One reading of the host. -/
structure HostReading where
  hostname : Value
  cpuPercent : Value
  memoryPercent : Value
  memoryUsed : Value
  network : Option NetworkCounters
  disk : DiskReading

/-- The metrics of the host, with their kinds. -/
def hostMetricKinds : List (String × SourceKind) := [
  ("hostname", .attr),
  ("cpuPercent", .gauge),
  ("memoryUsedPercent", .gauge),
  ("memoryUsedBytes", .gauge),
  ("net.receiveBytesPerSecond", .prate),
  ("net.transmitBytesPerSecond", .prate),
  ("net.receivePacketsPerSecond", .prate),
  ("net.transmitPacketsPerSecond", .prate),
  ("net.receiveErrors", .pdelta),
  ("net.transmitErrors", .pdelta),
  ("net.receiveDropped", .pdelta),
  ("net.transmitDropped", .pdelta),
  ("disk.readBytesPerSecond", .prate),
  ("disk.writeBytesPerSecond", .prate)]

/-- The definitions of the host's metrics; none has a default. -/
def hostMetrics : List MetricDefinition :=
  hostMetricKinds.map fun m => ⟨m.1, .kind m.2, .null⟩

namespace NetworkCounters

/-- The network part of the raw values. -/
def values (n : NetworkCounters) : Table Value := [
  ("net.receiveBytesPerSecond", n.bytesReceived),
  ("net.transmitBytesPerSecond", n.bytesSent),
  ("net.receivePacketsPerSecond", n.packetsReceived),
  ("net.transmitPacketsPerSecond", n.packetsSent),
  ("net.receiveErrors", n.errorsIn),
  ("net.transmitErrors", n.errorsOut),
  ("net.receiveDropped", n.droppedIn),
  ("net.transmitDropped", n.droppedOut)]

end NetworkCounters

namespace DiskReading

/-- The failures of a device that only mean that its counters are not there: those of the
operating system and those at run time. -/
def harmlessFailures : List String := [
  "OSError", "IOError", "EnvironmentError", "BlockingIOError", "ChildProcessError",
  "ConnectionError", "BrokenPipeError", "ConnectionAbortedError", "ConnectionRefusedError",
  "ConnectionResetError", "FileExistsError", "FileNotFoundError", "InterruptedError",
  "IsADirectoryError", "NotADirectoryError", "PermissionError", "ProcessLookupError",
  "TimeoutError", "RuntimeError", "NotImplementedError", "RecursionError"]

/-- What a failure to read the disks gives. -/
def ofFailure (name wording : String) : DiskReading :=
  if harmlessFailures.contains name then unavailable
  else failed (.device name (if name = "KeyError" then Text.quoted wording else wording))

/-- The disk part of the raw values. -/
def values : DiskReading → Except Fault (Table Value)
  | absent => .ok []
  | unavailable => .ok []
  | counters r w => .ok [("disk.readBytesPerSecond", r), ("disk.writeBytesPerSecond", w)]
  | failed f => .error f

end DiskReading

namespace HostReading

/-- The raw values of a reading by metric name. -/
def values (r : HostReading) : Except Fault (Table Value) := do
  let disk ← r.disk.values
  let base : Table Value := [
    ("hostname", r.hostname), ("cpuPercent", r.cpuPercent),
    ("memoryUsedPercent", r.memoryPercent), ("memoryUsedBytes", r.memoryUsed)]
  return base ++ (r.network.map NetworkCounters.values).getD [] ++ disk

end HostReading

/-- The record of a cycle in which some metrics were not reported. -/
def unreportedRecord (names : List String) : LogRecord where
  logger := "collector_sdk.host"
  level := Level.info
  message := "Some host metrics were not reported this cycle"
  fields := [("metrics", .list ((names.mergeSort (· ≤ ·)).map .text))]

/-- Sets the values of a reading on a metric set. -/
def collectHost (now : Double) (store : Option Store) (m : MetricSet) (reading : HostReading) :
    MetricSet.Collection :=
  match reading.values with
  | .error f => ⟨[], some (.fault f), m, store, []⟩
  | .ok values =>
    let c := m.setMetrics now store values hostMetrics
    if c.fault.isNone && !c.errors.isEmpty then
      { c with log := c.log ++ [unreportedRecord c.errors.keys] }
    else c

end Baseline
