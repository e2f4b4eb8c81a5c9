import FirewallExporter.Firmware.Version

/-!
Where a device serves what it can report. Each capability has a table of ranges
of firmware versions, newest first; a range starts at a version and lasts until
a newer one takes over. A capability whose oldest range starts above a version
is not served by it.
-/

namespace FirewallExporter

/-- A path of the monitoring interface and the query that goes with it. -/
structure Endpoint where
  path : String
  query : String
deriving DecidableEq, Repr, Inhabited

inductive Capability where
  | switchHealth
  | switchStatus
  | switchPortStats
  | ntpStatus
  | sensorInfo
  /-- The alarm and threshold fields of the sensor resource. -/
  | sensorThresholds
  | performanceStatus
  | dnsLatency
  | centralManagement
  | sandboxStatus
  | sandboxStats
  | sandboxConnection
  | interfaceTransceivers
  | systemStatus
deriving DecidableEq, Repr

/-- The endpoint that serves a capability from a version on. -/
structure VersionRange where
  since : Version
  endpoint : Endpoint
deriving DecidableEq, Repr

namespace Capability

def name : Capability → String
  | switchHealth => "switch-health"
  | switchStatus => "switch-status"
  | switchPortStats => "switch-port-stats"
  | ntpStatus => "ntp-status"
  | sensorInfo => "sensor-info"
  | sensorThresholds => "sensor-thresholds"
  | performanceStatus => "performance-status"
  | dnsLatency => "dns-latency"
  | centralManagement => "central-management"
  | sandboxStatus => "sandbox-status"
  | sandboxStats => "sandbox-stats"
  | sandboxConnection => "sandbox-connection"
  | interfaceTransceivers => "interface-transceivers"
  | systemStatus => "system-status"

def since (major minor : UInt32) (path query : String) : VersionRange :=
  ⟨⟨major, minor⟩, ⟨"api/v2/monitor/" ++ path, query⟩⟩

/-- Firmware before 7.0 reports the port counters together with the switches. -/
def ranges : Capability → List VersionRange
  | switchHealth =>
    [since 7 6 "switch-controller/managed-switch/health-status" "vdom=root",
     since 0 0 "switch-controller/managed-switch/health" "vdom=root"]
  | switchStatus =>
    [since 7 0 "switch-controller/managed-switch/status" "",
     since 0 0 "switch-controller/managed-switch" "port_stats=true"]
  | switchPortStats => [since 7 0 "switch-controller/managed-switch/port-stats" ""]
  | ntpStatus => [since 7 4 "system/ntp/status" "vdom=*"]
  | sensorInfo => [since 0 0 "system/sensor-info" "vdom=root"]
  | sensorThresholds => [since 7 0 "system/sensor-info" "vdom=root"]
  | performanceStatus => [since 0 0 "system/performance/status" "vdom=*"]
  | dnsLatency => [since 0 0 "network/dns/latency" ""]
  | centralManagement => [since 0 0 "system/central-management/status" "skip_detect=true"]
  | sandboxStatus => [since 0 0 "system/sandbox/status" ""]
  | sandboxStats => [since 0 0 "system/sandbox/stats" ""]
  | sandboxConnection => [since 0 0 "system/sandbox/connection" ""]
  | interfaceTransceivers => [since 0 0 "system/interface/transceivers" "scope=global"]
  | systemStatus => [since 0 0 "system/status" ""]

/-- The first range that starts at or below the version. -/
def resolve (c : Capability) (v : Version) : Option Endpoint :=
  (c.ranges.find? fun r => v.atLeast r.since).map VersionRange.endpoint

end Capability

end FirewallExporter
