import FirewallExporter.Probe.CentralManagement
import FirewallExporter.Probe.DnsLatency
import FirewallExporter.Probe.NtpStatus
import FirewallExporter.Probe.Performance
import FirewallExporter.Probe.Sandbox
import FirewallExporter.Probe.Sensors
import FirewallExporter.Probe.SwitchHealth
import FirewallExporter.Probe.SwitchPorts
import FirewallExporter.Probe.Transceivers

/-!
The catalogue of probes, in the order of their names, and what a probe comes to
when it is carried out. A selection names the probes to include, or all of them,
and those to leave out; every name in it must be in the catalogue.
-/

namespace FirewallExporter

/-- A named dialogue that collects samples from a device. -/
structure Probe where
  name : String
  run : Version → Dialogue (List Sample)

structure Outcome where
  samples : List Sample
  ok : Bool
deriving DecidableEq

def Outcome.failed : Outcome := { samples := [], ok := false }

namespace Probe

/-- A probe that fails leaves an event and no samples. -/
def settle (p : Probe) : Except ProbeError (List Sample) → Dialogue Outcome
  | .ok samples => .done { samples, ok := true }
  | .error error => .note (.probeFailed p.name error) (.done .failed)

def invoke (p : Probe) (v : Version) : Dialogue Outcome := (p.run v).attempt.bind p.settle

abbrev dnsLatency : Probe := ⟨"Network/DNSLatency", DnsLatency.probe⟩

abbrev switchHealth : Probe := ⟨"Switch/Health", SwitchHealth.probe⟩

abbrev switchPorts : Probe := ⟨"Switch/PortStats", SwitchPorts.probe⟩

abbrev centralManagement : Probe := ⟨"System/CentralManagement/Status", CentralManagement.probe⟩

abbrev transceivers : Probe := ⟨"System/Interface/Transceivers", Transceivers.probe⟩

abbrev ntpStatus : Probe := ⟨"System/NTPStatus", NtpStatus.probe⟩

abbrev performance : Probe := ⟨"System/PerformanceStatus", Performance.probe⟩

abbrev sandboxConnection : Probe := ⟨"System/SandboxConnection", Sandbox.connectionProbe⟩

abbrev sandboxStats : Probe := ⟨"System/SandboxStats", Sandbox.statsProbe⟩

abbrev sandboxStatus : Probe := ⟨"System/SandboxStatus", Sandbox.statusProbe⟩

abbrev sensors : Probe := ⟨"System/SensorInfo", Sensors.probe⟩

def catalogue : List Probe :=
  [dnsLatency, switchHealth, switchPorts, centralManagement, transceivers, ntpStatus,
   performance, sandboxConnection, sandboxStats, sandboxStatus, sensors]

def names : List String := catalogue.map Probe.name

def find (name : String) : Option Probe := catalogue.find? (·.name == name)

end Probe

/-- Which probes to carry out; without `included` all of them are. -/
structure Selection where
  included : Option (List String) := none
  excluded : List String := []
deriving DecidableEq, Repr

namespace Selection

def names (s : Selection) : List String := s.included.getD [] ++ s.excluded

def admits (s : Selection) (p : Probe) : Bool :=
  s.included.all (·.contains p.name) && !s.excluded.contains p.name

/-- The selected probes in the order of the catalogue, or the first name it lacks. -/
def probes (s : Selection) : Except UnknownProbe (List Probe) :=
  match s.names.find? fun name => !Probe.names.contains name with
  | some name => .error ⟨name⟩
  | none => .ok (Probe.catalogue.filter s.admits)

end Selection

end FirewallExporter
