import FirewallExporter.Device.Dialogue
import FirewallExporter.Metric.Sample
import FirewallExporter.Probe.Category

/-!
The sandbox a device sends suspicious files to: its signature database, what it
found, and whether it can be reached. The findings have no labels, so only the
first record of them counts.
-/

namespace FirewallExporter.Sandbox

def results (item : Shape) : Shape := .ofFields "Results" [("results", .list item)]

structure Status where
  server : String
  type : String
  region : String
  version : String
  signatures : Float

def Status.shape : Shape := .ofFields "SandboxStatus"
  [("server", .text), ("type", .text), ("cloud_region", .text),
   ("malware_package_version", .text), ("signatures_count", .number)]

def Status.ofValue : shape.Value → Status
  | (server, type, region, version, signatures, ()) =>
    { server, type, region, version, signatures }

structure Stats where
  detected : Float
  clean : Float
  riskLow : Float
  riskMedium : Float
  riskHigh : Float
  submitted : Float

def Stats.shape : Shape := .ofFields "SandboxStats"
  [("detected", .number), ("clean", .number), ("risk_low", .number), ("risk_med", .number),
   ("risk_high", .number), ("submitted", .number)]

def Stats.ofValue : shape.Value → Stats
  | (detected, clean, riskLow, riskMedium, riskHigh, submitted, ()) =>
    { detected, clean, riskLow, riskMedium, riskHigh, submitted }

structure Connection where
  status : String
  type : String

def Connection.shape : Shape := .ofFields "SandboxConnection" [("status", .text), ("type", .text)]

def Connection.ofValue : shape.Value → Connection
  | (status, type, ()) => { status, type }

def statuses : (results Status.shape).Value → List Status
  | (records, ()) => records.map Status.ofValue

def stats : (results Stats.shape).Value → List Stats
  | (records, ()) => records.map Stats.ofValue

def connections : (results Connection.shape).Value → List Connection
  | (records, ()) => records.map Connection.ofValue

def signatureCountFamily : Family :=
  .gauge "fortigate_sandbox_status_signature_count" "Sandbox signature counts"
    ["server", "region", "version", "type"]

def detectedFamily : Family :=
  .counter "fortigate_sandbox_stats_detected" "Number of detected files" []

def cleanFamily : Family := .counter "fortigate_sandbox_stats_clean" "Number of clean files" []

def riskLowFamily : Family :=
  .counter "fortigate_sandbox_stats_risk_low" "Number of low risk files detected" []

def riskMediumFamily : Family :=
  .counter "fortigate_sandbox_stats_risk_medium" "Number of medium risk files detected" []

def riskHighFamily : Family :=
  .counter "fortigate_sandbox_stats_risk_high" "Number of high risk files detected" []

def submittedFamily : Family :=
  .counter "fortigate_sandbox_stats_submitted" "Number of submitted files" []

def connectionFamily : Family :=
  .gauge "fortigate_sandbox_connection_status"
    "Sandbox connection status, (unknown=-2, disabled=-1, unreachable=0, reachable=1)" ["type"]

def Status.samples (s : Status) : List Sample :=
  [signatureCountFamily.sample s.signatures [s.server, s.region, s.version, s.type]]

def Stats.samples (s : Stats) : List Sample :=
  [detectedFamily.sample s.detected [], cleanFamily.sample s.clean [],
   riskLowFamily.sample s.riskLow [], riskMediumFamily.sample s.riskMedium [],
   riskHighFamily.sample s.riskHigh [], submittedFamily.sample s.submitted []]

def Connection.samples (c : Connection) : List Sample :=
  [connectionFamily.sample (Category.sandboxConnection.value c.status) [c.type]]

def statusSamples (records : List Status) : List Sample := records.flatMap Status.samples

def statsSamples : List Stats → List Sample
  | [] => []
  | first :: _ => first.samples

def connectionSamples (records : List Connection) : List Sample :=
  records.flatMap Connection.samples

def statusProbe (v : Version) : Dialogue (List Sample) :=
  match Capability.sandboxStatus.resolve v with
  | none => pure []
  | some endpoint => do
    let body ← Dialogue.get (results Status.shape) endpoint
    return statusSamples (statuses body)

def statsProbe (v : Version) : Dialogue (List Sample) :=
  match Capability.sandboxStats.resolve v with
  | none => pure []
  | some endpoint => do
    let body ← Dialogue.get (results Stats.shape) endpoint
    return statsSamples (stats body)

def connectionProbe (v : Version) : Dialogue (List Sample) :=
  match Capability.sandboxConnection.resolve v with
  | none => pure []
  | some endpoint => do
    let body ← Dialogue.get (results Connection.shape) endpoint
    return connectionSamples (connections body)

end FirewallExporter.Sandbox
