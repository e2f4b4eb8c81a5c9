import FirewallExporter.Device.Dialogue

/-!
Discovery of the firmware version of a device, for a device whose version is not
configured. The system status carries the version as text, and is served by
every firmware.
-/

namespace FirewallExporter.Discovery

structure SystemStatus where
  version : String
  serial : String

def SystemStatus.shape : Shape := .ofFields "SystemStatus"
  [("version", .text), ("serial", .text)]

def SystemStatus.ofValue : shape.Value → SystemStatus
  | (version, serial, ()) => { version, serial }

def endpoint : Endpoint := { path := "api/v2/monitor/system/status", query := "" }

theorem resolve_systemStatus : Capability.systemStatus.resolve .any = some endpoint := by
  decide

def readVersion (status : SystemStatus) : Dialogue Version :=
  match Version.parse status.version with
  | .ok v => .done v
  | .error error => .fail (.version error)

def discover : Dialogue Version :=
  match Capability.systemStatus.resolve .any with
  | none => .fail (.unsupported .systemStatus)
  | some endpoint => do
    let body ← Dialogue.get SystemStatus.shape endpoint
    readVersion (SystemStatus.ofValue body)

theorem discover_eq : discover = (Dialogue.get SystemStatus.shape endpoint).bind fun body =>
    readVersion (SystemStatus.ofValue body) := by
  rw [discover, resolve_systemStatus]
  rfl

end FirewallExporter.Discovery
