import FirewallExporter.Device.Dialogue
import FirewallExporter.Metric.Sample
import FirewallExporter.Probe.Category

/-!
The connection of a device to the server that manages it. There is one record
and so one sample of each family.
-/

namespace FirewallExporter.CentralManagement

structure Status where
  mode : String
  server : String
  status : String
  registrationStatus : String
  managementIp : String
  managementPort : Float
  serial : String
  pending : String

def Status.shape : Shape := .ofFields "ManagementStatus"
  [("mode", .text), ("server", .text), ("status", .text), ("registration_status", .text),
   ("mgmt_ip", .text), ("mgmt_port", .number), ("sn", .text), ("pending_fortimanager", .text)]

def Status.ofValue : shape.Value → Status
  | (mode, server, status, registrationStatus, managementIp, managementPort, serial,
      pending, ()) =>
    { mode, server, status, registrationStatus, managementIp, managementPort, serial, pending }

def shape : Shape := .ofFields "CentralManagement" [("results", Status.shape)]

def status : shape.Value → Status
  | (results, ()) => Status.ofValue results

def labelNames : List String := ["server", "mgmt_ip", "mgmt_port", "sn", "pendfortman"]

def modeFamily : Family :=
  .gauge "fortigate_system_central_management_mode"
    "Operating mode of the central management. (Normal = 1, Backup = 2)" labelNames

def connectionFamily : Family :=
  .gauge "fortigate_system_central_management_status"
    "Status of the connection from FortiGate to the central management server. (unknown = -1, down = 0, up = 1, handshake = 2)"
    labelNames

def registrationFamily : Family :=
  .gauge "fortigate_system_central_management_registration_status"
    "Status of the registration from FortiGate to the central management server. (unknown = -1, in_progress = 1, registered = 0, unregistered = 2)"
    labelNames

def Status.labelValues (s : Status) : List String :=
  [s.server, s.managementIp, numberLabel s.managementPort, s.serial, s.pending]

def samples (s : Status) : List Sample :=
  [modeFamily.sample (Category.managementMode.value s.mode) s.labelValues,
   connectionFamily.sample (Category.managementStatus.value s.status) s.labelValues,
   registrationFamily.sample (Category.registrationStatus.value s.registrationStatus) s.labelValues]

def probe (v : Version) : Dialogue (List Sample) :=
  match Capability.centralManagement.resolve v with
  | none => pure []
  | some endpoint => do
    let body ← Dialogue.get shape endpoint
    return samples (status body)

end FirewallExporter.CentralManagement
