import FirewallExporter.Device.Dialogue
import FirewallExporter.Metric.Sample

/-!
The optical transceivers in the interfaces of a device. Each is one sample of
value one, all that is known of it in the labels.
-/

namespace FirewallExporter.Transceivers

structure Transceiver where
  interface : String
  type : String
  vendor : String
  partNumber : String
  serialNumber : String

def Transceiver.shape : Shape := .ofFields "Transceiver"
  [("interface", .text), ("type", .text), ("vendor", .text), ("vendor_part_number", .text),
   ("vendor_serial_number", .text)]

def Transceiver.ofValue : shape.Value → Transceiver
  | (interface, type, vendor, partNumber, serialNumber, ()) =>
    { interface, type, vendor, partNumber, serialNumber }

def shape : Shape := .ofFields "Transceivers" [("results", .list Transceiver.shape)]

def transceivers : shape.Value → List Transceiver
  | (results, ()) => results.map Transceiver.ofValue

/-- The name is spelled as dashboards have always read it. -/
def presenceFamily : Family :=
  .gauge "fortigate_inteface_transceivers" "Interface transceivers information"
    ["interface", "type", "vendor", "vendorpartnumber", "vendorserialnumber"]

def Transceiver.samples (t : Transceiver) : List Sample :=
  [presenceFamily.sample 1.0 [t.interface, t.type, t.vendor, t.partNumber, t.serialNumber]]

def samples (transceivers : List Transceiver) : List Sample :=
  transceivers.flatMap Transceiver.samples

def probe (v : Version) : Dialogue (List Sample) :=
  match Capability.interfaceTransceivers.resolve v with
  | none => pure []
  | some endpoint => do
    let body ← Dialogue.get shape endpoint
    return samples (transceivers body)

end FirewallExporter.Transceivers
