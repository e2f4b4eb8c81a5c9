import FirewallExporter.Metric.Sample
import FirewallExporter.Probe.Category
import FirewallExporter.Probe.Correlation

/-!
The managed switches, their ports and the traffic on them. From 7.0 on the
counters are served apart from the switches and are joined to them by serial
number; what a switch itself then says of its counters is not used. Older
firmware reports the counters together with the switches.
-/

namespace FirewallExporter.SwitchPorts

/-- The counters of one direction. -/
structure Traffic where
  packets : Float
  bytes : Float
  errors : Float
  multicast : Float
  unicast : Float
  broadcast : Float
  drops : Float
  oversize : Float

structure Counters where
  transmitted : Traffic
  received : Traffic

def Counters.shape : Shape := .ofFields "PortCounters"
  [("tx-packets", .number), ("tx-bytes", .number), ("tx-errors", .number),
   ("tx-mcast", .number), ("tx-ucast", .number), ("tx-bcast", .number),
   ("tx-drops", .number), ("tx-oversize", .number),
   ("rx-packets", .number), ("rx-bytes", .number), ("rx-errors", .number),
   ("rx-mcast", .number), ("rx-ucast", .number), ("rx-bcast", .number),
   ("rx-drops", .number), ("rx-oversize", .number)]

def Counters.ofValue : shape.Value → Counters
  | (t₁, t₂, t₃, t₄, t₅, t₆, t₇, t₈, r₁, r₂, r₃, r₄, r₅, r₆, r₇, r₈, ()) =>
    { transmitted := ⟨t₁, t₂, t₃, t₄, t₅, t₆, t₇, t₈⟩
      received := ⟨r₁, r₂, r₃, r₄, r₅, r₆, r₇, r₈⟩ }

/-- The counters of a switch by port name. -/
abbrev PortTable := List (String × Counters)

def portTable (table : (Shape.table Counters.shape).Value) : PortTable :=
  List.map (fun (port, c) => (port, Counters.ofValue c)) table

structure Port where
  interface : String
  status : String
  duplex : String
  /-- In megabits per second. -/
  speed : Float
  vlan : String

def Port.shape : Shape := .ofFields "PortInfo"
  [("interface", .text), ("status", .text), ("duplex", .text), ("speed", .number),
   ("vlan", .text)]

def Port.ofValue : shape.Value → Port
  | (interface, status, duplex, speed, vlan, ()) => { interface, status, duplex, speed, vlan }

structure Switch where
  name : String
  serial : String
  peerInterface : String
  status : String
  state : String
  connectingFrom : String
  domain : String
  ports : List Port
  counters : PortTable

def Switch.shape : Shape := .ofFields "SwitchStatus"
  [("name", .text), ("serial", .text), ("fgt_peer_intf_name", .text), ("status", .text),
   ("state", .text), ("connecting_from", .text), ("vdom", .text), ("ports", .list Port.shape),
   ("port_stats", .table Counters.shape)]

def Switch.ofValue : shape.Value → Switch
  | (name, serial, peerInterface, status, state, connectingFrom, domain, ports, counters, ()) =>
    { name, serial, peerInterface, status, state, connectingFrom, domain,
      ports := ports.map Port.ofValue, counters := portTable counters }

/-- The counters of a switch as they are served apart. -/
structure SwitchCounters where
  serial : String
  ports : PortTable

def SwitchCounters.empty : SwitchCounters := { serial := "", ports := [] }

def SwitchCounters.shape : Shape := .ofFields "SwitchPortCounters"
  [("serial", .text), ("ports", .table Counters.shape)]

def SwitchCounters.ofValue : shape.Value → SwitchCounters
  | (serial, ports, ()) => { serial, ports := portTable ports }

instance : Keyed Switch where
  key := Switch.serial
  describe s := s.name ++ " (" ++ s.serial ++ ")"

instance : Keyed SwitchCounters where
  key := SwitchCounters.serial

def results (item : Shape) : Shape := .ofFields "Results" [("results", .list item)]

def switches : (results Switch.shape).Value → List Switch
  | (records, ()) => records.map Switch.ofValue

def switchCounters : (results SwitchCounters.shape).Value → List SwitchCounters
  | (records, ()) => records.map SwitchCounters.ofValue

def switchStatus : Family :=
  .gauge "fortiswitch_status" "Whether the switch is connected or not"
    ["vdom", "name", "serial_number", "fgt_peer_intf_name", "connection_from", "state"]

def portFamily (name help : String) : Family :=
  .gauge name help ["vdom", "name", "serial_number", "interface", "vlan", "duplex"]

def portStatus : Family :=
  portFamily "fortiswitch_port_status" "Whether the switch port is up or not"

def portSpeed : Family :=
  portFamily "fortiswitch_port_speed_bps" "Speed negotiated on the interface in bits/s"

def portDuplex : Family :=
  portFamily "fortiswitch_port_duplex_status" "Duplex status of the FortiSwitch port"

def counterFamily (name help : String) : Family :=
  .counter ("fortiswitch_port_" ++ name ++ "_total") help
    ["vdom", "name", "serial_number", "interface"]

/-- The names and help texts of the port counters with their values, in the order shown. -/
def Counters.labelled (c : Counters) : List (String × String × Float) :=
  [("transmit_packets", "Number of packets transmitted on the interface",
    c.transmitted.packets),
   ("transmit_bytes", "Number of bytes transmitted on the interface", c.transmitted.bytes),
   ("transmit_unicast_packets", "Number of unicast packets transmitted on the interface",
    c.transmitted.unicast),
   ("transmit_broadcast_packets", "Number of broadcast packets transmitted on the interface",
    c.transmitted.broadcast),
   ("transmit_multicast_packets", "Number of multicast packets transmitted on the interface",
    c.transmitted.multicast),
   ("transmit_errors", "Number of transmission errors detected on the interface",
    c.transmitted.errors),
   ("transmit_drops",
    "Number of dropped packets detected during transmission on the interface",
    c.transmitted.drops),
   ("transmit_oversized_packets", "Number of oversized packets transmitted on the interface",
    c.transmitted.oversize),
   ("receive_packets", "Number of packets received on the interface", c.received.packets),
   ("receive_bytes", "Number of bytes received on the interface", c.received.bytes),
   ("receive_unicast_packets", "Number of unicast packets received on the interface",
    c.received.unicast),
   ("receive_broadcast_packets", "Number of broadcast packets received on the interface",
    c.received.broadcast),
   ("receive_multicast_packets", "Number of multicast packets received on the interface",
    c.received.multicast),
   ("receive_errors", "Number of reception errors detected on the interface",
    c.received.errors),
   ("receive_drops", "Number of dropped packets detected during reception on the interface",
    c.received.drops),
   ("receive_oversized_packets", "Number of oversized packets received on the interface",
    c.received.oversize)]

def bitsPerMegabit : Float := 1000000.0

def Switch.statusSample (s : Switch) : Sample :=
  switchStatus.sample (Category.switchConnection.value s.status)
    [s.domain, s.name, s.serial, s.peerInterface, s.connectingFrom,
     numberLabel (Category.authorizationState.value s.state)]

def Port.labelValues (s : Switch) (p : Port) : List String :=
  [s.domain, s.name, s.serial, p.interface, p.vlan, p.duplex]

def Port.samples (s : Switch) (p : Port) : List Sample :=
  [portStatus.sample (Category.linkStatus.value p.status) (p.labelValues s),
   portSpeed.sample (p.speed * bitsPerMegabit) (p.labelValues s),
   portDuplex.sample (Category.duplex.value p.duplex) (p.labelValues s)]

def Counters.samples (s : Switch) (port : String) (c : Counters) : List Sample :=
  c.labelled.map fun (name, help, x) =>
    (counterFamily name help).sample x [s.domain, s.name, s.serial, port]

/-- The samples of a switch whose ports have the given counters. -/
def Switch.samplesWith (s : Switch) (counters : PortTable) : List Sample :=
  s.statusSample :: s.ports.flatMap (Port.samples s) ++
    counters.flatMap fun (port, c) => c.samples s port

def Switch.samples (s : Switch) : List Sample := s.samplesWith s.counters

def samples (switches : List Switch) : List Sample := switches.flatMap Switch.samples

/-- A switch whose counters are those that were served apart. -/
def joined (m : Merged Switch SwitchCounters) : Switch :=
  { m.primary with counters := m.secondary.ports }

def probe (v : Version) : Dialogue (List Sample) :=
  match Capability.switchStatus.resolve v with
  | none => pure []
  | some endpoint => do
    let status ← Dialogue.get (results Switch.shape) endpoint
    match Capability.switchPortStats.resolve v with
    | none => return samples (switches status)
    | some endpoint => do
      let counters ← Dialogue.get (results SwitchCounters.shape) endpoint
      let merged ← merge .empty "port-stats" (switches status) (switchCounters counters)
      return samples (merged.map joined)

end FirewallExporter.SwitchPorts
