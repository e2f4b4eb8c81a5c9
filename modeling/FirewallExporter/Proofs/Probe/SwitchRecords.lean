import FirewallExporter.Probe.SwitchPorts
import FirewallExporter.Proofs.Json.Records

/-!
The records of switches, of their ports and of their counters, read by key. Each
field of a record is what its body has under the name of the field.
-/

namespace FirewallExporter

namespace SwitchPorts

/-! ### Records -/

def counterKeys : List String :=
  ["tx-packets", "tx-bytes", "tx-errors", "tx-mcast", "tx-ucast", "tx-bcast", "tx-drops",
   "tx-oversize", "rx-packets", "rx-bytes", "rx-errors", "rx-mcast", "rx-ucast", "rx-bcast",
   "rx-drops", "rx-oversize"]

def portKeys : List String := ["interface", "status", "duplex", "speed", "vlan"]

def switchKeys : List String :=
  ["name", "serial", "fgt_peer_intf_name", "status", "state", "connecting_from", "vdom", "ports",
   "port_stats"]

def switchCountersKeys : List String := ["serial", "ports"]

/-- A counter of a port. -/
def counterIn (record : Json) (key : String) : Float :=
  Json.numberOf (record.under counterKeys key)

def portText (record : Json) (key : String) : String := Json.textOf (record.under portKeys key)

def switchText (record : Json) (key : String) : String := Json.textOf (record.under switchKeys key)

/-- The records of a body. -/
def records (body : Json) : List Json := Json.itemsOf (body.under ["results"] "results")

/-- The ports of a switch, in order. -/
def portsOf (switch : Json) : List Json := Json.itemsOf (switch.under switchKeys "ports")

/-- The counters that a switch reports itself, by port. -/
def inlineCounters (switch : Json) : List (String × Json) :=
  Json.membersOf (switch.under switchKeys "port_stats")

/-- The counters that are served first for a serial number, by port. -/
def servedCounters (body : Json) (serial : String) : List (String × Json) :=
  match (records body).find? fun record =>
    Json.textOf (record.under switchCountersKeys "serial") == serial with
  | some record => Json.membersOf (record.under switchCountersKeys "ports")
  | none => []

/-! ### Decoded records -/

def Counters.ofRecord (record : Json) : Counters where
  transmitted :=
    { packets := counterIn record "tx-packets"
      bytes := counterIn record "tx-bytes"
      errors := counterIn record "tx-errors"
      multicast := counterIn record "tx-mcast"
      unicast := counterIn record "tx-ucast"
      broadcast := counterIn record "tx-bcast"
      drops := counterIn record "tx-drops"
      oversize := counterIn record "tx-oversize" }
  received :=
    { packets := counterIn record "rx-packets"
      bytes := counterIn record "rx-bytes"
      errors := counterIn record "rx-errors"
      multicast := counterIn record "rx-mcast"
      unicast := counterIn record "rx-ucast"
      broadcast := counterIn record "rx-bcast"
      drops := counterIn record "rx-drops"
      oversize := counterIn record "rx-oversize" }

def PortTable.ofMembers (members : List (String × Json)) : PortTable :=
  members.map fun m => (m.1, Counters.ofRecord m.2)

def Port.ofRecord (record : Json) : Port where
  interface := portText record "interface"
  status := portText record "status"
  duplex := portText record "duplex"
  speed := Json.numberOf (record.under portKeys "speed")
  vlan := portText record "vlan"

def Switch.ofRecord (record : Json) : Switch where
  name := switchText record "name"
  serial := switchText record "serial"
  peerInterface := switchText record "fgt_peer_intf_name"
  status := switchText record "status"
  state := switchText record "state"
  connectingFrom := switchText record "connecting_from"
  domain := switchText record "vdom"
  ports := (portsOf record).map Port.ofRecord
  counters := .ofMembers (inlineCounters record)

def SwitchCounters.ofRecord (record : Json) : SwitchCounters where
  serial := Json.textOf (record.under switchCountersKeys "serial")
  ports := .ofMembers (Json.membersOf (record.under switchCountersKeys "ports"))

theorem Counters.ofValue_read (record : Json) : ofValue (shape.read record) = ofRecord record := by
  have hread : shape.read record = _ := Shape.read_ofFields _ _ (by decide) record
  refine (congrArg ofValue hread).trans ?_
  simp only [ofRecord, counterIn, ← Shape.readMember_number, Fields.ofList,
    Fields.readMembers_cons]
  rfl

theorem Port.ofValue_read (record : Json) : ofValue (shape.read record) = ofRecord record := by
  have hread : shape.read record = _ := Shape.read_ofFields _ _ (by decide) record
  refine (congrArg ofValue hread).trans ?_
  simp only [ofRecord, portText, ← Shape.readMember_number, ← Shape.readMember_text,
    Fields.ofList, Fields.readMembers_cons]
  rfl

theorem ofMembers_membersOf (j : Option Json) :
    .ofMembers (Json.membersOf j) = portTable ((Shape.table Counters.shape).readMember j) :=
  Shape.map_ofRecord_membersOf Counters.ofValue_read j

theorem Switch.ofValue_read (record : Json) : ofValue (shape.read record) = ofRecord record := by
  have hread : shape.read record = _ := Shape.read_ofFields _ _ (by decide) record
  refine (congrArg ofValue hread).trans ?_
  simp only [ofRecord, switchText, portsOf, inlineCounters, ← Shape.readMember_text,
    Shape.map_ofRecord_itemsOf Port.ofValue_read, ofMembers_membersOf, Fields.ofList,
    Fields.readMembers_cons]
  rfl

theorem SwitchCounters.ofValue_read (record : Json) :
    ofValue (shape.read record) = ofRecord record := by
  have hread : shape.read record = _ := Shape.read_ofFields _ _ (by decide) record
  refine (congrArg ofValue hread).trans ?_
  simp only [ofRecord, ← Shape.readMember_text, ofMembers_membersOf, Fields.ofList,
    Fields.readMembers_cons]
  rfl

theorem read_results (item : Shape) (body : Json) :
    (results item).read body = ((records body).map item.read, ()) :=
  Shape.read_listField _ _ item body

theorem switches_read (body : Json) :
    switches ((results Switch.shape).read body) = (records body).map Switch.ofRecord := by
  refine (congrArg switches (read_results Switch.shape body)).trans ?_
  show List.map _ (List.map _ (records body)) = _
  rw [List.map_map]
  exact List.map_congr_left fun record _ => Switch.ofValue_read record

theorem switchCounters_read (body : Json) :
    switchCounters ((results SwitchCounters.shape).read body) =
      (records body).map SwitchCounters.ofRecord := by
  refine (congrArg switchCounters (read_results SwitchCounters.shape body)).trans ?_
  show List.map _ (List.map _ (records body)) = _
  rw [List.map_map]
  exact List.map_congr_left fun record _ => SwitchCounters.ofValue_read record

end SwitchPorts

end FirewallExporter
