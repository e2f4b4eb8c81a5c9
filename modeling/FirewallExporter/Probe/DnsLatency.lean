import FirewallExporter.Device.Dialogue
import FirewallExporter.Metric.Sample

/-!
How fast the name servers of a device answer: two samples for each server.
-/

namespace FirewallExporter.DnsLatency

structure Server where
  service : String
  ip : String
  latency : Float
  lastUpdate : Float

def Server.shape : Shape := .ofFields "DnsServer"
  [("service", .text), ("ip", .text), ("latency", .number), ("last_update", .number)]

def Server.ofValue : shape.Value → Server
  | (service, ip, latency, lastUpdate, ()) => { service, ip, latency, lastUpdate }

def shape : Shape := .ofFields "DnsLatency" [("results", .list Server.shape)]

def servers : shape.Value → List Server
  | (results, ()) => results.map Server.ofValue

def labelNames : List String := ["service", "ip"]

def latencyFamily : Family :=
  .gauge "fortigate_network_dns_latency" "Network dns latency" labelNames

def latestUpdateFamily : Family :=
  .gauge "fortigate_network_dns_latest_update" "Network dns last update" labelNames

def Server.samples (s : Server) : List Sample :=
  [latencyFamily.sample s.latency [s.service, s.ip],
   latestUpdateFamily.sample s.lastUpdate [s.service, s.ip]]

def samples (servers : List Server) : List Sample := servers.flatMap Server.samples

def probe (v : Version) : Dialogue (List Sample) :=
  match Capability.dnsLatency.resolve v with
  | none => pure []
  | some endpoint => do
    let body ← Dialogue.get shape endpoint
    return samples (servers body)

end FirewallExporter.DnsLatency
