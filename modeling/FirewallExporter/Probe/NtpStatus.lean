import FirewallExporter.Device.Dialogue
import FirewallExporter.Metric.Sample

/-!
The time servers of every virtual domain: seven samples for each server, all
with the same labels. Firmware before 7.4 does not report them, and nothing is
asked of it.
-/

namespace FirewallExporter.NtpStatus

structure Peer where
  ip : String
  server : String
  reachable : Bool
  selected : Bool
  version : Float
  expires : Float
  stratum : Float
  reftime : Float
  offset : Float
  delay : Float
  dispersion : Float
  peerDispersion : Float

def Peer.shape : Shape := .ofFields "NtpPeer"
  [("ip", .text), ("server", .text), ("reachable", .flag), ("selected", .flag),
   ("version", .number), ("expires", .number), ("stratum", .number), ("reftime", .number),
   ("offset", .number), ("delay", .number), ("dispersion", .number),
   ("peer_dispersion", .number)]

def Peer.ofValue : shape.Value → Peer
  | (ip, server, reachable, selected, version, expires, stratum, reftime, offset, delay,
      dispersion, peerDispersion, ()) =>
    { ip, server, reachable, selected, version, expires, stratum, reftime, offset, delay,
      dispersion, peerDispersion }

/-- A virtual domain and its time servers. -/
structure Domain where
  peers : List Peer
  name : String

def Domain.shape : Shape := .ofFields "VdomNtpStatus"
  [("results", .list Peer.shape), ("vdom", .text)]

def Domain.ofValue : shape.Value → Domain
  | (results, name, ()) => { peers := results.map Peer.ofValue, name }

def shape : Shape := .list Domain.shape

def domains (body : shape.Value) : List Domain := List.map Domain.ofValue body

def labelNames : List String := ["ip", "server", "reachable", "selected", "version", "vdom"]

def expiresFamily : Family :=
  .gauge "fortigate_system_ntp_expires" "NTP expire time, in seconds" labelNames

def stratumFamily : Family := .gauge "fortigate_system_ntp_stratum" "NTP stratum value" labelNames

def reftimeFamily : Family :=
  .counter "fortigate_system_ntp_reftime" "NTP reftime in epoch seconds" labelNames

def offsetFamily : Family :=
  .gauge "fortigate_system_ntp_offset" "NTP combined offset, in milliseconds" labelNames

def delayFamily : Family :=
  .gauge "fortigate_system_ntp_delay" "NTP round trip delay, in milliseconds" labelNames

def dispersionFamily : Family :=
  .gauge "fortigate_system_ntp_dispersion" "NTP dispersion to primary clock, in milliseconds"
    labelNames

def peerDispersionFamily : Family :=
  .gauge "fortigate_system_ntp_dispersion_peer" "NTP peer dispersion, in milliseconds"
    labelNames

def Peer.labelValues (domain : String) (p : Peer) : List String :=
  [p.ip, p.server, flagLabel p.reachable, flagLabel p.selected, numberLabel p.version, domain]

def Peer.samples (domain : String) (p : Peer) : List Sample :=
  [expiresFamily.sample p.expires (p.labelValues domain),
   stratumFamily.sample p.stratum (p.labelValues domain),
   reftimeFamily.sample p.reftime (p.labelValues domain),
   offsetFamily.sample p.offset (p.labelValues domain),
   delayFamily.sample p.delay (p.labelValues domain),
   dispersionFamily.sample p.dispersion (p.labelValues domain),
   peerDispersionFamily.sample p.peerDispersion (p.labelValues domain)]

def Domain.samples (d : Domain) : List Sample := d.peers.flatMap (Peer.samples d.name)

def samples (domains : List Domain) : List Sample := domains.flatMap Domain.samples

def probe (v : Version) : Dialogue (List Sample) :=
  match Capability.ntpStatus.resolve v with
  | none => .note (.ntpUnavailable v) (pure [])
  | some endpoint => do
    let body ← Dialogue.get shape endpoint
    return samples (domains body)

end FirewallExporter.NtpStatus
