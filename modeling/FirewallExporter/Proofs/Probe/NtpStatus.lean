import FirewallExporter.Probe.NtpStatus
import FirewallExporter.Proofs.Firmware.Ranges
import FirewallExporter.Proofs.Metric.Rows
import FirewallExporter.Proofs.Probe.Blocks

/-!
The samples of the time servers of a device, as what they show. A server gives seven
rows, all of them with the labels that its own record has and the name of its virtual
domain. Domains give their rows one after the other, and so do the servers of one.
-/

namespace FirewallExporter

namespace NtpStatus

/-! ### Records -/

def domainKeys : List String := ["results", "vdom"]

def peerKeys : List String :=
  ["ip", "server", "reachable", "selected", "version", "expires", "stratum", "reftime", "offset",
   "delay", "dispersion", "peer_dispersion"]

def peersOf (domain : Json) : List Json := Json.itemsOf (domain.under domainKeys "results")

def nameOf (domain : Json) : String := Json.textOf (domain.under domainKeys "vdom")

def peerText (peer : Json) (key : String) : String := Json.textOf (peer.under peerKeys key)

def peerFlag (peer : Json) (key : String) : Bool := Json.flagOf (peer.under peerKeys key)

def peerNumber (peer : Json) (key : String) : Float := Json.numberOf (peer.under peerKeys key)

def Peer.ofRecord (record : Json) : Peer where
  ip := peerText record "ip"
  server := peerText record "server"
  reachable := peerFlag record "reachable"
  selected := peerFlag record "selected"
  version := peerNumber record "version"
  expires := peerNumber record "expires"
  stratum := peerNumber record "stratum"
  reftime := peerNumber record "reftime"
  offset := peerNumber record "offset"
  delay := peerNumber record "delay"
  dispersion := peerNumber record "dispersion"
  peerDispersion := peerNumber record "peer_dispersion"

def Domain.ofRecord (domain : Json) : Domain where
  peers := (peersOf domain).map Peer.ofRecord
  name := nameOf domain

theorem Peer.ofValue_read (record : Json) : ofValue (shape.read record) = ofRecord record := by
  have hread : shape.read record = _ := Shape.read_ofFields _ _ (by decide) record
  refine (congrArg ofValue hread).trans ?_
  simp only [ofRecord, peerText, peerFlag, peerNumber, ← Shape.readMember_text,
    ← Shape.readMember_flag, ← Shape.readMember_number, Fields.ofList, Fields.readMembers_cons]
  rfl

theorem Domain.ofValue_read (domain : Json) : ofValue (shape.read domain) = ofRecord domain := by
  have hread : shape.read domain = _ := Shape.read_ofFields _ _ (by decide) domain
  refine (congrArg ofValue hread).trans ?_
  simp only [ofRecord, nameOf, peersOf, ← Shape.readMember_text,
    Shape.map_ofRecord_itemsOf Peer.ofValue_read, Fields.ofList, Fields.readMembers_cons]
  rfl

/-! ### Rows -/

/-- The labels of all rows of a server. -/
def peerLabels (domain : String) (peer : Json) : List (String × String) :=
  [("ip", peerText peer "ip"), ("server", peerText peer "server"),
   ("reachable", flagLabel (peerFlag peer "reachable")),
   ("selected", flagLabel (peerFlag peer "selected")),
   ("version", numberLabel (peerNumber peer "version")), ("vdom", domain)]

/-- The ends of the names of the families, their kinds, and what their values are in a body. -/
def measures : List (String × Kind × String) :=
  [("expires", .gauge, "expires"), ("stratum", .gauge, "stratum"),
   ("reftime", .counter, "reftime"), ("offset", .gauge, "offset"), ("delay", .gauge, "delay"),
   ("dispersion", .gauge, "dispersion"), ("dispersion_peer", .gauge, "peer_dispersion")]

/-- What a server shows. -/
def peerRows (domain : String) (peer : Json) : List Row :=
  measures.map fun (word, kind, key) =>
    { family := "fortigate_system_ntp_" ++ word, kind, labels := peerLabels domain peer
      value := peerNumber peer key }

theorem map_row_peer (domain : String) (peer : Json) :
    ((Peer.ofRecord peer).samples domain).map Sample.row = peerRows domain peer := rfl

/-! ### Runs -/

/-- From here on time servers are reported. -/
def reportVersion : Version := ⟨7, 4⟩

def endpoint : Endpoint := { path := "api/v2/monitor/system/ntp/status", query := "vdom=*" }

theorem probe_of_le {v : Version} (hv : reportVersion ≤ v) :
    probe v = (Dialogue.get shape endpoint).bind fun body => .done (samples (domains body)) := by
  have hranges : Capability.ntpStatus.ranges = [⟨reportVersion, endpoint⟩] := by decide
  rw [probe, Capability.resolve_of_floor hranges, if_pos hv]
  rfl

def domainSource : Source := .listed endpoint Domain.shape

/-- The servers of one domain, which is all that the device has. -/
def peerSource (frame : Frame) : Source where
  endpoint := endpoint
  item := Peer.shape
  body peers := .array [frame.fill "results" peers]

theorem hasBlocks_domains {v : Version} (hv : reportVersion ≤ v) (fetcher : Fetcher) :
    domainSource.HasBlocks (probe v) fetcher True fun domain =>
      (Domain.ofRecord domain.settled).samples := by
  have hsamples (values : List Domain.shape.Value) : samples (domains values) =
      values.flatMap fun value => (Domain.ofValue value).samples := List.flatMap_map ..
  simp only [← Domain.ofValue_read]
  rw [probe_of_le hv]
  exact Source.hasBlocks_listed hsamples fetcher

variable {frame : Frame} (hframe : frame.Fits Domain.shape "results")

include hframe

/-- A domain is called the same whichever servers it has. -/
theorem nameOf_fill (peers : List Json) :
    nameOf (frame.fill "results" peers).settled = nameOf (frame.fill "results" []).settled := by
  have hname : (frame.fill "results" peers).settled.under domainKeys "vdom" =
      (frame.fill "results" []).settled.under domainKeys "vdom" :=
    hframe.holds.under_fill_of_ne (by decide) peers []
  rw [nameOf, hname, nameOf]

theorem samples_fill (peers : List Json) :
    (Domain.ofRecord (frame.fill "results" peers).settled).samples = peers.flatMap fun peer =>
      (Peer.ofRecord peer.settled).samples (nameOf (frame.fill "results" []).settled) := by
  have hpeers : peersOf (frame.fill "results" peers).settled = peers.map Json.settled := by
    have hunder : (frame.fill "results" peers).settled.under domainKeys "results" =
        some (.array (peers.map Json.settled)) := hframe.under_fill (by decide) peers
    rw [peersOf, hunder, Json.itemsOf]
  rw [Domain.samples, Domain.ofRecord, nameOf_fill hframe, hpeers, List.map_map, List.flatMap_map]
  rfl

theorem hasBlocks_peers {v : Version} (hv : reportVersion ≤ v) (fetcher : Fetcher) :
    (peerSource frame).HasBlocks (probe v) fetcher True fun peer =>
      (Peer.ofRecord peer.settled).samples (nameOf (frame.fill "results" []).settled) := by
  intro peers samples
  have hfit : domainSource.Fit [frame.fill "results" peers] ↔ (peerSource frame).Fit peers :=
    List.forall_mem_singleton.trans
      (hframe.fault?_fill (by decide) List.mem_cons_self peers)
  -- the body of the servers is that of their domain
  have hshows := hasBlocks_domains hv fetcher [frame.fill "results" peers] samples
  rw [hfit, List.flatMap_singleton, samples_fill hframe] at hshows
  exact hshows

end NtpStatus

end FirewallExporter
