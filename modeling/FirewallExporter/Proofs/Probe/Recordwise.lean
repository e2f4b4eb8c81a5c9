import FirewallExporter.Probe.DnsLatency
import FirewallExporter.Probe.Sandbox
import FirewallExporter.Probe.Transceivers
import FirewallExporter.Proofs.Probe.NtpStatus
import FirewallExporter.Proofs.Probe.Performance
import FirewallExporter.Proofs.Probe.Sensors
import FirewallExporter.Proofs.Probe.SwitchPorts

/-!
Probes of lists, as what they show of lists that are put together. No record is lost,
shown twice or out of order, and what is shown of it does not depend on the others.
The findings of a sandbox are the exception: of those only the first record counts.
-/

namespace FirewallExporter

/-! ### Records under one key -/

namespace DnsLatency

def endpoint : Endpoint := { path := "api/v2/monitor/network/dns/latency", query := "" }

def source (frame : Frame) : Source := .framed endpoint Server.shape frame

theorem hasBlocks {frame : Frame} (h : frame.Fits shape "results") (v : Version)
    (fetcher : Fetcher) : (source frame).HasBlocks (probe v) fetcher True fun record =>
      (Server.ofValue (Server.shape.read record.settled)).samples := by
  have hranges : Capability.dnsLatency.ranges = [⟨.any, endpoint⟩] := by decide
  have hsamples (values : List Server.shape.Value) : samples (servers (values, ())) =
      values.flatMap fun value => (Server.ofValue value).samples := List.flatMap_map ..
  exact Source.hasBlocks_resolved h (fun body => samples (servers body)) hranges hsamples v fetcher

end DnsLatency

namespace Transceivers

def endpoint : Endpoint :=
  { path := "api/v2/monitor/system/interface/transceivers", query := "scope=global" }

def source (frame : Frame) : Source := .framed endpoint Transceiver.shape frame

theorem hasBlocks {frame : Frame} (h : frame.Fits shape "results") (v : Version)
    (fetcher : Fetcher) : (source frame).HasBlocks (probe v) fetcher True fun record =>
      (Transceiver.ofValue (Transceiver.shape.read record.settled)).samples := by
  have hranges : Capability.interfaceTransceivers.ranges = [⟨.any, endpoint⟩] := by decide
  have hsamples (values : List Transceiver.shape.Value) : samples (transceivers (values, ())) =
      values.flatMap fun value => (Transceiver.ofValue value).samples := List.flatMap_map ..
  exact Source.hasBlocks_resolved h (fun body => samples (transceivers body)) hranges hsamples v
    fetcher

end Transceivers

namespace Sensors

def source (frame : Frame) : Source := .framed endpoint Sensor.shape frame

theorem hasBlocks {frame : Frame} (h : frame.Fits shape "results") (v : Version)
    (fetcher : Fetcher) : (source frame).HasBlocks (probe v) fetcher True fun record =>
      (Sensor.ofValue (Sensor.shape.read record.settled)).samples (decide (splitVersion ≤ v)) := by
  have hsamples (values : List Sensor.shape.Value) :
      samples (decide (splitVersion ≤ v)) (sensors (values, ())) = values.flatMap fun value =>
        (Sensor.ofValue value).samples (decide (splitVersion ≤ v)) := List.flatMap_map ..
  rw [probe_eq]
  exact Source.hasBlocks_framed h
    (fun body => samples (decide (splitVersion ≤ v)) (sensors body)) hsamples fetcher

end Sensors

namespace Sandbox

def statusEndpoint : Endpoint := { path := "api/v2/monitor/system/sandbox/status", query := "" }

def statsEndpoint : Endpoint := { path := "api/v2/monitor/system/sandbox/stats", query := "" }

def connectionEndpoint : Endpoint :=
  { path := "api/v2/monitor/system/sandbox/connection", query := "" }

def statusSource (frame : Frame) : Source := .framed statusEndpoint Status.shape frame

def statsSource (frame : Frame) : Source := .framed statsEndpoint Stats.shape frame

def connectionSource (frame : Frame) : Source := .framed connectionEndpoint Connection.shape frame

theorem hasBlocks_status {frame : Frame} (h : frame.Fits (results Status.shape) "results")
    (v : Version) (fetcher : Fetcher) :
    (statusSource frame).HasBlocks (statusProbe v) fetcher True fun record =>
      (Status.ofValue (Status.shape.read record.settled)).samples := by
  have hranges : Capability.sandboxStatus.ranges = [⟨.any, statusEndpoint⟩] := by decide
  have hsamples (values : List Status.shape.Value) : statusSamples (statuses (values, ())) =
      values.flatMap fun value => (Status.ofValue value).samples := List.flatMap_map ..
  exact Source.hasBlocks_resolved h (fun body => statusSamples (statuses body)) hranges hsamples v
    fetcher

theorem hasBlocks_connections {frame : Frame}
    (h : frame.Fits (results Connection.shape) "results") (v : Version) (fetcher : Fetcher) :
    (connectionSource frame).HasBlocks (connectionProbe v) fetcher True fun record =>
      (Connection.ofValue (Connection.shape.read record.settled)).samples := by
  have hranges : Capability.sandboxConnection.ranges = [⟨.any, connectionEndpoint⟩] := by decide
  have hsamples (values : List Connection.shape.Value) :
      connectionSamples (connections (values, ())) =
        values.flatMap fun value => (Connection.ofValue value).samples := List.flatMap_map ..
  exact Source.hasBlocks_resolved h (fun body => connectionSamples (connections body)) hranges
    hsamples v fetcher

theorem firstOnly_stats {frame : Frame} (h : frame.Fits (results Stats.shape) "results")
    (v : Version) : (statsSource frame).FirstOnly (statsProbe v) := by
  have hranges : Capability.sandboxStats.ranges = [⟨.any, statsEndpoint⟩] := by decide
  have hprobe : statsProbe v = (Dialogue.get (results Stats.shape) statsEndpoint).bind fun body =>
      .done (statsSamples (stats body)) := by
    rw [statsProbe, Capability.resolve_of_range hranges]
    rfl
  rw [hprobe]
  exact .of_shows (fun _ _ _ => Source.shows_framed_iff h _) (fun _ _ => rfl) rfl

end Sandbox

namespace Performance

def source : Source := .listed endpoint Domain.shape

theorem hasBlocks (v : Version) (fetcher : Fetcher) :
    source.HasBlocks (probe v) fetcher True fun domain =>
      (Domain.ofValue (Domain.shape.read domain.settled)).samples := by
  have hsamples (values : List Domain.shape.Value) : samples (domains values) =
      values.flatMap fun value => (Domain.ofValue value).samples := List.flatMap_map ..
  rw [probe, resolve_performanceStatus]
  exact Source.hasBlocks_listed hsamples fetcher

end Performance

/-! ### Switches -/

namespace SwitchPorts

def source (v : Version) (frame : Frame) : Source :=
  .framed (if splitVersion ≤ v then statusEndpoint else legacyEndpoint) Switch.shape frame

/-- The counters that a device serves apart from the switches. -/
def Serves (fetcher : Fetcher) (counters : (results SwitchCounters.shape).Value) : Prop :=
  ∃ body, fetcher countersEndpoint = .answer (.ok body) ∧
    (results SwitchCounters.shape).decode body.settled = .ok counters

/-- Where counters are served apart they have to be there. -/
def Ready (v : Version) (fetcher : Fetcher) : Prop :=
  splitVersion ≤ v → ∃ counters, Serves fetcher counters

theorem Serves.unique {fetcher : Fetcher} {counters counters' : (results SwitchCounters.shape).Value}
    (h : Serves fetcher counters) (h' : Serves fetcher counters') : counters = counters' := by
  obtain ⟨body, hbody, hcounters⟩ := h
  obtain ⟨body', hbody', hcounters'⟩ := h'
  rw [hbody] at hbody'
  cases hbody'
  exact Except.ok.inj (hcounters.symm.trans hcounters')

theorem serves_serving {fetcher : Fetcher} {body : Json}
    {counters : (results SwitchCounters.shape).Value} :
    Serves (fetcher.serving statusEndpoint body) counters ↔ Serves fetcher counters := by
  have hother : fetcher.serving statusEndpoint body countersEndpoint = fetcher countersEndpoint :=
    Function.update_of_ne (by decide) _ _
  rw [Serves, hother, Serves]

/-- The samples of a switch with the counters that are served for it. -/
def joinedSamples (counters : (results SwitchCounters.shape).Value) (switch : Switch) :
    List Sample :=
  (joined (Correlation.attach .empty (Correlation.index (switchCounters counters)) switch)).samples

/-- What comes after the switches of a device that serves the counters apart. -/
def joinProbe (switches : List Switch) : Dialogue (List Sample) :=
  (Dialogue.get (results SwitchCounters.shape) countersEndpoint).bind fun counters =>
    (merge .empty "port-stats" switches (switchCounters counters)).bind fun merged =>
      .done (samples (merged.map joined))

theorem flatMap_switches (g : Switch → List Sample) (records : List Json) :
    (switches (records.map fun record => Switch.shape.read record.settled, ())).flatMap g =
      records.flatMap fun record => g (.ofValue (Switch.shape.read record.settled)) := by
  show List.flatMap g (List.map Switch.ofValue (List.map _ records)) = _
  rw [List.flatMap_map, List.flatMap_map]

theorem ending_joinProbe_iff {switches : List Switch} {fetcher : Fetcher}
    {shown : List Sample} :
    ((joinProbe switches).run fetcher).ending = .done shown ↔
      ∃ counters, Serves fetcher counters ∧ switches.flatMap (joinedSamples counters) = shown := by
  rw [joinProbe, Dialogue.ending_run_bind_iff]
  refine exists_congr fun counters => and_congr Dialogue.ending_run_get_iff ?_
  rw [Dialogue.run_bind_of_done (by rw [run_merge])]
  rw [Transcript.after_ending, Dialogue.run, Ending.done.injEq, samples, List.map_map,
    List.flatMap_map]
  exact Iff.rfl

section Framed

variable {frame : Frame} (h : frame.Fits (results Switch.shape) "results") {v : Version}
  (fetcher : Fetcher)

include h

theorem exists_hasBlocks_of_le (hv : splitVersion ≤ v) :
    ∃ block, (Source.framed statusEndpoint Switch.shape frame).HasBlocks (probe v) fetcher
      (∃ counters, Serves fetcher counters) block := by
  have hshows (records : List Json) (shown : List Sample) :
      (Source.framed statusEndpoint Switch.shape frame).Shows (probe v) fetcher records shown ↔
        (Source.framed statusEndpoint Switch.shape frame).Fit records ∧
          ∃ counters, Serves fetcher counters ∧ records.flatMap (fun record =>
            joinedSamples counters (.ofValue (Switch.shape.read record.settled))) = shown := by
    rw [probe_of_le hv]
    refine (Source.shows_get_bind_iff (Source.framed statusEndpoint Switch.shape frame)
      (fun records _ => h.decode_eq_ok_iff records)).trans (and_congr_right fun _ => ?_)
    refine ending_joinProbe_iff.trans (exists_congr fun counters => and_congr serves_serving ?_)
    exact Eq.congr_left (flatMap_switches (joinedSamples counters) records)
  by_cases hserves : ∃ counters, Serves fetcher counters
  · obtain ⟨counters, hcounters⟩ := hserves
    refine ⟨fun record => joinedSamples counters (.ofValue (Switch.shape.read record.settled)),
      fun records shown => ?_⟩
    rw [hshows]
    constructor
    · rintro ⟨hfit, counters', hcounters', rfl⟩
      rw [hcounters'.unique hcounters]
      exact ⟨⟨⟨counters, hcounters⟩, hfit⟩, rfl⟩
    · rintro ⟨⟨-, hfit⟩, hshown⟩
      exact ⟨hfit, counters, hcounters, hshown⟩
  · refine ⟨fun _ => [], fun records shown => ?_⟩
    rw [hshows]
    constructor
    · rintro ⟨-, counters, hcounters, -⟩
      exact absurd ⟨counters, hcounters⟩ hserves
    · rintro ⟨⟨hready, -⟩, -⟩
      exact absurd hready hserves

theorem hasBlocks_of_not_le (hv : ¬ splitVersion ≤ v) :
    (Source.framed legacyEndpoint Switch.shape frame).HasBlocks (probe v) fetcher True
      fun record => (Switch.ofValue (Switch.shape.read record.settled)).samples := by
  have hsamples (values : List Switch.shape.Value) : samples (switches (values, ())) =
      values.flatMap fun value => (Switch.ofValue value).samples := List.flatMap_map ..
  rw [probe_of_not_le hv]
  exact Source.hasBlocks_framed h (fun body => samples (switches body)) hsamples fetcher

/-- What a device serves apart is the same for all records, so they still have their blocks. -/
theorem exists_hasBlocks (v : Version) :
    ∃ block, (source v frame).HasBlocks (probe v) fetcher (Ready v fetcher) block := by
  by_cases hv : splitVersion ≤ v
  · obtain ⟨block, hblocks⟩ := exists_hasBlocks_of_le h fetcher hv
    have hready : Ready v fetcher ↔ ∃ counters, Serves fetcher counters := forall_prop_of_true hv
    refine ⟨block, fun records shown => ?_⟩
    rw [hready, source, if_pos hv]
    exact hblocks records shown
  · have hready : Ready v fetcher ↔ True := iff_true_intro fun h => absurd h hv
    refine ⟨fun record => (Switch.ofValue (Switch.shape.read record.settled)).samples,
      fun records shown => ?_⟩
    rw [hready, source, if_neg hv]
    exact hasBlocks_of_not_le h fetcher hv records shown

end Framed

end SwitchPorts

/-! ### Lists that are put together -/

/-- A probe that needs no more than the records, and shows so many samples of each. -/
structure Source.InBlocksOf (source : Source) (n : Nat) (d : Dialogue (List Sample)) : Prop where
  recordwise : source.Recordwise d fun _ => True
  each : source.Each d fun _ samples => samples.length = n

theorem Source.inBlocksOf {source : Source} {n : Nat} {d : Dialogue (List Sample)}
    {block : Json → List Sample} (h : ∀ fetcher, source.HasBlocks d fetcher True block)
    (hblock : ∀ record, (block record).length = n) : source.InBlocksOf n d :=
  ⟨HasBlocks.recordwise fun fetcher => ⟨block, h fetcher⟩,
    HasBlocks.each h hblock⟩

namespace Probe

/-- The probes of lists, as what they show of lists that are put together. -/
structure RecordwiseAt (v : Version) : Prop where
  dnsLatency : ∀ frame : Frame, frame.Fits DnsLatency.shape "results" →
    (DnsLatency.source frame).InBlocksOf 2 (DnsLatency.probe v)
  transceivers : ∀ frame : Frame, frame.Fits Transceivers.shape "results" →
    (Transceivers.source frame).InBlocksOf 1 (Transceivers.probe v)
  sandboxStatus : ∀ frame : Frame, frame.Fits (Sandbox.results Sandbox.Status.shape) "results" →
    (Sandbox.statusSource frame).InBlocksOf 1 (Sandbox.statusProbe v)
  sandboxConnection : ∀ frame : Frame,
    frame.Fits (Sandbox.results Sandbox.Connection.shape) "results" →
      (Sandbox.connectionSource frame).InBlocksOf 1 (Sandbox.connectionProbe v)
  sandboxStats : ∀ frame : Frame, frame.Fits (Sandbox.results Sandbox.Stats.shape) "results" →
    (Sandbox.statsSource frame).FirstOnly (Sandbox.statsProbe v)
  sensors : ∀ frame : Frame, frame.Fits Sensors.shape "results" →
    (Sensors.source frame).Recordwise (Sensors.probe v) fun _ => True
  performance : Performance.source.Recordwise (Performance.probe v) fun _ => True
  switches : ∀ frame : Frame, frame.Fits (SwitchPorts.results SwitchPorts.Switch.shape) "results" →
    (SwitchPorts.source v frame).Recordwise (SwitchPorts.probe v) (SwitchPorts.Ready v)
  timeDomains : NtpStatus.reportVersion ≤ v →
    NtpStatus.domainSource.Recordwise (NtpStatus.probe v) fun _ => True
  timeServers : NtpStatus.reportVersion ≤ v → ∀ frame : Frame,
    frame.Fits NtpStatus.Domain.shape "results" →
      (NtpStatus.peerSource frame).InBlocksOf 7 (NtpStatus.probe v) ∧
        (NtpStatus.peerSource frame).Each (NtpStatus.probe v) fun peer samples =>
          samples.map Sample.row = NtpStatus.peerRows
            (NtpStatus.nameOf (frame.fill "results" []).settled) peer.settled

/--
On every version the probes of lists show of two lists that are put together what
they show of the one and then what they show of the other. A name server has two
samples, a time server seven, and a transceiver and the state and the connection of
a sandbox one each; those of a time server are about it and its domain alone. Of
the findings of a sandbox the first record is shown and no other.
-/
theorem recordwiseAt (v : Version) : RecordwiseAt v where
  dnsLatency frame h :=
    Source.inBlocksOf (fun fetcher => DnsLatency.hasBlocks h v fetcher) fun _ => rfl
  transceivers frame h :=
    Source.inBlocksOf (fun fetcher => Transceivers.hasBlocks h v fetcher) fun _ => rfl
  sandboxStatus frame h :=
    Source.inBlocksOf (fun fetcher => Sandbox.hasBlocks_status h v fetcher) fun _ => rfl
  sandboxConnection frame h :=
    Source.inBlocksOf (fun fetcher => Sandbox.hasBlocks_connections h v fetcher) fun _ => rfl
  sandboxStats frame h := Sandbox.firstOnly_stats h v
  sensors frame h := Source.HasBlocks.recordwise fun fetcher => ⟨_, Sensors.hasBlocks h v fetcher⟩
  performance := Source.HasBlocks.recordwise fun fetcher => ⟨_, Performance.hasBlocks v fetcher⟩
  switches frame h :=
    Source.HasBlocks.recordwise fun fetcher => SwitchPorts.exists_hasBlocks h fetcher v
  timeDomains hv :=
    Source.HasBlocks.recordwise fun fetcher => ⟨_, NtpStatus.hasBlocks_domains hv fetcher⟩
  timeServers hv frame h := by
    have hblocks := NtpStatus.hasBlocks_peers h hv
    refine ⟨Source.inBlocksOf hblocks fun _ => rfl, ?_⟩
    exact Source.HasBlocks.each hblocks fun peer => NtpStatus.map_row_peer _ _

/-- A time server that is in use, and one that cannot be reached. -/
def selectedServer : Json := .object
  [("server", .string "a.example"), ("reachable", .bool true), ("selected", .bool true),
   ("stratum", .int 2)]

def silentServer : Json := .object [("server", .string "b.example"), ("delay", .null)]

def rootFrame : Frame :=
  .object [("vdom", .string "root"), ("results", .array [.int 0])] [("status", .string "success")]

theorem recordwiseAt_timeServers :
    ∃ samples, (NtpStatus.peerSource rootFrame).Shows (NtpStatus.probe ⟨7, 4⟩) (fun _ => .crash)
        [selectedServer, silentServer] samples ∧
      samples.map (·.label? "vdom") = List.replicate 14 (some "root") ∧
      samples.map (·.label? "selected") =
        List.replicate 7 (some "true") ++ List.replicate 7 (some "false") := by
  have hframe : rootFrame.Fits NtpStatus.Domain.shape "results" :=
    ⟨(by decide : "results" ∉ ["status"]), rfl⟩
  obtain ⟨hblocks, hrows⟩ := (recordwiseAt ⟨7, 4⟩).timeServers (by decide) rootFrame hframe
  have hdone (server : Json) (h : NtpStatus.Peer.shape.fault? server.settled = none) :
      ∃ samples, (NtpStatus.peerSource rootFrame).Shows (NtpStatus.probe ⟨7, 4⟩) (fun _ => .crash)
        [server] samples :=
    (hblocks.recordwise.done_iff _ _).mpr ⟨trivial, List.forall_mem_singleton.mpr h⟩
  obtain ⟨samples, hselected⟩ := hdone selectedServer rfl
  obtain ⟨samples', hsilent⟩ := hdone silentServer rfl
  have hlabel (name : String) : (samples ++ samples').map (·.label? name) =
      (NtpStatus.peerRows "root" selectedServer.settled ++
        NtpStatus.peerRows "root" silentServer.settled).map (·.labels.lookup name) := by
    have hboth : (samples ++ samples').map Sample.row =
        NtpStatus.peerRows "root" selectedServer.settled ++
          NtpStatus.peerRows "root" silentServer.settled := by
      rw [List.map_append]
      exact congrArg₂ (· ++ ·) (hrows _ _ _ hselected) (hrows _ _ _ hsilent)
    rw [← hboth, List.map_map]
    rfl
  exact ⟨_, hblocks.recordwise.append hselected hsilent, (hlabel "vdom").trans rfl,
    (hlabel "selected").trans rfl⟩

end Probe

end FirewallExporter
