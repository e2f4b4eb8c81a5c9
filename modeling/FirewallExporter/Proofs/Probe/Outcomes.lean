import FirewallExporter.Proofs.Device.Queries
import FirewallExporter.Proofs.Metric.Emission
import FirewallExporter.Proofs.Probe.SwitchPorts

/-!
What becomes of a probe. A probe of the catalogue makes a fixed list of queries
for each version, one after another. It fails with the error of the first query
that has one and asks nothing after it; if there is none, it succeeds.
-/

namespace FirewallExporter

/-- What is served from the lowest version on is served by all. -/
theorem Capability.length_resolve {c : Capability} (h : ∃ r ∈ c.ranges, r.since = .any)
    (v : Version) : (c.resolve v).toList.length = 1 := by
  obtain ⟨r, hr, hsince⟩ := h
  have hatLeast : v.atLeast r.since = true := by
    rw [hsince]
    exact decide_eq_true (Version.any_le v)
  have hsome : (c.resolve v).isSome = true := by
    rw [resolve, Option.isSome_map, List.find?_isSome]
    exact ⟨r, hr, hatLeast⟩
  rw [Option.length_toList, if_pos hsome]

theorem Capability.length_resolve_ntpStatus (v : Version) :
    (ntpStatus.resolve v).toList.length = if (⟨7, 4⟩ : Version) ≤ v then 1 else 0 := by
  rw [resolve, ranges, List.find?_singleton, since]
  by_cases h : (⟨7, 4⟩ : Version) ≤ v <;> simp [Version.atLeast, h]

namespace Probe

/-- The bodies that the probe of a name needs, each with what it tells of, in order. -/
def needs : String → List (Capability × Shape)
  | "Network/DNSLatency" => [(.dnsLatency, DnsLatency.shape)]
  | "Switch/Health" => [(.switchHealth, SwitchHealth.Response.shape)]
  | "Switch/PortStats" =>
    [(.switchStatus, SwitchPorts.results SwitchPorts.Switch.shape),
     (.switchPortStats, SwitchPorts.results SwitchPorts.SwitchCounters.shape)]
  | "System/CentralManagement/Status" => [(.centralManagement, CentralManagement.shape)]
  | "System/Interface/Transceivers" => [(.interfaceTransceivers, Transceivers.shape)]
  | "System/NTPStatus" => [(.ntpStatus, NtpStatus.shape)]
  | "System/PerformanceStatus" => [(.performanceStatus, Performance.shape)]
  | "System/SandboxConnection" =>
    [(.sandboxConnection, Sandbox.results Sandbox.Connection.shape)]
  | "System/SandboxStats" => [(.sandboxStats, Sandbox.results Sandbox.Stats.shape)]
  | "System/SandboxStatus" => [(.sandboxStatus, Sandbox.results Sandbox.Status.shape)]
  | "System/SensorInfo" => [(.sensorInfo, Sensors.shape)]
  | _ => []

/-- The queries for bodies of which each tells of a capability. -/
def queriesFor (v : Version) (needs : List (Capability × Shape)) : List Query :=
  needs.flatMap fun need => ((need.1.resolve v).map (Query.mk · need.2)).toList

/-- The queries of a probe: what is not served by a version is not asked of it. -/
def queries (p : Probe) (v : Version) : List Query := queriesFor v (needs p.name)

theorem queriesFor_singleton (v : Version) (c : Capability) (shape : Shape) :
    queriesFor v [(c, shape)] = ((c.resolve v).map (Query.mk · shape)).toList :=
  List.flatMap_singleton _ _

/-- A dialogue that asks where a capability is served, and then ends. -/
theorem reads_resolved {α : Type} {c : Capability} {v : Version} {shape : Shape}
    {f : shape.Value → α} {other : Dialogue α} (hother : Dialogue.Reads [] other) :
    Dialogue.Reads (queriesFor v [(c, shape)])
      (match c.resolve v with
        | none => other
        | some endpoint => (Dialogue.get shape endpoint).bind fun value => .done (f value)) := by
  rw [queriesFor_singleton]
  cases c.resolve v with
  | none => exact hother
  | some endpoint => exact .get ⟨endpoint, shape⟩ fun value => .done (f value)

theorem length_queriesFor_singleton (v : Version) (c : Capability) (shape : Shape) :
    (queriesFor v [(c, shape)]).length = (c.resolve v).toList.length := by
  rw [queriesFor_singleton]
  cases c.resolve v <;> rfl

theorem queriesFor_switchPorts_of_le {v : Version} (hv : SwitchPorts.splitVersion ≤ v) :
    queriesFor v (needs "Switch/PortStats") =
      [⟨SwitchPorts.statusEndpoint, SwitchPorts.results SwitchPorts.Switch.shape⟩,
       ⟨SwitchPorts.countersEndpoint, SwitchPorts.results SwitchPorts.SwitchCounters.shape⟩] := by
  simp [queriesFor, needs, SwitchPorts.resolve_switchStatus,
    SwitchPorts.resolve_switchPortStats, hv]

theorem queriesFor_switchPorts_of_not_le {v : Version} (hv : ¬ SwitchPorts.splitVersion ≤ v) :
    queriesFor v (needs "Switch/PortStats") =
      [⟨SwitchPorts.legacyEndpoint, SwitchPorts.results SwitchPorts.Switch.shape⟩] := by
  simp [queriesFor, needs, SwitchPorts.resolve_switchStatus,
    SwitchPorts.resolve_switchPortStats, hv]

theorem switchPorts_reads (v : Version) :
    (SwitchPorts.probe v).Reads (queriesFor v (needs "Switch/PortStats")) := by
  by_cases hv : SwitchPorts.splitVersion ≤ v
  · rw [queriesFor_switchPorts_of_le hv, SwitchPorts.probe_of_le hv]
    refine .get _ fun status => .get _ fun counters => ?_
    exact .bind (.bind (.noteAll _) fun _ => .done _) fun _ => .done _
  · rw [queriesFor_switchPorts_of_not_le hv, SwitchPorts.probe_of_not_le hv]
    exact .get _ fun status => .done _

theorem run_reads {p : Probe} (hp : p ∈ catalogue) (v : Version) :
    (p.run v).Reads (p.queries v) := by
  simp only [catalogue, List.mem_cons, List.not_mem_nil, or_false] at hp
  rcases hp with rfl | rfl | rfl | rfl | rfl | rfl | rfl | rfl | rfl | rfl | rfl
  case inr.inr.inl => exact switchPorts_reads v
  case inr.inr.inr.inr.inr.inl => exact reads_resolved (.note _ (.done _))
  all_goals exact reads_resolved (.done _)

/-- How many queries a probe has. -/
def queryCount (p : Probe) (v : Version) : Nat :=
  match p.name with
  | "Switch/PortStats" => if SwitchPorts.splitVersion ≤ v then 2 else 1
  | "System/NTPStatus" => if (⟨7, 4⟩ : Version) ≤ v then 1 else 0
  | _ => 1

theorem length_queries {p : Probe} (hp : p ∈ catalogue) (v : Version) :
    (p.queries v).length = p.queryCount v := by
  simp only [catalogue, List.mem_cons, List.not_mem_nil, or_false] at hp
  rcases hp with rfl | rfl | rfl | rfl | rfl | rfl | rfl | rfl | rfl | rfl | rfl
  case inr.inr.inl =>
    by_cases hv : SwitchPorts.splitVersion ≤ v
    · rw [queries, queriesFor_switchPorts_of_le hv]
      exact (if_pos hv).symm
    · rw [queries, queriesFor_switchPorts_of_not_le hv]
      exact (if_neg hv).symm
  case inr.inr.inr.inr.inr.inl =>
    exact (length_queriesFor_singleton v .ntpStatus _).trans (Capability.length_resolve_ntpStatus v)
  all_goals
    exact (length_queriesFor_singleton v _ _).trans (Capability.length_resolve (by decide) v)

/-! ### Runs -/

variable {p : Probe} {v : Version} {fetcher : Fetcher}

theorem run_invoke_of_done {samples : List Sample}
    (h : ((p.run v).run fetcher).ending = .done samples) :
    (p.invoke v).run fetcher =
      ((p.run v).run fetcher).withEnding (.done { samples, ok := true }) := by
  rw [invoke, Dialogue.run_bind, Dialogue.run_attempt, h]
  simp [Transcript.withEnding, Transcript.after, settle, Dialogue.run]

/-- A probe that fails is reported without samples, and the failure is noted. -/
theorem run_invoke_of_failed {error : ProbeError}
    (h : ((p.run v).run fetcher).ending = .failed error) :
    (p.invoke v).run fetcher =
      { ending := .done { samples := [], ok := false }
        calls := ((p.run v).run fetcher).calls
        events := ((p.run v).run fetcher).events ++ [.probeFailed p.name error] } := by
  rw [invoke, Dialogue.run_bind, Dialogue.run_attempt, h]
  simp [Transcript.withEnding, Transcript.after, Transcript.addEvent, settle, Dialogue.run,
    Outcome.failed]

/--
A probe asks for the bodies it needs in order, up to the first that does not
come or does not fit, and nothing else. If there is such a body, the probe fails
with what came of it and is reported without samples, whatever it had got before;
no probe fails in any other way.
If there is none, the probe succeeds and is reported with its samples, each of
which an emitter takes, as its label values are as many as the labels.
-/
theorem run_of_answers {p : Probe} (hp : p ∈ catalogue) (v : Version)
    (answers : Endpoint → Answer) :
    (p.queries v).length = p.queryCount v ∧
      ((p.run v).run (.ofAnswers answers)).calls = Query.asked answers (p.queries v) ∧
      ((p.invoke v).run (.ofAnswers answers)).calls = Query.asked answers (p.queries v) ∧
      ((∃ samples, ((p.run v).run (.ofAnswers answers)).ending = .done samples) ↔
        ∀ q ∈ p.queries v, ∃ body value, answers q.endpoint = .ok body ∧
          q.shape.decode body.settled = .ok value) ∧
      (∀ error, ((p.run v).run (.ofAnswers answers)).ending = .failed error →
        ∃ cause, error = .fetch cause) ∧
      match Query.firstFailure? answers (p.queries v) with
      | some error =>
        ((p.run v).run (.ofAnswers answers)).ending = .failed (.fetch error) ∧
          ((p.invoke v).run (.ofAnswers answers)).ending = .done { samples := [], ok := false }
      | none =>
        ∃ samples, ((p.run v).run (.ofAnswers answers)).ending = .done samples ∧
          ((p.invoke v).run (.ofAnswers answers)).ending = .done { samples, ok := true } ∧
          (∀ s ∈ samples, s.labelValues.length = s.family.labelNames.length) ∧
          Emitter.collect samples = .ok samples := by
  have hreads := run_reads hp v
  have hcalls : ((p.run v).run (.ofAnswers answers)).calls = Query.asked answers (p.queries v) :=
    hreads.calls
  cases hfailure : Query.firstFailure? answers (p.queries v) with
  | some error =>
      have hending := hreads.ending_of_failure hfailure
      have hinvoke := run_invoke_of_failed hending
      refine ⟨length_queries hp v, hcalls, by rw [hinvoke]; exact hcalls, ?_, ?_, hending, ?_⟩
      · rw [hending, ← Query.firstFailure?_eq_none_iff, hfailure]
        simp
      · intro error' herror
        cases hending.symm.trans herror
        exact ⟨error, rfl⟩
      · rw [hinvoke]
  | none =>
      obtain ⟨samples, hending⟩ := hreads.ending_of_values hfailure
      have hinvoke := run_invoke_of_done hending
      refine ⟨length_queries hp v, hcalls, by rw [hinvoke]; exact hcalls, ?_, ?_, samples, hending,
        by rw [hinvoke]; rfl, fun s _ => s.arity, Emitter.collect_eq samples⟩
      · rw [← Query.firstFailure?_eq_none_iff, hfailure]
        exact iff_of_true ⟨samples, hending⟩ rfl
      · intro error herror
        cases hending.symm.trans herror

/-- A device that serves its switches but not their counters. -/
def switchesOnly : Endpoint → Answer := fun e =>
  if e = SwitchPorts.statusEndpoint then .ok (.object []) else .error (.status e.path 404)

theorem run_of_answers_switchesOnly :
    switchPorts ∈ catalogue ∧
      ((SwitchPorts.probe ⟨7, 4⟩).run (.ofAnswers switchesOnly)).calls =
        [SwitchPorts.statusEndpoint, SwitchPorts.countersEndpoint] ∧
      ((SwitchPorts.probe ⟨7, 4⟩).run (.ofAnswers switchesOnly)).ending =
        .failed (.fetch (.status SwitchPorts.countersEndpoint.path 404)) := by
  have hp : switchPorts ∈ catalogue := by simp [catalogue]
  obtain ⟨-, hcalls, -, -, -, hending⟩ := run_of_answers hp ⟨7, 4⟩ switchesOnly
  exact ⟨hp, hcalls, hending.1⟩

end Probe

end FirewallExporter
