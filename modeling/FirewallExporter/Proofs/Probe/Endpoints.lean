import FirewallExporter.Probe.Discovery
import FirewallExporter.Proofs.Probe.Correlation

/-!
The endpoints that probes ask. A probe asks only where its own capability is
served, so none of them asks for the system status.
-/

namespace FirewallExporter

/-- An endpoint other than that of the system status, whatever its query. -/
def NotSystemStatus (e : Endpoint) : Prop := e.path ≠ Discovery.endpoint.path

theorem Capability.mem_ranges_of_resolve {c : Capability} {v : Version} {e : Endpoint}
    (h : c.resolve v = some e) : ∃ r ∈ c.ranges, r.endpoint = e := by
  obtain ⟨r, hr, rfl⟩ := Option.map_eq_some_iff.mp h
  exact ⟨r, List.mem_of_find?_eq_some hr, rfl⟩

theorem Capability.notSystemStatus_of_mem_ranges {c : Capability} (hc : c ≠ .systemStatus) :
    ∀ r ∈ c.ranges, NotSystemStatus r.endpoint := by
  unfold NotSystemStatus
  cases c <;> first | exact absurd rfl hc | decide

theorem Capability.notSystemStatus_of_resolve {c : Capability} (hc : c ≠ .systemStatus)
    {v : Version} {e : Endpoint} (h : c.resolve v = some e) : NotSystemStatus e := by
  obtain ⟨r, hr, rfl⟩ := mem_ranges_of_resolve h
  exact notSystemStatus_of_mem_ranges hc r hr

theorem SwitchPorts.probe_asks (v : Version) : (probe v).Asks NotSystemStatus := by
  unfold probe
  split
  · trivial
  · next hstatus =>
      refine .bind (.get (Capability.notSystemStatus_of_resolve (by decide) hstatus)) fun _ => ?_
      split
      · trivial
      · next hcounters =>
          refine .bind (.get (Capability.notSystemStatus_of_resolve (by decide) hcounters)) ?_
          exact fun _ => .bind (.bind (.noteAll _) fun _ => trivial) fun _ => trivial

theorem Probe.run_asks {p : Probe} (hp : p ∈ Probe.catalogue) (v : Version) :
    (p.run v).Asks NotSystemStatus := by
  simp only [catalogue, List.mem_cons, List.not_mem_nil, or_false] at hp
  rcases hp with rfl | rfl | rfl | rfl | rfl | rfl | rfl | rfl | rfl | rfl | rfl
  case inr.inr.inl => exact SwitchPorts.probe_asks v
  all_goals
    exact Dialogue.asks_resolved trivial fun _ h =>
      Capability.notSystemStatus_of_resolve (by decide) h

theorem Probe.invoke_asks {p : Probe} (hp : p ∈ Probe.catalogue) (v : Version) :
    (p.invoke v).Asks NotSystemStatus := by
  refine (Probe.run_asks hp v).attempt.bind fun result => ?_
  cases result <;> trivial

end FirewallExporter
