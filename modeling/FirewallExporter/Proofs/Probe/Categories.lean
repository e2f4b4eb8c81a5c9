import FirewallExporter.Proofs.Probe.Families

/-!
Words as sample values, and the values that are documented for them. A word gives
the default value just if the vocabulary lacks it, as long as no word of the
vocabulary gives it too. Every probe keeps to the documented values of its
families, whatever the device answers.
-/

namespace FirewallExporter

/-! ### Values of words -/

namespace Category

variable {c : Category} {word : String}

theorem value_of_not_mem (h : word ∉ c.vocabulary) : c.value word = c.default := by
  have hlookup : c.arms.lookup word = none := by
    rw [List.lookup_eq_none_iff]
    intro arm harm
    exact bne_iff_ne.mpr fun heq => h (heq ▸ List.mem_map_of_mem harm)
  rw [value, hlookup, Option.getD_none]

/-- A word of the vocabulary gives the value of one of its arms. -/
theorem exists_arm_of_mem (h : word ∈ c.vocabulary) : ∃ arm ∈ c.arms, c.value word = arm.2 := by
  obtain ⟨arm, harm, rfl⟩ := List.mem_map.mp h
  cases hlookup : c.arms.lookup arm.1 with
  | none => exact absurd (List.lookup_eq_none_iff.mp hlookup arm harm) (by simp)
  | some x =>
      obtain ⟨before, after, hsplit, -⟩ := List.lookup_eq_some_iff.mp hlookup
      refine ⟨(arm.1, x), by rw [hsplit]; simp, ?_⟩
      rw [value, hlookup, Option.getD_some]

/-- All the values that words can have. -/
def range (c : Category) : List Float := c.default :: c.arms.map Prod.snd

theorem value_mem_range (c : Category) (word : String) : c.value word ∈ c.range := by
  by_cases h : word ∈ c.vocabulary
  · obtain ⟨arm, harm, hvalue⟩ := exists_arm_of_mem h
    rw [hvalue]
    exact List.mem_cons_of_mem _ (List.mem_map_of_mem harm)
  · rw [value_of_not_mem h]
    exact List.mem_cons_self

/-- The default is only shown for what the vocabulary lacks, if no arm is shown like it. -/
theorem show_value_eq_default_iff {α : Type} (f : Float → α)
    (h : ∀ arm ∈ c.arms, f arm.2 ≠ f c.default) :
    f (c.value word) = f c.default ↔ word ∉ c.vocabulary := by
  constructor
  · intro hvalue hmem
    obtain ⟨arm, harm, harmValue⟩ := exists_arm_of_mem hmem
    rw [harmValue] at hvalue
    exact h arm harm hvalue
  · intro hmem
    rw [value_of_not_mem hmem]

end Category

/-! ### Documented values -/

/-- The families whose values are a few documented ones. -/
def documentedValues : List (String × List Float) :=
  [("fortiswitch_health_summary_cpu", [0.0, 1.0]),
   ("fortiswitch_health_summary_memory", [0.0, 1.0]),
   ("fortiswitch_health_summary_uptime", [0.0, 1.0]),
   ("fortiswitch_health_summary_temperature", [0.0, 1.0]),
   ("fortiswitch_status", [0.0, 1.0]), ("fortiswitch_port_status", [0.0, 1.0]),
   ("fortiswitch_port_duplex_status", [0.0, 0.5, 1.0]),
   ("fortigate_sensor_alarm_status", [0.0, 1.0]),
   ("fortigate_sandbox_connection_status", [-2.0, -1.0, 0.0, 1.0]),
   ("fortigate_system_central_management_mode", [1.0, 2.0]),
   ("fortigate_system_central_management_status", [-1.0, 0.0, 1.0, 2.0]),
   ("fortigate_system_central_management_registration_status", [-1.0, 0.0, 1.0, 2.0]),
   ("fortigate_inteface_transceivers", [1.0])]

/-- The sample has one of the values that are documented for its family. -/
structure Sample.Documented (s : Sample) : Prop where
  value : ∀ values, documentedValues.lookup s.name = some values → s.value ∈ values
  state : s.name = "fortiswitch_status" →
    ∃ text ∈ ["-1", "0", "1", "2"], s.label? "state" = some text

def AllDocumented (samples : List Sample) : Prop := ∀ s ∈ samples, s.Documented

theorem allDocumented_nil : AllDocumented [] := List.forall_mem_nil _

namespace Sample.Documented

variable {s : Sample}

theorem of_unlisted (h : documentedValues.lookup s.name = none) : s.Documented := by
  refine ⟨fun values hvalues => ?_, fun hname => ?_⟩
  · rw [h] at hvalues
    cases hvalues
  · rw [hname] at h
    cases h

theorem of_value {f : Family} {x : Float} {labelValues : List String}
    {arity : labelValues.length = f.labelNames.length} {values : List Float}
    (h : documentedValues.lookup f.name = some values) (hx : x ∈ values)
    (hname : f.name ≠ "fortiswitch_status") : (f.sample x labelValues arity).Documented := by
  refine ⟨fun values' hvalues => ?_, fun hstatus => absurd hstatus hname⟩
  cases h.symm.trans hvalues
  exact hx

/-- Samples of other families have nothing to keep to. -/
theorem all_of_unlisted {families : List Family}
    (h : ∀ f ∈ families, documentedValues.lookup f.name = none) {samples : List Sample}
    (hsamples : OfFamilies families samples) : AllDocumented samples :=
  fun s hs => of_unlisted (h s.family (hsamples s hs))

end Sample.Documented

theorem flagValue_mem (b : Bool) : flagValue b ∈ [0.0, 1.0] := by
  cases b <;> simp [flagValue]

theorem SwitchHealth.documented_samples (r : Response) : AllDocumented (samples r) := by
  have hscore (r : Rating) : r.score ∈ [0.0, 1.0] := Category.rating.value_mem_range r.rating
  unfold AllDocumented samples Health.samples
  simp only [List.forall_mem_flatMap, List.forall_mem_append]
  rintro ⟨serial, h⟩ -
  refine ⟨⟨?_, ?_⟩, ?_⟩
  · simp only [Summary.samples, List.forall_mem_cons]
    exact ⟨.of_value rfl (hscore _) (by decide), .of_value rfl (hscore _) (by decide),
      .of_value rfl (hscore _) (by decide), .of_value rfl (hscore _) (by decide), allDocumented_nil⟩
  · intro t _
    exact List.forall_mem_singleton.mpr (.of_unlisted rfl)
  · simp only [Cpu.samples, List.forall_mem_cons]
    exact ⟨.of_unlisted rfl, .of_unlisted rfl, .of_unlisted rfl, .of_unlisted rfl, allDocumented_nil⟩

theorem SwitchPorts.documented_statusSample (s : Switch) : s.statusSample.Documented := by
  have hrange : Category.switchConnection.range ⊆ [0.0, 1.0] := by
    simp [Category.range, Category.switchConnection]
  have hstates (x : Float) (hx : x ∈ Category.authorizationState.range) :
      numberLabel x ∈ ["-1", "0", "1", "2"] := by
    simp only [Category.range, Category.authorizationState, List.map_cons, List.map_nil,
      List.mem_cons, List.not_mem_nil, or_false] at hx
    rcases hx with rfl | rfl | rfl | rfl <;> decide
  refine ⟨fun values hvalues => ?_, fun _ => ?_⟩
  · cases hvalues
    exact hrange (Category.value_mem_range _ _)
  · exact ⟨_, hstates _ (Category.value_mem_range _ _), rfl⟩

theorem SwitchPorts.documented_samplesWith (s : Switch) (counters : PortTable) :
    AllDocumented (s.samplesWith counters) := by
  have hduplex : Category.duplex.range ⊆ [0.0, 0.5, 1.0] := by
    simp [Category.range, Category.duplex]
  have hlink : Category.linkStatus.range ⊆ [0.0, 1.0] := by
    simp [Category.range, Category.linkStatus]
  unfold AllDocumented Switch.samplesWith
  simp only [List.forall_mem_flatMap, List.forall_mem_append, List.forall_mem_cons]
  refine ⟨⟨documented_statusSample s, fun p _ => ?_⟩, fun entry _ => ?_⟩
  · simp only [Port.samples, List.forall_mem_cons]
    exact ⟨.of_value rfl (hlink (Category.value_mem_range _ _)) (by decide), .of_unlisted rfl,
      .of_value rfl (hduplex (Category.value_mem_range _ _)) (by decide), allDocumented_nil⟩
  · have hunlisted : ∀ f ∈ counterFamilies, documentedValues.lookup f.name = none := by decide
    exact Sample.Documented.all_of_unlisted hunlisted (ofFamilies_counters s entry.1 entry.2)

theorem CentralManagement.documented_samples (s : Status) : AllDocumented (samples s) := by
  have hmode : Category.managementMode.range ⊆ [1.0, 2.0] := by
    simp [Category.range, Category.managementMode]
  have hstatus : Category.managementStatus.range ⊆ [-1.0, 0.0, 1.0, 2.0] := by
    simp [Category.range, Category.managementStatus]
  have hregistration : Category.registrationStatus.range ⊆ [-1.0, 0.0, 1.0, 2.0] := by
    simp [Category.range, Category.registrationStatus]
  unfold AllDocumented samples
  simp only [List.forall_mem_cons]
  exact ⟨.of_value rfl (hmode (Category.value_mem_range _ _)) (by decide),
    .of_value rfl (hstatus (Category.value_mem_range _ _)) (by decide),
    .of_value rfl (hregistration (Category.value_mem_range _ _)) (by decide), allDocumented_nil⟩

theorem Transceivers.documented_samples (ts : List Transceiver) : AllDocumented (samples ts) := by
  unfold AllDocumented samples
  rw [List.forall_mem_flatMap]
  intro t _
  exact List.forall_mem_singleton.mpr (.of_value rfl (List.mem_singleton.mpr rfl) (by decide))

theorem Sandbox.documented_connectionSamples (cs : List Connection) :
    AllDocumented (connectionSamples cs) := by
  have hconnection : Category.sandboxConnection.range ⊆ [-2.0, -1.0, 0.0, 1.0] := by
    simp [Category.range, Category.sandboxConnection]
  unfold AllDocumented connectionSamples
  rw [List.forall_mem_flatMap]
  intro c _
  exact List.forall_mem_singleton.mpr
    (.of_value rfl (hconnection (Category.value_mem_range _ _)) (by decide))

theorem Sensors.documented_samples (withThresholds : Bool) (sensors : List Sensor) :
    AllDocumented (samples withThresholds sensors) := by
  unfold AllDocumented samples Sensor.samples
  simp only [List.forall_mem_flatMap, List.forall_mem_append]
  refine fun s _ => ⟨?_, ?_⟩
  · split
    · simp only [Sensor.gated, List.forall_mem_cons, List.forall_mem_map]
      exact ⟨.of_value rfl (flagValue_mem s.alarm) (by decide), fun _ _ => .of_unlisted rfl⟩
    · exact allDocumented_nil
  · unfold Sensor.reading
    split
    · exact List.forall_mem_singleton.mpr (.of_unlisted rfl)
    · exact List.forall_mem_singleton.mpr (.of_unlisted rfl)
    · exact List.forall_mem_singleton.mpr (.of_unlisted rfl)
    · exact allDocumented_nil

theorem SwitchPorts.probe_yields_documented (v : Version) : (probe v).Yields AllDocumented := by
  have hsamples (switches : List Switch) : AllDocumented (samples switches) :=
    List.forall_mem_flatMap.mpr fun s _ => documented_samplesWith s s.counters
  unfold probe
  split
  · exact nofun
  · refine Dialogue.Yields.of_get fun status => ?_
    split
    · exact hsamples _
    · refine Dialogue.Yields.of_get fun counters => ?_
      have hjoin := Dialogue.Yields.of_forall (fun _ => trivial)
        (merge .empty "port-stats" (switches status) (switchCounters counters))
      exact hjoin.bind fun _ _ => hsamples _

/-- A probe of unlisted families has nothing to keep to. -/
theorem Probe.yields_documented_of_unlisted {p : Probe} (hp : p ∈ catalogue)
    (h : ∀ f ∈ p.families, documentedValues.lookup f.name = none) (v : Version) :
    (p.run v).Yields AllDocumented :=
  (run_yields_families hp v).mono fun _ => Sample.Documented.all_of_unlisted h

/-- Whatever it is answered, a probe keeps to what is documented. -/
theorem Probe.run_yields_documented {p : Probe} (hp : p ∈ catalogue) (v : Version) :
    (p.run v).Yields AllDocumented := by
  have hmem := hp
  simp only [catalogue, List.mem_cons, List.not_mem_nil, or_false] at hp
  rcases hp with rfl | rfl | rfl | rfl | rfl | rfl | rfl | rfl | rfl | rfl | rfl
  · exact yields_documented_of_unlisted hmem (by decide) v
  · exact Dialogue.yields_resolved allDocumented_nil fun body => SwitchHealth.documented_samples _
  · exact SwitchPorts.probe_yields_documented v
  · exact Dialogue.yields_resolved allDocumented_nil fun body => CentralManagement.documented_samples _
  · exact Dialogue.yields_resolved allDocumented_nil fun body => Transceivers.documented_samples _
  · exact yields_documented_of_unlisted hmem (by decide) v
  · exact yields_documented_of_unlisted hmem (by decide) v
  · exact Dialogue.yields_resolved allDocumented_nil fun body => Sandbox.documented_connectionSamples _
  · exact yields_documented_of_unlisted hmem (by decide) v
  · exact yields_documented_of_unlisted hmem (by decide) v
  · exact Dialogue.yields_resolved allDocumented_nil fun body => Sensors.documented_samples _ _

end FirewallExporter
