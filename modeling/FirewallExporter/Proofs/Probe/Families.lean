import FirewallExporter.Proofs.Device.Runs
import FirewallExporter.Proofs.Exposition.Reader
import FirewallExporter.Scrape

/-!
The families the exporter knows. Whatever a device answers, each sample of a
probe belongs to one of a fixed list of families, all of whose names can stand
in exposition text.
-/

namespace FirewallExporter

/-- Every sample belongs to one of the families. -/
def OfFamilies (families : List Family) (samples : List Sample) : Prop :=
  ∀ s ∈ samples, s.family ∈ families

section OfFamilies

variable {families : List Family} {α : Type}

@[simp] theorem ofFamilies_nil : OfFamilies families [] := nofun

@[simp] theorem ofFamilies_cons {s : Sample} {samples : List Sample} :
    OfFamilies families (s :: samples) ↔ s.family ∈ families ∧ OfFamilies families samples :=
  List.forall_mem_cons

@[simp] theorem ofFamilies_append {xs ys : List Sample} :
    OfFamilies families (xs ++ ys) ↔ OfFamilies families xs ∧ OfFamilies families ys :=
  List.forall_mem_append

@[simp] theorem ofFamilies_flatMap {xs : List α} {f : α → List Sample} :
    OfFamilies families (xs.flatMap f) ↔ ∀ x ∈ xs, OfFamilies families (f x) :=
  List.forall_mem_flatMap

@[simp] theorem ofFamilies_map {xs : List α} {f : α → Sample} :
    OfFamilies families (xs.map f) ↔ ∀ x ∈ xs, (f x).family ∈ families :=
  List.forall_mem_map

theorem ofFamilies_mapIdx {xs : List α} {f : Nat → α → List Sample}
    (h : ∀ i x, OfFamilies families (f i x)) : OfFamilies families (xs.mapIdx f).flatten := by
  intro s hs
  simp only [List.mem_flatten, List.mem_mapIdx] at hs
  obtain ⟨_, ⟨i, _, rfl⟩, hs⟩ := hs
  exact h i _ s hs

theorem OfFamilies.mono {families' : List Family} {samples : List Sample}
    (h : OfFamilies families samples) (hsub : families ⊆ families') :
    OfFamilies families' samples := fun s hs => hsub (h s hs)

end OfFamilies

/-! ### Names -/

theorem isName_ofList {cs : List Char} (h : (!cs.isEmpty && cs.all isNameChar) = true) :
    isName (String.ofList cs) = true := by
  rw [isName, String.toList_ofList]
  exact h

theorem isName_append {s t : String} (hs : isName s = true) (ht : isName t = true) :
    isName (s ++ t) = true := by
  simp only [isName, Bool.and_eq_true, Bool.not_eq_true', List.isEmpty_eq_false_iff,
    String.toList_append, List.all_append] at hs ht ⊢
  exact ⟨List.append_ne_nil_of_left_ne_nil hs.1 _, hs.2, ht.2⟩

def AreNames (names : List String) : Prop := ∀ s ∈ names, isName s = true

instance (names : List String) : Decidable (AreNames names) :=
  inferInstanceAs (Decidable (∀ s ∈ names, isName s = true))

theorem Family.WellNamed.gauge {name help : String} {labels : List String}
    (hname : isName name = true) (hlabels : AreNames labels) :
    (Family.gauge name help labels).WellNamed :=
  ⟨hname, List.all_eq_true.mpr hlabels⟩

theorem Family.WellNamed.counter {name help : String} {labels : List String}
    (hname : isName name = true) (hlabels : AreNames labels) :
    (Family.counter name help labels).WellNamed :=
  ⟨hname, List.all_eq_true.mpr hlabels⟩

/-! ### The families of each probe -/

def DnsLatency.families : List Family := [latencyFamily, latestUpdateFamily]

theorem DnsLatency.probe_yields (v : Version) : (probe v).Yields (OfFamilies families) := by
  refine Dialogue.yields_resolved ofFamilies_nil fun body => ?_
  simp [samples, Server.samples, families, Family.sample]

def SwitchHealth.families : List Family :=
  [summaryCpu, summaryMemory, summaryUptime, summaryTemperature, temperatureFamily,
   cpuUser, cpuNice, cpuSystem, cpuIdle]

theorem SwitchHealth.probe_yields (v : Version) : (probe v).Yields (OfFamilies families) := by
  refine Dialogue.yields_resolved ofFamilies_nil fun body => ?_
  simp [samples, Health.samples, Summary.samples, TemperatureSensor.samples, Cpu.samples,
    families, Family.sample]

/-- The families of the port counters, in the order shown. -/
def SwitchPorts.counterFamilies : List Family :=
  (Counters.labelled ⟨⟨0, 0, 0, 0, 0, 0, 0, 0⟩, ⟨0, 0, 0, 0, 0, 0, 0, 0⟩⟩).map
    fun (name, help, _) => counterFamily name help

def SwitchPorts.families : List Family :=
  [switchStatus, portStatus, portSpeed, portDuplex] ++ counterFamilies

theorem SwitchPorts.map_family_labelled (c : Counters) :
    c.labelled.map (fun (name, help, _) => counterFamily name help) = counterFamilies := rfl

theorem SwitchPorts.ofFamilies_counters (s : Switch) (port : String) (c : Counters) :
    OfFamilies counterFamilies (c.samples s port) := by
  intro sample hsample
  obtain ⟨⟨name, help, x⟩, hmem, rfl⟩ := List.mem_map.mp hsample
  rw [← map_family_labelled c]
  exact List.mem_map.mpr ⟨_, hmem, rfl⟩

theorem SwitchPorts.ofFamilies_samplesWith (s : Switch) (counters : PortTable) :
    OfFamilies families (s.samplesWith counters) := by
  have hports : OfFamilies families (s.ports.flatMap (Port.samples s)) := by
    simp [Port.samples, families, Family.sample]
  have hcounters : ∀ entry ∈ counters, OfFamilies families (entry.2.samples s entry.1) :=
    fun entry _ => (ofFamilies_counters s entry.1 entry.2).mono (List.subset_append_right _ _)
  rw [Switch.samplesWith, ofFamilies_append, ofFamilies_cons]
  exact ⟨⟨List.mem_cons_self, hports⟩, ofFamilies_flatMap.mpr hcounters⟩

theorem SwitchPorts.ofFamilies_samples (switches : List Switch) :
    OfFamilies families (samples switches) :=
  ofFamilies_flatMap.mpr fun s _ => ofFamilies_samplesWith s s.counters

theorem SwitchPorts.probe_yields (v : Version) : (probe v).Yields (OfFamilies families) := by
  unfold probe
  split
  · exact ofFamilies_nil
  · refine Dialogue.Yields.of_get fun status => ?_
    split
    · exact ofFamilies_samples _
    · refine Dialogue.Yields.of_get fun counters => ?_
      -- the samples are of these families whatever the join comes to
      have hjoin := Dialogue.Yields.of_forall (fun _ => trivial)
        (merge .empty "port-stats" (switches status) (switchCounters counters))
      exact hjoin.bind fun _ _ => ofFamilies_samples _

def CentralManagement.families : List Family := [modeFamily, connectionFamily, registrationFamily]

theorem CentralManagement.probe_yields (v : Version) : (probe v).Yields (OfFamilies families) := by
  refine Dialogue.yields_resolved ofFamilies_nil fun body => ?_
  simp [samples, families, Family.sample]

def Transceivers.families : List Family := [presenceFamily]

theorem Transceivers.probe_yields (v : Version) : (probe v).Yields (OfFamilies families) := by
  refine Dialogue.yields_resolved ofFamilies_nil fun body => ?_
  simp [samples, Transceiver.samples, families, Family.sample]

def NtpStatus.families : List Family :=
  [expiresFamily, stratumFamily, reftimeFamily, offsetFamily, delayFamily, dispersionFamily,
   peerDispersionFamily]

theorem NtpStatus.probe_yields (v : Version) : (probe v).Yields (OfFamilies families) := by
  refine Dialogue.yields_resolved ofFamilies_nil fun body => ?_
  simp [samples, Domain.samples, Peer.samples, families, Family.sample]

def Performance.families : List Family :=
  [coresUser, coresSystem, coresNice, coresIdle, coresIowait, cpuUser, cpuSystem, cpuNice,
   cpuIdle, cpuIowait, memTotal, memUsed, memFree, memFreeable]

theorem Performance.ofFamilies_record (domain : String) (n : Nat) (r : Record) :
    OfFamilies families (r.samples domain n) := by
  have hcores : ∀ m core, OfFamilies families (coreSamples domain n m core) := by
    intro m core
    simp [coreSamples, families, Family.sample]
  have htotal : OfFamilies families (totalSamples domain n r.cpu.total) := by
    simp [totalSamples, families, Family.sample]
  have hmemory : OfFamilies families (memorySamples domain n r.memory) := by
    simp [memorySamples, families, Family.sample]
  rw [Record.samples, ofFamilies_append, ofFamilies_append]
  exact ⟨⟨ofFamilies_mapIdx hcores, htotal⟩, hmemory⟩

theorem Performance.probe_yields (v : Version) : (probe v).Yields (OfFamilies families) := by
  refine Dialogue.yields_resolved ofFamilies_nil fun body => ?_
  refine ofFamilies_flatMap.mpr fun d _ => ?_
  exact ofFamilies_mapIdx (ofFamilies_record d.name)

def Sandbox.statusFamilies : List Family := [signatureCountFamily]

def Sandbox.statsFamilies : List Family :=
  [detectedFamily, cleanFamily, riskLowFamily, riskMediumFamily, riskHighFamily, submittedFamily]

def Sandbox.connectionFamilies : List Family := [connectionFamily]

def Sandbox.families : List Family :=
  [signatureCountFamily, detectedFamily, cleanFamily, riskLowFamily, riskMediumFamily,
   riskHighFamily, submittedFamily, connectionFamily]

theorem Sandbox.statusProbe_yields (v : Version) :
    (statusProbe v).Yields (OfFamilies statusFamilies) := by
  refine Dialogue.yields_resolved ofFamilies_nil fun body => ?_
  simp [statusSamples, Status.samples, statusFamilies, Family.sample]

theorem Sandbox.statsProbe_yields (v : Version) :
    (statsProbe v).Yields (OfFamilies statsFamilies) := by
  refine Dialogue.yields_resolved ofFamilies_nil fun body => ?_
  unfold statsSamples
  split
  · exact ofFamilies_nil
  · simp [Stats.samples, statsFamilies, Family.sample]

theorem Sandbox.connectionProbe_yields (v : Version) :
    (connectionProbe v).Yields (OfFamilies connectionFamilies) := by
  refine Dialogue.yields_resolved ofFamilies_nil fun body => ?_
  simp [connectionSamples, Connection.samples, connectionFamilies, Family.sample]

def Sensors.families : List Family :=
  [temperatureFamily, fanFamily, voltageFamily, alarmFamily, thresholdFamily]

theorem Sensors.ofFamilies_reading (s : Sensor) : OfFamilies families s.reading := by
  unfold Sensor.reading
  split <;> simp [families, Family.sample]

theorem Sensors.probe_yields (v : Version) : (probe v).Yields (OfFamilies families) := by
  refine Dialogue.yields_resolved ofFamilies_nil fun body => ?_
  refine ofFamilies_flatMap.mpr fun s _ => ?_
  rw [Sensor.samples, ofFamilies_append]
  refine ⟨?_, ofFamilies_reading s⟩
  split
  · simp [Sensor.gated, families, Family.sample]
  · exact ofFamilies_nil

/-- The families of the probe of a name. -/
def Probe.families (p : Probe) : List Family :=
  match p.name with
  | "Network/DNSLatency" => DnsLatency.families
  | "Switch/Health" => SwitchHealth.families
  | "Switch/PortStats" => SwitchPorts.families
  | "System/CentralManagement/Status" => CentralManagement.families
  | "System/Interface/Transceivers" => Transceivers.families
  | "System/NTPStatus" => NtpStatus.families
  | "System/PerformanceStatus" => Performance.families
  | "System/SandboxConnection" => Sandbox.connectionFamilies
  | "System/SandboxStats" => Sandbox.statsFamilies
  | "System/SandboxStatus" => Sandbox.statusFamilies
  | "System/SensorInfo" => Sensors.families
  | _ => []

/-- A probe has samples of its own families only, whatever it is answered. -/
theorem Probe.run_yields_families {p : Probe} (hp : p ∈ Probe.catalogue) (v : Version) :
    (p.run v).Yields (OfFamilies p.families) := by
  simp only [catalogue, List.mem_cons, List.not_mem_nil, or_false] at hp
  rcases hp with rfl | rfl | rfl | rfl | rfl | rfl | rfl | rfl | rfl | rfl | rfl
  · exact DnsLatency.probe_yields v
  · exact SwitchHealth.probe_yields v
  · exact SwitchPorts.probe_yields v
  · exact CentralManagement.probe_yields v
  · exact Transceivers.probe_yields v
  · exact NtpStatus.probe_yields v
  · exact Performance.probe_yields v
  · exact Sandbox.connectionProbe_yields v
  · exact Sandbox.statsProbe_yields v
  · exact Sandbox.statusProbe_yields v
  · exact Sensors.probe_yields v

/-! ### They are well named -/

theorem DnsLatency.wellNamed_families : ∀ f ∈ families, f.WellNamed := by
  have hlabels : AreNames labelNames := by decide
  simp only [families, List.forall_mem_cons]
  exact ⟨.gauge (isName_ofList rfl) hlabels, .gauge (isName_ofList rfl) hlabels,
    List.forall_mem_nil _⟩

theorem SwitchHealth.wellNamed_summaryFamily {name : String} (h : isName name = true)
    (help : String) : (summaryFamily name help).WellNamed :=
  .gauge h (by decide)

theorem SwitchHealth.wellNamed_cpuFamily {name : String} (h : isName name = true)
    (help : String) : (cpuFamily name help).WellNamed :=
  .gauge (isName_append (isName_ofList rfl) h) (by decide)

theorem SwitchHealth.wellNamed_families : ∀ f ∈ families, f.WellNamed := by
  have hmodule : AreNames temperatureFamily.labelNames := by decide
  simp only [families, List.forall_mem_cons]
  exact ⟨wellNamed_summaryFamily (isName_ofList rfl) _,
    wellNamed_summaryFamily (isName_ofList rfl) _, wellNamed_summaryFamily (isName_ofList rfl) _,
    wellNamed_summaryFamily (isName_ofList rfl) _, .gauge (isName_ofList rfl) hmodule,
    wellNamed_cpuFamily (isName_ofList rfl) _, wellNamed_cpuFamily (isName_ofList rfl) _,
    wellNamed_cpuFamily (isName_ofList rfl) _, wellNamed_cpuFamily (isName_ofList rfl) _,
    List.forall_mem_nil _⟩

theorem SwitchPorts.wellNamed_counterFamily {name : String} (h : isName name = true)
    (help : String) : (counterFamily name help).WellNamed :=
  .counter (isName_append (isName_append (isName_ofList rfl) h) (isName_ofList rfl)) (by decide)

theorem SwitchPorts.wellNamed_counterFamilies : ∀ f ∈ counterFamilies, f.WellNamed := by
  simp only [counterFamilies, Counters.labelled, List.map_cons, List.map_nil,
    List.forall_mem_cons]
  and_intros
  all_goals first
    | exact wellNamed_counterFamily (isName_ofList rfl) _
    | exact List.forall_mem_nil _

theorem SwitchPorts.wellNamed_families : ∀ f ∈ families, f.WellNamed := by
  have hswitch : AreNames switchStatus.labelNames := by decide
  have hport : AreNames (portFamily "" "").labelNames := by decide
  rw [families, List.forall_mem_append]
  refine ⟨?_, wellNamed_counterFamilies⟩
  simp only [List.forall_mem_cons]
  exact ⟨.gauge (isName_ofList rfl) hswitch, .gauge (isName_ofList rfl) hport,
    .gauge (isName_ofList rfl) hport, .gauge (isName_ofList rfl) hport, List.forall_mem_nil _⟩

theorem CentralManagement.wellNamed_families : ∀ f ∈ families, f.WellNamed := by
  have hlabels : AreNames labelNames := by decide
  simp only [families, List.forall_mem_cons]
  exact ⟨.gauge (isName_ofList rfl) hlabels, .gauge (isName_ofList rfl) hlabels,
    .gauge (isName_ofList rfl) hlabels, List.forall_mem_nil _⟩

theorem Transceivers.wellNamed_families : ∀ f ∈ families, f.WellNamed := by
  have hlabels : AreNames presenceFamily.labelNames := by decide
  simp only [families, List.forall_mem_cons]
  exact ⟨.gauge (isName_ofList rfl) hlabels, List.forall_mem_nil _⟩

theorem NtpStatus.wellNamed_families : ∀ f ∈ families, f.WellNamed := by
  have hlabels : AreNames labelNames := by decide
  simp only [families, List.forall_mem_cons]
  and_intros
  all_goals first
    | exact .gauge (isName_ofList rfl) hlabels
    | exact .counter (isName_ofList rfl) hlabels
    | exact List.forall_mem_nil _

theorem Performance.wellNamed_family {suffix : String} (h : isName suffix = true)
    (help : String) : (family suffix help).WellNamed :=
  .gauge (isName_append (isName_ofList rfl) h) (by decide)

theorem Performance.wellNamed_families : ∀ f ∈ families, f.WellNamed := by
  simp only [families, List.forall_mem_cons]
  and_intros
  all_goals first
    | exact wellNamed_family (isName_ofList rfl) _
    | exact List.forall_mem_nil _

theorem Sandbox.wellNamed_families : ∀ f ∈ families, f.WellNamed := by
  have hserver : AreNames signatureCountFamily.labelNames := by decide
  have htype : AreNames connectionFamily.labelNames := by decide
  have hnone : AreNames [] := by decide
  simp only [families, List.forall_mem_cons]
  and_intros
  all_goals first
    | exact .gauge (isName_ofList rfl) hserver
    | exact .gauge (isName_ofList rfl) htype
    | exact .counter (isName_ofList rfl) hnone
    | exact List.forall_mem_nil _

theorem Sensors.wellNamed_families : ∀ f ∈ families, f.WellNamed := by
  have hname : AreNames temperatureFamily.labelNames := by decide
  have hthreshold : AreNames thresholdFamily.labelNames := by decide
  simp only [families, List.forall_mem_cons]
  exact ⟨.gauge (isName_ofList rfl) hname, .gauge (isName_ofList rfl) hname,
    .gauge (isName_ofList rfl) hname, .gauge (isName_ofList rfl) hname,
    .gauge (isName_ofList rfl) hthreshold, List.forall_mem_nil _⟩

/-! ### All families -/

/-- The families of all probes, and after them the two about the probes themselves. -/
def Family.all : List Family :=
  DnsLatency.families ++ SwitchHealth.families ++ SwitchPorts.families ++
    CentralManagement.families ++ Transceivers.families ++ NtpStatus.families ++
    Performance.families ++ Sandbox.families ++ Sensors.families ++
    [ProbeReport.successFamily, ProbeReport.durationFamily]

theorem Family.wellNamed_of_mem_all : ∀ f ∈ Family.all, f.WellNamed := by
  have hprobe : AreNames ProbeReport.successFamily.labelNames := by decide
  simp only [all, List.forall_mem_append, List.forall_mem_cons]
  exact ⟨⟨⟨⟨⟨⟨⟨⟨⟨DnsLatency.wellNamed_families, SwitchHealth.wellNamed_families⟩,
    SwitchPorts.wellNamed_families⟩, CentralManagement.wellNamed_families⟩,
    Transceivers.wellNamed_families⟩, NtpStatus.wellNamed_families⟩,
    Performance.wellNamed_families⟩, Sandbox.wellNamed_families⟩, Sensors.wellNamed_families⟩,
    .gauge (isName_ofList rfl) hprobe, .gauge (isName_ofList rfl) hprobe,
    List.forall_mem_nil _⟩

theorem Probe.families_subset_all {p : Probe} (hp : p ∈ Probe.catalogue) :
    p.families ⊆ Family.all := by
  have hsub : DnsLatency.families ++ SwitchHealth.families ++ SwitchPorts.families ++
      CentralManagement.families ++ Transceivers.families ++ NtpStatus.families ++
      Performance.families ++ Sandbox.families ++ Sensors.families ⊆ Family.all :=
    List.subset_append_left _ _
  have hsandbox : Sandbox.families =
      Sandbox.statusFamilies ++ Sandbox.statsFamilies ++ Sandbox.connectionFamilies := rfl
  rw [hsandbox] at hsub
  simp only [List.append_subset] at hsub
  obtain ⟨⟨⟨⟨⟨⟨⟨⟨hdns, hhealth⟩, hports⟩, hcentral⟩, htransceivers⟩, hntp⟩, hperformance⟩,
    ⟨hstatus, hstats⟩, hconnection⟩, hsensors⟩ := hsub
  simp only [catalogue, List.mem_cons, List.not_mem_nil, or_false] at hp
  rcases hp with rfl | rfl | rfl | rfl | rfl | rfl | rfl | rfl | rfl | rfl | rfl
  · exact hdns
  · exact hhealth
  · exact hports
  · exact hcentral
  · exact htransceivers
  · exact hntp
  · exact hperformance
  · exact hconnection
  · exact hstats
  · exact hstatus
  · exact hsensors

end FirewallExporter
