import Mathlib.Data.List.Basic
import FirewallExporter.Proofs.Firmware.Ranges
import FirewallExporter.Proofs.Metric.Rows
import FirewallExporter.Proofs.Probe.Correlation
import FirewallExporter.Proofs.Probe.InlineCounters

/-!
The samples of switches and their ports, as what they show. A switch gives a
block of rows: its own, those of its ports, and for each port with counters a
row for every counter. From 7.0 on a block has the counters that are served
first for the serial number of the switch, whatever the switch itself reports.
-/

namespace FirewallExporter

namespace SwitchPorts

/-! ### Rows -/

def statusRow (switch : Json) : Row where
  family := "fortiswitch_status"
  kind := .gauge
  labels :=
    [("vdom", switchText switch "vdom"), ("name", switchText switch "name"),
     ("serial_number", switchText switch "serial"),
     ("fgt_peer_intf_name", switchText switch "fgt_peer_intf_name"),
     ("connection_from", switchText switch "connecting_from"),
     ("state", numberLabel (Category.authorizationState.value (switchText switch "state")))]
  value := Category.switchConnection.value (switchText switch "status")

def portLabels (switch port : Json) : List (String × String) :=
  [("vdom", switchText switch "vdom"), ("name", switchText switch "name"),
   ("serial_number", switchText switch "serial"), ("interface", portText port "interface"),
   ("vlan", portText port "vlan"), ("duplex", portText port "duplex")]

def portRows (switch port : Json) : List Row :=
  [{ family := "fortiswitch_port_status", kind := .gauge, labels := portLabels switch port
     value := Category.linkStatus.value (portText port "status") },
   { family := "fortiswitch_port_speed_bps", kind := .gauge, labels := portLabels switch port
     value := Json.numberOf (port.under portKeys "speed") * bitsPerMegabit },
   { family := "fortiswitch_port_duplex_status", kind := .gauge, labels := portLabels switch port
     value := Category.duplex.value (portText port "duplex") }]

/-- What the counters are called in the names of their families, and in a body. -/
def counterNames : List (String × String) :=
  [("transmit_packets", "tx-packets"), ("transmit_bytes", "tx-bytes"),
   ("transmit_unicast_packets", "tx-ucast"), ("transmit_broadcast_packets", "tx-bcast"),
   ("transmit_multicast_packets", "tx-mcast"), ("transmit_errors", "tx-errors"),
   ("transmit_drops", "tx-drops"), ("transmit_oversized_packets", "tx-oversize"),
   ("receive_packets", "rx-packets"), ("receive_bytes", "rx-bytes"),
   ("receive_unicast_packets", "rx-ucast"), ("receive_broadcast_packets", "rx-bcast"),
   ("receive_multicast_packets", "rx-mcast"), ("receive_errors", "rx-errors"),
   ("receive_drops", "rx-drops"), ("receive_oversized_packets", "rx-oversize")]

def counterRow (switch : Json) (port : String) (counters : Json) (word key : String) : Row where
  family := "fortiswitch_port_" ++ word ++ "_total"
  kind := .counter
  labels :=
    [("vdom", switchText switch "vdom"), ("name", switchText switch "name"),
     ("serial_number", switchText switch "serial"), ("interface", port)]
  value := counterIn counters key

/-- The rows of a switch whose ports have the given counters. -/
def block (switch : Json) (table : List (String × Json)) : List Row :=
  statusRow switch :: (portsOf switch).flatMap (portRows switch) ++
    table.flatMap fun (port, counters) =>
      counterNames.map fun (word, key) => counterRow switch port counters word key

theorem map_row_port (switch port : Json) :
    ((Port.ofRecord port).samples (Switch.ofRecord switch)).map Sample.row =
      portRows switch port := rfl

theorem map_row_counters (switch : Json) (port : String) (counters : Json) :
    ((Counters.ofRecord counters).samples (Switch.ofRecord switch) port).map Sample.row =
      counterNames.map fun (word, key) => counterRow switch port counters word key := rfl

theorem map_row_samplesWith (switch : Json) (table : List (String × Json)) :
    ((Switch.ofRecord switch).samplesWith (.ofMembers table)).map Sample.row =
      block switch table := by
  have hports : ((Switch.ofRecord switch).ports.flatMap
      (Port.samples (Switch.ofRecord switch))).map Sample.row =
        (portsOf switch).flatMap (portRows switch) := by
    rw [Switch.ofRecord, List.flatMap_map, List.map_flatMap]
    exact List.flatMap_congr fun port _ => map_row_port switch port
  rw [Switch.samplesWith, List.map_append, List.map_cons, hports, PortTable.ofMembers,
    List.flatMap_map, List.map_flatMap, block]
  refine congrArg₂ _ rfl ?_
  exact List.flatMap_congr fun entry _ => map_row_counters switch entry.1 entry.2

/-! ### Endpoints -/

/-- From here on counters are served apart. -/
def splitVersion : Version := ⟨7, 0⟩

def statusEndpoint : Endpoint :=
  { path := "api/v2/monitor/switch-controller/managed-switch/status", query := "" }

def countersEndpoint : Endpoint :=
  { path := "api/v2/monitor/switch-controller/managed-switch/port-stats", query := "" }

def legacyEndpoint : Endpoint :=
  { path := "api/v2/monitor/switch-controller/managed-switch", query := "port_stats=true" }

theorem resolve_switchStatus (v : Version) :
    Capability.switchStatus.resolve v =
      if splitVersion ≤ v then some statusEndpoint else some legacyEndpoint := by
  have hranges : Capability.switchStatus.ranges =
      [⟨splitVersion, statusEndpoint⟩, ⟨.any, legacyEndpoint⟩] := by decide
  rw [Capability.resolve_of_ranges hranges]
  split <;> rfl

theorem resolve_switchPortStats (v : Version) :
    Capability.switchPortStats.resolve v =
      if splitVersion ≤ v then some countersEndpoint else none := by
  have hranges : Capability.switchPortStats.ranges = [⟨splitVersion, countersEndpoint⟩] := by
    decide
  exact Capability.resolve_of_floor hranges v

theorem probe_of_le {v : Version} (hv : splitVersion ≤ v) :
    probe v = (Dialogue.get (results Switch.shape) statusEndpoint).bind fun status =>
      (Dialogue.get (results SwitchCounters.shape) countersEndpoint).bind fun counters =>
        (merge .empty "port-stats" (switches status) (switchCounters counters)).bind fun merged =>
          .done (samples (merged.map joined)) := by
  rw [probe, resolve_switchStatus, if_pos hv]
  simp only [resolve_switchPortStats, if_pos hv]
  rfl

theorem probe_of_not_le {v : Version} (hv : ¬ splitVersion ≤ v) :
    probe v = (Dialogue.get (results Switch.shape) legacyEndpoint).bind fun status =>
      .done (samples (switches status)) := by
  rw [probe, resolve_switchStatus, if_neg hv]
  simp only [resolve_switchPortStats, if_neg hv]
  rfl

/-! ### Runs -/

/-- A switch as its record has it, but with the given counters. -/
def Switch.ofRecordWith (switch : Json) (table : List (String × Json)) : Switch :=
  { Switch.ofRecord switch with counters := .ofMembers table }

/-- The first counters of a serial number are those of its first record. -/
theorem ports_find (counterBody : Json) (serial : String) :
    ((((records counterBody).map SwitchCounters.ofRecord).find? fun record =>
        Keyed.key record == serial).getD .empty).ports =
      .ofMembers (servedCounters counterBody serial) := by
  have hkey : ((fun record : SwitchCounters => Keyed.key record == serial) ∘
      SwitchCounters.ofRecord) = fun record =>
        Json.textOf (record.under switchCountersKeys "serial") == serial := rfl
  rw [List.find?_map, servedCounters, hkey]
  split
  · next h => rw [h]; rfl
  · next h => rw [h]; rfl

theorem joined_attach (counterBody switch : Json) :
    joined (Correlation.attach .empty
        (Correlation.index ((records counterBody).map SwitchCounters.ofRecord))
        (Switch.ofRecord switch)) =
      .ofRecordWith switch (servedCounters counterBody (switchText switch "serial")) := by
  obtain ⟨hprimary, hsecondary⟩ := Correlation.attach_index SwitchCounters.empty
    ((records counterBody).map SwitchCounters.ofRecord) (Switch.ofRecord switch)
  rw [joined, hprimary, hsecondary, Switch.ofRecordWith, ← ports_find]
  rfl

/-- From 7.0 on the switches are asked for first and then the counters. -/
theorem run_probe_of_le {v : Version} (hv : splitVersion ≤ v) {fetcher : Fetcher}
    {statusBody counterBody : Json} {status : (results Switch.shape).Value}
    {counters : (results SwitchCounters.shape).Value}
    (hstatus : (results Switch.shape).decode statusBody.settled = .ok status)
    (hcounters : (results SwitchCounters.shape).decode counterBody.settled = .ok counters)
    (hfetchStatus : fetcher statusEndpoint = .answer (.ok statusBody))
    (hfetchCounters : fetcher countersEndpoint = .answer (.ok counterBody)) :
    ((probe v).run fetcher).ending =
        .done (samples ((records statusBody.settled).map fun switch => .ofRecordWith switch
          (servedCounters counterBody.settled (switchText switch "serial")))) ∧
      ((probe v).run fetcher).calls = [statusEndpoint, countersEndpoint] := by
  have hswitches : switches status = (records statusBody.settled).map Switch.ofRecord := by
    rw [← (Shape.decode_eq_ok_iff.mp hstatus).2, switches_read]
  have hserved : switchCounters counters =
      (records counterBody.settled).map SwitchCounters.ofRecord := by
    rw [← (Shape.decode_eq_ok_iff.mp hcounters).2, switchCounters_read]
  have hrunStatus := Dialogue.run_get_of_decode hfetchStatus hstatus
  have hrunCounters := Dialogue.run_get_of_decode hfetchCounters hcounters
  have hjoined : ((switches status).map (Correlation.attach .empty
      (Correlation.index (switchCounters counters)))).map joined =
        (records statusBody.settled).map fun switch => .ofRecordWith switch
          (servedCounters counterBody.settled (switchText switch "serial")) := by
    rw [hswitches, hserved, List.map_map, List.map_map]
    exact List.map_congr_left fun switch _ => joined_attach counterBody.settled switch
  rw [probe_of_le hv, Dialogue.run_bind_of_done (by rw [hrunStatus]),
    Dialogue.run_bind_of_done (by rw [hrunCounters]),
    Dialogue.run_bind_of_done (by rw [run_merge]), hrunStatus, hrunCounters, run_merge, hjoined]
  exact ⟨rfl, rfl⟩

theorem run_probe_of_not_le {v : Version} (hv : ¬ splitVersion ≤ v) {fetcher : Fetcher}
    {statusBody : Json} {status : (results Switch.shape).Value}
    (hstatus : (results Switch.shape).decode statusBody.settled = .ok status)
    (hfetch : fetcher legacyEndpoint = .answer (.ok statusBody)) :
    ((probe v).run fetcher).ending =
        .done (samples ((records statusBody.settled).map fun switch =>
          .ofRecordWith switch (inlineCounters switch))) ∧
      ((probe v).run fetcher).calls = [legacyEndpoint] := by
  have hswitches : switches status = (records statusBody.settled).map Switch.ofRecord := by
    rw [← (Shape.decode_eq_ok_iff.mp hstatus).2, switches_read]
  have hrun := Dialogue.run_get_of_decode hfetch hstatus
  rw [probe_of_not_le hv, Dialogue.run_bind_of_done (by rw [hrun]), hrun, hswitches]
  exact ⟨rfl, rfl⟩

/-- Older firmware is never asked for the counters, whatever it answers. -/
theorem countersEndpoint_not_mem_calls {v : Version} (hv : ¬ splitVersion ≤ v)
    (fetcher : Fetcher) : countersEndpoint ∉ ((probe v).run fetcher).calls := by
  have hasks : (probe v).Asks (· ≠ countersEndpoint) := by
    rw [probe_of_not_le hv]
    exact .bind (.get (by decide)) fun _ => trivial
  exact fun h => hasks.calls _ h rfl

/-! ### The join -/

theorem map_row_samples (table : Json → List (String × Json)) (switches : List Json) :
    (samples (switches.map fun switch => .ofRecordWith switch (table switch))).map Sample.row =
      switches.flatMap fun switch => block switch (table switch) := by
  rw [samples, List.flatMap_map, List.map_flatMap]
  exact List.flatMap_congr fun switch _ => map_row_samplesWith switch (table switch)

/-- Every row of a block is about its switch. -/
theorem serial_of_mem_block {switch : Json} {table : List (String × Json)} {row : Row}
    (h : row ∈ block switch table) :
    row.labels.lookup "serial_number" = some (switchText switch "serial") := by
  rcases List.mem_append.mp h with h | h
  · rcases List.mem_cons.mp h with rfl | h
    · rfl
    · obtain ⟨port, -, h⟩ := List.mem_flatMap.mp h
      simp only [portRows, List.mem_cons, List.not_mem_nil, or_false] at h
      rcases h with rfl | rfl | rfl <;> rfl
  · obtain ⟨⟨port, counters⟩, -, h⟩ := List.mem_flatMap.mp h
    obtain ⟨⟨word, key⟩, -, rfl⟩ := List.mem_map.mp h
    rfl

theorem counterFamily_ne_switchStatus (word : String) :
    "fortiswitch_port_" ++ word ++ "_total" ≠ "fortiswitch_status" := by
  intro h
  have hchars := congrArg String.toList h
  simp at hchars

/-- A block has one row about the switch as a whole. -/
theorem filter_block (switch : Json) (table : List (String × Json)) :
    (block switch table).filter (·.family == "fortiswitch_status") = [statusRow switch] := by
  have hports : ((portsOf switch).flatMap (portRows switch)).filter
      (·.family == "fortiswitch_status") = [] := by
    rw [List.filter_eq_nil_iff]
    intro row hrow
    obtain ⟨port, -, hrow⟩ := List.mem_flatMap.mp hrow
    simp only [portRows, List.mem_cons, List.not_mem_nil, or_false] at hrow
    rcases hrow with rfl | rfl | rfl <;> simp
  have hcounters : (table.flatMap fun (port, counters) =>
      counterNames.map fun (word, key) => counterRow switch port counters word key).filter
        (·.family == "fortiswitch_status") = [] := by
    rw [List.filter_eq_nil_iff]
    intro row hrow
    obtain ⟨⟨port, counters⟩, -, hrow⟩ := List.mem_flatMap.mp hrow
    obtain ⟨⟨word, key⟩, -, rfl⟩ := List.mem_map.mp hrow
    rw [beq_iff_eq]
    exact counterFamily_ne_switchStatus word
  have hstatus : ([statusRow switch].filter (·.family == "fortiswitch_status")) =
      [statusRow switch] := rfl
  rw [block, List.filter_append, ← List.singleton_append, List.filter_append, hports, hcounters,
    hstatus]
  rfl

/-- Samples that show the switches of a body with the given counters. -/
structure ShowsSwitches (body : Json) (table : Json → List (String × Json))
    (samples : List Sample) : Prop where
  /-- They are the blocks of the switches in order. -/
  rows : samples.map Sample.row = (records body).flatMap fun switch => block switch (table switch)
  /-- The ports with counters come in the order of the bytes of their names. -/
  ascending : ∀ switch ∈ records body,
    ((table switch).map fun m => Text.bytes m.1).Pairwise (· < ·)
  /-- None is about a switch that is not in the body. -/
  known : ∀ s ∈ samples, ∃ switch ∈ records body,
    s.label? "serial_number" = some (switchText switch "serial")
  /-- Every switch is there, as often as it is in the body. -/
  kept : (samples.filter (·.name == "fortiswitch_status")).map (·.label? "serial_number") =
    (records body).map fun switch => some (switchText switch "serial")

theorem showsSwitches {body : Json} {table : Json → List (String × Json)}
    (hascending : ∀ switch ∈ records body,
      ((table switch).map fun m => Text.bytes m.1).Pairwise (· < ·)) :
    ShowsSwitches body table
      (samples ((records body).map fun switch => .ofRecordWith switch (table switch))) := by
  have hrows := map_row_samples table (records body)
  refine ⟨hrows, hascending, fun s hs => ?_, ?_⟩
  · have hrow := List.mem_map_of_mem (f := Sample.row) hs
    rw [hrows] at hrow
    obtain ⟨switch, hswitch, hmem⟩ := List.mem_flatMap.mp hrow
    exact ⟨switch, hswitch, serial_of_mem_block hmem⟩
  · calc ((samples _).filter (·.name == "fortiswitch_status")).map (·.label? "serial_number")
        = (((samples _).map Sample.row).filter (·.family == "fortiswitch_status")).map
            (·.labels.lookup "serial_number") := by
          rw [List.filter_map, List.map_map]
          rfl
      _ = ((records body).flatMap fun switch => [statusRow switch]).map
            (·.labels.lookup "serial_number") := by
          rw [hrows, List.filter_flatMap]
          simp only [filter_block]
      _ = (records body).map fun switch => some (switchText switch "serial") := by
          rw [← List.map_eq_flatMap, List.map_map]
          rfl

/-! ### The order of ports -/

theorem ordered_of_mem_records {body record : Json} (h : record ∈ records body.settled) :
    record.Ordered := by
  rw [records] at h
  cases hitems : body.settled.under ["results"] "results" with
  | none => rw [hitems] at h; cases h
  | some value =>
      have hvalue := body.ordered_settled.under hitems
      rw [hitems] at h
      cases hvalue with
      | array hall => exact hall record h
      | null | bool _ | int _ | float _ | string _ | object _ _ => cases h

theorem ascending_servedCounters (body : Json) (serial : String) :
    ((servedCounters body.settled serial).map fun m => Text.bytes m.1).Pairwise (· < ·) := by
  rw [servedCounters]
  split
  · next h => exact (ordered_of_mem_records (List.mem_of_find?_eq_some h)).ascending_under
  · exact List.Pairwise.nil

/--
The join of switches and their counters is exact. From 7.0 on, two bodies that
decode give the blocks of the switches in order, each with the counters served
first for its serial number, or none; before, one body gives them with the
counters that it holds, and counters are never asked for. What the switches
themselves report makes no difference from 7.0 on.
-/
theorem run_probe (v : Version) {statusBody counterBody : Json}
    {status : (results Switch.shape).Value} {counters : (results SwitchCounters.shape).Value}
    (hstatus : (results Switch.shape).decode statusBody.settled = .ok status)
    (hcounters : (results SwitchCounters.shape).decode counterBody.settled = .ok counters) :
    (splitVersion ≤ v → ∀ fetcher : Fetcher,
      fetcher statusEndpoint = .answer (.ok statusBody) →
      fetcher countersEndpoint = .answer (.ok counterBody) →
        (∃ samples, ((probe v).run fetcher).ending = .done samples ∧
          ShowsSwitches statusBody.settled
            (fun switch => servedCounters counterBody.settled (switchText switch "serial"))
            samples) ∧
        ((probe v).run fetcher).calls = [statusEndpoint, countersEndpoint] ∧
        ∀ (fetcher' : Fetcher) (statusBody' : Json) (status' : (results Switch.shape).Value),
          (results Switch.shape).decode statusBody'.settled = .ok status' →
          withoutInline statusBody' = withoutInline statusBody →
          fetcher' statusEndpoint = .answer (.ok statusBody') →
          fetcher' countersEndpoint = .answer (.ok counterBody) →
            ((probe v).run fetcher').ending = ((probe v).run fetcher).ending) ∧
      (¬ splitVersion ≤ v → ∀ fetcher : Fetcher,
        countersEndpoint ∉ ((probe v).run fetcher).calls ∧
        (fetcher legacyEndpoint = .answer (.ok statusBody) →
          (∃ samples, ((probe v).run fetcher).ending = .done samples ∧
            ShowsSwitches statusBody.settled inlineCounters samples) ∧
          ((probe v).run fetcher).calls = [legacyEndpoint])) := by
  refine ⟨fun hv fetcher hfetchStatus hfetchCounters => ?_, fun hv fetcher => ?_⟩
  · obtain ⟨hending, hcalls⟩ :=
      run_probe_of_le hv hstatus hcounters hfetchStatus hfetchCounters
    refine ⟨⟨_, hending, showsSwitches fun _ _ => ascending_servedCounters _ _⟩, hcalls, ?_⟩
    intro fetcher' statusBody' status' hstatus' hsame hfetchStatus' hfetchCounters'
    -- the rows can be had from the body without what the switches report
    have hswitches := map_records_withoutInline
      (fun serial => .ofMembers (servedCounters counterBody.settled serial))
    have hsettled : withoutInline statusBody'.settled = withoutInline statusBody.settled := by
      rw [← settled_withoutInline, hsame, settled_withoutInline]
    rw [(run_probe_of_le hv hstatus' hcounters hfetchStatus' hfetchCounters').1, hending]
    simp only [Switch.ofRecordWith]
    rw [← hswitches statusBody'.settled, hsettled, hswitches]
  · refine ⟨countersEndpoint_not_mem_calls hv fetcher, fun hfetch => ?_⟩
    obtain ⟨hending, hcalls⟩ := run_probe_of_not_le hv hstatus hfetch
    refine ⟨⟨_, hending, showsSwitches fun switch hswitch => ?_⟩, hcalls⟩
    exact (ordered_of_mem_records hswitch).ascending_under

/-- Two switches of one serial number and one without counters; two hold old ones themselves. -/
def twinStatus : Json := .object [("results", .array
  [.object [("serial", .string "S1"), ("port_stats", .object [("old", .object [])])],
   .object [("serial", .string "S1"), ("name", .string "twin")],
   .object [("serial", .string "S2"), ("port_stats", .object [("old", .object [])])]])]

/-- Counters of two ports, out of order, and later ones for the same serial number. -/
def twinCounters : Json := .object [("results", .array
  [.object [("serial", .string "S1"),
     ("ports", .object [("p2", .object [("rx-bytes", .int 5)]), ("p1", .null),
       ("p10", .array [])])],
   .object [("serial", .string "S1"), ("ports", .object [("late", .object [])])]])]

def twinFetcher : Fetcher := fun endpoint =>
  .answer (.ok (if endpoint = statusEndpoint then twinStatus else twinCounters))

theorem run_probe_twinFetcher :
    ∃ samples, ((probe ⟨7, 4⟩).run twinFetcher).ending = .done samples ∧
      samples.map (·.label? "serial_number") =
        List.replicate 33 (some "S1") ++ List.replicate 33 (some "S1") ++ [some "S2"] := by
  have hstatus : (results Switch.shape).decode twinStatus.settled =
      .ok ((results Switch.shape).read twinStatus.settled) := rfl
  have hcounters : (results SwitchCounters.shape).decode twinCounters.settled =
      .ok ((results SwitchCounters.shape).read twinCounters.settled) := rfl
  obtain ⟨hsplit, -⟩ := run_probe ⟨7, 4⟩ hstatus hcounters
  obtain ⟨⟨samples, hending, hshows⟩, -⟩ := hsplit (by decide) twinFetcher rfl rfl
  have hserials := congrArg (List.map fun row => row.labels.lookup "serial_number") hshows.rows
  rw [List.map_map] at hserials
  exact ⟨samples, hending, hserials.trans rfl⟩

end SwitchPorts

end FirewallExporter
