import FirewallExporter.Probe.SwitchHealth
import FirewallExporter.Proofs.Device.Runs
import FirewallExporter.Proofs.Firmware.Ranges
import FirewallExporter.Proofs.Json.Extensions
import FirewallExporter.Proofs.Json.Order
import FirewallExporter.Proofs.Metric.Rows

/-!
The samples of the health of switches, as what they show. Each serial number of
a body gives a block of rows, which comes of its own record alone; the blocks
stand in the order of the serial numbers, however the members of the body are
written. As no serial number is there twice, the rows about ratings and about
processors are all of different series.
-/

namespace FirewallExporter

namespace SwitchHealth

/-! ### Records -/

def responseKeys : List String := ["results", "vdom"]

def healthKeys : List String := ["performance-status", "temperature", "summary"]

def cpuKeys : List String := ["user", "system", "nice", "idle"]

def summaryKeys : List String := ["cpu", "memory", "uptime", "temperature"]

def ratingKeys : List String := ["value", "rating"]

def readingKeys : List String := ["value", "unit"]

def sensorKeys : List String := ["module", "status"]

/-- The records of the switches, by serial number. -/
def switchesOf (body : Json) : List (String × Json) :=
  Json.membersOf (body.under responseKeys "results")

def domainOf (body : Json) : String := Json.textOf (body.under responseKeys "vdom")

def ratingIn (switch : Json) (word : String) : Json :=
  (switch.part healthKeys "summary").part summaryKeys word

def cpuReadingIn (switch : Json) (word : String) : Json :=
  ((switch.part healthKeys "performance-status").part ["cpu"] "cpu").part cpuKeys word

def sensorsOf (switch : Json) : List Json := Json.itemsOf (switch.under healthKeys "temperature")

def Rating.ofRecord (record : Json) : Rating where
  value := Json.numberOf (record.under ratingKeys "value")
  rating := Json.textOf (record.under ratingKeys "rating")

def Reading.ofRecord (record : Json) : Reading where
  value := Json.numberOf (record.under readingKeys "value")
  unit := Json.textOf (record.under readingKeys "unit")

def TemperatureSensor.ofRecord (record : Json) : TemperatureSensor where
  module := Json.textOf (record.under sensorKeys "module")
  status := .ofRecord (record.part sensorKeys "status")

def Cpu.ofRecord (record : Json) : Cpu where
  user := .ofRecord (record.part cpuKeys "user")
  system := .ofRecord (record.part cpuKeys "system")
  nice := .ofRecord (record.part cpuKeys "nice")
  idle := .ofRecord (record.part cpuKeys "idle")

def Summary.ofRecord (record : Json) : Summary where
  cpu := .ofRecord (record.part summaryKeys "cpu")
  memory := .ofRecord (record.part summaryKeys "memory")
  uptime := .ofRecord (record.part summaryKeys "uptime")
  temperature := .ofRecord (record.part summaryKeys "temperature")

def Health.ofRecord (record : Json) : Health where
  cpu := .ofRecord ((record.part healthKeys "performance-status").part ["cpu"] "cpu")
  temperature := (sensorsOf record).map TemperatureSensor.ofRecord
  summary := .ofRecord (record.part healthKeys "summary")

def Response.ofRecord (body : Json) : Response where
  switches := (switchesOf body).map fun (serial, switch) => (serial, .ofRecord switch)
  domain := domainOf body

theorem Rating.ofValue_read (record : Json) : ofValue (shape.read record) = ofRecord record := by
  have hread : shape.read record = _ := Shape.read_ofFields _ _ (by decide) record
  refine (congrArg ofValue hread).trans ?_
  simp only [ofRecord, ← Shape.readMember_number, ← Shape.readMember_text, Fields.ofList,
    Fields.readMembers_cons]
  rfl

theorem Reading.ofValue_read (record : Json) : ofValue (shape.read record) = ofRecord record := by
  have hread : shape.read record = _ := Shape.read_ofFields _ _ (by decide) record
  refine (congrArg ofValue hread).trans ?_
  simp only [ofRecord, ← Shape.readMember_number, ← Shape.readMember_text, Fields.ofList,
    Fields.readMembers_cons]
  rfl

theorem TemperatureSensor.ofValue_read (record : Json) :
    ofValue (shape.read record) = ofRecord record := by
  have hread : shape.read record = _ := Shape.read_ofFields _ _ (by decide) record
  refine (congrArg ofValue hread).trans ?_
  simp only [ofRecord, ← Shape.readMember_text, Shape.ofRecord_part Reading.ofValue_read,
    Fields.ofList, Fields.readMembers_cons]
  rfl

theorem Cpu.ofValue_read (record : Json) : ofValue (shape.read record) = ofRecord record := by
  have hread : shape.read record = _ := Shape.read_ofFields _ _ (by decide) record
  refine (congrArg ofValue hread).trans ?_
  simp only [ofRecord, Shape.ofRecord_part Reading.ofValue_read, Fields.ofList,
    Fields.readMembers_cons]
  rfl

theorem Summary.ofValue_read (record : Json) : ofValue (shape.read record) = ofRecord record := by
  have hread : shape.read record = _ := Shape.read_ofFields _ _ (by decide) record
  refine (congrArg ofValue hread).trans ?_
  simp only [ofRecord, Shape.ofRecord_part Rating.ofValue_read, Fields.ofList,
    Fields.readMembers_cons]
  rfl

/-- The readings of the processor stand in a record of their own. -/
def performanceShape : Shape := .ofFields "PerformanceStatus" [("cpu", Cpu.shape)]

def performanceCpu : performanceShape.Value → Cpu
  | (cpu, ()) => .ofValue cpu

theorem performanceCpu_read (record : Json) :
    performanceCpu (performanceShape.read record) = .ofRecord (record.part ["cpu"] "cpu") := by
  have hread : performanceShape.read record = _ := Shape.read_ofFields _ _ (by decide) record
  refine (congrArg performanceCpu hread).trans ?_
  rw [Shape.ofRecord_part Cpu.ofValue_read]
  rfl

theorem Health.ofValue_read (record : Json) : ofValue (shape.read record) = ofRecord record := by
  have hread : shape.read record = _ := Shape.read_ofFields _ _ (by decide) record
  refine (congrArg ofValue hread).trans ?_
  simp only [ofRecord, sensorsOf, Shape.ofRecord_part performanceCpu_read,
    Shape.ofRecord_part Summary.ofValue_read,
    Shape.map_ofRecord_itemsOf TemperatureSensor.ofValue_read, Fields.ofList,
    Fields.readMembers_cons]
  rfl

theorem Response.ofValue_read (body : Json) : ofValue (shape.read body) = ofRecord body := by
  have hread : shape.read body = _ := Shape.read_ofFields _ _ (by decide) body
  refine (congrArg ofValue hread).trans ?_
  simp only [ofRecord, switchesOf, domainOf, Shape.map_ofRecord_membersOf Health.ofValue_read,
    ← Shape.readMember_text, Fields.ofList, Fields.readMembers_cons]
  rfl

/-! ### Rows -/

def ratingRow (domain serial : String) (switch : Json) (word : String) : Row where
  family := "fortiswitch_health_summary_" ++ word
  kind := .gauge
  labels :=
    [("value", numberLabel (Rating.ofRecord (ratingIn switch word)).value),
     ("rating", (Rating.ofRecord (ratingIn switch word)).rating), ("fortiswitch", serial),
     ("vdom", domain)]
  value := Category.rating.value (Rating.ofRecord (ratingIn switch word)).rating

def sensorRow (domain serial : String) (sensor : Json) : Row where
  family := "fortiswitch_health_temperature"
  kind := .gauge
  labels :=
    [("unit", (TemperatureSensor.ofRecord sensor).status.unit),
     ("module", (TemperatureSensor.ofRecord sensor).module), ("fortiswitch", serial),
     ("vdom", domain)]
  value := (TemperatureSensor.ofRecord sensor).status.value

/-- Whatever is read, the unit is that of the system reading. -/
def cpuRow (domain serial : String) (switch : Json) (word : String) : Row where
  family := "fortiswitch_health_performance_stats_cpu_" ++ word
  kind := .gauge
  labels :=
    [("unit", (Reading.ofRecord (cpuReadingIn switch "system")).unit), ("fortiswitch", serial),
     ("vdom", domain)]
  value := (Reading.ofRecord (cpuReadingIn switch word)).value

/-- What a switch shows. -/
def block (domain serial : String) (switch : Json) : List Row :=
  summaryKeys.map (ratingRow domain serial switch) ++
    (sensorsOf switch).map (sensorRow domain serial) ++
    ["user", "nice", "system", "idle"].map (cpuRow domain serial switch)

theorem map_row_samples_health (domain serial : String) (switch : Json) :
    ((Health.ofRecord switch).samples domain serial).map Sample.row =
      block domain serial switch := by
  have hsensors : ((Health.ofRecord switch).temperature.flatMap
      (TemperatureSensor.samples serial domain)).map Sample.row =
        (sensorsOf switch).map (sensorRow domain serial) := by
    rw [Health.ofRecord, List.flatMap_map, List.map_flatMap, List.map_eq_flatMap]
    rfl
  rw [Health.samples, List.map_append, List.map_append, hsensors, block]
  rfl

/-- The samples of some switches of a domain. -/
def samplesOf (domain : String) (switches : List (String × Json)) : List Sample :=
  switches.flatMap fun (serial, switch) => (Health.ofRecord switch).samples domain serial

theorem samples_ofRecord (body : Json) :
    samples (.ofRecord body) = samplesOf (domainOf body) (switchesOf body) := by
  rw [samples, Response.ofRecord, List.flatMap_map]
  rfl

theorem map_row_samplesOf (domain : String) (switches : List (String × Json)) :
    (samplesOf domain switches).map Sample.row =
      switches.flatMap fun (serial, switch) => block domain serial switch := by
  rw [samplesOf, List.map_flatMap]
  exact List.flatMap_congr fun m _ => map_row_samples_health domain m.1 m.2

/-! ### Runs -/

/-- From here on the health is served elsewhere. -/
def splitVersion : Version := ⟨7, 6⟩

def currentEndpoint : Endpoint :=
  { path := "api/v2/monitor/switch-controller/managed-switch/health-status", query := "vdom=root" }

def legacyEndpoint : Endpoint :=
  { path := "api/v2/monitor/switch-controller/managed-switch/health", query := "vdom=root" }

def endpoint (v : Version) : Endpoint :=
  if splitVersion ≤ v then currentEndpoint else legacyEndpoint

theorem resolve_switchHealth (v : Version) :
    Capability.switchHealth.resolve v = some (endpoint v) := by
  have hranges : Capability.switchHealth.ranges =
      [⟨splitVersion, currentEndpoint⟩, ⟨.any, legacyEndpoint⟩] := by decide
  exact Capability.resolve_of_ranges hranges v

/-- A body that decodes is asked for once and shown. -/
theorem run_eq (v : Version) {fetcher : Fetcher} {body : Json} {value : Response.shape.Value}
    (hvalue : Response.shape.decode body.settled = .ok value)
    (hreply : fetcher (endpoint v) = .answer (.ok body)) :
    (probe v).run fetcher = ⟨.done (samples (.ofRecord body.settled)), [endpoint v], []⟩ := by
  rw [← Response.ofValue_read, (Shape.decode_eq_ok_iff.mp hvalue).2]
  exact Dialogue.run_resolved (resolve_switchHealth v) hreply hvalue

/-! ### Series -/

/-- The serial number among the label values of a series. -/
def serialOf (series : String × List String) : Option String := series.2.dropLast.getLast?

/-- The rows of a switch that are not about a sensor. -/
def ratedRows (domain serial : String) (switch : Json) : List Row :=
  summaryKeys.map (ratingRow domain serial switch) ++
    ["user", "nice", "system", "idle"].map (cpuRow domain serial switch)

theorem filter_block (domain serial : String) (switch : Json) :
    (block domain serial switch).filter (·.family != "fortiswitch_health_temperature") =
      ratedRows domain serial switch := by
  have hsensors : ((sensorsOf switch).map (sensorRow domain serial)).filter
      (·.family != "fortiswitch_health_temperature") = [] := by
    rw [List.filter_eq_nil_iff, List.forall_mem_map]
    intro sensor _
    simp [sensorRow]
  rw [block, List.filter_append, List.filter_append, hsensors, List.append_nil]
  rfl

theorem nodup_series_ratedRows (domain serial : String) (switch : Json) :
    ((ratedRows domain serial switch).map Row.series).Nodup := by
  have hfamilies : (((ratedRows domain serial switch).map Row.series).map Prod.fst).Nodup := by
    -- a family for each of them, whatever the switch reports
    show ["fortiswitch_health_summary_cpu", "fortiswitch_health_summary_memory",
      "fortiswitch_health_summary_uptime", "fortiswitch_health_summary_temperature",
      "fortiswitch_health_performance_stats_cpu_user",
      "fortiswitch_health_performance_stats_cpu_nice",
      "fortiswitch_health_performance_stats_cpu_system",
      "fortiswitch_health_performance_stats_cpu_idle"].Nodup
    decide
  exact .of_map _ hfamilies

theorem serialOf_series_of_mem {domain serial : String} {switch : Json}
    {series : String × List String}
    (h : series ∈ (ratedRows domain serial switch).map Row.series) :
    serialOf series = some serial := by
  obtain ⟨row, hrow, rfl⟩ := List.mem_map.mp h
  rcases List.mem_append.mp hrow with hrow | hrow
  · obtain ⟨word, -, rfl⟩ := List.mem_map.mp hrow
    rfl
  · obtain ⟨word, -, rfl⟩ := List.mem_map.mp hrow
    rfl

/-- Switches of different serial numbers share no series. -/
theorem nodup_series {domain : String} {switches : List (String × Json)}
    (h : (switches.map Prod.fst).Nodup) :
    (switches.flatMap fun m => (ratedRows domain m.1 m.2).map Row.series).Nodup :=
  nodup_flatMap_of_tag (fun m => nodup_series_ratedRows domain m.1 m.2)
    (fun _ _ hseries => serialOf_series_of_mem hseries) h

/-- Samples that show the health of the switches of a body. -/
structure ShowsHealth (body : Json) (samples : List Sample) : Prop where
  /-- They are the blocks of the switches. -/
  rows : samples.map Sample.row =
    (switchesOf body).flatMap fun (serial, switch) => block (domainOf body) serial switch
  /-- The switches come in the order of the bytes of their serial numbers. -/
  ascending : ((switchesOf body).map fun m => Text.bytes m.1).Pairwise (· < ·)
  /-- No series is there twice, unless it is that of a sensor. -/
  distinct : ((samples.filter (·.name != "fortiswitch_health_temperature")).map
    Sample.series).Nodup

theorem pairwise_switchesOf (body : Json) :
    ((switchesOf body.settled).map Prod.fst).Pairwise (· < ·) :=
  Json.Ordered.pairwise_membersOf fun _ hvalue => body.ordered_settled.under hvalue

theorem showsHealth (body : Json) :
    ShowsHealth body.settled (samplesOf (domainOf body.settled) (switchesOf body.settled)) := by
  refine ⟨map_row_samplesOf _ _, body.ordered_settled.ascending_under, ?_⟩
  have hkeys := Json.nodup_keys_of_ascending (pairwise_switchesOf body)
  rw [Sample.map_series rfl, Sample.map_row_filter (· != "fortiswitch_health_temperature"),
    map_row_samplesOf, List.filter_flatMap, List.map_flatMap]
  simp only [filter_block]
  exact nodup_series hkeys

/-! ### One switch -/

/-- What is shown of a switch, if the body has it. -/
def ownBlock (serial : String) (body : Json) : List Row :=
  match (switchesOf body).lookup serial with
  | some switch => block (domainOf body) serial switch
  | none => []

/-- Bodies that tell the same of all switches but one. -/
structure SameBut (serial : String) (body body' : Json) : Prop where
  domain : domainOf body' = domainOf body
  others : (switchesOf body').filter (·.1 != serial) = (switchesOf body).filter (·.1 != serial)

theorem SameBut.filter_eq {serial : String} {body body' : Json} (h : SameBut serial body body')
    {p : String → Bool} (hp : p serial = false) :
    (switchesOf body').filter (fun m => p m.1) = (switchesOf body).filter fun m => p m.1 := by
  have hothers : ∀ switches : List (String × Json), switches.filter (fun m => p m.1) =
      (switches.filter (·.1 != serial)).filter fun m => p m.1 := by
    intro switches
    rw [List.filter_filter]
    refine List.filter_congr fun m _ => ?_
    by_cases hm : m.1 = serial
    · simp [hm, hp]
    · simp [hm]
  rw [hothers, h.others, ← hothers]

theorem switchesOf_object (members : List (String × Json)) :
    switchesOf (.object members) = Json.membersOf (members.lookup "results") := rfl

/-- In a body it is enough that the records under all other serial numbers are the same. -/
theorem SameBut.of_members {serial : String} {switches switches' : List (String × Json)}
    (h : switches'.filter (·.1 != serial) = switches.filter (·.1 != serial))
    (before after : List (String × Json)) :
    SameBut serial (Json.object (before ++ ("results", .object switches) :: after)).settled
      (Json.object (before ++ ("results", .object switches') :: after)).settled := by
  have hchange := Json.ChangedAt.lookup (Json.forall₂_settledMembers "results"
    (a := .object switches) (b := .object switches') rfl before after)
  rw [Json.settled_object_eq, Json.settled_object_eq]
  refine ⟨?_, ?_⟩
  · rcases hchange "vdom" with heq | ⟨hkey, -⟩
    · exact congrArg Json.textOf heq.symm
    · exact absurd hkey (by decide)
  · rw [switchesOf_object, switchesOf_object]
    rcases hchange "results" with heq | ⟨-, heq, heq'⟩
    · rw [heq]
    · have hfilter := Json.filter_settledMembers (· != serial)
      rw [heq, heq', Json.settled_object_eq, Json.settled_object_eq, Json.membersOf,
        Json.membersOf, hfilter, hfilter, h]

theorem map_row_samplesOf_own (serial : String) (body : Json) :
    (samplesOf (domainOf body) (((switchesOf body).lookup serial).toList.map (serial, ·))).map
      Sample.row = ownBlock serial body := by
  rw [map_row_samplesOf, ownBlock]
  cases (switchesOf body).lookup serial with
  | none => rfl
  | some switch => exact List.append_nil _

/-- Before the samples of a switch are those of lower serial numbers, after them those of higher. -/
theorem samplesOf_split (domain serial : String) (body : Json) :
    samplesOf domain (switchesOf body.settled) =
      samplesOf domain ((switchesOf body.settled).filter (·.1 < serial)) ++
        samplesOf domain (((switchesOf body.settled).lookup serial).toList.map (serial, ·)) ++
        samplesOf domain ((switchesOf body.settled).filter (serial < ·.1)) := by
  have hsplit := Json.split_ascending (pairwise_switchesOf body) serial
  conv_lhs => rw [hsplit]
  rw [samplesOf, List.flatMap_append, List.flatMap_append]
  rfl

/--
The samples of a body that decodes are the blocks of its switches in the order of
their serial numbers. In which order members are written makes no difference. A
body that tells something else of one switch, or has it where the other has not,
comes to other samples of that switch in the same place, and to no other change.
-/
theorem run_showsHealth (v : Version) {body : Json} {value : Response.shape.Value}
    (hvalue : Response.shape.decode body.settled = .ok value) {fetcher : Fetcher}
    (hreply : fetcher (endpoint v) = .answer (.ok body)) :
    (∃ samples, (probe v).run fetcher = ⟨.done samples, [endpoint v], []⟩ ∧
        ShowsHealth body.settled samples) ∧
      (∀ (body' : Json) (fetcher' : Fetcher), body.Reordered body' →
        fetcher' (endpoint v) = .answer (.ok body') →
          (probe v).run fetcher' = (probe v).run fetcher) ∧
      ∀ (serial : String) (body' : Json) (value' : Response.shape.Value) (fetcher' : Fetcher),
        SameBut serial body.settled body'.settled →
        Response.shape.decode body'.settled = .ok value' →
        fetcher' (endpoint v) = .answer (.ok body') →
          ∃ before own own' after,
            ((probe v).run fetcher).ending = .done (before ++ own ++ after) ∧
            ((probe v).run fetcher').ending = .done (before ++ own' ++ after) ∧
            own.map Sample.row = ownBlock serial body.settled ∧
            own'.map Sample.row = ownBlock serial body'.settled := by
  have hrun := run_eq v hvalue hreply
  rw [samples_ofRecord] at hrun
  refine ⟨⟨_, hrun, showsHealth body⟩, fun body' fetcher' hbody hreply' => ?_,
    fun serial body' value' fetcher' hbody hvalue' hreply' => ?_⟩
  · have hsettled : body.settled = body'.settled := hbody.settled_eq
    have hvalue' : Response.shape.decode body'.settled = .ok value := by rw [← hsettled, hvalue]
    rw [run_eq v hvalue' hreply', hrun, ← hsettled, samples_ofRecord]
  · -- the switches below the serial number are the same, and so are those above it
    have hbelow := hbody.filter_eq (p := fun key => key < serial) (by simp)
    have habove := hbody.filter_eq (p := fun key => serial < key) (by simp)
    have hrun' := run_eq v hvalue' hreply'
    rw [samples_ofRecord, samplesOf_split _ serial, hbody.domain, hbelow, habove] at hrun'
    rw [samplesOf_split _ serial] at hrun
    refine ⟨_, _, _, _, by rw [hrun], by rw [hrun'], map_row_samplesOf_own serial _, ?_⟩
    rw [← hbody.domain]
    exact map_row_samplesOf_own serial _

/-- A switch with a sensor. -/
def warmSwitch : Json := .object
  [("temperature", .array [.object [("module", .string "board")]]),
   ("summary", .object [("cpu", .object [("rating", .string "good")])])]

def bodyOf (switches : List (String × Json)) : Json :=
  .object [("vdom", .string "root"), ("results", .object switches)]

def serving (switches : List (String × Json)) : Fetcher := fun _ => .answer (.ok (bodyOf switches))

/-- One of two switches goes; before, they may as well be written the other way round. -/
theorem run_showsHealth_warmSwitch :
    (∃ samples, (probe ⟨7, 6⟩).run (serving [("S2", warmSwitch), ("S1", .object [])]) =
        ⟨.done samples, [currentEndpoint], []⟩ ∧
      samples.map (·.label? "fortiswitch") =
        List.replicate 8 (some "S1") ++ List.replicate 9 (some "S2")) ∧
      (probe ⟨7, 6⟩).run (serving [("S1", .object []), ("S2", warmSwitch)]) =
        (probe ⟨7, 6⟩).run (serving [("S2", warmSwitch), ("S1", .object [])]) ∧
      ∃ before own after,
        ((probe ⟨7, 6⟩).run (serving [("S2", warmSwitch), ("S1", .object [])])).ending =
          .done (before ++ own ++ after) ∧
        ((probe ⟨7, 6⟩).run (serving [("S2", warmSwitch)])).ending = .done (before ++ after) ∧
        own.map Sample.row = block "root" "S1" (.object []) := by
  have hvalue : Response.shape.decode
      (bodyOf [("S2", warmSwitch), ("S1", .object [])]).settled = .ok _ := rfl
  have hvalue' : Response.shape.decode (bodyOf [("S2", warmSwitch)]).settled = .ok _ := rfl
  have hreply : serving [("S2", warmSwitch), ("S1", .object [])] (endpoint ⟨7, 6⟩) =
      .answer (.ok (bodyOf [("S2", warmSwitch), ("S1", .object [])])) := rfl
  have hreordered : (bodyOf [("S2", warmSwitch), ("S1", .object [])]).Reordered
      (bodyOf [("S1", .object []), ("S2", warmSwitch)]) := by
    refine .rel _ _ (.member "results" [("vdom", .string "root")] [] (.of_perm (by decide) ?_))
    exact .swap _ _ _
  have hothers : [("S2", warmSwitch)].filter (·.1 != "S1") =
      [("S2", warmSwitch), ("S1", .object [])].filter (·.1 != "S1") := rfl
  have hbut : SameBut "S1" (bodyOf [("S2", warmSwitch), ("S1", .object [])]).settled
      (bodyOf [("S2", warmSwitch)]).settled :=
    .of_members hothers [("vdom", .string "root")] []
  obtain ⟨⟨samples, hrun, hshows⟩, horder, hone⟩ := run_showsHealth ⟨7, 6⟩ hvalue hreply
  have hserials := congrArg (List.map fun row => row.labels.lookup "fortiswitch") hshows.rows
  rw [List.map_map] at hserials
  obtain ⟨before, own, own', after, hending, hending', hown, hown'⟩ :=
    hone "S1" _ _ (serving [("S2", warmSwitch)]) hbut hvalue' rfl
  have hgone : own' = [] := List.map_eq_nil_iff.mp hown'
  rw [hgone, List.append_nil] at hending'
  exact ⟨⟨samples, hrun, hserials.trans rfl⟩, horder _ _ hreordered rfl, before, own, after,
    hending, hending', hown⟩

end SwitchHealth

end FirewallExporter
