import Mathlib.Data.List.Basic
import FirewallExporter.Probe.Sensors
import FirewallExporter.Proofs.Device.Runs
import FirewallExporter.Proofs.Firmware.Ranges
import FirewallExporter.Proofs.Json.Records
import FirewallExporter.Proofs.Metric.Rows
import FirewallExporter.Proofs.Metric.Zeros

/-!
The samples of the sensors of a device, as what they show. A sensor gives a row
about its alarm, one for every threshold that is set, and one for its reading if
it is of a type that has one. Older firmware is asked for the same body and shows
the readings alone, so nothing of it differs but that the other rows are missing.
-/

namespace FirewallExporter

namespace Sensors

/-! ### Records -/

def sensorKeys : List String := ["name", "type", "value", "alarm", "thresholds"]

def thresholdKeys : List String :=
  ["lower_non_recoverable", "lower_critical", "lower_non_critical", "upper_non_critical",
   "upper_critical", "upper_non_recoverable"]

/-- The records of the sensors, in order. -/
def sensorsOf (body : Json) : List Json := Json.itemsOf (body.under ["results"] "results")

def sensorText (sensor : Json) (key : String) : String := Json.textOf (sensor.under sensorKeys key)

def readingOf (sensor : Json) : Float := Json.numberOf (sensor.under sensorKeys "value")

def alarmOf (sensor : Json) : Bool := Json.flagOf (sensor.under sensorKeys "alarm")

def thresholdIn (sensor : Json) (key : String) : Float :=
  Json.numberOf ((sensor.part sensorKeys "thresholds").under thresholdKeys key)

def Thresholds.ofRecord (record : Json) : Thresholds where
  lowerNonRecoverable := Json.numberOf (record.under thresholdKeys "lower_non_recoverable")
  lowerCritical := Json.numberOf (record.under thresholdKeys "lower_critical")
  lowerNonCritical := Json.numberOf (record.under thresholdKeys "lower_non_critical")
  upperNonCritical := Json.numberOf (record.under thresholdKeys "upper_non_critical")
  upperCritical := Json.numberOf (record.under thresholdKeys "upper_critical")
  upperNonRecoverable := Json.numberOf (record.under thresholdKeys "upper_non_recoverable")

def Sensor.ofRecord (record : Json) : Sensor where
  name := sensorText record "name"
  type := sensorText record "type"
  value := readingOf record
  alarm := alarmOf record
  thresholds := .ofRecord (record.part sensorKeys "thresholds")

theorem Thresholds.ofValue_read (record : Json) :
    ofValue (shape.read record) = ofRecord record := by
  have hread : shape.read record = _ := Shape.read_ofFields _ _ (by decide) record
  refine (congrArg ofValue hread).trans ?_
  simp only [ofRecord, ← Shape.readMember_number, Fields.ofList, Fields.readMembers_cons]
  rfl

theorem Sensor.ofValue_read (record : Json) : ofValue (shape.read record) = ofRecord record := by
  have hread : shape.read record = _ := Shape.read_ofFields _ _ (by decide) record
  refine (congrArg ofValue hread).trans ?_
  simp only [ofRecord, sensorText, readingOf, alarmOf, ← Shape.readMember_text,
    ← Shape.readMember_number, ← Shape.readMember_flag,
    Shape.ofRecord_part Thresholds.ofValue_read, Fields.ofList, Fields.readMembers_cons]
  rfl

theorem sensors_read (body : Json) :
    sensors (shape.read body) = (sensorsOf body).map Sensor.ofRecord := by
  have hread : shape.read body = _ := Shape.read_ofFields _ _ (by decide) body
  refine (congrArg sensors hread).trans ?_
  rw [sensorsOf, Shape.map_ofRecord_itemsOf Sensor.ofValue_read]
  rfl

/-! ### Rows -/

def alarmRow (sensor : Json) : Row where
  family := "fortigate_sensor_alarm_status"
  kind := .gauge
  labels := [("name", sensorText sensor "name")]
  value := flagValue (alarmOf sensor)

/-- What the thresholds are called in a label, and in a body. -/
def thresholdNames : List (String × String) :=
  [("LowerNonRec", "lower_non_recoverable"), ("LowerCrit", "lower_critical"),
   ("LowerNonCrit", "lower_non_critical"), ("UpperNonCrit", "upper_non_critical"),
   ("UpperCrit", "upper_critical"), ("UpperNonRec", "upper_non_recoverable")]

def thresholdRow (sensor : Json) (label key : String) : Row where
  family := "fortigate_sensor_thresholds"
  kind := .gauge
  labels := [("name", sensorText sensor "name"), ("threshold", label)]
  value := thresholdIn sensor key

/-- The rows of the thresholds that are neither of the two zeros. -/
def thresholdRows (sensor : Json) : List Row :=
  (thresholdNames.filter fun (_, key) =>
    thresholdIn sensor key ≠ 0.0 ∧ thresholdIn sensor key ≠ -0.0).map fun (label, key) =>
      thresholdRow sensor label key

/-- The types of sensors that have a reading, and the ends of the names of their families. -/
def readingNames : List (String × String) :=
  [("temperature", "temperature_celsius"), ("fan", "fan_rpm"), ("voltage", "voltage_volts")]

def readingRow (sensor : Json) (word : String) : Row where
  family := "fortigate_sensor_" ++ word
  kind := .gauge
  labels := [("name", sensorText sensor "name")]
  value := readingOf sensor

def readingRows (sensor : Json) : List Row :=
  ((readingNames.lookup (sensorText sensor "type")).map (readingRow sensor)).toList

/-- What a sensor shows. -/
def sensorRows (sensor : Json) : List Row :=
  alarmRow sensor :: thresholdRows sensor ++ readingRows sensor

theorem labelled_ofRecord (sensor : Json) :
    (Sensor.ofRecord sensor).thresholds.labelled =
      thresholdNames.map fun (label, key) => (label, thresholdIn sensor key) := rfl

theorem map_row_gated (sensor : Json) :
    (Sensor.ofRecord sensor).gated.map Sample.row = alarmRow sensor :: thresholdRows sensor := by
  have hset (key : String) : (!(thresholdIn sensor key == 0.0)) =
      decide (thresholdIn sensor key ≠ 0.0 ∧ thresholdIn sensor key ≠ -0.0) := by
    rw [Bool.eq_iff_iff, Bool.not_eq_true', ← Bool.not_eq_true, beq_zero_iff]
    simp
  rw [Sensor.gated, Thresholds.set, labelled_ofRecord, List.filter_map, List.map_cons,
    List.map_map, List.map_map, thresholdRows]
  refine congrArg₂ List.cons rfl (congrArg (List.map _) ?_)
  exact List.filter_congr fun names _ => hset names.2

/-- The types of sensors that have a reading. -/
def readingTypes : List String := readingNames.map Prod.fst

theorem lookup_readingNames {type : String} (h : type ∉ readingTypes) :
    readingNames.lookup type = none := by
  rw [List.lookup_eq_none_iff]
  intro names hnames
  exact bne_iff_ne.mpr fun heq => h (heq ▸ List.mem_map_of_mem hnames)

theorem map_row_reading (sensor : Json) :
    (Sensor.ofRecord sensor).reading.map Sample.row = readingRows sensor := by
  have htype : (Sensor.ofRecord sensor).type = sensorText sensor "type" := rfl
  rw [Sensor.reading, htype, readingRows]
  split
  · next h => rw [h]; rfl
  · next h => rw [h]; rfl
  · next h => rw [h]; rfl
  · next htemperature hfan hvoltage =>
      have hother : sensorText sensor "type" ∉ readingTypes := by
        simpa [readingTypes, readingNames] using ⟨htemperature, hfan, hvoltage⟩
      rw [lookup_readingNames hother]
      rfl

theorem map_row_samples (sensor : Json) :
    ((Sensor.ofRecord sensor).samples true).map Sample.row = sensorRows sensor := by
  rw [Sensor.samples, if_pos rfl, List.map_append, map_row_gated, map_row_reading, sensorRows]

/-- A sensor of such a type has one reading, and no other sensor has any. -/
theorem length_readingRows (sensor : Json) :
    (readingRows sensor).length =
      if sensorText sensor "type" ∈ readingTypes then 1 else 0 := by
  rw [readingRows]
  split
  · next h =>
      simp only [readingTypes, readingNames, List.map_cons, List.map_nil, List.mem_cons,
        List.not_mem_nil, or_false] at h
      rcases h with h | h | h <;> rw [h] <;> rfl
  · next h => rw [lookup_readingNames h]; rfl

/-! ### What older firmware does not show -/

/-- The names of the families that are only shown with thresholds. -/
def gatedFamilies : List String :=
  ["fortigate_sensor_alarm_status", "fortigate_sensor_thresholds"]

theorem name_of_mem_gated {s : Sensor} {sample : Sample} (h : sample ∈ s.gated) :
    sample.name ∈ gatedFamilies := by
  rcases List.mem_cons.mp h with rfl | h
  · exact .head _
  · obtain ⟨⟨label, x⟩, -, rfl⟩ := List.mem_map.mp h
    exact .tail _ (.head _)

theorem name_of_mem_reading {s : Sensor} {sample : Sample} (h : sample ∈ s.reading) :
    sample.name ∉ gatedFamilies := by
  rw [Sensor.reading] at h
  split at h
  · obtain rfl := List.mem_singleton.mp h
    exact (by decide : temperatureFamily.name ∉ gatedFamilies)
  · obtain rfl := List.mem_singleton.mp h
    exact (by decide : fanFamily.name ∉ gatedFamilies)
  · obtain rfl := List.mem_singleton.mp h
    exact (by decide : voltageFamily.name ∉ gatedFamilies)
  · cases h

theorem filter_samples_sensor (s : Sensor) :
    (s.samples true).filter (·.name ∉ gatedFamilies) = s.samples false := by
  have hgated : s.gated.filter (·.name ∉ gatedFamilies) = [] :=
    List.filter_eq_nil_iff.mpr fun sample h => by simp [name_of_mem_gated h]
  have hreading : s.reading.filter (·.name ∉ gatedFamilies) = s.reading :=
    List.filter_eq_self.mpr fun sample h => by simp [name_of_mem_reading h]
  rw [Sensor.samples, List.filter_append, if_pos rfl, hgated, hreading]
  rfl

theorem filter_samples (sensors : List Sensor) :
    (samples true sensors).filter (·.name ∉ gatedFamilies) = samples false sensors := by
  rw [samples, List.filter_flatMap]
  exact List.flatMap_congr fun s _ => filter_samples_sensor s

/-! ### Runs -/

/-- From here on alarms and thresholds are shown. -/
def splitVersion : Version := ⟨7, 0⟩

def endpoint : Endpoint := { path := "api/v2/monitor/system/sensor-info", query := "vdom=root" }

theorem resolve_sensorInfo (v : Version) : Capability.sensorInfo.resolve v = some endpoint := by
  have hranges : Capability.sensorInfo.ranges = [⟨.any, endpoint⟩] := by decide
  exact Capability.resolve_of_range hranges v

theorem isSome_resolve_sensorThresholds (v : Version) :
    (Capability.sensorThresholds.resolve v).isSome = decide (splitVersion ≤ v) := by
  have hranges : Capability.sensorThresholds.ranges = [⟨splitVersion, endpoint⟩] := by decide
  rw [Capability.resolve_of_floor hranges]
  split <;> simp [*]

theorem probe_eq (v : Version) : probe v = (Dialogue.get shape endpoint).bind fun body =>
    .done (samples (decide (splitVersion ≤ v)) (sensors body)) := by
  rw [probe, resolve_sensorInfo]
  simp only [isSome_resolve_sensorThresholds]
  rfl

theorem calls_run (v : Version) (fetcher : Fetcher) :
    ((probe v).run fetcher).calls = [endpoint] := by
  rw [probe_eq, Dialogue.calls_run_bind_done, Dialogue.calls_run_get]

/-- A body that decodes is asked for once and shown. -/
theorem run_eq (v : Version) {fetcher : Fetcher} {body : Json} {value : shape.Value}
    (hvalue : shape.decode body.settled = .ok value)
    (hreply : fetcher endpoint = .answer (.ok body)) :
    (probe v).run fetcher =
      ⟨.done (samples (decide (splitVersion ≤ v)) ((sensorsOf body.settled).map Sensor.ofRecord)),
        [endpoint], []⟩ := by
  have hrun := Dialogue.run_get_of_decode hreply hvalue
  rw [← sensors_read, (Shape.decode_eq_ok_iff.mp hvalue).2, probe_eq,
    Dialogue.run_bind_of_done (by rw [hrun]), hrun]
  rfl

/-- Samples that show the sensors of a body with their alarms and thresholds. -/
structure ShowsSensors (body : Json) (samples : List Sample) : Prop where
  /-- They are the rows of the sensors in order. -/
  rows : samples.map Sample.row = (sensorsOf body).flatMap sensorRows
  /-- A sensor has one reading, or it has none as its type is none of the three. -/
  reading : ∀ sensor ∈ sensorsOf body, (readingRows sensor).length =
    if sensorText sensor "type" ∈ ["temperature", "fan", "voltage"] then 1 else 0

theorem showsSensors (body : Json) :
    ShowsSensors body (samples true ((sensorsOf body).map Sensor.ofRecord)) := by
  refine ⟨?_, fun sensor _ => length_readingRows sensor⟩
  rw [samples, List.flatMap_map, List.map_flatMap]
  exact List.flatMap_congr fun sensor _ => map_row_samples sensor

/--
Firmware before 7.0 and firmware from then on are asked for the same, whatever
they answer. On a body that decodes, what the older one shows is what the newer
one does without the alarms and the thresholds, in the same order; and the newer
one shows of every sensor its alarm, the thresholds that are not zero, and its
reading if it is of a type that has one.
-/
theorem run_showsSensors {older newer : Version} (holder : ¬ splitVersion ≤ older)
    (hnewer : splitVersion ≤ newer) (fetcher : Fetcher) :
    ((probe older).run fetcher).calls = [endpoint] ∧
      ((probe newer).run fetcher).calls = [endpoint] ∧
      ∀ (body : Json) (value : shape.Value), fetcher endpoint = .answer (.ok body) →
        shape.decode body.settled = .ok value →
          ∃ samples, (probe newer).run fetcher = ⟨.done samples, [endpoint], []⟩ ∧
            ShowsSensors body.settled samples ∧
            (probe older).run fetcher =
              ⟨.done (samples.filter (·.name ∉ gatedFamilies)), [endpoint], []⟩ := by
  refine ⟨calls_run older fetcher, calls_run newer fetcher, fun body value hreply hvalue => ?_⟩
  have holderRun := run_eq older hvalue hreply
  have hnewerRun := run_eq newer hvalue hreply
  rw [decide_eq_false holder, ← filter_samples] at holderRun
  rw [decide_eq_true hnewer] at hnewerRun
  exact ⟨_, hnewerRun, showsSensors _, holderRun⟩

/-- A sensor in alarm with two thresholds, two that are zero, and a type with no reading. -/
def dampSensor : Json := .object
  [("name", .string "damp"), ("type", .string "humidity"), ("alarm", .bool true),
   ("thresholds", .object
     [("upper_critical", .int 80), ("lower_critical", .float (-0.0)),
      ("upper_non_critical", .int 0), ("lower_non_recoverable", .int (-5))])]

def fanSensor : Json := .object [("name", .string "fan 1"), ("type", .string "fan")]

def sensorsBody : Json := .object [("results", .array [dampSensor, fanSensor])]

def servingSensors : Fetcher := fun _ => .answer (.ok sensorsBody)

theorem run_showsSensors_dampSensor :
    ∃ samples, (probe ⟨7, 0⟩).run servingSensors = ⟨.done samples, [endpoint], []⟩ ∧
      samples.map Sample.series =
        [("fortigate_sensor_alarm_status", ["damp"]),
         ("fortigate_sensor_thresholds", ["damp", "LowerNonRec"]),
         ("fortigate_sensor_thresholds", ["damp", "UpperCrit"]),
         ("fortigate_sensor_alarm_status", ["fan 1"]), ("fortigate_sensor_fan_rpm", ["fan 1"])] ∧
      (probe ⟨6, 4⟩).run servingSensors =
        ⟨.done (samples.filter (·.name ∉ gatedFamilies)), [endpoint], []⟩ := by
  have hvalue : shape.decode sensorsBody.settled = .ok _ := rfl
  have holder : ¬ splitVersion ≤ (⟨6, 4⟩ : Version) := by decide
  have hnewer : splitVersion ≤ (⟨7, 0⟩ : Version) := by decide
  obtain ⟨-, -, hshows⟩ := run_showsSensors holder hnewer servingSensors
  obtain ⟨samples, hrun, hsamples, hold⟩ := hshows sensorsBody _ rfl hvalue
  refine ⟨samples, hrun, ?_, hold⟩
  rw [Sample.map_series hsamples.rows]
  rfl

end Sensors

end FirewallExporter
