import FirewallExporter.Device.Dialogue
import FirewallExporter.Metric.Sample

/-!
The hardware sensors of a device. A sensor of a known type gives its reading.
Firmware from 7.0 on also reports whether it gives an alarm, and the thresholds
set for it, of which those that are not zero are shown.
-/

namespace FirewallExporter.Sensors

structure Thresholds where
  lowerNonRecoverable : Float
  lowerCritical : Float
  lowerNonCritical : Float
  upperNonCritical : Float
  upperCritical : Float
  upperNonRecoverable : Float

def Thresholds.shape : Shape := .ofFields "Thresholds"
  [("lower_non_recoverable", .number), ("lower_critical", .number),
   ("lower_non_critical", .number), ("upper_non_critical", .number),
   ("upper_critical", .number), ("upper_non_recoverable", .number)]

def Thresholds.ofValue : shape.Value → Thresholds
  | (lowerNonRecoverable, lowerCritical, lowerNonCritical, upperNonCritical, upperCritical,
      upperNonRecoverable, ()) =>
    { lowerNonRecoverable, lowerCritical, lowerNonCritical, upperNonCritical, upperCritical,
      upperNonRecoverable }

structure Sensor where
  name : String
  type : String
  value : Float
  alarm : Bool
  thresholds : Thresholds

def Sensor.shape : Shape := .ofFields "Sensor"
  [("name", .text), ("type", .text), ("value", .number), ("alarm", .flag),
   ("thresholds", Thresholds.shape)]

def Sensor.ofValue : shape.Value → Sensor
  | (name, type, value, alarm, thresholds, ()) =>
    { name, type, value, alarm, thresholds := Thresholds.ofValue thresholds }

def shape : Shape := .ofFields "SensorInfo" [("results", .list Sensor.shape)]

def sensors : shape.Value → List Sensor
  | (results, ()) => results.map Sensor.ofValue

def temperatureFamily : Family :=
  .gauge "fortigate_sensor_temperature_celsius" "Sensor temperature in degree celsius" ["name"]

def fanFamily : Family :=
  .gauge "fortigate_sensor_fan_rpm" "Sensor fan rotation speed in RPM" ["name"]

def voltageFamily : Family :=
  .gauge "fortigate_sensor_voltage_volts" "Sensor voltage in volts" ["name"]

def alarmFamily : Family := .gauge "fortigate_sensor_alarm_status" "Sensor alarm status" ["name"]

def thresholdFamily : Family :=
  .gauge "fortigate_sensor_thresholds" "Sensor thresholds" ["name", "threshold"]

/-- The thresholds with their label, in the order in which they are shown. -/
def Thresholds.labelled (t : Thresholds) : List (String × Float) :=
  [("LowerNonRec", t.lowerNonRecoverable), ("LowerCrit", t.lowerCritical),
   ("LowerNonCrit", t.lowerNonCritical), ("UpperNonCrit", t.upperNonCritical),
   ("UpperCrit", t.upperCritical), ("UpperNonRec", t.upperNonRecoverable)]

/-- Zero of either sign stands for a threshold that is not set. -/
def Thresholds.set (t : Thresholds) : List (String × Float) :=
  t.labelled.filter fun (_, x) => !(x == 0.0)

def Sensor.gated (s : Sensor) : List Sample :=
  alarmFamily.sample (flagValue s.alarm) [s.name] ::
    s.thresholds.set.map fun (label, x) => thresholdFamily.sample x [s.name, label]

def Sensor.reading (s : Sensor) : List Sample :=
  match s.type with
  | "temperature" => [temperatureFamily.sample s.value [s.name]]
  | "fan" => [fanFamily.sample s.value [s.name]]
  | "voltage" => [voltageFamily.sample s.value [s.name]]
  | _ => []

def Sensor.samples (withThresholds : Bool) (s : Sensor) : List Sample :=
  (if withThresholds then s.gated else []) ++ s.reading

def samples (withThresholds : Bool) (sensors : List Sensor) : List Sample :=
  sensors.flatMap (Sensor.samples withThresholds)

def probe (v : Version) : Dialogue (List Sample) :=
  match Capability.sensorInfo.resolve v with
  | none => pure []
  | some endpoint => do
    let body ← Dialogue.get shape endpoint
    return samples (Capability.sensorThresholds.resolve v).isSome (sensors body)

end FirewallExporter.Sensors
