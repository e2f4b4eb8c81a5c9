import FirewallExporter.Device.Dialogue
import FirewallExporter.Metric.Sample
import FirewallExporter.Probe.Category

/-!
The health of the managed switches. The body is a table from serial numbers to
records, and switches come in the order of their serials. A switch gives four
summary ratings, the readings of its temperature sensors and four processor
readings; the unit of the system reading stands for all of the latter.
-/

namespace FirewallExporter.SwitchHealth

structure Rating where
  value : Float
  rating : String

def Rating.shape : Shape := .ofFields "Rating" [("value", .number), ("rating", .text)]

def Rating.ofValue : shape.Value → Rating
  | (value, rating, ()) => { value, rating }

structure Reading where
  value : Float
  unit : String

def Reading.shape : Shape := .ofFields "Reading" [("value", .number), ("unit", .text)]

def Reading.ofValue : shape.Value → Reading
  | (value, unit, ()) => { value, unit }

structure Cpu where
  user : Reading
  system : Reading
  nice : Reading
  idle : Reading

def Cpu.shape : Shape := .ofFields "CpuReadings"
  [("user", Reading.shape), ("system", Reading.shape), ("nice", Reading.shape),
   ("idle", Reading.shape)]

def Cpu.ofValue : shape.Value → Cpu
  | (user, system, nice, idle, ()) =>
    { user := Reading.ofValue user, system := Reading.ofValue system,
      nice := Reading.ofValue nice, idle := Reading.ofValue idle }

structure TemperatureSensor where
  module : String
  status : Reading

def TemperatureSensor.shape : Shape := .ofFields "TemperatureSensor"
  [("module", .text), ("status", Reading.shape)]

def TemperatureSensor.ofValue : shape.Value → TemperatureSensor
  | (module, status, ()) => { module, status := Reading.ofValue status }

structure Summary where
  cpu : Rating
  memory : Rating
  uptime : Rating
  temperature : Rating

def Summary.shape : Shape := .ofFields "Summary"
  [("cpu", Rating.shape), ("memory", Rating.shape), ("uptime", Rating.shape),
   ("temperature", Rating.shape)]

def Summary.ofValue : shape.Value → Summary
  | (cpu, memory, uptime, temperature, ()) =>
    { cpu := Rating.ofValue cpu, memory := Rating.ofValue memory,
      uptime := Rating.ofValue uptime, temperature := Rating.ofValue temperature }

structure Health where
  cpu : Cpu
  temperature : List TemperatureSensor
  summary : Summary

def Health.shape : Shape := .ofFields "SwitchHealth"
  [("performance-status", .ofFields "PerformanceStatus" [("cpu", Cpu.shape)]),
   ("temperature", .list TemperatureSensor.shape),
   ("summary", Summary.shape)]

def Health.ofValue : shape.Value → Health
  | ((cpu, ()), temperature, summary, ()) =>
    { cpu := Cpu.ofValue cpu, temperature := temperature.map TemperatureSensor.ofValue,
      summary := Summary.ofValue summary }

structure Response where
  switches : List (String × Health)
  domain : String

def Response.shape : Shape := .ofFields "HealthResponse"
  [("results", .table Health.shape), ("vdom", .text)]

def Response.ofValue : shape.Value → Response
  | (results, domain, ()) =>
    { switches := results.map fun (serial, h) => (serial, Health.ofValue h), domain }

def summaryFamily (name help : String) : Family :=
  .gauge name help ["value", "rating", "fortiswitch", "vdom"]

def summaryCpu : Family :=
  summaryFamily "fortiswitch_health_summary_cpu" "Boolean indicator if CPU health is good"

def summaryMemory : Family :=
  summaryFamily "fortiswitch_health_summary_memory" "Boolean indicator if Memory health is good"

def summaryUptime : Family :=
  summaryFamily "fortiswitch_health_summary_uptime" "Boolean indicator if Uptime is good"

def summaryTemperature : Family :=
  summaryFamily "fortiswitch_health_summary_temperature"
    "Boolean indicator if Temperature health is good"

def temperatureFamily : Family :=
  .gauge "fortiswitch_health_temperature" "Temperature per switch sensor"
    ["unit", "module", "fortiswitch", "vdom"]

def cpuFamily (name help : String) : Family :=
  .gauge ("fortiswitch_health_performance_stats_cpu_" ++ name) help
    ["unit", "fortiswitch", "vdom"]

def cpuUser : Family := cpuFamily "user" "Fortiswitch CPU user usage"

def cpuNice : Family := cpuFamily "nice" "Fortiswitch CPU nice usage"

def cpuSystem : Family := cpuFamily "system" "Fortiswitch CPU system usage"

def cpuIdle : Family := cpuFamily "idle" "Fortiswitch CPU idle"

/-- The label values of a summary sample. -/
def Rating.labelValues (serial domain : String) (r : Rating) : List String :=
  [numberLabel r.value, r.rating, serial, domain]

def Rating.score (r : Rating) : Float := Category.rating.value r.rating

def Summary.samples (serial domain : String) (s : Summary) : List Sample :=
  [summaryCpu.sample s.cpu.score (s.cpu.labelValues serial domain),
   summaryMemory.sample s.memory.score (s.memory.labelValues serial domain),
   summaryUptime.sample s.uptime.score (s.uptime.labelValues serial domain),
   summaryTemperature.sample s.temperature.score (s.temperature.labelValues serial domain)]

def TemperatureSensor.samples (serial domain : String) (t : TemperatureSensor) : List Sample :=
  [temperatureFamily.sample t.status.value [t.status.unit, t.module, serial, domain]]

def Cpu.samples (serial domain : String) (c : Cpu) : List Sample :=
  [cpuUser.sample c.user.value [c.system.unit, serial, domain],
   cpuNice.sample c.nice.value [c.system.unit, serial, domain],
   cpuSystem.sample c.system.value [c.system.unit, serial, domain],
   cpuIdle.sample c.idle.value [c.system.unit, serial, domain]]

def Health.samples (domain serial : String) (h : Health) : List Sample :=
  h.summary.samples serial domain ++
    h.temperature.flatMap (TemperatureSensor.samples serial domain) ++
    h.cpu.samples serial domain

def samples (r : Response) : List Sample :=
  r.switches.flatMap fun (serial, h) => h.samples r.domain serial

def probe (v : Version) : Dialogue (List Sample) :=
  match Capability.switchHealth.resolve v with
  | none => pure []
  | some endpoint => do
    let body ← Dialogue.get Response.shape endpoint
    return samples (Response.ofValue body)

end FirewallExporter.SwitchHealth
