import FirewallExporter.Device.Dialogue
import FirewallExporter.Metric.Sample

/-!
Load of processors and memory in every virtual domain. The records of a domain
are numbered from zero, and so are the cores of a record: record `n` has the
labels `cpu_n` and `mem_n`, its core `m` has `cpu_n_core_m`.
-/

namespace FirewallExporter.Performance

/-- Shares of time, in percent. -/
structure Times where
  user : Float
  system : Float
  nice : Float
  idle : Float
  iowait : Float

def Times.fields : List (String × Shape) :=
  [("user", .number), ("system", .number), ("nice", .number), ("idle", .number),
   ("iowait", .number)]

def Times.shape : Shape := .ofFields "CpuTimes" fields

def Times.ofValue : shape.Value → Times
  | (user, system, nice, idle, iowait, ()) => { user, system, nice, idle, iowait }

/-- The totals stand beside the cores and not under a key of their own. -/
structure Cpu where
  cores : List Times
  total : Times

def Cpu.shape : Shape := .ofKeys "Cpu" (("cores", .list Times.shape) :: Times.fields)

def Cpu.ofValue : shape.Value → Cpu
  | (cores, total) => { cores := cores.map Times.ofValue, total := Times.ofValue total }

structure Memory where
  total : Float
  used : Float
  free : Float
  freeable : Float

def Memory.shape : Shape := .ofFields "Memory"
  [("total", .number), ("used", .number), ("free", .number), ("freeable", .number)]

def Memory.ofValue : shape.Value → Memory
  | (total, used, free, freeable, ()) => { total, used, free, freeable }

structure Record where
  cpu : Cpu
  memory : Memory

def Record.shape : Shape := .ofFields "Performance"
  [("cpu", Cpu.shape), ("mem", Memory.shape)]

def Record.ofValue : shape.Value → Record
  | (cpu, memory, ()) => { cpu := Cpu.ofValue cpu, memory := Memory.ofValue memory }

/-- A virtual domain and its records. -/
structure Domain where
  records : List Record
  name : String

def Domain.shape : Shape := .ofFields "VdomPerformance"
  [("results", .list Record.shape), ("vdom", .text)]

def Domain.ofValue : shape.Value → Domain
  | (results, name, ()) => { records := results.map Record.ofValue, name }

def shape : Shape := .list Domain.shape

def domains (body : shape.Value) : List Domain := List.map Domain.ofValue body

/-- The families of this probe differ in the end of their names. -/
def family (suffix help : String) : Family :=
  .gauge ("fortigate_system_performance_status_" ++ suffix) help ["label", "vdom"]

def coresUser : Family :=
  family "cpu_cores_user" "Percentage of CPU utilization that occurred at the user level."

def coresSystem : Family :=
  family "cpu_cores_system"
    "Percentage of CPU utilization that occurred while executing at the system level."

def coresNice : Family :=
  family "cpu_cores_nice"
    "Percentage of CPU utilization that occurred while executing at the user level with nice priority."

def coresIdle : Family :=
  family "cpu_cores_idle"
    "Percentage of time that the CPU was idle and the system did not have an outstanding disk I/O request."

def coresIowait : Family :=
  family "cpu_cores_iowait"
    "Percentage of time that the CPU was idle during which the system had an outstanding disk I/O request."

def cpuUser : Family :=
  family "cpu_user" "Percentage of CPU utilization that occurred at the user level."

def cpuSystem : Family :=
  family "cpu_system"
    "Percentage of CPU utilization that occurred while executing at the system level."

def cpuNice : Family :=
  family "cpu_nice"
    "Percentage of CPU utilization that occurred while executing at the user level with nice priority."

def cpuIdle : Family :=
  family "cpu_idle"
    "Percentage of time that the CPU or CPUs were idle and the system did not have an outstanding disk I/O request."

def cpuIowait : Family :=
  family "cpu_iowait"
    "Percentage of time that the CPU or CPUs were idle during which the system had an outstanding disk I/O request."

def memTotal : Family := family "mem_total" "All the installed memory in RAM, in bytes."

def memUsed : Family := family "mem_used" "Memory are being used, in bytes."

def memFree : Family :=
  family "mem_free"
    "All the memory in RAM that is not being used for anything (even caches), in bytes."

def memFreeable : Family := family "mem_freeable" "Freeable buffers/caches memory, in bytes."

def cpuLabel (n : Nat) : String := "cpu_" ++ toString n

def coreLabel (n m : Nat) : String := cpuLabel n ++ "_core_" ++ toString m

def memLabel (n : Nat) : String := "mem_" ++ toString n

def coreSamples (domain : String) (n m : Nat) (t : Times) : List Sample :=
  [coresUser.sample t.user [coreLabel n m, domain],
   coresSystem.sample t.system [coreLabel n m, domain],
   coresNice.sample t.nice [coreLabel n m, domain],
   coresIdle.sample t.idle [coreLabel n m, domain],
   coresIowait.sample t.iowait [coreLabel n m, domain]]

def totalSamples (domain : String) (n : Nat) (t : Times) : List Sample :=
  [cpuUser.sample t.user [cpuLabel n, domain],
   cpuSystem.sample t.system [cpuLabel n, domain],
   cpuNice.sample t.nice [cpuLabel n, domain],
   cpuIdle.sample t.idle [cpuLabel n, domain],
   cpuIowait.sample t.iowait [cpuLabel n, domain]]

def memorySamples (domain : String) (n : Nat) (m : Memory) : List Sample :=
  [memTotal.sample m.total [memLabel n, domain],
   memUsed.sample m.used [memLabel n, domain],
   memFree.sample m.free [memLabel n, domain],
   memFreeable.sample m.freeable [memLabel n, domain]]

def Record.samples (domain : String) (n : Nat) (r : Record) : List Sample :=
  (r.cpu.cores.mapIdx (coreSamples domain n)).flatten ++
    totalSamples domain n r.cpu.total ++ memorySamples domain n r.memory

def Domain.samples (d : Domain) : List Sample :=
  (d.records.mapIdx (Record.samples d.name)).flatten

def samples (domains : List Domain) : List Sample := domains.flatMap Domain.samples

def probe (v : Version) : Dialogue (List Sample) :=
  match Capability.performanceStatus.resolve v with
  | none => pure []
  | some endpoint => do
    let body ← Dialogue.get shape endpoint
    return samples (domains body)

end FirewallExporter.Performance
