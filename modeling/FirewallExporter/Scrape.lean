import FirewallExporter.Duration
import FirewallExporter.Probe.Catalogue
import FirewallExporter.Probe.Discovery

/-!
A scrape carries out the chosen probes of one device. The report has one entry
for each of them, in the order asked for, whatever becomes of the others. Its
samples are those of the probes, and after them the success and the duration of
every probe.
-/

namespace FirewallExporter

structure ProbeReport where
  name : String
  outcome : Outcome
  duration : Duration

namespace ProbeReport

def successFamily : Family :=
  .gauge "fortigate_exporter_probe_success"
    "Whether the probe completed successfully (1) or not (0)" ["probe"]

def durationFamily : Family :=
  .gauge "fortigate_exporter_probe_duration_seconds"
    "Time spent running the probe, in seconds" ["probe"]

def success (r : ProbeReport) : Sample :=
  successFamily.sample (flagValue r.outcome.ok) [r.name]

def elapsed (r : ProbeReport) : Sample :=
  durationFamily.sample r.duration.inSeconds [r.name]

/-- A probe that crashed has failed, and no time is known for it. -/
def ofEnding (name : String) (duration : Duration) : Ending Outcome → ProbeReport
  | .done outcome => { name, outcome, duration }
  | _ => { name, outcome := .failed, duration := .zero }

end ProbeReport

abbrev ScrapeReport := List ProbeReport

namespace ScrapeReport

def allOk (r : ScrapeReport) : Bool := r.all (·.outcome.ok)

def failed (r : ScrapeReport) : List String :=
  (r.filter (!·.outcome.ok)).map ProbeReport.name

def samples (r : ScrapeReport) : List Sample :=
  r.flatMap (·.outcome.samples) ++ r.map ProbeReport.success ++ r.map ProbeReport.elapsed

end ScrapeReport

namespace Scrape

/-- The name under which a failed discovery is reported. -/
def discoveryName : String := "System/Status"

/-- All that is reported of a device whose version could not be discovered. -/
def discoveryFailure : List Sample := [ProbeReport.successFamily.sample 0.0 [discoveryName]]

/-- How each of the probes went; none of them sees the others. -/
def transcripts (fetcher : Fetcher) (v : Version) (probes : List Probe) :
    List (Probe × Transcript Outcome) :=
  probes.map fun p => (p, (p.invoke v).run fetcher)

/-- How long a probe took, by its place in the list. -/
abbrev Clock := Nat → Duration

def report (clock : Clock) (ran : List (Probe × Transcript Outcome)) : ScrapeReport :=
  ran.mapIdx fun i (p, t) => .ofEnding p.name (clock i) t.ending

def calls (ran : List (Probe × Transcript Outcome)) : List Endpoint :=
  ran.flatMap fun (_, t) => t.calls

/-- The report on the probes of a device and the calls made for it. -/
def run (clock : Clock) (fetcher : Fetcher) (v : Version) (probes : List Probe) :
    ScrapeReport × List Endpoint :=
  let ran := transcripts fetcher v probes
  (report clock ran, calls ran)

end Scrape

end FirewallExporter
