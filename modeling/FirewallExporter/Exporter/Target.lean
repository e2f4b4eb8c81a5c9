import FirewallExporter.Scrape

/-!
The devices an exporter knows, each under its name, and the scrape of one of
them. The version of a device is either pinned or discovered anew each time; if
that fails, no probe is carried out.
-/

namespace FirewallExporter

structure Target where
  name : String
  fetcher : Fetcher
  version : Option Version
  probes : List Probe

/-- Samples and the calls made to get them. -/
structure Scraped where
  samples : List Sample
  calls : List Endpoint

namespace Target

def scrapeAt (clock : Scrape.Clock) (t : Target) (v : Version) : Scraped :=
  let (report, calls) := Scrape.run clock t.fetcher v t.probes
  { samples := report.samples, calls }

def scrape (clock : Scrape.Clock) (t : Target) : Scraped :=
  match t.version with
  | some v => t.scrapeAt clock v
  | none =>
    let discovery := Discovery.discover.run t.fetcher
    match discovery.ending with
    | .done v =>
      let s := t.scrapeAt clock v
      { s with calls := discovery.calls ++ s.calls }
    | _ => { samples := Scrape.discoveryFailure, calls := discovery.calls }

/-- Puts a target in its place in the order of names; it replaces one of its name. -/
def insert (t : Target) : List Target → List Target
  | [] => [t]
  | u :: rest =>
    if t.name < u.name then t :: u :: rest
    else if t.name = u.name then t :: rest
    else u :: insert t rest

end Target

/-- Targets in the order of their names, no two of one name. -/
structure Directory where
  targets : List Target

namespace Directory

/-- Of two targets with one name the later one counts. -/
def ofList (targets : List Target) : Directory :=
  ⟨targets.foldl (fun known t => t.insert known) []⟩

def find? (d : Directory) (name : String) : Option Target :=
  d.targets.find? (·.name == name)

def names (d : Directory) : List String := d.targets.map Target.name

end Directory

end FirewallExporter
