import FirewallExporter.Config.Basic
import FirewallExporter.Exporter.Target
import FirewallExporter.Http.Client
import FirewallExporter.Probe.Catalogue

/-!
What the configuration of a device comes to: the client to reach it with, its
version if it is pinned, and its probes.
-/

namespace FirewallExporter

structure Plan where
  name : String
  client : Client
  version : Option Version
  probes : List Probe

/-- The device of a plan, reached over a network. -/
def Plan.target (network : Network) (p : Plan) : Target :=
  { name := p.name, fetcher := p.client.fetcher network, version := p.version, probes := p.probes }

/-- The devices of an exporter as planned. -/
def Directory.ofPlans (network : Network) (plans : List Plan) : Directory :=
  .ofList (plans.map (Plan.target network))

/-- Why a device cannot be scraped as configured. -/
inductive PlanError where
  | selection (target : String) (error : UnknownProbe)
  | invalid (fault : ConfigFault)
deriving DecidableEq, Repr

def PlanError.message : PlanError → String
  | selection target error =>
    "target " ++ Text.quote target ++ ": invalid probe selection: " ++ error.message
  | invalid fault => fault.message

namespace TargetConfig

def selection (t : TargetConfig) : Selection := { included := t.probes, excluded := t.exclude }

def plan (t : TargetConfig) : Except PlanError Plan := do
  let probes ← t.selection.probes.mapError (.selection t.name)
  let timeout ← t.readTimeout.mapError .invalid
  let version ← t.readVersion.mapError .invalid
  return { name := t.name, client := { address := t.address, token := t.token, timeout },
           version, probes }

end TargetConfig

/-- Stops at the first device that cannot be scraped. -/
def Config.plans (c : Config) : Except PlanError (List Plan) := c.targets.mapM TargetConfig.plan

end FirewallExporter
