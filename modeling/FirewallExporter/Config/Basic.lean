import FirewallExporter.Config.Timeout
import FirewallExporter.Firmware.Version
import FirewallExporter.Text.Blank
import FirewallExporter.Text.Quoted

/-!
The configuration of the exporter: where it listens and which devices it
scrapes. A configuration is valid if it names at least one device, the names
are distinct and not blank, and the address, the timeout and the version of
each device are in order. Validation reports the first fault in the order of
the devices.
-/

namespace FirewallExporter

/-- A device to scrape. -/
structure TargetConfig where
  name : String
  address : String
  token : Option String := none
  version : Option String := none
  timeout : Option String := none
  probes : Option (List String) := none
  exclude : List String := []
deriving DecidableEq, Repr

structure Config where
  listen : String := "0.0.0.0:9710"
  targets : List TargetConfig := []
deriving DecidableEq, Repr

inductive ConfigFault where
  | noTargets
  | blankName
  | duplicateName (name : String)
  | blankAddress (target : String)
  | badTimeout (target raw : String)
  | badVersion (error : Version.Error)
deriving DecidableEq, Repr

def ConfigFault.message : ConfigFault → String
  | noTargets => "invalid configuration: no targets configured"
  | blankName => "invalid configuration: target with empty name"
  | duplicateName name => "invalid configuration: duplicate target name " ++ Text.quote name
  | blankAddress target => "invalid configuration: target " ++ target ++ ": empty address"
  | badTimeout target raw =>
    "invalid configuration: target " ++ target ++ ": invalid timeout " ++ Text.quote raw
  | badVersion error => error.message

namespace TargetConfig

def defaultTimeout : Duration := .ofSeconds 10

def readTimeout (t : TargetConfig) : Except ConfigFault Duration :=
  match t.timeout with
  | none => .ok defaultTimeout
  | some raw =>
    match Timeout.parse? raw with
    | some d => .ok d
    | none => .error (.badTimeout t.name raw)

def readVersion (t : TargetConfig) : Except ConfigFault (Option Version) :=
  match t.version with
  | none => .ok none
  | some raw =>
    match Version.parse raw with
    | .ok v => .ok (some v)
    | .error e => .error (.badVersion e)

/-- Checks one device; `seen` holds the names of those before it. -/
def check (seen : List String) (t : TargetConfig) : Except ConfigFault Unit := do
  if Text.isBlankText t.name then throw .blankName
  if seen.contains t.name then throw (.duplicateName t.name)
  if Text.isBlankText t.address then throw (.blankAddress t.name)
  let _ ← t.readTimeout
  let _ ← t.readVersion

def checkAll (seen : List String) : List TargetConfig → Except ConfigFault Unit
  | [] => .ok ()
  | t :: rest => do
    t.check seen
    checkAll (t.name :: seen) rest

end TargetConfig

namespace Config

def validate (c : Config) : Except ConfigFault Unit :=
  if c.targets.isEmpty then .error .noTargets else TargetConfig.checkAll [] c.targets

/-- The first device of a name. -/
def target? (c : Config) (name : String) : Option TargetConfig :=
  c.targets.find? (·.name == name)

end Config

end FirewallExporter
