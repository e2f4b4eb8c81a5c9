import FirewallExporter.Config.Basic
import FirewallExporter.Toml.Reader

/-!
Takes a configuration from a TOML document. Keys that are not known are passed
over. A record may also be a list of its values in their declared order; a date
counts as a record without any known key.
-/

namespace FirewallExporter

namespace TargetConfig

/-- A device from the values of its fields. -/
def ofFields? (name address : Toml) (token version timeout probes exclude : Option Toml) :
    Option TargetConfig := do
  some {
    name := ← name.text?
    address := ← address.text?
    token := ← token.mapM Toml.text?
    version := ← version.mapM Toml.text?
    timeout := ← timeout.mapM Toml.text?
    probes := ← probes.mapM Toml.texts?
    exclude := (← exclude.mapM Toml.texts?).getD [] }

/-- In a list only the last field may be missing. -/
def ofToml? : Toml → Option TargetConfig
  | .table members => do
    ofFields? (← members.lookup "name") (← members.lookup "address") (members.lookup "token")
      (members.lookup "version") (members.lookup "timeout") (members.lookup "probes")
      (members.lookup "exclude")
  | .list (name :: address :: token :: version :: timeout :: probes :: rest) =>
    ofFields? name address (some token) (some version) (some timeout) (some probes) rest.head?
  | _ => none

def listOfToml? : Toml → Option (List TargetConfig)
  | .list items => items.mapM ofToml?
  | _ => none

end TargetConfig

namespace Config

def defaultListen : String := ({} : Config).listen

def listenOr (value : Option Toml) : Option String :=
  (value.mapM Toml.text?).map (·.getD defaultListen)

/-- Where to listen, from the record of the server. -/
def listenOfToml? : Toml → Option String
  | .table members => listenOr (members.lookup "listen")
  | .list items => listenOr items.head?
  | .date => some defaultListen
  | _ => none

def ofToml? : Toml → Option Config
  | .table members => do
    some {
      listen := ((← (members.lookup "server").mapM listenOfToml?).getD defaultListen)
      targets := ((← (members.lookup "target").mapM TargetConfig.listOfToml?).getD []) }
  | _ => none

/-- Why no configuration could be loaded. -/
inductive LoadError where
  /-- The file is missing or is not a text. -/
  | unreadable
  /-- The text is not TOML or does not have the form of a configuration. -/
  | malformed
  | invalid (fault : ConfigFault)
deriving DecidableEq, Repr

/-- A valid configuration from the text of a document. -/
def load (document : String) : Except LoadError Config :=
  match (Toml.parse? document).bind ofToml? with
  | none => .error .malformed
  | some c =>
    match c.validate with
    | .ok () => .ok c
    | .error fault => .error (.invalid fault)

/-- A valid configuration from the bytes of a file, if the file exists. -/
def loadFile (content : Option ByteArray) : Except LoadError Config :=
  match content.bind String.fromUTF8? with
  | none => .error .unreadable
  | some document => load document

end Config

end FirewallExporter
