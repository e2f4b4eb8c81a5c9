import FirewallExporter.Firmware.Capability
import FirewallExporter.Json.Shape

/-!
What comes back when a device is asked. An answer is a JSON body or the way in
which the call failed. A fetcher gives the reply for every endpoint; it may also
crash, which takes down whatever was asking.
-/

namespace FirewallExporter

/-- Why the text of a body could not be taken as a value. -/
inductive BodyFault where
  | notJson
  | misshapen (fault : ShapeFault)

def BodyFault.message : BodyFault → String
  | .notJson => "not a JSON text"
  | .misshapen fault => fault.message

/-- A call that failed, with the path as the caller gave it. -/
inductive FetchError where
  | transport (path reason : String)
  | timeout (path : String)
  | status (path : String) (code : Nat)
  | decode (path : String) (fault : BodyFault)

namespace FetchError

def message : FetchError → String
  | transport path reason => "transport error on " ++ path ++ ": " ++ reason
  | timeout path => "request to " ++ path ++ " timed out"
  | status path code => path ++ " returned HTTP " ++ toString code
  | decode path fault => "failed to decode " ++ path ++ ": " ++ fault.message

def path : FetchError → String
  | transport path _ => path
  | timeout path => path
  | status path _ => path
  | decode path _ => path

end FetchError

abbrev Answer := Except FetchError Json

inductive Reply where
  | answer (answer : Answer)
  | crash

abbrev Fetcher := Endpoint → Reply

end FirewallExporter
