import FirewallExporter.Http.Address
import FirewallExporter.Http.Network
import FirewallExporter.Json.Writer

/-!
A network of prepared devices. A device may require a token; beyond that it
answers by path, with a body, with a bare status, or not at all. Any other path
does not exist, and any address without a device refuses the connection.
-/

namespace FirewallExporter

structure Device where
  token : Option String := none
  bodies : List (String × Json) := []
  statuses : List (String × Nat) := []
  stalling : List String := []

namespace Device

/-- Every step of an exchange takes some time. -/
def delay : Nat := 1

def admits (d : Device) (r : Request) : Bool :=
  match d.token with
  | none => true
  | some token => r.headers.lookup "authorization" == some ("Bearer " ++ token)

def path (r : Request) : String := String.ofList (r.uri.resource.path.toList.drop 1)

def emptyObject : ByteArray := "\x7b\x7d".toUTF8

def response (d : Device) (r : Request) : WrittenResponse :=
  if !d.admits r then { status := 401, body := emptyObject }
  else
    match d.statuses.lookup (path r) with
    | some status => { status, body := emptyObject }
    | none =>
      match d.bodies.lookup (path r) with
      | some body => { status := 200, body := body.compress.toUTF8 }
      | none => { status := 404, body := emptyObject }

def react (d : Device) (r : Request) : Eventually Reaction :=
  if d.stalling.contains (path r) then .never
  else .after delay ((d.response r).reaction delay)

/-- The network in which the devices are reached under their addresses. -/
def network (devices : List (Address × Device)) : Network := fun address =>
  match (Address.parse? address).bind (devices.lookup ·) with
  | some d => .after delay (.established d.react)
  | none => .after delay .refused

end Device

end FirewallExporter
