import FirewallExporter.Device.Reply

/-!
A fetcher that answers from a script, whatever the query: first the paths with
an error of their own, then those that refuse the connection, then the prepared
bodies. Any other path does not exist.
-/

namespace FirewallExporter

inductive ScriptedError where
  | timeout
  | status (code : Nat)
  | transport (reason : String)
  | crash

def ScriptedError.reply (path : String) : ScriptedError → Reply
  | timeout => .answer (.error (.timeout path))
  | status code => .answer (.error (.status path code))
  | transport reason => .answer (.error (.transport path reason))
  | crash => .crash

structure Script where
  errors : List (String × ScriptedError) := []
  refusing : List String := []
  bodies : List (String × Json) := []

def Script.fetcher (s : Script) : Fetcher := fun endpoint =>
  match s.errors.lookup endpoint.path with
  | some error => error.reply endpoint.path
  | none =>
    if s.refusing.contains endpoint.path then
      .answer (.error (.transport endpoint.path "connection refused"))
    else
      match s.bodies.lookup endpoint.path with
      | some body => .answer (.ok body)
      | none => .answer (.error (.status endpoint.path 404))

end FirewallExporter
