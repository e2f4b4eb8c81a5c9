import FirewallExporter.Device.Reply
import FirewallExporter.Metric.Sample

/-!
Dialogues with a device. A dialogue says what to ask next and how to go on from
each answer, so what it does depends on nothing but the answers. Running it
against a fetcher gives how it ended, the endpoints it asked and the events
worth noting, both in order.
-/

namespace FirewallExporter

/-- A selection names a probe that is not in the catalogue. -/
structure UnknownProbe where
  name : String
deriving DecidableEq, Repr

def UnknownProbe.message (e : UnknownProbe) : String := "unknown probe: " ++ e.name

inductive ProbeError where
  | fetch (error : FetchError)
  | labelArity (error : ArityError)
  | unknownProbe (error : UnknownProbe)
  | unsupported (capability : Capability)
  | version (error : Version.Error)

def ProbeError.message : ProbeError → String
  | .fetch error => "fetch failed: " ++ error.message
  | .labelArity error => error.message
  | .unknownProbe error => error.message
  | .unsupported capability => capability.name ++ " is not served by this firmware"
  | .version error => error.message

/-- What is worth a line in the log. -/
inductive Event where
  /-- An entity has no record of another facet and gets an empty one. -/
  | unmatched (entity key facet : String)
  /-- The firmware does not report its time servers. -/
  | ntpUnavailable (version : Version)
  | probeFailed (probe : String) (error : ProbeError)

namespace Event

def level : Event → String
  | unmatched .. => "WARN"
  | ntpUnavailable _ => "WARN"
  | probeFailed .. => "ERROR"

def message : Event → String
  | unmatched .. => "no matching record, using empty defaults"
  | ntpUnavailable _ => "NTP status not available on this firmware"
  | probeFailed .. => "probe failed"

def fields : Event → List (String × String)
  | unmatched entity key facet => [("entity", entity), ("key", key), ("facet", facet)]
  | ntpUnavailable version => [("version", version.text)]
  | probeFailed probe error => [("probe", probe), ("error", error.message)]

end Event

inductive Dialogue (α : Type) where
  | done (value : α)
  | fail (error : ProbeError)
  | crash
  | ask (endpoint : Endpoint) (next : Answer → Dialogue α)
  | note (event : Event) (next : Dialogue α)

namespace Dialogue

variable {α β : Type}

def bind : Dialogue α → (α → Dialogue β) → Dialogue β
  | done value, f => f value
  | fail error, _ => fail error
  | crash, _ => crash
  | ask endpoint next, f => ask endpoint fun answer => (next answer).bind f
  | note event next, f => note event (next.bind f)

instance : Monad Dialogue where
  pure := done
  bind := bind

@[simp] theorem pure_eq (a : α) : (pure a : Dialogue α) = done a := rfl

@[simp] theorem bind_eq (d : Dialogue α) (f : α → Dialogue β) : d >>= f = d.bind f := rfl

@[simp] theorem bind_done (d : Dialogue α) : d.bind done = d := by
  induction d with
  | done _ | fail _ | crash => rfl
  | ask e next ih => simp [bind, ih]
  | note e next ih => simp [bind, ih]

theorem bind_assoc {γ : Type} (d : Dialogue α) (f : α → Dialogue β) (g : β → Dialogue γ) :
    (d.bind f).bind g = d.bind fun a => (f a).bind g := by
  induction d with
  | done _ | fail _ | crash => rfl
  | ask e next ih => simp [bind, ih]
  | note e next ih => simp [bind, ih]

/-- Goes on after a failure too, with the error; a crash still ends it. -/
def attempt : Dialogue α → Dialogue (Except ProbeError α)
  | done value => done (.ok value)
  | fail error => done (.error error)
  | crash => crash
  | ask endpoint next => ask endpoint fun answer => (next answer).attempt
  | note event next => note event next.attempt

/-- Notes the events in order, then ends. -/
def noteAll : List Event → Dialogue Unit
  | [] => done ()
  | event :: rest => note event (noteAll rest)

/-- Asks an endpoint; members that are null are dropped before the body is decoded. -/
def fetch (decode : Json → Except ShapeFault α) (endpoint : Endpoint) : Dialogue α :=
  ask endpoint fun
    | .error error => fail (.fetch error)
    | .ok body =>
      match decode body.canonical.dropNulls with
      | .ok value => done value
      | .error fault => fail (.fetch (.decode endpoint.path (.misshapen fault)))

/-- Asks an endpoint for a body of the shape. -/
def get (shape : Shape) (endpoint : Endpoint) : Dialogue shape.Value :=
  fetch shape.decode endpoint

end Dialogue

inductive Ending (α : Type) where
  | done (value : α)
  | failed (error : ProbeError)
  | crashed

/-- A dialogue as it went. -/
structure Transcript (α : Type) where
  ending : Ending α
  calls : List Endpoint
  events : List Event

namespace Transcript

variable {α : Type}

def addCall (endpoint : Endpoint) (t : Transcript α) : Transcript α :=
  { t with calls := endpoint :: t.calls }

def addEvent (event : Event) (t : Transcript α) : Transcript α :=
  { t with events := event :: t.events }

end Transcript

/-- A crash of the fetcher ends the dialogue that asked; the call has been made by then. -/
def Dialogue.run {α : Type} (fetcher : Fetcher) : Dialogue α → Transcript α
  | done value => ⟨.done value, [], []⟩
  | fail error => ⟨.failed error, [], []⟩
  | crash => ⟨.crashed, [], []⟩
  | ask endpoint next =>
    match fetcher endpoint with
    | .crash => ⟨.crashed, [endpoint], []⟩
    | .answer answer => ((next answer).run fetcher).addCall endpoint
  | note event next => (next.run fetcher).addEvent event

end FirewallExporter
