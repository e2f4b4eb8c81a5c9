import FirewallExporter.Exporter.Target
import FirewallExporter.Http.Form
import FirewallExporter.Http.Uri
import FirewallExporter.Metric.Exposition
import FirewallExporter.Text.Quoted

/-!
Answers requests to the exporter. `/probe` scrapes the device that the query
names, `/healthz` tells that the exporter is up. Both are read only; a HEAD
request is answered as a GET request is, but without a body.
-/

namespace FirewallExporter

structure Response where
  status : Nat
  contentType : Option String
  body : String
deriving DecidableEq, Repr

namespace Response

def plainText : String := "text/plain; charset=utf-8"

def plain (status : Nat) (body : String) : Response :=
  { status, contentType := some plainText, body }

def empty (status : Nat) : Response := { status, contentType := none, body := "" }

def ofSamples (samples : List Sample) : Response :=
  { status := 200, contentType := some Exposition.contentType, body := Exposition.render samples }

def withoutBody (r : Response) : Response := { r with body := "" }

end Response

/-- A response, the target it is about and the calls made to it. -/
structure Served where
  response : Response
  target : Option Target := none
  calls : List Endpoint := []

def Served.withoutBody (s : Served) : Served := { s with response := s.response.withoutBody }

namespace Router

/-- The target that a query asks for. -/
inductive Choice where
  | missing
  | repeated
  | named (name : String)
deriving DecidableEq, Repr

/-- An empty name is as good as none. -/
def choose (query : String) : Choice :=
  match Form.values "target" (Form.parse query) with
  | [] => .missing
  | [name] => if name.isEmpty then .missing else .named name
  | _ => .repeated

def missingText : String := "missing target parameter\n"

def repeatedText : String :=
  "Failed to deserialize query string: duplicate field `target`"

def unknownText (name : String) : String := "unknown target " ++ Text.quote name ++ "\n"

def serveTarget (clock : Scrape.Clock) (t : Target) : Served :=
  let s := t.scrape clock
  { response := .ofSamples s.samples, target := some t, calls := s.calls }

def serveProbe (clock : Scrape.Clock) (d : Directory) (query : String) : Served :=
  match choose query with
  | .missing => { response := .plain 400 missingText }
  | .repeated => { response := .plain 400 repeatedText }
  | .named name =>
    match d.find? name with
    | none => { response := .plain 404 (unknownText name) }
    | some t => serveTarget clock t

inductive Route where
  | probe
  | health
deriving DecidableEq, Repr

def route? : String → Option Route
  | "/probe" => some .probe
  | "/healthz" => some .health
  | _ => none

def Route.serve (clock : Scrape.Clock) (d : Directory) (query : String) : Route → Served
  | .probe => serveProbe clock d query
  | .health => { response := .plain 200 "ok" }

structure Request where
  method : String
  uri : String
deriving DecidableEq, Repr

/-- Answers one request. -/
def answer (clock : Scrape.Clock) (d : Directory) (r : Request) : Served :=
  let resource := Resource.ofUri r.uri
  match route? resource.path with
  | none => { response := .empty 404 }
  | some route =>
    match r.method with
    | "GET" => route.serve clock d (resource.query.getD "")
    | "HEAD" => (route.serve clock d (resource.query.getD "")).withoutBody
    | _ => { response := .empty 405 }

end Router

end FirewallExporter
