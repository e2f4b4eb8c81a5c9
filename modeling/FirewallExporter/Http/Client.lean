import FirewallExporter.Device.Reply
import FirewallExporter.Duration
import FirewallExporter.Http.Network
import FirewallExporter.Json.Reader

/-!
The client of a monitoring interface. Every call opens a connection, sends one
request and takes the body of the response as JSON. A single timeout bounds the
whole exchange. A call fails in one way only: that of the first step that does
not succeed.
-/

namespace FirewallExporter

structure Client where
  address : String
  token : Option String
  timeout : Duration
deriving DecidableEq, Repr

namespace Client

def product : String := "fortid/0.1.0"

def withoutSlashes (path : String) : String := String.ofList (path.toList.dropWhile (· == '/'))

/-- An empty query leaves no question mark behind. -/
def pathAndQuery (path query : String) : String :=
  if query.isEmpty then "/" ++ withoutSlashes path
  else "/" ++ withoutSlashes path ++ "?" ++ query

def requestUri (address path query : String) : String :=
  "http://" ++ address ++ pathAndQuery path query

def headers (c : Client) : List (String × String) :=
  [("host", c.address), ("user-agent", product), ("accept", "application/json")] ++
    (c.token.map fun token => ("authorization", "Bearer " ++ token)).toList

/-- The request for an endpoint, unless a part of it cannot be written. -/
def request? (c : Client) (e : Endpoint) : Option Request :=
  if c.headers.all (fun h => h.2.all Wire.isFieldChar) then
    (Uri.parse? (requestUri c.address e.path e.query)).map fun uri => { uri, headers := c.headers }
  else none

/-- The first line of a request, in which the whole URI stands. -/
def requestLine (r : Request) : String := "GET " ++ r.uri.text ++ " HTTP/1.1"

def isSuccess (status : Nat) : Bool := 200 ≤ status && status ≤ 299

def parseBody? (bytes : ByteArray) : Option Json :=
  (String.fromUTF8? bytes).bind Json.parse?

def readBody (path : String) : BodyEnd → Answer
  | .cutOff => .error (.transport path "error reading a body from connection")
  | .complete bytes =>
    match parseBody? bytes with
    | some body => .ok body
    | none => .error (.decode path .notJson)

/-- The body of a response counts only if the status is one of success. -/
def readReaction (path : String) (left : Nat) : Reaction → Answer
  | .broken => .error (.transport path "connection error")
  | .head status body =>
    if !isSuccess status then .error (.status path status)
    else
      match body.within left with
      | none => .error (.timeout path)
      | some (bodyEnd, _) => readBody path bodyEnd

/-- An answer, and the request that was sent for it. -/
structure Exchange where
  answer : Answer
  sent : Option Request

def unsent (error : FetchError) : Exchange := { answer := .error error, sent := none }

def answered (request : Request) (answer : Answer) : Exchange := { answer, sent := some request }

def converse (c : Client) (e : Endpoint) (left : Nat) : Connection → Exchange
  | .refused => unsent (.transport e.path "connection refused")
  | .established react =>
    match c.request? e with
    | none => unsent (.transport e.path "invalid request")
    | some request =>
      match (react request).within left with
      | none => answered request (.error (.timeout e.path))
      | some (reaction, left) => answered request (readReaction e.path left reaction)

def exchange (network : Network) (c : Client) (e : Endpoint) : Exchange :=
  match (network c.address).within c.timeout.inNanoseconds with
  | none => unsent (.timeout e.path)
  | some (connection, left) => c.converse e left connection

def fetcher (network : Network) (c : Client) : Fetcher := fun e =>
  .answer (c.exchange network e).answer

/-- What the device at the address receives when the client makes a call. -/
def sent? (network : Network) (c : Client) (e : Endpoint) : Option Request :=
  (c.exchange network e).sent

end Client

end FirewallExporter
