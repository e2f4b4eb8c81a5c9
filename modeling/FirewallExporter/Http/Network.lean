import FirewallExporter.Http.Framing
import FirewallExporter.Http.Uri

/-!
How a network behaves towards a client: whether a connection comes about, what
is answered to a request and how the body of the answer ends, each after a
while or never.
-/

namespace FirewallExporter

/-- Something that comes about after a delay in nanoseconds, or never. -/
inductive Eventually (α : Type) where
  | never
  | after (delay : Nat) (value : α)

/-- The value, if it comes within the time left, and the time left then. -/
def Eventually.within {α : Type} (left : Nat) : Eventually α → Option (α × Nat)
  | never => none
  | after delay value => if delay ≤ left then some (value, left - delay) else none

structure Request where
  uri : Uri
  headers : List (String × String)
deriving DecidableEq, Repr

inductive BodyEnd where
  | complete (bytes : ByteArray)
  | cutOff

inductive Reaction where
  /-- The connection ends without a response that can be made out. -/
  | broken
  | head (status : Nat) (body : Eventually BodyEnd)

inductive Connection where
  | refused
  | established (react : Request → Eventually Reaction)

/-- The behaviour towards a client that connects to an address. -/
abbrev Network := String → Eventually Connection

/-- What is made out of the bytes that a server sends before it closes the connection. -/
def Reaction.ofBytes (delay : Nat) (bytes : List Char) : Reaction :=
  match Head.final? bytes with
  | none => .broken
  | some (h, rest) =>
    match Framing.ofHead? h with
    | none => .broken
    | some framing =>
      .head h.status <| .after delay <|
        match framing.body? rest with
        | some body => .complete (Wire.toBytes body)
        | none => .cutOff

/-- How a server sends a body. -/
inductive Delivery where
  /-- After its length, in which `missing` bytes are counted that do not come. -/
  | sized (missing : Nat)
  /-- As a single chunk. -/
  | chunked
deriving DecidableEq, Repr

structure WrittenResponse where
  status : Nat
  body : ByteArray
  delivery : Delivery := .sized 0

namespace WrittenResponse

def lineBreak : List Char := ['\r', '\n']

/-- A status and one header field. -/
def headBytes (status : Nat) (name value : String) : List Char :=
  ("HTTP/1.1 " ++ toString status).toList ++ lineBreak ++
    (name ++ ": " ++ value).toList ++ lineBreak ++ lineBreak

def chunkBytes (data : List Char) : List Char :=
  Nat.toDigits 16 data.length ++ lineBreak ++ data ++ lineBreak

/-- The empty chunk ends the body. -/
def chunkedBytes (data : List Char) : List Char :=
  (if data.isEmpty then [] else chunkBytes data) ++ chunkBytes []

def bytes (r : WrittenResponse) : List Char :=
  let body := Wire.ofBytes r.body
  match r.delivery with
  | .sized missing =>
    headBytes r.status "content-length" (toString (body.length + missing)) ++ body
  | .chunked => headBytes r.status "transfer-encoding" "chunked" ++ chunkedBytes body

/-- What is made out of a connection on which only this response is written. -/
def reaction (delay : Nat) (r : WrittenResponse) : Reaction := .ofBytes delay r.bytes

end WrittenResponse

end FirewallExporter
