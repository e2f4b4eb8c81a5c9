import FirewallExporter.Http.Head

/-!
Where the body of a response ends: after a length that its head announces, with
an empty chunk, or when the connection is closed. Some statuses have no body,
whatever the head announces.
-/

namespace FirewallExporter

inductive Framing where
  | sized (length : Nat)
  | chunked
  | untilClose
deriving DecidableEq, Repr

namespace Framing

open Text (Reader)

/-- The parts between commas, without the blanks around them. -/
def listed (value : String) : List (List Char) := (value.toList.splitOn ',').map Wire.trim

def maxLength : Nat := 18446744073709551613

def length? (cs : List Char) : Option Nat := (Text.natural? cs).filter (· ≤ maxLength)

/-- The length that all the parts of all the values name. -/
def agreedLength? (values : List String) : Option Nat :=
  match (values.flatMap listed).mapM length? with
  | some (n :: ns) => if ns.all (· == n) then some n else none
  | _ => none

/-- Only the last of several codings can be that in chunks. -/
def isChunked (value : String) : Bool :=
  value.all (· < '\x7f') &&
    (listed value).getLast?.any fun coding => coding.map Char.toLower = "chunked".toList

/-- A coding counts more than a length; version 1.0 knows no codings. -/
def ofHead? (h : Head) : Option Framing :=
  if h.status = 101 ∨ h.status = 204 ∨ h.status = 304 then some (.sized 0)
  else
    match (h.values "transfer-encoding").getLast?, h.values "content-length" with
    | some coding, _ =>
      if h.minorVersion = 0 then none
      else if isChunked coding then some .chunked
      else some .untilClose
    | none, [] => some .untilClose
    | none, lengths => (agreedLength? lengths).map .sized

def crlf : Reader Unit
  | '\r' :: '\n' :: cs => some ((), cs)
  | _ => none

/-- What follows the size of a chunk after a semicolon is passed over; its length counts. -/
def extension : Reader Nat
  | ';' :: cs =>
    let (text, cs) := cs.span fun c => c != '\r' && c != '\n'
    (crlf cs).map fun (_, cs) => (text.length, cs)
  | cs => (crlf cs).map fun (_, cs) => (0, cs)

/-- The size of a chunk, in hexadecimal digits, and the length of its extension. -/
def chunkSize? : Reader (Nat × Nat) := fun cs => do
  let (digits, cs) := cs.span fun c => (Text.hexDigit? c).isSome
  let (extra, cs) ← extension (cs.dropWhile Wire.isBlank)
  if digits.isEmpty then none
  else ((Text.hexNatural? digits).filter (· ≤ Text.maxWord)).map fun size => ((size, extra), cs)

/-- A line that ends with a carriage return and a line feed; it may hold other line feeds. -/
def trailerLine? : Reader (List Char) := fun cs =>
  let (line, cs) := cs.span (· != '\r')
  (crlf cs).map fun (_, cs) => (line, cs)

/-- At most the given number of lines before an empty one. -/
def trailerLines? : Nat → List Char → Option (List (List Char))
  | n, cs =>
    match trailerLine? cs, n with
    | some ([], _), _ => some []
    | some (line, cs), n + 1 => (trailerLines? n cs).map (line :: ·)
    | _, _ => none

def maxTrailer : Nat := 16383

/-- What comes after the empty chunk: nothing, or no more header fields than there are lines. -/
def isTrailer (cs : List Char) : Bool :=
  match trailerLines? Head.maxFields cs with
  | none => false
  | some [] => true
  | some lines =>
    let text := lines.flatMap (· ++ ['\r', '\n']) ++ ['\r', '\n']
    text.length ≤ maxTrailer && (Head.fields? lines.length text).isSome

/-- All the extensions of a body together are not longer than this. -/
def maxExtensions : Nat := 16383

/-- The data of at most `n` chunks, of which the last one is empty; `room` is left for extensions. -/
def chunksAmong? : Nat → Nat → List Char → Option (List Char)
  | 0, _, _ => none
  | n + 1, room, cs => do
    let ((size, extra), cs) ← chunkSize? cs
    if room < extra || cs.length < size then none
    else if size = 0 then if isTrailer cs then some [] else none
    else do
      let (_, rest) ← crlf (cs.drop size)
      (chunksAmong? n (room - extra) rest).map (cs.take size ++ ·)

/-- There are not more chunks than bytes. -/
def chunks? (cs : List Char) : Option (List Char) := chunksAmong? cs.length maxExtensions cs

/-- The body, out of all that comes after the head; nothing if it does not end. -/
def body? : Framing → List Char → Option (List Char)
  | .sized n, cs => if cs.length < n then none else some (cs.take n)
  | .chunked, cs => chunks? cs
  | .untilClose, cs => some cs

end Framing

end FirewallExporter
