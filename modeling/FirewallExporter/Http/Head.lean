import FirewallExporter.Http.Wire
import FirewallExporter.Text.Natural

/-!
The head of a response: its status, and header fields up to an empty line. A
server may send interim responses, which have a head and nothing else, before
the response proper.
-/

namespace FirewallExporter

structure Head where
  /-- The version is 1.0 or 1.1. -/
  minorVersion : Nat
  status : Nat
  /-- Names in lower case, with the values given to them, in order. -/
  fields : List (String × String)
deriving DecidableEq, Repr

namespace Head

open Text (Reader)

def version? : Reader Nat
  | 'H' :: 'T' :: 'T' :: 'P' :: '/' :: '1' :: '.' :: '0' :: ' ' :: cs => some (0, cs)
  | 'H' :: 'T' :: 'T' :: 'P' :: '/' :: '1' :: '.' :: '1' :: ' ' :: cs => some (1, cs)
  | _ => none

/-- Three digits. -/
def status? : Reader Nat
  | a :: b :: c :: cs => ((Text.natural? [a, b, c]).filter (100 ≤ ·)).map (·, cs)
  | _ => none

/-- A reason may be left out, and so may the blank before it. -/
def reason? : Reader Unit
  | ' ' :: cs => Wire.lineEnd (cs.dropWhile Wire.isFieldChar)
  | cs => Wire.lineEnd cs

def maxName : Nat := 65535

def field? : Reader (String × String) := fun cs =>
  match cs.span Wire.isTokenChar with
  | ([], _) => none
  | (name, ':' :: cs) =>
    if maxName < name.length then none else
    let (value, cs) := cs.span Wire.isFieldChar
    (Wire.lineEnd cs).map fun (_, cs) =>
      ((String.ofList (name.map Char.toLower), String.ofList (Wire.trim value)), cs)
  | _ => none

/-- At most the given number of fields, and the empty line after them. -/
def fields? : Nat → Reader (List (String × String))
  | 0, cs => (Wire.lineEnd cs).map fun (_, cs) => ([], cs)
  | n + 1, cs =>
    match Wire.lineEnd cs with
    | some (_, cs) => some ([], cs)
    | none => do
      let (field, cs) ← field? cs
      let (rest, cs) ← fields? n cs
      some (field :: rest, cs)

def maxFields : Nat := 100

/-- Empty lines before a response are passed over. -/
def read? : Reader Head := fun cs => do
  let (minorVersion, cs) ← version? (Wire.skipEmptyLines cs)
  let (status, cs) ← status? cs
  let (_, cs) ← reason? cs
  let (fields, cs) ← fields? maxFields cs
  some ({ minorVersion, status, fields }, cs)

/-- A change of protocol is no interim response, though its status looks like one. -/
def isInterim (h : Head) : Bool := h.status ≤ 199 && h.status != 101

/-- The head of the first response of `n` that is not an interim one. -/
def finalAmong? : Nat → Reader Head
  | 0, _ => none
  | n + 1, cs => do
    let (head, cs) ← read? cs
    if head.isInterim then finalAmong? n cs else some (head, cs)

/-- There are not more responses than bytes. -/
def final? : Reader Head := fun cs => finalAmong? cs.length cs

/-- The values given to a name. -/
def values (h : Head) (name : String) : List String :=
  (h.fields.filter (·.1 == name)).map Prod.snd

end Head

end FirewallExporter
