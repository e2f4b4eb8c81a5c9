import FirewallExporter.Json.Number
import FirewallExporter.Text.Reader

/-!
Reads JSON text as RFC 8259 defines it, without extensions. Arrays and objects
nest to a given depth at most.
-/

namespace FirewallExporter.Json

open Text (Reader)

def isSpace (c : Char) : Bool := c == ' ' || c == '\n' || c == '\t' || c == '\r'

def skipSpace (cs : List Char) : List Char := cs.dropWhile isSpace

/-- The value of exactly four hexadecimal digits. -/
def unit? (a b c d : Char) : Option Nat := Text.hexNatural? [a, b, c, d]

def isHighSurrogate (n : Nat) : Bool := 0xD800 ≤ n && n < 0xDC00

def isLowSurrogate (n : Nat) : Bool := 0xDC00 ≤ n && n < 0xE000

/-- The character of two surrogates, which must come in this order. -/
def surrogatePair? (high low : Nat) : Option Char :=
  if isHighSurrogate high && isLowSurrogate low then
    some (Char.ofNat (0x10000 + (high - 0xD800) * 0x400 + (low - 0xDC00)))
  else none

def escaped? : Char → Option Char
  | '"' => some '"'
  | '\\' => some '\\'
  | '/' => some '/'
  | 'b' => some '\x08'
  | 'f' => some '\x0c'
  | 'n' => some '\n'
  | 'r' => some '\r'
  | 't' => some '\t'
  | _ => none

/-- The rest of a string after its opening quote; `read` holds what came before, reversed. -/
def stringRest (read : List Char) : Reader String
  | [] => none
  | '"' :: cs => some (String.ofList read.reverse, cs)
  | '\\' :: 'u' :: a :: b :: c :: d :: cs =>
    match unit? a b c d with
    | none => none
    | some n =>
      if isHighSurrogate n then
        match cs with
        | '\\' :: 'u' :: a :: b :: c :: d :: cs =>
          match (unit? a b c d).bind (surrogatePair? n) with
          | none => none
          | some char => stringRest (char :: read) cs
        | _ => none
      else if isLowSurrogate n then none
      else stringRest (Char.ofNat n :: read) cs
  | '\\' :: c :: cs =>
    match escaped? c with
    | none => none
    | some char => stringRest (char :: read) cs
  | c :: cs => if c < ' ' then none else stringRest (c :: read) cs

/-- The rest of an array whose next element starts here; `n` bounds their number. -/
def itemsRest (value : Reader Json) : Nat → List Json → Reader (List Json)
  | 0, _, _ => none
  | n + 1, read, cs =>
    match value (skipSpace cs) with
    | none => none
    | some (item, cs) =>
      match skipSpace cs with
      | ',' :: cs => itemsRest value n (item :: read) cs
      | ']' :: cs => some ((item :: read).reverse, cs)
      | _ => none

/-- One member of an object, from its key to the end of its value. -/
def member (value : Reader Json) : Reader (String × Json)
  | '"' :: cs =>
    match stringRest [] cs with
    | none => none
    | some (key, cs) =>
      match skipSpace cs with
      | ':' :: cs => (value (skipSpace cs)).map fun (item, cs) => ((key, item), cs)
      | _ => none
  | _ => none

def membersRest (value : Reader Json) :
    Nat → List (String × Json) → Reader (List (String × Json))
  | 0, _, _ => none
  | n + 1, read, cs =>
    match member value (skipSpace cs) with
    | none => none
    | some (item, cs) =>
      match skipSpace cs with
      | ',' :: cs => membersRest value n (item :: read) cs
      | '\x7d' :: cs => some ((item :: read).reverse, cs)
      | _ => none

def arrayRest (value : Reader Json) (cs : List Char) : Option (Json × List Char) :=
  match skipSpace cs with
  | ']' :: cs => some (.array [], cs)
  | cs => (itemsRest value cs.length [] cs).map fun (items, cs) => (.array items, cs)

def objectRest (value : Reader Json) (cs : List Char) : Option (Json × List Char) :=
  match skipSpace cs with
  | '\x7d' :: cs => some (.object [], cs)
  | cs => (membersRest value cs.length [] cs).map fun (members, cs) => (.object members, cs)

/-- A value that starts here and nests at most `depth` arrays and objects. -/
def value : Nat → Reader Json
  | depth, cs =>
    match cs with
    | 'n' :: 'u' :: 'l' :: 'l' :: cs => some (.null, cs)
    | 't' :: 'r' :: 'u' :: 'e' :: cs => some (.bool true, cs)
    | 'f' :: 'a' :: 'l' :: 's' :: 'e' :: cs => some (.bool false, cs)
    | '"' :: cs => (stringRest [] cs).map fun (s, cs) => (.string s, cs)
    | '[' :: cs =>
      match depth with
      | 0 => none
      | depth + 1 => arrayRest (value depth) cs
    | '\x7b' :: cs =>
      match depth with
      | 0 => none
      | depth + 1 => objectRest (value depth) cs
    | cs => (Numeral.read cs).bind fun (n, cs) => n.value?.map fun v => (v, cs)

/-- Deeper texts are refused. -/
def maxDepth : Nat := 127

/-- The value that the whole text denotes; `none` if it denotes none. -/
def parse? (s : String) : Option Json :=
  match value maxDepth (skipSpace s.toList) with
  | some (v, rest) => if (skipSpace rest).isEmpty then some v else none
  | none => none

end FirewallExporter.Json
