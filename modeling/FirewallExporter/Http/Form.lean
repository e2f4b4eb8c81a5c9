import FirewallExporter.Text.Reader
import FirewallExporter.Text.Utf8

/-!
Reads the query of a request as a form: names and values between ampersands,
each name up to the first equals sign. A plus sign stands for a space and a
percent sign with two hexadecimal digits for a byte; bytes that are no UTF-8
become replacement characters.
-/

namespace FirewallExporter.Form

def toBytes (cs : List Char) : List UInt8 := (String.ofList cs).toUTF8.toList

/-- Bytes of a name or a value. A percent sign without two digits stays. -/
def decodeBytes : List Char → List UInt8
  | [] => []
  | '+' :: cs => ' '.val.toUInt8 :: decodeBytes cs
  | '%' :: a :: b :: cs =>
    match Text.hexNatural? [a, b] with
    | some n => UInt8.ofNat n :: decodeBytes cs
    | none => toBytes ['%'] ++ decodeBytes (a :: b :: cs)
  | c :: cs => toBytes [c] ++ decodeBytes cs

def decode (cs : List Char) : String := Utf8.decode (decodeBytes cs)

/-- What comes before the first equals sign and after it. -/
def splitPair (cs : List Char) : List Char × List Char :=
  match cs.span (· != '=') with
  | (name, _ :: value) => (name, value)
  | (name, []) => (name, [])

def pair (cs : List Char) : String × String :=
  let (name, value) := splitPair cs
  (decode name, decode value)

/-- Names and values in order; empty parts between ampersands do not count. -/
def parse (query : String) : List (String × String) :=
  ((query.toList.splitOn '&').filter (!·.isEmpty)).map pair

/-- Every value under a name. -/
def values (name : String) (pairs : List (String × String)) : List String :=
  (pairs.filter (·.1 == name)).map Prod.snd

end FirewallExporter.Form
