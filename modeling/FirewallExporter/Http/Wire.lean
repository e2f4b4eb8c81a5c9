import FirewallExporter.Text.Reader

/-!
The bytes on a connection, taken as characters of the same numbers. What comes
before a body is made of lines, each of which ends with a line feed that may
have a carriage return before it.
-/

namespace FirewallExporter.Wire

open Text (Reader)

def ofBytes (bytes : ByteArray) : List Char := bytes.toList.map fun b => Char.ofNat b.toNat

def toBytes (cs : List Char) : ByteArray := ⟨(cs.map fun c => UInt8.ofNat c.toNat).toArray⟩

def isBlank (c : Char) : Bool := c == ' ' || c == '\t'

def trim (cs : List Char) : List Char :=
  ((cs.dropWhile isBlank).reverse.dropWhile isBlank).reverse

/-- No control character but a tab. -/
def isFieldChar (c : Char) : Bool := c == '\t' || (' ' ≤ c && c != '\x7f')

/-- The characters of a name. -/
def isTokenChar (c : Char) : Bool := c.isAlphanum || "!#$%&'*+-.^_\x60|~".contains c

def lineEnd : Reader Unit
  | '\n' :: cs => some ((), cs)
  | '\r' :: '\n' :: cs => some ((), cs)
  | _ => none

def skipEmptyLines : List Char → List Char
  | '\n' :: cs => skipEmptyLines cs
  | '\r' :: '\n' :: cs => skipEmptyLines cs
  | cs => cs

end FirewallExporter.Wire
