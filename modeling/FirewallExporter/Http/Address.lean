import FirewallExporter.Text.Natural
import FirewallExporter.Text.Reader

/-!
Addresses of devices: a host and a port. A host is a number of 32 bits, written
in up to four parts between points. Every part but the last is one byte, and
the last one fills the bytes that are left.
-/

namespace FirewallExporter

structure Address where
  host : UInt32
  port : UInt16
deriving DecidableEq, Repr

namespace Address

def octalDigit? (c : Char) : Option Nat :=
  if '0' ≤ c ∧ c ≤ '7' then some (c.toNat - '0'.toNat) else none

def octal? (cs : List Char) : Option Nat :=
  cs.foldlM (fun n c => (octalDigit? c).map fun d => n * 8 + d) 0

/-- A part is hexadecimal after `0x`, octal after any other zero, and else decimal. -/
def part? : List Char → Option Nat
  | ['0', 'x'] => none
  | ['0', 'X'] => none
  | '0' :: 'x' :: cs => Text.hexNatural? cs
  | '0' :: 'X' :: cs => Text.hexNatural? cs
  | '0' :: cs => octal? cs
  | cs => Text.natural? cs

/-- The number of the parts, of which the last one lies below the limit. -/
def joined? (limit : Nat) : List Nat → Option Nat
  | [] => none
  | [n] => if n < limit then some n else none
  | n :: rest => if n < 256 then (joined? (limit / 256) rest).map (n * (limit / 256) + ·) else none

def numericHost? (cs : List Char) : Option Nat := do
  let parts ← (cs.splitOn '.').mapM part?
  if parts.length ≤ 4 then joined? 4294967296 parts else none

/-- The machine itself. -/
def loopback : Nat := 2130706433

/-- Of the names of hosts only that of the machine itself is known. -/
def host? (cs : List Char) : Option Nat :=
  (numericHost? cs).or (if cs.map Char.toLower = "localhost".toList then some loopback else none)

def maxPort : Nat := 65535

def port? (cs : List Char) : Option Nat := (Text.word? cs).filter (· ≤ maxPort)

/-- The port comes after the last colon. -/
def parse? (s : String) : Option Address :=
  match s.toList.reverse.span (· != ':') with
  | (port, _ :: host) => do
    some ⟨UInt32.ofNat (← host? host.reverse), UInt16.ofNat (← port? port.reverse)⟩
  | (_, []) => none

/-- The four bytes of the host and the port, in decimal. -/
def text (a : Address) : String :=
  let byte (unit : Nat) := toString (a.host.toNat / unit % 256)
  ".".intercalate [byte 16777216, byte 65536, byte 256, byte 1] ++ ":" ++ toString a.port.toNat

end Address

end FirewallExporter
