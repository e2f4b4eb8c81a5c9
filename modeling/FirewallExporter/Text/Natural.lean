/-!
Decimal numerals without a sign. A numeral is a non-empty list of ASCII digits;
its value is read with no bound, and each use states its own limit.
-/

namespace FirewallExporter.Text

def isNumeral (cs : List Char) : Bool := !cs.isEmpty && cs.all Char.isDigit

def natural? (cs : List Char) : Option Nat :=
  if isNumeral cs then some (Nat.ofDigitChars 10 cs 0) else none

/-- The largest number that 64 bits hold. -/
def maxWord : Nat := 18446744073709551615

/-- The largest number that 64 bits hold with a sign. -/
def maxSigned : Nat := 9223372036854775807

/-- A numeral of at most 64 bits, with at most one plus sign before it. -/
def word? (cs : List Char) : Option Nat :=
  let digits := match cs with
    | '+' :: rest => rest
    | _ => cs
  (natural? digits).filter (· ≤ maxWord)

end FirewallExporter.Text
