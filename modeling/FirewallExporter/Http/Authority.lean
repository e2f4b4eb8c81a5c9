/-!
The authority of a URI: a host, perhaps with a port behind it and a user before it.
It is scanned once from the left. Colons and percent signs count only as long as they
may belong to the host or its port: an at sign shows that they were those of a user,
and a closing bracket that they were those of an IPv6 address.
-/

namespace FirewallExporter

namespace Authority

/-- As many as an IPv6 address of eight parts has, with the one before its port. -/
def maxColons : Nat := 8

/-- The characters that mean nothing to the scan. -/
def isPlain (c : Char) : Bool := c.isAlphanum || c ∈ "!$&'()*+,-.;=_~".toList

structure Scan where
  colons : Nat := 0
  opened : Bool := false
  closed : Bool := false
  percent : Bool := false
deriving DecidableEq, Repr

namespace Scan

def step? (s : Scan) (c : Char) : Option Scan :=
  if c = ':' then
    if s.colons < maxColons then some { s with colons := s.colons + 1 } else none
  else if c = '[' then
    if s.opened || s.percent then none else some { s with opened := true }
  else if c = ']' then
    if !s.opened || s.closed then none
    else some { s with colons := 0, closed := true, percent := false }
  else if c = '@' then some { s with colons := 0, percent := false }
  else if c = '%' then some { s with percent := true }
  else if isPlain c then some s
  else none

/-- Brackets come in pairs, and one colon may stand before a port. -/
def isComplete (s : Scan) : Bool := s.opened == s.closed && s.colons ≤ 1 && !s.percent

end Scan

/-- Something has to be there, also after an at sign. -/
def isValid (cs : List Char) : Bool :=
  !cs.isEmpty && cs.getLast? != some '@' && ((cs.foldlM Scan.step? {}).any Scan.isComplete)

end Authority

end FirewallExporter
