import FirewallExporter.Duration
import FirewallExporter.Text.Blank
import FirewallExporter.Text.Natural

/-!
Timeouts as a configuration writes them: a number of milliseconds, seconds or
minutes, such as `500ms`, `10s` or `1m`. A number alone is of seconds. Blanks
around the whole do not count.
-/

namespace FirewallExporter.Timeout

/-- The number of seconds in so many minutes has to fit in 64 bits. -/
def ofMinutes? (n : Nat) : Option Duration :=
  if n * 60 ≤ Text.maxWord then some (.ofSeconds (n * 60)) else none

/-- Reads a timeout whose characters come in reverse. -/
def ofReversed? : List Char → Option Duration
  | 's' :: 'm' :: digits => (Text.word? digits.reverse).map Duration.ofMilliseconds
  | 's' :: digits => (Text.word? digits.reverse).map Duration.ofSeconds
  | 'm' :: digits => (Text.word? digits.reverse).bind ofMinutes?
  | digits => (Text.word? digits.reverse).map Duration.ofSeconds

def parse? (s : String) : Option Duration := ofReversed? (Text.trimChars s.toList).reverse

end FirewallExporter.Timeout
