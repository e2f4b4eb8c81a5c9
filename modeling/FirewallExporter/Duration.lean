/-!
Lengths of time in seconds and nanoseconds, as a clock reports them.
-/

namespace FirewallExporter

structure Duration where
  seconds : Nat
  nanoseconds : Nat
deriving DecidableEq, Repr

namespace Duration

def zero : Duration := { seconds := 0, nanoseconds := 0 }

def ofSeconds (n : Nat) : Duration := { seconds := n, nanoseconds := 0 }

def nanosecondsPerSecond : Nat := 1000000000

/-- Nanoseconds that make up whole seconds are carried over. -/
def ofParts (seconds nanoseconds : Nat) : Duration where
  seconds := seconds + nanoseconds / nanosecondsPerSecond
  nanoseconds := nanoseconds % nanosecondsPerSecond

def ofNanoseconds (n : Nat) : Duration := ofParts 0 n

def ofMilliseconds (n : Nat) : Duration := ofNanoseconds (n * 1000000)

def inNanoseconds (d : Duration) : Nat := d.seconds * nanosecondsPerSecond + d.nanoseconds

/-- In seconds; each of the three steps rounds to binary64. -/
def inSeconds (d : Duration) : Float :=
  Float.ofNat d.seconds + Float.ofNat d.nanoseconds / Float.ofNat nanosecondsPerSecond

end Duration

end FirewallExporter
