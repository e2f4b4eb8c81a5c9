import FirewallExporter.Text.Blank
import FirewallExporter.Text.Natural
import FirewallExporter.Text.Quoted

/-!
Firmware versions. A version is a major and a minor number, ordered first by
the major one. Its text may start with a `v` and may go on after the numbers,
as in `v7.4.3,build2573`; of the dotted numbers the first three must be well
formed, and the first two are kept.
-/

namespace FirewallExporter

structure Version where
  major : UInt32
  minor : UInt32
deriving DecidableEq, Repr, Inhabited

namespace Version

/-- The lowest version. -/
def any : Version := ⟨0, 0⟩

instance : LE Version where
  le v w := v.major < w.major ∨ v.major = w.major ∧ v.minor ≤ w.minor

instance (v w : Version) : Decidable (v ≤ w) :=
  inferInstanceAs (Decidable (v.major < w.major ∨ v.major = w.major ∧ v.minor ≤ w.minor))

instance : Ord Version where
  compare v w := (compare v.major w.major).then (compare v.minor w.minor)

def atLeast (v floor : Version) : Bool := floor ≤ v

def text (v : Version) : String := toString v.major ++ "." ++ toString v.minor

/-- The dotted numbers at the start of a version text. -/
inductive Part where
  | major
  | minor
  | patch
deriving DecidableEq, Repr

def Part.name : Part → String
  | .major => "major"
  | .minor => "minor"
  | .patch => "patch"

inductive Fault where
  /-- No digit where the numbers should start. -/
  | noNumber
  /-- A dot where a number should start. -/
  | unexpectedDot (part : Part)
  /-- The text ends where a number should start. -/
  | unexpectedEnd (part : Part)
  | leadingZero (part : Part)
  /-- The number needs more than 64 bits. -/
  | tooLarge (part : Part)
  /-- The number needs more than 32 bits. -/
  | outOfRange (part : Part)
deriving DecidableEq, Repr

def Fault.message : Fault → String
  | .noNumber => "no numeric component"
  | .unexpectedDot part =>
    "unexpected character '.' while parsing " ++ part.name ++ " version number"
  | .unexpectedEnd part =>
    "unexpected end of input while parsing " ++ part.name ++ " version number"
  | .leadingZero part => "invalid leading zero in " ++ part.name ++ " version number"
  | .tooLarge part => "value of " ++ part.name ++ " version number exceeds u64::MAX"
  | .outOfRange part => part.name ++ " out of range"

/-- A text that is no version, and why. -/
structure Error where
  input : String
  fault : Fault
deriving DecidableEq, Repr

def Error.message (e : Error) : String :=
  "invalid firmware version " ++ Text.quote e.input ++ ": " ++ e.fault.message

def dropMark : List Char → List Char
  | 'v' :: cs => cs
  | 'V' :: cs => cs
  | cs => cs

def isNumeric (c : Char) : Bool := c.isDigit || c == '.'

/-- Digits and dots at the start of the trimmed text, without dots at their end. -/
def numericPart (s : String) : List Char :=
  Text.dropEnd (· == '.') ((dropMark (Text.trimChars s.toList)).takeWhile isNumeric)

/-- Reads the digits of a part; `last` tells whether the text ends after them. -/
def readPart (part : Part) (last : Bool) (digits : List Char) : Except Fault Nat :=
  match digits with
  | [] => .error (if last then .unexpectedEnd part else .unexpectedDot part)
  | '0' :: _ :: _ => .error (.leadingZero part)
  | _ =>
    let n := Nat.ofDigitChars 10 digits 0
    if n ≤ Text.maxWord then .ok n else .error (.tooLarge part)

/-- Three parts of digits; those the text lacks are zero. -/
def threeParts (numeric : List Char) : List Char × List Char × List Char :=
  match numeric.splitOn '.' with
  | a :: b :: c :: _ => (a, b, c)
  | [a, b] => (a, b, ['0'])
  | [a] => (a, ['0'], ['0'])
  | [] => ([], ['0'], ['0'])

def inRange (part : Part) (n : Nat) : Except Fault UInt32 :=
  if n < UInt32.size then .ok (UInt32.ofNat n) else .error (.outOfRange part)

def readNumeric (numeric : List Char) : Except Fault Version := do
  if numeric.isEmpty then throw .noNumber
  let (a, b, c) := threeParts numeric
  let major ← readPart .major false a
  let minor ← readPart .minor false b
  let _ ← readPart .patch true c
  return { major := ← inRange .major major, minor := ← inRange .minor minor }

def parse (s : String) : Except Error Version :=
  match readNumeric (numericPart s) with
  | .ok v => .ok v
  | .error fault => .error ⟨s, fault⟩

end Version

end FirewallExporter
