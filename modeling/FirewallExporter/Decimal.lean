/-!
Decimal texts of binary64 numbers. A finite number is `m * 2 ^ q`; a decimal
grid is the set of multiples of `10 ^ t`. The shortest text of a number is the
point on the coarsest grid that reads back as the number, and the nearer one
where two do; which one an exact tie takes is a choice of each format. All of
it is computed in natural numbers.
-/

namespace FirewallExporter.Decimal

/-- The number `coefficient * 10 ^ exponent`. -/
structure Scaled where
  coefficient : Nat
  exponent : Int
deriving DecidableEq, Repr

/--
The numbers between `low` and `high` read back as the one in the `middle`. All
three are multiples of `2 ^ (q - 2)`. The ends count as inside when the
significand is even, since a tie goes to the even neighbour.
-/
structure Interval where
  low : Nat
  middle : Nat
  high : Nat
  closed : Bool

/-- The least significand of a normal number. -/
def leastNormal : Nat := 4503599627370496

/-- Below a power of two the neighbours lie twice as close as above it. -/
def Interval.around (m : Nat) (q : Int) : Interval where
  low := if m = leastNormal ∧ -1074 < q then 4 * m - 1 else 4 * m - 2
  middle := 4 * m
  high := 4 * m + 2
  closed := m % 2 = 0

def Interval.scale (i : Interval) (k : Nat) : Interval :=
  { i with low := i.low * k, middle := i.middle * k, high := i.high * k }

def Interval.contains (i : Interval) (x : Nat) : Bool :=
  if i.closed then i.low ≤ x && x ≤ i.high else i.low < x && x < i.high

/-- Which of two equally near neighbours is taken. -/
inductive Tie where
  | awayFromZero
  | toEven
deriving DecidableEq

/-- Whether `rest` out of `unit`, left over beyond `d` units, rounds down to `d`. -/
def Tie.roundsDown (tie : Tie) (d rest unit : Nat) : Bool :=
  2 * rest < unit || (2 * rest == unit && tie == .toEven && d % 2 == 0)

/-- The multiple of `unit` that lies inside the interval, nearest to its middle. -/
def Interval.nearest? (tie : Tie) (i : Interval) (unit : Nat) : Option Nat :=
  let d := i.middle / unit
  match i.contains (d * unit), i.contains ((d + 1) * unit) with
  | true, true => if tie.roundsDown d (i.middle % unit) unit then some d else some (d + 1)
  | true, false => some d
  | false, true => some (d + 1)
  | false, false => none

/-- The point on the grid of `10 ^ t` that reads back as `m * 2 ^ q`. -/
def gridPoint? (tie : Tie) (m : Nat) (q : Int) (t : Int) : Option Nat :=
  let e := q - 2
  let unit := Nat.pow 10 t.toNat * Nat.pow 2 (-e).toNat
  ((Interval.around m q).scale (Nat.pow 2 e.toNat * Nat.pow 10 (-t).toNat)).nearest? tie unit

/-- Tries the grids from `10 ^ t` downwards; `10 ^ (t - n)` is the last of them. -/
def coarsest (tie : Tie) (m : Nat) (q : Int) : Nat → Int → Option Scaled
  | 0, t => (gridPoint? tie m q t).map (Scaled.mk · t)
  | n + 1, t =>
    match gridPoint? tie m q t with
    | some d => some ⟨d, t⟩
    | none => coarsest tie m q n (t - 1)

/-- A grid too coarse for any point but zero to be near the number. -/
def coarseExponent (m : Nat) (q : Int) : Int :=
  (m.log2 + 1 + q) * 30103 / 100000 + 2

def shortest (tie : Tie) (m : Nat) (q : Int) : Scaled :=
  let top := coarseExponent m q
  (coarsest tie m q (top - min (q - 2) 0).toNat top).getD ⟨m, q⟩

/-- The quotient rounded to a whole number, a half to the even neighbour. -/
def roundHalfEven (num den : Nat) : Nat :=
  let d := num / den
  if Tie.toEven.roundsDown d (num % den) den then d else d + 1

/-- `m * 2 ^ q` rounded to a whole number. -/
def whole (m : Nat) (q : Int) : Nat :=
  roundHalfEven (m * Nat.pow 2 q.toNat) (Nat.pow 2 (-q).toNat)

/-- The digits in positional notation, with a point only where a fraction follows. -/
def Scaled.positional (x : Scaled) : List Char :=
  let digits := Nat.toDigits 10 x.coefficient
  if 0 ≤ x.exponent then digits ++ List.replicate x.exponent.toNat '0'
  else
    let places := (-x.exponent).toNat
    if places < digits.length then
      digits.take (digits.length - places) ++ '.' :: digits.drop (digits.length - places)
    else
      '0' :: '.' :: List.replicate (places - digits.length) '0' ++ digits

open Float.Model (UnpackedFloat)

def signChars : UnpackedFloat.Sign → List Char
  | .negative => ['-']
  | .positive => []

/-- How the numbers without digits are written. -/
structure Names where
  notANumber : String
  infinity : String
  negativeInfinity : String

/-- The text of a number, its magnitude written by `digits`. -/
def textWith (names : Names) (digits : Nat → Int → List Char) (x : Float) : String :=
  match x.toModel.unpack with
  | .notANumber => names.notANumber
  | .infinity .positive => names.infinity
  | .infinity .negative => names.negativeInfinity
  | .zero s => String.ofList (signChars s ++ ['0'])
  | .finite s m q _ => String.ofList (signChars s ++ digits m q)

/-- The shortest digits that read back, never with an exponent. -/
def shortestText (names : Names) (x : Float) : String :=
  textWith names (fun m q => (shortest .awayFromZero m q).positional) x

/-- No decimal places; a half goes to the even neighbour and the sign of zero stays. -/
def wholeText (names : Names) (x : Float) : String :=
  textWith names (fun m q => Nat.toDigits 10 (whole m q)) x

end FirewallExporter.Decimal
