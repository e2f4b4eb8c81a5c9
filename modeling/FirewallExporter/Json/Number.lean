import FirewallExporter.Json
import FirewallExporter.Text.Natural

/-!
Numbers in JSON text. A numeral without a fraction and without an exponent is
an integer if 64 bits hold it, unsigned or signed; minus zero and everything
else is a binary64 number. Its value is found with best effort: the digits that
fit in 64 bits are converted first and then scaled by a power of ten, so two
roundings may occur. A numeral beyond the finite numbers is refused.
-/

namespace FirewallExporter.Json

structure Numeral where
  negative : Bool
  whole : List Char
  fraction : Option (List Char)
  exponent : Option Int
deriving DecidableEq, Repr

namespace Numeral

/-- The digits of the whole part: no zero stands before another digit. -/
def whole? (cs : List Char) : Option (List Char × List Char) :=
  match cs.span Char.isDigit with
  | ([], _) => none
  | ('0' :: _ :: _, _) => none
  | (digits, rest) => some (digits, rest)

def fraction? : List Char → Option (Option (List Char) × List Char)
  | '.' :: cs =>
    match cs.span Char.isDigit with
    | ([], _) => none
    | (digits, rest) => some (some digits, rest)
  | cs => some (none, cs)

def signed? : List Char → Bool × List Char
  | '+' :: cs => (false, cs)
  | '-' :: cs => (true, cs)
  | cs => (false, cs)

def exponentDigits? (cs : List Char) : Option (Option Int × List Char) :=
  let (negative, cs) := signed? cs
  match cs.span Char.isDigit with
  | ([], _) => none
  | (digits, rest) =>
    let n : Int := Nat.ofDigitChars 10 digits 0
    some (some (if negative then -n else n), rest)

def exponent? : List Char → Option (Option Int × List Char)
  | 'e' :: cs => exponentDigits? cs
  | 'E' :: cs => exponentDigits? cs
  | cs => some (none, cs)

/-- Reads a numeral that starts the text, as far as it goes. -/
def read (cs : List Char) : Option (Numeral × List Char) := do
  let (negative, cs) := match cs with
    | '-' :: rest => (true, rest)
    | _ => (false, cs)
  let (whole, cs) ← whole? cs
  let (fraction, cs) ← fraction? cs
  let (exponent, cs) ← exponent? cs
  some ({ negative, whole, fraction, exponent }, cs)

/-- A significand of at most 64 bits and the power of ten that scales it. -/
structure Parts where
  significand : Nat
  exponent : Int

def Parts.next? (p : Parts) (c : Char) : Option Nat :=
  let n := p.significand * 10 + (c.toNat - '0'.toNat)
  if n ≤ Text.maxWord then some n else none

/-- Once a digit does not fit, it and those after it only raise the exponent. -/
def Parts.whole (p : Parts) : List Char → Parts
  | [] => p
  | c :: cs =>
    match p.next? c with
    | some n => Parts.whole { p with significand := n } cs
    | none => { p with exponent := p.exponent + (c :: cs).length }

/-- Once a digit does not fit, it and those after it are ignored. -/
def Parts.fraction (p : Parts) : List Char → Parts
  | [] => p
  | c :: cs =>
    match p.next? c with
    | some n => Parts.fraction ⟨n, p.exponent - 1⟩ cs
    | none => p

def parts (n : Numeral) : Parts :=
  let p := ((Parts.mk 0 0).whole n.whole).fraction (n.fraction.getD [])
  { p with exponent := p.exponent + n.exponent.getD 0 }

/-- The largest power of ten that is a finite binary64 number. -/
def maxExponent : Nat := 308

def powerOfTen (n : Nat) : Float := Float.ofScientific 1 false n

/-- Scales by a power of ten, the smallest results in at most `steps` more steps. -/
def scale : Nat → Float → Int → Option Float
  | steps, x, e =>
    if e.natAbs ≤ maxExponent then
      if 0 ≤ e then
        let y := x * powerOfTen e.natAbs
        if y.isInf then none else some y
      else some (x / powerOfTen e.natAbs)
    else if x == 0.0 then some x
    else if 0 ≤ e then none
    else match steps with
      | 0 => some 0.0
      | n + 1 => scale n (x / powerOfTen maxExponent) (e + maxExponent)

def signedFloat (negative : Bool) (x : Float) : Float := if negative then -x else x

/-- Two steps take any significand of 64 bits to zero. -/
def float? (n : Numeral) : Option Json :=
  (scale 2 (Float.ofNat n.parts.significand) n.parts.exponent).map
    fun x => .float (signedFloat n.negative x)

def value? (n : Numeral) : Option Json :=
  let m := Nat.ofDigitChars 10 n.whole 0
  if n.fraction.isSome || n.exponent.isSome || Text.maxWord < m then n.float?
  else if !n.negative then some (.int m)
  else if m = 0 || Text.maxSigned + 1 < m then some (.float (-Float.ofNat m))
  else some (.int (-m))

end Numeral

end FirewallExporter.Json
