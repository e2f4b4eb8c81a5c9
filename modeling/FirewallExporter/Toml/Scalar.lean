import FirewallExporter.Text.Natural
import FirewallExporter.Text.Reader

/-!
Numbers, truth values and dates as TOML writes them. Readers here check a
scalar and return what comes after it. An integer has to fit in 64 bits and a
date has to exist; a number with a fraction or an exponent may not round to
positive infinity.
-/

namespace FirewallExporter.Toml.Scalar

open Text (Reader)

abbrev Scan := List Char → Option (List Char)

/-- The rest of a group of digits, where an underscore may stand between two digits. -/
def digitsRest (isDigit : Char → Bool) (read : List Char) : Reader (List Char)
  | '_' :: c :: cs => if isDigit c then digitsRest isDigit (c :: read) cs else none
  | c :: cs =>
    if isDigit c then digitsRest isDigit (c :: read) cs
    else if c == '_' then none
    else some (read.reverse, c :: cs)
  | [] => some (read.reverse, [])

def digits (isDigit : Char → Bool) : Reader (List Char)
  | c :: cs => if isDigit c then digitsRest isDigit [c] cs else none
  | [] => none

def sign : List Char → Bool × List Char
  | '-' :: cs => (true, cs)
  | '+' :: cs => (false, cs)
  | cs => (false, cs)

/-- Decimal digits without a superfluous leading zero. -/
def wholeDigits : Reader (List Char)
  | '0' :: cs => some (['0'], cs)
  | cs => digits Char.isDigit cs

def fraction : Reader (List Char)
  | '.' :: cs => digits Char.isDigit cs
  | cs => some ([], cs)

def exponentDigits (cs : List Char) : Option (Int × List Char) :=
  let (negative, cs) := sign cs
  (digits Char.isDigit cs).map fun (ds, cs) =>
    let n : Int := Nat.ofDigitChars 10 ds 0
    (if negative then -n else n, cs)

def exponent : Reader Int
  | 'e' :: cs => exponentDigits cs
  | 'E' :: cs => exponentDigits cs
  | cs => some (0, cs)

/-- From here on, a number rounds to infinity. -/
def leastInfinite : Nat := Nat.pow 2 1024 - Nat.pow 2 970

/-- Whether `m * 10 ^ e` rounds to infinity; the powers stay small where it is clear. -/
def isInfinite (m : Nat) (e : Int) : Bool :=
  if m = 0 then false
  else if 309 ≤ e then true
  else if (Nat.toDigits 10 m).length + e ≤ 308 then false
  else leastInfinite * Nat.pow 10 (-e).toNat ≤ m * Nat.pow 10 e.toNat

def fits (negative : Bool) (m : Nat) : Bool :=
  m ≤ if negative then Text.maxSigned + 1 else Text.maxSigned

def decimal (cs : List Char) : Option (List Char) :=
  let (negative, cs) := sign cs
  match wholeDigits cs with
  | none => none
  | some (whole, cs) =>
    match cs with
    | '.' :: _ | 'e' :: _ | 'E' :: _ => do
      let (fraction, cs) ← fraction cs
      let (exponent, cs) ← exponent cs
      let m := Nat.ofDigitChars 10 (whole ++ fraction) 0
      if !negative && isInfinite m (exponent - fraction.length) then none else some cs
    | _ => if fits negative (Nat.ofDigitChars 10 whole 0) then some cs else none

def isBinary (c : Char) : Bool := c == '0' || c == '1'

def isOctal (c : Char) : Bool := '0' ≤ c && c ≤ '7'

def isHexadecimal (c : Char) : Bool := (Text.hexDigit? c).isSome

def based (base : Nat) (isDigit : Char → Bool) (cs : List Char) : Option (List Char) :=
  match digits isDigit cs with
  | none => none
  | some (ds, cs) =>
    let m := ds.foldl (fun n c => n * base + (Text.hexDigit? c).getD 0) 0
    if fits false m then some cs else none

def number : Scan
  | '0' :: 'x' :: cs => based 16 isHexadecimal cs
  | '0' :: 'o' :: cs => based 8 isOctal cs
  | '0' :: 'b' :: cs => based 2 isBinary cs
  | cs =>
    match (sign cs).2 with
    | 'i' :: 'n' :: 'f' :: cs => some cs
    | 'n' :: 'a' :: 'n' :: cs => some cs
    | _ => decimal cs

/-- Two digits that denote a number between `low` and `high`. -/
def twoDigits (low high : Nat) : Reader Nat
  | a :: b :: cs =>
    if a.isDigit && b.isDigit then
      let n := Nat.ofDigitChars 10 [a, b] 0
      if low ≤ n && n ≤ high then some (n, cs) else none
    else none
  | _ => none

def expect (c : Char) : Scan
  | d :: cs => if c = d then some cs else none
  | [] => none

/-- Digits after the seconds, if there are any. -/
def secondFraction : Scan
  | '.' :: c :: cs => if c.isDigit then some (cs.dropWhile Char.isDigit) else none
  | cs => some cs

/-- A minute may have a second more than usual. -/
def time (cs : List Char) : Option (List Char) := do
  let (_, cs) ← twoDigits 0 23 cs
  let (_, cs) ← twoDigits 0 59 (← expect ':' cs)
  let (_, cs) ← twoDigits 0 60 (← expect ':' cs)
  secondFraction cs

def offsetDigits (cs : List Char) : Option (List Char) := do
  let (_, cs) ← twoDigits 0 23 cs
  let (_, cs) ← twoDigits 0 59 (← expect ':' cs)
  some cs

def offset : Scan
  | 'Z' :: cs => some cs
  | 'z' :: cs => some cs
  | '+' :: cs => offsetDigits cs
  | '-' :: cs => offsetDigits cs
  | cs => some cs

def isLeapYear (year : Nat) : Bool :=
  year % 4 == 0 && (year % 100 != 0 || year % 400 == 0)

def daysInMonth (year month : Nat) : Nat :=
  if month = 2 then if isLeapYear year then 29 else 28
  else if month = 4 ∨ month = 6 ∨ month = 9 ∨ month = 11 then 30
  else 31

/-- Month and day, after the year. -/
def monthAndDay (year : Nat) (cs : List Char) : Option (List Char) := do
  let (month, cs) ← twoDigits 1 12 cs
  let (_, cs) ← twoDigits 1 (daysInMonth year month) (← expect '-' cs)
  some cs

def isTimeMark (c : Char) : Bool := c == 'T' || c == 't' || c == ' '

/-- The time after a date. Without one, what comes here belongs to something else. -/
def timeAfterDate (cs : List Char) : List Char :=
  match cs with
  | mark :: rest =>
    if isTimeMark mark then ((time rest).bind offset).getD cs else cs
  | [] => []

/-- A scalar of any kind; the flag tells whether it is a date. -/
def read (cs : List Char) : Option (Bool × List Char) :=
  match cs with
  | 't' :: 'r' :: 'u' :: 'e' :: cs => some (false, cs)
  | 'f' :: 'a' :: 'l' :: 's' :: 'e' :: cs => some (false, cs)
  | a :: b :: c :: d :: '-' :: rest =>
    if [a, b, c, d].all Char.isDigit then
      (monthAndDay (Nat.ofDigitChars 10 [a, b, c, d] 0) rest).map fun cs =>
        (true, timeAfterDate cs)
    else (number cs).map (false, ·)
  | a :: b :: ':' :: _ =>
    if a.isDigit && b.isDigit then (time cs).map (true, ·) else (number cs).map (false, ·)
  | _ => (number cs).map (false, ·)

end FirewallExporter.Toml.Scalar
