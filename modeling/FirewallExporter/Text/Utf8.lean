/-!
Reads bytes as UTF-8 with best effort. Bytes that start no character, or whose
character is broken off, become one replacement character; a broken character
extends over the bytes that could still have begun one.
-/

namespace FirewallExporter.Utf8

/-- A character whose first bytes have been read. -/
structure Partial where
  /-- The bits read so far. -/
  bits : Nat
  /-- How many bytes are missing. -/
  missing : Nat
  /-- The bounds of the next byte. -/
  low : Nat
  high : Nat

inductive Start where
  | char (c : Char)
  | leads (rest : Partial)
  | invalid

/--
What a byte begins. The second byte is bounded more closely where a character
could have been written shorter, is a surrogate, or lies beyond all characters.
-/
def startOf (b : Nat) : Start :=
  if b ≤ 0x7F then .char (Char.ofNat b)
  else if 0xC2 ≤ b && b ≤ 0xDF then .leads ⟨b - 0xC0, 1, 0x80, 0xBF⟩
  else if b == 0xE0 then .leads ⟨0, 2, 0xA0, 0xBF⟩
  else if b == 0xED then .leads ⟨0xD, 2, 0x80, 0x9F⟩
  else if 0xE1 ≤ b && b ≤ 0xEF then .leads ⟨b - 0xE0, 2, 0x80, 0xBF⟩
  else if b == 0xF0 then .leads ⟨0, 3, 0x90, 0xBF⟩
  else if 0xF1 ≤ b && b ≤ 0xF3 then .leads ⟨b - 0xF0, 3, 0x80, 0xBF⟩
  else if b == 0xF4 then .leads ⟨4, 3, 0x80, 0x8F⟩
  else .invalid

def replacement : Char := '\ufffd'

def Partial.accepts (p : Partial) (b : Nat) : Bool := p.low ≤ b && b ≤ p.high

def Partial.add (p : Partial) (b : Nat) : Partial :=
  ⟨p.bits * 64 + (b - 0x80), p.missing - 1, 0x80, 0xBF⟩

/-- Goes on with a byte between characters. -/
def begun (b : Nat) : Option Partial × List Char :=
  match startOf b with
  | .char c => (none, [c])
  | .leads p => (some p, [])
  | .invalid => (none, [replacement])

/-- Goes on with a byte; what stood open may be broken off by it. -/
def next (state : Option Partial) (b : Nat) : Option Partial × List Char :=
  match state with
  | none => begun b
  | some p =>
    if p.accepts b then
      let p := p.add b
      if p.missing = 0 then (none, [Char.ofNat p.bits]) else (some p, [])
    else
      let (state, cs) := begun b
      (state, replacement :: cs)

def decodeFrom (state : Option Partial) : List UInt8 → List Char
  | [] => if state.isSome then [replacement] else []
  | b :: bs =>
    let (state, cs) := next state b.toNat
    cs ++ decodeFrom state bs

def decode (bytes : List UInt8) : String := String.ofList (decodeFrom none bytes)

end FirewallExporter.Utf8
