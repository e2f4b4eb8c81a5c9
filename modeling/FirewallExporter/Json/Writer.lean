import FirewallExporter.Decimal
import FirewallExporter.Json

/-!
Writes JSON text without spaces. A binary64 number always shows that it is one,
by a point or by an exponent; an exponent is used from `10 ^ 16` upwards and
below `10 ^ -5`.
-/

namespace FirewallExporter.Json

open Decimal (Scaled Tie)

def escapeChar (c : Char) : List Char :=
  if c = '"' then ['\\', '"']
  else if c = '\\' then ['\\', '\\']
  else if c = '\x08' then ['\\', 'b']
  else if c = '\x0c' then ['\\', 'f']
  else if c = '\n' then ['\\', 'n']
  else if c = '\r' then ['\\', 'r']
  else if c = '\t' then ['\\', 't']
  else if c < ' ' then
    let digits := Nat.toDigits 16 c.toNat
    ['\\', 'u'] ++ List.replicate (4 - digits.length) '0' ++ digits
  else [c]

def stringText (s : String) : String :=
  String.ofList ('"' :: s.toList.flatMap escapeChar ++ ['"'])

/-- An exponent always has its sign. -/
def exponentChars (e : Int) : List Char :=
  'e' :: (if e < 0 then '-' else '+') :: Nat.toDigits 10 e.natAbs

/-- The digits of a positive number; `k` is the place of the point among them. -/
def scaledChars (x : Scaled) : List Char :=
  let digits := Nat.toDigits 10 x.coefficient
  let k := digits.length + x.exponent
  if 0 ≤ x.exponent ∧ k ≤ 16 then x.positional ++ ['.', '0']
  else if -5 < k ∧ k ≤ 16 then x.positional
  else match digits with
    | [d] => d :: exponentChars (k - 1)
    | d :: rest => d :: '.' :: rest ++ exponentChars (k - 1)
    | [] => []

/-- A number that is not finite has no JSON form and is written as null. -/
def floatText (x : Float) : String :=
  match x.toModel.unpack with
  | .zero s => String.ofList (Decimal.signChars s ++ ['0', '.', '0'])
  | .finite s m q _ =>
    String.ofList (Decimal.signChars s ++ scaledChars (Decimal.shortest .toEven m q))
  | _ => "null"

mutual
def compress : Json → String
  | .null => "null"
  | .bool b => toString b
  | .int n => toString n
  | .float x => floatText x
  | .string s => stringText s
  | .array items => "[" ++ ",".intercalate (compressItems items) ++ "]"
  | .object members => "\x7b" ++ ",".intercalate (compressMembers members) ++ "\x7d"

def compressItems : List Json → List String
  | [] => []
  | value :: rest => value.compress :: compressItems rest

def compressMembers : List (String × Json) → List String
  | [] => []
  | (key, value) :: rest => (stringText key ++ ":" ++ value.compress) :: compressMembers rest
end

end FirewallExporter.Json
