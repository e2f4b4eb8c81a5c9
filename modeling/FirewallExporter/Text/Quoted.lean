import FirewallExporter.Text.Unprintable

/-!
The quoted form of a text in messages: between double quotes, with a backslash
before a quote or a backslash, short escapes for NUL, tab, line feed and
carriage return, and the code point in hexadecimal for every other character
that does not print by itself.
-/

namespace FirewallExporter.Text

/-- The code point between braces, in lower case and without padding. -/
def codePointEscape (c : Char) : List Char :=
  ['\\', 'u', '\x7b'] ++ Nat.toDigits 16 c.toNat ++ ['\x7d']

def quoteChar (c : Char) : List Char :=
  if c = '"' then ['\\', '"']
  else if c = '\\' then ['\\', '\\']
  else if c = '\n' then ['\\', 'n']
  else if c = '\r' then ['\\', 'r']
  else if c = '\t' then ['\\', 't']
  else if c = '\x00' then ['\\', '0']
  else if ' ' ≤ c ∧ c ≤ '~' then [c]
  else if isUnprintable c then codePointEscape c
  else [c]

def quote (s : String) : String :=
  String.ofList ('"' :: s.toList.flatMap quoteChar ++ ['"'])

end FirewallExporter.Text
