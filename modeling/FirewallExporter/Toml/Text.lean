import FirewallExporter.Text.Reader

/-!
Texts and keys as TOML writes them. A text between double quotes knows escapes,
one between single quotes does not; between three quotes of either kind it may
go over several lines. A line break in it is a line feed, however it is written,
and one right after the opening quotes is not part of the text.
-/

namespace FirewallExporter.Toml

open Text (Reader)

def isBlank (c : Char) : Bool := c == ' ' || c == '\t'

def skipBlanks (cs : List Char) : List Char := cs.dropWhile isBlank

/-- The characters that may stand in a line as themselves: no control character but a tab. -/
def isPlain (c : Char) : Bool := c == '\t' || (' ' ≤ c && c != '\x7f')

/-- The character of a code point, which may not be a surrogate. -/
def char? (n : Nat) : Option Char :=
  if h : n.isValidChar then some (Char.ofNatAux n h) else none

def codePoint? (digits : List Char) : Option Char := (Text.hexNatural? digits).bind char?

def escaped? : Char → Option Char
  | '"' => some '"'
  | '\\' => some '\\'
  | 'b' => some '\x08'
  | 'f' => some '\x0c'
  | 'n' => some '\n'
  | 'r' => some '\r'
  | 't' => some '\t'
  | _ => none

/-- The character that an escape denotes, after its backslash. -/
def escape : Reader Char
  | 'u' :: a :: b :: c :: d :: cs => (codePoint? [a, b, c, d]).map fun x => (x, cs)
  | 'U' :: a :: b :: c :: d :: e :: f :: g :: h :: cs =>
    (codePoint? [a, b, c, d, e, f, g, h]).map fun x => (x, cs)
  | c :: cs => (escaped? c).map fun x => (x, cs)
  | [] => none

theorem length_escape_lt {cs : List Char} {x : Char} {rest : List Char}
    (h : escape cs = some (x, rest)) : rest.length < cs.length := by
  unfold escape at h
  split at h <;> simp only [Option.map_eq_some_iff, Prod.mk.injEq, reduceCtorEq] at h
  all_goals
    obtain ⟨_, _, _, rfl⟩ := h
    simp only [List.length_cons]
    omega

/-- The rest of a text after its double quote; `read` holds what came before, reversed. -/
def basicRest (read : List Char) (cs : List Char) : Option (String × List Char) :=
  match cs with
  | [] => none
  | '"' :: cs => some (String.ofList read.reverse, cs)
  | '\\' :: cs =>
    match _h : escape cs with
    | some (c, cs) => basicRest (c :: read) cs
    | none => none
  | c :: cs => if isPlain c then basicRest (c :: read) cs else none
termination_by cs.length
decreasing_by
  · have := length_escape_lt _h
    simp only [List.length_cons]
    omega
  · simp

/-- The rest of a text after its single quote. -/
def literalRest (read : List Char) : Reader String
  | [] => none
  | '\x27' :: cs => some (String.ofList read.reverse, cs)
  | c :: cs => if isPlain c then literalRest (c :: read) cs else none

/-- A line break, if there is one here. -/
def dropNewline : List Char → List Char
  | '\n' :: cs => cs
  | '\r' :: '\n' :: cs => cs
  | cs => cs

/-- Blanks and line breaks. -/
def skipLines : List Char → List Char
  | '\r' :: '\n' :: cs => skipLines cs
  | c :: cs => if isBlank c || c == '\n' then skipLines cs else c :: cs
  | [] => []

/-- What a backslash at the end of a line takes away: all up to the next visible character. -/
def foldedLine? (cs : List Char) : Option (List Char) :=
  match skipBlanks cs with
  | '\n' :: cs => some (skipLines cs)
  | '\r' :: '\n' :: cs => some (skipLines cs)
  | _ => none

/--
Quotes within a text of several lines: one or two stand for themselves, three
end it. Of four or five, the first ones still belong to the text.
-/
inductive Quotes where
  | inside (count : Nat)
  | closing (count : Nat)
  | tooMany

def quotes (count : Nat) : Quotes :=
  if count < 3 then .inside count
  else if count ≤ 5 then .closing (count - 3)
  else .tooMany

/-- One step through a text of several lines. -/
inductive Piece where
  | chars (part rest : List Char)
  | finished (part rest : List Char)

/-- The quotes at the start, which are not escaped. -/
def quotePiece (quote : Char) (cs : List Char) : Option Piece :=
  let count := (cs.takeWhile (· == quote)).length
  match quotes count with
  | .inside n => some (.chars (List.replicate n quote) (cs.drop count))
  | .closing n => some (.finished (List.replicate n quote) (cs.drop count))
  | .tooMany => none

/-- The next piece of a text between three double quotes. -/
def basicPiece : List Char → Option Piece
  | [] => none
  | '\\' :: cs =>
    match foldedLine? cs with
    | some cs => some (.chars [] cs)
    | none => (escape cs).map fun (c, cs) => .chars [c] cs
  | '\r' :: '\n' :: cs => some (.chars ['\n'] cs)
  | '\n' :: cs => some (.chars ['\n'] cs)
  | '"' :: cs => quotePiece '"' ('"' :: cs)
  | c :: cs => if isPlain c then some (.chars [c] cs) else none

/-- The next piece of a text between three single quotes. -/
def literalPiece : List Char → Option Piece
  | [] => none
  | '\r' :: '\n' :: cs => some (.chars ['\n'] cs)
  | '\n' :: cs => some (.chars ['\n'] cs)
  | '\x27' :: cs => quotePiece '\x27' ('\x27' :: cs)
  | c :: cs => if isPlain c then some (.chars [c] cs) else none

/-- Puts at most `n` pieces together, up to the closing quotes. -/
def pieces (next : List Char → Option Piece) : Nat → List Char → Reader String
  | 0, _, _ => none
  | n + 1, read, cs =>
    match next cs with
    | none => none
    | some (.chars part rest) => pieces next n (part.reverse ++ read) rest
    | some (.finished part rest) => some (String.ofList (read.reverse ++ part), rest)

def manyLines (next : List Char → Option Piece) (cs : List Char) : Option (String × List Char) :=
  pieces next (cs.length + 1) [] (dropNewline cs)

/-- A text after its first quote; each piece takes at least one character. -/
def quoted : Reader String
  | '"' :: '"' :: '"' :: cs => manyLines basicPiece cs
  | '"' :: cs => basicRest [] cs
  | '\x27' :: '\x27' :: '\x27' :: cs => manyLines literalPiece cs
  | '\x27' :: cs => literalRest [] cs
  | _ => none

def isBareKey (c : Char) : Bool := c.isAlphanum || c == '-' || c == '_'

/-- One part of a key; a quoted one keeps to its line. -/
def simpleKey (cs : List Char) : Option (String × List Char) :=
  match cs with
  | '"' :: cs => basicRest [] cs
  | '\x27' :: cs => literalRest [] cs
  | _ =>
    match cs.span isBareKey with
    | ([], _) => none
    | (key, rest) => some (String.ofList key, rest)

/-- A dotted key: the keys on the way and the last one. -/
structure Path where
  outer : List String
  key : String
deriving DecidableEq, Repr

/-- A dotted key has fewer parts than this. -/
def maxParts : Nat := 80

/-- The parts of a dotted key after those read, which are reversed. -/
def keyRest : Nat → List String → Reader Path
  | 0, _, _ => none
  | n + 1, read, cs =>
    match simpleKey (skipBlanks cs) with
    | none => none
    | some (key, cs) =>
      match skipBlanks cs with
      | '.' :: cs => keyRest n (key :: read) cs
      | cs => some ({ outer := read.reverse, key }, cs)

def dottedKey (cs : List Char) : Option (Path × List Char) := keyRest (maxParts - 1) [] cs

end FirewallExporter.Toml
