import FirewallExporter.Toml.Document
import FirewallExporter.Toml.Scalar

/-!
Reads TOML documents, version 1.0. A document is a sequence of headers and
settings, each at the end of its line; blank lines and comments may stand
between them. Lists and tables within a value nest to a given depth at most.
-/

namespace FirewallExporter.Toml

open Text (Reader)

/-- Blanks, line breaks and comments; the flag tells whether a comment is open. -/
def skipFiller : Bool → List Char → List Char
  | _, [] => []
  | _, '\r' :: '\n' :: cs => skipFiller false cs
  | comment, c :: cs =>
    if comment && isPlain c then skipFiller true cs
    else if isBlank c || c == '\n' then skipFiller false cs
    else if c == '#' then skipFiller true cs
    else c :: cs

/-- Nothing but blanks and a comment up to the end of the line. -/
def lineEnd (cs : List Char) : Option (List Char) :=
  let cs := match skipBlanks cs with
    | '#' :: cs => cs.dropWhile isPlain
    | cs => cs
  match cs with
  | [] => some []
  | '\n' :: cs => some cs
  | '\r' :: '\n' :: cs => some cs
  | _ => none

/-- The rest of a list; `n` bounds the number of its items. -/
def itemsRest (value : Reader Toml) : Nat → List Toml → Reader Toml
  | 0, _, _ => none
  | n + 1, read, cs =>
    match skipFiller false cs with
    | ']' :: cs => some (.list read.reverse, cs)
    | cs =>
      match value cs with
      | none => none
      | some (item, cs) =>
        match skipFiller false cs with
        | ',' :: cs => itemsRest value n (item :: read) cs
        | ']' :: cs => some (.list (item :: read).reverse, cs)
        | _ => none

/-- A key and its value. -/
def setting (value : Reader Toml) (cs : List Char) : Option ((Path × Toml) × List Char) :=
  match dottedKey cs with
  | some (path, '=' :: cs) => (value (skipBlanks cs)).map fun (v, cs) => ((path, v), cs)
  | _ => none

/-- The rest of a table in one line whose next setting starts here. -/
def settingsRest (value : Reader Toml) : Nat → List (Path × Toml) → Reader Toml
  | 0, _, _ => none
  | n + 1, read, cs =>
    match setting value cs with
    | none => none
    | some (s, cs) =>
      match skipBlanks cs with
      | ',' :: cs => settingsRest value n (s :: read) cs
      | '\x7d' :: cs => (inlineTable (s :: read).reverse).map fun t => (t, cs)
      | _ => none

def tableRest (value : Reader Toml) (cs : List Char) : Option (Toml × List Char) :=
  match skipBlanks cs with
  | '\x7d' :: cs => some (.table [], cs)
  | cs => settingsRest value cs.length [] cs

def scalarValue (cs : List Char) : Option (Toml × List Char) :=
  (Scalar.read cs).map fun (isDate, cs) => (if isDate then .date else .scalar, cs)

/-- A value in which lists and tables nest at most `depth` times. -/
def value : Nat → Reader Toml
  | depth, cs =>
    match cs with
    | '"' :: _ => (quoted cs).map fun (s, cs) => (.text s, cs)
    | '\x27' :: _ => (quoted cs).map fun (s, cs) => (.text s, cs)
    | '[' :: rest =>
      match depth with
      | 0 => none
      | depth + 1 => itemsRest (value depth) (rest.length + 1) [] rest
    | '\x7b' :: rest =>
      match depth with
      | 0 => none
      | depth + 1 => tableRest (value depth) rest
    | _ => scalarValue cs

def maxDepth : Nat := 79

/-- A header after its opening bracket. -/
def header (cs : List Char) : Option (Statement × List Char) :=
  match cs with
  | '[' :: cs =>
    match dottedKey cs with
    | some (path, ']' :: ']' :: cs) => some (.header true path, cs)
    | _ => none
  | _ =>
    match dottedKey cs with
    | some (path, ']' :: cs) => some (.header false path, cs)
    | _ => none

def statement (cs : List Char) : Option (Statement × List Char) :=
  match cs with
  | '[' :: cs => header cs
  | _ => (setting (value maxDepth) cs).map fun ((path, v), cs) => (.setting path v, cs)

/-- At most `n` statements up to the end of the document. -/
def statements : Nat → List Statement → List Char → Option (List Statement)
  | 0, _, _ => none
  | n + 1, read, cs =>
    match skipFiller false cs with
    | [] => some read.reverse
    | cs => do
      let (s, cs) ← statement cs
      statements n (s :: read) (← lineEnd cs)

/-- A mark at the start that tells the order of bytes. -/
def dropMark : List Char → List Char
  | '\ufeff' :: cs => cs
  | cs => cs

/-- The table that a whole document denotes. -/
def parse? (document : String) : Option Toml :=
  let cs := dropMark document.toList
  (statements (cs.length + 1) [] cs).bind ofStatements

end FirewallExporter.Toml
