import FirewallExporter.Metric.Exposition
import FirewallExporter.Text.Reader

/-!
A reader of exposition text. The text is cut at its line feeds. A line gives the
help or the type of a family, or it is a sample: a name, labels between braces
if there are any, a space and a value. Escapes are undone, and a backslash that
begins none is refused, as is all else that the format does not know.
-/

namespace FirewallExporter

/-- The characters of the names of families and labels. -/
def isNameChar (c : Char) : Bool := c.isAlphanum || c == '_' || c == ':'

def isName (s : String) : Bool := !s.toList.isEmpty && s.toList.all isNameChar

/-- All that a family is called, itself and its labels, can stand in exposition text. -/
structure Family.WellNamed (f : Family) : Prop where
  name : isName f.name = true
  labels : f.labelNames.all isName = true

instance (f : Family) : Decidable f.WellNamed :=
  decidable_of_iff (isName f.name = true ∧ f.labelNames.all isName = true)
    ⟨fun h => ⟨h.1, h.2⟩, fun h => ⟨h.1, h.2⟩⟩

def Kind.ofName? : List Char → Option Kind
  | ['g', 'a', 'u', 'g', 'e'] => some .gauge
  | ['c', 'o', 'u', 'n', 't', 'e', 'r'] => some .counter
  | _ => none

namespace Exposition

open Text (Reader)

/-- What a line of exposition text says. -/
inductive Entry where
  | help (family text : String)
  | type (family : String) (kind : Kind)
  | sample (family : String) (labels : List (String × String)) (value : String)
deriving DecidableEq, Repr

/-- The longest name that stands at the start; there must be one. -/
def readName (cs : List Char) : Option (String × List Char) :=
  if (cs.takeWhile isNameChar).isEmpty then none
  else some (String.ofList (cs.takeWhile isNameChar), cs.dropWhile isNameChar)

/-- The character that stands after a backslash in a label value. -/
def labelEscape? : Char → Option Char
  | '\\' => some '\\'
  | '"' => some '"'
  | 'n' => some '\n'
  | _ => none

/-- The character that stands after a backslash in a help text. -/
def helpEscape? : Char → Option Char
  | '\\' => some '\\'
  | 'n' => some '\n'
  | _ => none

/-- A label value and what follows its closing quote. -/
def readQuoted : Reader (List Char)
  | [] => none
  | '"' :: cs => some ([], cs)
  | '\\' :: [] => none
  | '\\' :: c :: cs =>
    match labelEscape? c, readQuoted cs with
    | some c, some (value, rest) => some (c :: value, rest)
    | _, _ => none
  | c :: cs =>
    match readQuoted cs with
    | some (value, rest) => some (c :: value, rest)
    | none => none

def readHelpText : List Char → Option (List Char)
  | [] => some []
  | '\\' :: [] => none
  | '\\' :: c :: cs =>
    match helpEscape? c, readHelpText cs with
    | some c, some text => some (c :: text)
    | _, _ => none
  | c :: cs => (readHelpText cs).map (c :: ·)

/-- A label name, an equals sign and a value in quotes. -/
def readLabel (cs : List Char) : Option ((String × String) × List Char) :=
  match readName cs with
  | some (name, '=' :: '"' :: cs) =>
    match readQuoted cs with
    | some (value, rest) => some ((name, String.ofList value), rest)
    | none => none
  | _ => none

theorem readName_length {cs rest : List Char} {name : String}
    (h : readName cs = some (name, rest)) : rest.length ≤ cs.length := by
  unfold readName at h
  split at h
  · cases h
  · cases h
    exact (List.dropWhile_sublist _).length_le

theorem readQuoted_length {cs value rest : List Char}
    (h : readQuoted cs = some (value, rest)) : rest.length < cs.length := by
  fun_induction readQuoted cs generalizing value rest with
  | case1 => cases h
  | case2 cs => cases h; simp
  | case3 => cases h
  | case4 c cs d v r hr _ ih =>
      cases h
      have := ih hr
      simp only [List.length_cons]
      omega
  | case5 => cases h
  | case6 c cs _ _ _ v r hr ih =>
      cases h
      have := ih hr
      simp only [List.length_cons]
      omega
  | case7 => cases h

theorem readLabel_length {cs rest : List Char} {label : String × String}
    (h : readLabel cs = some (label, rest)) : rest.length < cs.length := by
  unfold readLabel at h
  split at h
  · next name tail hname =>
      have hle := readName_length hname
      split at h
      · next value rest' hvalue =>
          have hlt := readQuoted_length hvalue
          cases h
          simp only [List.length_cons] at hle
          omega
      · cases h
  · cases h

/-- Labels with commas between them, up to the closing brace. -/
def readLabels (cs : List Char) : Option (List (String × String) × List Char) :=
  match _h : readLabel cs with
  | some (label, ',' :: rest) =>
    match readLabels rest with
    | some (labels, rest) => some (label :: labels, rest)
    | none => none
  | some (label, '\x7d' :: rest) => some ([label], rest)
  | _ => none
termination_by cs.length
decreasing_by
  have := readLabel_length ‹_›
  simp only [List.length_cons] at this
  omega

/-- No braces are no labels. -/
def readBlock : Reader (List (String × String))
  | '\x7b' :: cs => readLabels cs
  | cs => some ([], cs)

/-- The value of a sample is one word. -/
def readValue (cs : List Char) : Option String :=
  if cs.isEmpty || cs.contains ' ' then none else some (String.ofList cs)

def readSample (cs : List Char) : Option Entry :=
  match readName cs with
  | none => none
  | some (name, cs) =>
    match readBlock cs with
    | some (labels, ' ' :: cs) => (readValue cs).map (.sample name labels)
    | _ => none

def readHelp (cs : List Char) : Option Entry :=
  match readName cs with
  | some (name, ' ' :: cs) => (readHelpText cs).map fun text => .help name (String.ofList text)
  | _ => none

def readType (cs : List Char) : Option Entry :=
  match readName cs with
  | some (name, ' ' :: cs) => (Kind.ofName? cs).map (.type name)
  | _ => none

def readLine : List Char → Option Entry
  | '#' :: ' ' :: 'H' :: 'E' :: 'L' :: 'P' :: ' ' :: cs => readHelp cs
  | '#' :: ' ' :: 'T' :: 'Y' :: 'P' :: 'E' :: ' ' :: cs => readType cs
  | cs => readSample cs

/-- The entries of a text, each of whose lines must end with a line feed. -/
def read (text : String) : Option (List Entry) :=
  let pieces := text.toList.splitOn '\n'
  if pieces.getLast? = some [] then pieces.dropLast.mapM readLine else none

end Exposition

end FirewallExporter
