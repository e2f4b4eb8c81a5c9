import Std.Data.HashMap
import FirewallExporter.Metric.Sample

/-!
The text exposition format. Samples are grouped by the name of their family in
the order in which the names first appear; a group opens with the help and the
type that its first sample gives, and has one line for each of its samples in
their order. An index tells the slot in which the group of a name is kept.
-/

namespace FirewallExporter.Exposition

def contentType : String := "text/plain; version=0.0.4; charset=utf-8"

def valueText (x : Float) : String :=
  Decimal.shortestText
    { notANumber := "NaN", infinity := "+Inf", negativeInfinity := "-Inf" } x

def escapeLabelChar (c : Char) : List Char :=
  if c = '\\' then ['\\', '\\']
  else if c = '"' then ['\\', '"']
  else if c = '\n' then ['\\', 'n']
  else [c]

/-- A label value as it stands between double quotes. -/
def escapeLabel (s : String) : String := String.ofList (s.toList.flatMap escapeLabelChar)

/-- Writes a text for each occurrence of a character. -/
def replaced (c : Char) (text cs : List Char) : List Char :=
  cs.flatMap fun x => if x = c then text else [x]

/-- A help text as it stands at the end of its line. The backslashes come first, so that those
written for line feeds stay single. -/
def escapeHelp (s : String) : String :=
  String.ofList (replaced '\n' ['\\', 'n'] (replaced '\\' ['\\', '\\'] s.toList))

def labelText (label : String × String) : String :=
  label.1 ++ "=\"" ++ escapeLabel label.2 ++ "\""

/-- Labels between braces; no braces without labels. -/
def labelBlock : List (String × String) → String
  | [] => ""
  | labels => "\x7b" ++ ",".intercalate (labels.map labelText) ++ "\x7d"

def line (s : Sample) : String := s.name ++ labelBlock s.labels ++ " " ++ valueText s.value

/-- The samples of the families of one name; `family` is that of the first. -/
structure Group where
  family : Family
  members : List Sample

def Group.push (s : Sample) (g : Group) : Group := { g with members := g.members ++ [s] }

/-- The groups so far, and the slot of each name among them. -/
structure Grouping where
  groups : Array Group := #[]
  slots : Std.HashMap String Nat := ∅

namespace Grouping

/-- The slot of a family. One whose name is new gets the next slot, for a group that is still
empty. -/
def slot (g : Grouping) (f : Family) : Nat × Grouping :=
  match g.slots[f.name]? with
  | some i => (i, g)
  | none =>
    (g.groups.size,
      { groups := g.groups.push ⟨f, []⟩, slots := g.slots.insert f.name g.groups.size })

def add (g : Grouping) (s : Sample) : Grouping :=
  let (i, g) := g.slot s.family
  { g with groups := g.groups.modify i (Group.push s) }

end Grouping

def groups (samples : List Sample) : List Group :=
  (samples.foldl Grouping.add {}).groups.toList

def helpLine (f : Family) : String := "# HELP " ++ f.name ++ " " ++ escapeHelp f.help

def typeLine (f : Family) : String := "# TYPE " ++ f.name ++ " " ++ f.kind.name

def Group.lines (g : Group) : List String :=
  helpLine g.family :: typeLine g.family :: g.members.map line

/-- Every line ends with a line feed. -/
def render (samples : List Sample) : String :=
  String.join (((groups samples).flatMap Group.lines).map (· ++ "\n"))

end FirewallExporter.Exposition
