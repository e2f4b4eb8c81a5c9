import FirewallExporter.Toml
import FirewallExporter.Toml.Text

/-!
How the statements of a document build its tables. A header opens a table, or
adds one to a list of tables; the settings below it go there. Tables on the way
to a header or to a dotted key come into being by themselves. A table is opened
at most once, no key is set twice, and a dotted key does not reach into a table
that has a header.
-/

namespace FirewallExporter.Toml

/-- How a table came into being. -/
inductive Origin where
  /-- A header opened it, or it is the document itself. -/
  | opened
  /-- It stands on the way to a header. -/
  | implied
  | dotted
deriving DecidableEq, Repr

/-- What a key of a table under construction holds. -/
inductive Node where
  | value (value : Toml)
  | table (origin : Origin) (entries : List (String × Node))
  | tables (elements : List (List (String × Node)))

abbrev Entries := List (String × Node)

/-- Sets a key that may be there already. -/
def Entries.set (key : String) (node : Node) : Entries → Entries
  | [] => [(key, node)]
  | (k, old) :: rest => if k = key then (k, node) :: rest else (k, old) :: set key node rest

mutual
def Node.toToml : Node → Toml
  | .value value => value
  | .table _ entries => .table (tomlMembers entries)
  | .tables elements => .list (tomlItems elements)

def tomlMembers : List (String × Node) → List (String × Toml)
  | [] => []
  | (key, node) :: rest => (key, node.toToml) :: tomlMembers rest

def tomlItems : List (List (String × Node)) → List Toml
  | [] => []
  | entries :: rest => .table (tomlMembers entries) :: tomlItems rest
end

/--
Changes the table at the end of a way, which starts in a table of the given
origin. Missing tables get the origin `made`; of a list of tables the last one
is meant.
-/
def within (made : Origin) (change : Origin → Entries → Option Entries) :
    List String → Origin → Entries → Option Entries
  | [], origin, entries => change origin entries
  | key :: way, _, entries =>
    match entries.lookup key with
    | none => do
      let inner ← within made change way made []
      some (entries.set key (.table made inner))
    | some (.value _) => none
    | some (.table origin inner) =>
      if made = .dotted ∧ origin = .opened then none
      else do
        let inner ← within made change way origin inner
        some (entries.set key (.table origin inner))
    | some (.tables elements) =>
      match elements.reverse with
      | [] => none
      | last :: before => do
        let last ← within made change way .opened last
        some (entries.set key (.tables (last :: before).reverse))

/-- A new key goes to a table that dotted keys made, or by itself to the one it is written in. -/
def addKey (path : Path) (value : Toml) (origin : Origin) (entries : Entries) :
    Option Entries :=
  if path.outer.isEmpty == (origin == .dotted) then none
  else if (entries.lookup path.key).isSome then none
  else some (entries.set path.key (.value value))

def addSetting (path : Path) (value : Toml) (entries : Entries) : Option Entries :=
  within .dotted (addKey path value) path.outer .opened entries

/-- Opens a table that has not been opened, nor made by a dotted key. -/
def openTable (key : String) (entries : Entries) : Option Entries :=
  match entries.lookup key with
  | none => some (entries.set key (.table .opened []))
  | some (.table .implied inner) => some (entries.set key (.table .opened inner))
  | some _ => none

/-- Adds a table to a list that headers built. -/
def addTable (key : String) (entries : Entries) : Option Entries :=
  match entries.lookup key with
  | none => some (entries.set key (.tables [[]]))
  | some (.tables elements) => some (entries.set key (.tables (elements ++ [[]])))
  | some _ => none

inductive Statement where
  /-- A header; a repeated one adds a table to a list. -/
  | header (repeated : Bool) (path : Path)
  | setting (path : Path) (value : Toml)

/-- A document so far, and the way to the table that the last header opened. -/
structure Draft where
  entries : Entries := []
  current : List String := []

namespace Draft

def openHeader (repeated : Bool) (path : Path) (d : Draft) : Option Draft := do
  let change := if repeated then addTable path.key else openTable path.key
  let entries ← within .implied (fun _ => change) path.outer .opened d.entries
  some { entries, current := path.outer ++ [path.key] }

def set (path : Path) (value : Toml) (d : Draft) : Option Draft := do
  let change := fun _ => addSetting path value
  let entries ← within .implied change d.current .opened d.entries
  some { d with entries }

def apply (d : Draft) : Statement → Option Draft
  | .header repeated path => d.openHeader repeated path
  | .setting path value => d.set path value

end Draft

/-- The table of a document; none if a statement is not allowed where it stands. -/
def ofStatements (statements : List Statement) : Option Toml := do
  let draft ← statements.foldlM Draft.apply {}
  some (.table (tomlMembers draft.entries))

/-- A table written in one line, from its settings. -/
def inlineTable (settings : List (Path × Toml)) : Option Toml := do
  let entries ← settings.foldlM (fun es s => addSetting s.1 s.2 es) []
  some (.table (tomlMembers entries))

end FirewallExporter.Toml
