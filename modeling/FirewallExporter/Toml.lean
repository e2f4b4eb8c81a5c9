/-!
Values of a TOML document. Settings are texts, lists and tables; a number, a
truth value or a date is only known to be one.
-/

namespace FirewallExporter

inductive Toml where
  | text (value : String)
  /-- A number or a truth value. -/
  | scalar
  /-- A date, a time or both. -/
  | date
  | list (items : List Toml)
  | table (members : List (String × Toml))
deriving Inhabited

namespace Toml

def text? : Toml → Option String
  | text value => some value
  | _ => none

/-- A list of texts and nothing else. -/
def texts? : Toml → Option (List String)
  | list items => items.mapM text?
  | _ => none

end Toml

end FirewallExporter
