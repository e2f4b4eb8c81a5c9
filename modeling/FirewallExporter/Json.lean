/-!
JSON values. An object keeps its members as they were written; `canonical`
orders them by key and keeps the last member of a repeated key, at every depth.
`dropNulls` removes the members that are null, so that such a member reads as
an absent one.
-/

namespace FirewallExporter

inductive Json where
  | null
  | bool (value : Bool)
  | int (value : Int)
  | float (value : Float)
  | string (value : String)
  | array (items : List Json)
  | object (members : List (String × Json))
deriving Inhabited

namespace Json

def isNull : Json → Bool
  | .null => true
  | _ => false

/-- Puts a member in its place among members in key order; one already there stays. -/
def insertNew (key : String) (value : Json) : List (String × Json) → List (String × Json)
  | [] => [(key, value)]
  | (k, v) :: rest =>
    if key < k then (key, value) :: (k, v) :: rest
    else if key = k then (k, v) :: rest
    else (k, v) :: insertNew key value rest

mutual
def canonical : Json → Json
  | .array items => .array (canonicalItems items)
  | .object members => .object (canonicalMembers members)
  | value => value

def canonicalItems : List Json → List Json
  | [] => []
  | value :: rest => value.canonical :: canonicalItems rest

def canonicalMembers : List (String × Json) → List (String × Json)
  | [] => []
  | (key, value) :: rest => insertNew key value.canonical (canonicalMembers rest)
end

mutual
/-- Elements of arrays stay even when they are null, and so does the whole value. -/
def dropNulls : Json → Json
  | .array items => .array (dropNullsItems items)
  | .object members => .object (dropNullsMembers members)
  | value => value

def dropNullsItems : List Json → List Json
  | [] => []
  | value :: rest => value.dropNulls :: dropNullsItems rest

def dropNullsMembers : List (String × Json) → List (String × Json)
  | [] => []
  | (key, value) :: rest =>
    if value.isNull then dropNullsMembers rest
    else (key, value.dropNulls) :: dropNullsMembers rest
end

end Json

end FirewallExporter
