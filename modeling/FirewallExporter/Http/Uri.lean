import FirewallExporter.Http.Authority

/-!
The path and the query in a URI. The query starts at the first question mark;
what comes after a number sign is not sent. A URI may start with its path, with
a scheme and a host, or be a host alone. The URI of a request that a client sends
is read whole: it has a scheme and an authority, and each part has to be well-formed.
-/

namespace FirewallExporter

structure Resource where
  path : String
  query : Option String
deriving DecidableEq, Repr

namespace Resource

def ofChars (cs : List Char) : Resource :=
  match (cs.takeWhile (· != '#')).span (· != '?') with
  | (path, _ :: query) => ⟨String.ofList path, some (String.ofList query)⟩
  | (path, []) => ⟨String.ofList path, none⟩

def parse (s : String) : Resource := ofChars s.toList

/-- Letters, digits and the marks that may stand in a scheme. -/
def isSchemeChar (c : Char) : Bool := c.isAlphanum || "+-.~".contains c

/-- What comes after the scheme. -/
def afterScheme? (cs : List Char) : Option (List Char) :=
  match cs.dropWhile isSchemeChar with
  | ':' :: '/' :: '/' :: rest => some rest
  | _ => none

def isHostChar (c : Char) : Bool := !"/?#".contains c

/-- The path is `/` where none follows the host. -/
def afterHost (cs : List Char) : Resource :=
  let r := ofChars (cs.dropWhile isHostChar)
  if r.path.isEmpty then { r with path := "/" } else r

/-- A host alone has no path. -/
def ofUri (s : String) : Resource :=
  match s.toList with
  | '/' :: _ => parse s
  | cs => ((afterScheme? cs).map afterHost).getD ⟨"", none⟩

def text (r : Resource) : String :=
  match r.query with
  | some q => r.path ++ "?" ++ q
  | none => r.path

/-- Neither a blank nor a control character of ASCII. -/
def isVisible (c : Char) : Bool := '!' ≤ c && c != '\x7f'

/-- Other characters and a few marks have to be written as escapes. -/
def isPathChar (c : Char) : Bool := isVisible c && !"#<>?\x60".contains c

def isQueryChar (c : Char) : Bool := isVisible c && !"#<>\"".contains c

def isValid (r : Resource) : Bool :=
  r.path.all isPathChar && (r.query.getD "").all isQueryChar

end Resource

/-- The parts of a URI after its scheme, which is that of plain HTTP. -/
structure Uri where
  authority : String
  resource : Resource
deriving DecidableEq, Repr

namespace Uri

/-- Longer ones are refused. -/
def maxBytes : Nat := 65534

/-- The URI with these characters after its scheme. -/
def ofRest? (cs : List Char) : Option Uri :=
  let authority := cs.takeWhile Resource.isHostChar
  let resource := Resource.afterHost cs
  if Authority.isValid authority && resource.isValid then
    some { authority := String.ofList authority, resource }
  else none

def parse? (s : String) : Option Uri :=
  if s.utf8ByteSize ≤ maxBytes then
    match s.toList with
    | 'h' :: 't' :: 't' :: 'p' :: ':' :: '/' :: '/' :: rest => ofRest? rest
    | _ => none
  else none

def text (u : Uri) : String := "http://" ++ u.authority ++ u.resource.text

end Uri

end FirewallExporter
