import FirewallExporter.Json.Writer
import FirewallExporter.Text.Quoted

/-!
Declared shapes of JSON bodies. A shape has a type of values and a zero value;
`read` takes a body as a value of the shape, with zero for whatever is missing,
and `fault?` reports the first place where a body does not fit. A record may
lack any of its fields and may have others, which are passed over. It may also
be written as an array of its fields in their declared order, unless it is only
known by its keys.
-/

namespace FirewallExporter

mutual
inductive Shape where
  | text
  | flag
  | number
  | list (item : Shape)
  | table (item : Shape)
  | record (name : String) (positional : Bool) (fields : Fields)

inductive Fields where
  | nil
  | cons (key : String) (shape : Shape) (rest : Fields)
end

def Fields.ofList : List (String × Shape) → Fields
  | [] => .nil
  | (key, shape) :: rest => .cons key shape (ofList rest)

def Fields.length : Fields → Nat
  | .nil => 0
  | .cons _ _ rest => rest.length + 1

mutual
def Shape.Value : Shape → Type
  | .text => String
  | .flag => Bool
  | .number => Float
  | .list item => List item.Value
  | .table item => List (String × item.Value)
  | .record _ _ fields => fields.Value

def Fields.Value : Fields → Type
  | .nil => Unit
  | .cons _ shape rest => shape.Value × rest.Value
end

mutual
def Shape.zero : (s : Shape) → s.Value
  | .text => ""
  | .flag => false
  | .number => (0.0 : Float)
  | .list _ => []
  | .table _ => []
  | .record _ _ fields => fields.zero

def Fields.zero : (fs : Fields) → fs.Value
  | .nil => ()
  | .cons _ shape rest => (shape.zero, rest.zero)
end

/-- A body that does not fit its shape. -/
inductive ShapeFault where
  | wrongKind (found : Json) (expected : Shape)
  | tooLong (length : Nat)

def Shape.ofFields (name : String) (fields : List (String × Shape)) : Shape :=
  .record name true (.ofList fields)

/-- A record that is only known by its keys. -/
def Shape.ofKeys (name : String) (fields : List (String × Shape)) : Shape :=
  .record name false (.ofList fields)

mutual
/-- Members are visited in the order in which they stand, and so are elements. -/
def Shape.fault? : Shape → Json → Option ShapeFault
  | .text, .string _ => none
  | .flag, .bool _ => none
  | .number, .int _ => none
  | .number, .float _ => none
  | .list item, .array items => items.findSome? item.fault?
  | .table item, .object members => members.findSome? fun m => item.fault? m.2
  | .record _ _ fields, .object members => members.findSome? fun m => fields.fault? m.1 m.2
  | .record _ true fields, .array items =>
    (fields.faultAmong? items).or
      (if fields.length < items.length then some (.tooLong items.length) else none)
  | shape, found => some (.wrongKind found shape)

/-- The fault of a value under a key; there is none under an undeclared key. -/
def Fields.fault? : Fields → String → Json → Option ShapeFault
  | .nil, _, _ => none
  | .cons key shape rest, k, value =>
    if k = key then shape.fault? value else rest.fault? k value

/-- The first fault of the elements that stand for the fields. -/
def Fields.faultAmong? : Fields → List Json → Option ShapeFault
  | .cons _ shape rest, value :: items => (shape.fault? value).or (rest.faultAmong? items)
  | _, _ => none
end

mutual
/-- Where a body does not fit, its part of the value is zero. -/
def Shape.read : (s : Shape) → Json → s.Value
  | .text, .string text => text
  | .flag, .bool flag => flag
  | .number, .int n => Float.ofInt n
  | .number, .float x => x
  | .list item, .array items => items.map item.read
  | .table item, .object members => members.map fun m => (m.1, item.read m.2)
  | .record _ _ fields, .object members => fields.readMembers members
  | .record _ _ fields, .array items => fields.readItems items
  | shape, _ => shape.zero

def Fields.readMembers : (fs : Fields) → List (String × Json) → fs.Value
  | .nil, _ => ()
  | .cons key shape rest, members =>
    (match members.lookup key with
      | some value => shape.read value
      | none => shape.zero,
     rest.readMembers members)

def Fields.readItems : (fs : Fields) → List Json → fs.Value
  | .cons _ shape rest, value :: items => (shape.read value, rest.readItems items)
  | fields, _ => fields.zero
end

/-- The value of a body, or its first fault. -/
def Shape.decode (s : Shape) (body : Json) : Except ShapeFault s.Value :=
  match s.fault? body with
  | some fault => .error fault
  | none => .ok (s.read body)

theorem Shape.decode_eq_ok_iff {s : Shape} {body : Json} {v : s.Value} :
    s.decode body = .ok v ↔ s.fault? body = none ∧ s.read body = v := by
  unfold decode
  cases s.fault? body <;> simp

namespace ShapeFault

def found : Json → String
  | .null => "null"
  | .bool b => "boolean `" ++ toString b ++ "`"
  | .int n => "integer `" ++ toString n ++ "`"
  | .float x => "floating point `" ++ Json.floatText x ++ "`"
  | .string s => "string " ++ Text.quote s
  | .array _ => "sequence"
  | .object _ => "map"

def expected : Shape → String
  | .text => "a string"
  | .flag => "a boolean"
  | .number => "f64"
  | .list _ => "a sequence"
  | .table _ => "a map"
  | .record name _ _ => "struct " ++ name

def message : ShapeFault → String
  | .wrongKind json shape => "invalid type: " ++ found json ++ ", expected " ++ expected shape
  | .tooLong n => "invalid length " ++ toString n ++ ", expected fewer elements in array"

end ShapeFault

end FirewallExporter
