import FirewallExporter.Decimal

/-!
Metric families and their samples. A sample has one label value for each label
that its family declares; this is part of its type. An emitter collects
samples and refuses one whose labels do not match.
-/

namespace FirewallExporter

inductive Kind where
  | gauge
  | counter
deriving DecidableEq, Repr

def Kind.name : Kind → String
  | .gauge => "gauge"
  | .counter => "counter"

structure Family where
  name : String
  help : String
  labelNames : List String
  kind : Kind
deriving DecidableEq, Repr

namespace Family

def gauge (name help : String) (labelNames : List String) : Family :=
  { name, help, labelNames, kind := .gauge }

def counter (name help : String) (labelNames : List String) : Family :=
  { name, help, labelNames, kind := .counter }

end Family

structure Sample where
  family : Family
  value : Float
  labelValues : List String
  arity : labelValues.length = family.labelNames.length
deriving DecidableEq

/-- A sample was offered with more or fewer labels than its family declares. -/
structure ArityError where
  family : String
  expected : Nat
  got : Nat
deriving DecidableEq, Repr

def ArityError.message (e : ArityError) : String :=
  "metric " ++ e.family ++ " expects " ++ toString e.expected ++ " labels, got " ++ toString e.got

namespace Family

/-- A sample whose labels match by construction. -/
def sample (f : Family) (value : Float) (labelValues : List String)
    (arity : labelValues.length = f.labelNames.length := by rfl) : Sample :=
  ⟨f, value, labelValues, arity⟩

def sample? (f : Family) (value : Float) (labelValues : List String) :
    Except ArityError Sample :=
  if h : labelValues.length = f.labelNames.length then .ok ⟨f, value, labelValues, h⟩
  else .error ⟨f.name, f.labelNames.length, labelValues.length⟩

end Family

namespace Sample

def name (s : Sample) : String := s.family.name

def kind (s : Sample) : Kind := s.family.kind

/-- Label names with their values, in declared order. -/
def labels (s : Sample) : List (String × String) := s.family.labelNames.zip s.labelValues

def label? (s : Sample) (name : String) : Option String := s.labels.lookup name

end Sample

/-- The samples emitted so far, in order. -/
structure Emitter where
  samples : Array Sample := #[]

namespace Emitter

def emit (e : Emitter) (f : Family) (value : Float) (labelValues : List String) :
    Except ArityError Emitter :=
  (f.sample? value labelValues).map fun s => ⟨e.samples.push s⟩

def size (e : Emitter) : Nat := e.samples.size

def isEmpty (e : Emitter) : Bool := e.samples.isEmpty

def toList (e : Emitter) : List Sample := e.samples.toList

end Emitter

/-- A number as a label value: no decimal places. -/
def numberLabel (x : Float) : String :=
  Decimal.wholeText
    { notANumber := "NaN", infinity := "inf", negativeInfinity := "-inf" } x

def flagLabel (b : Bool) : String := toString b

/-- A flag as a sample value. -/
def flagValue (b : Bool) : Float := if b then 1.0 else 0.0

end FirewallExporter
