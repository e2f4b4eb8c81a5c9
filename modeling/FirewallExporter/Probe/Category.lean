/-!
Words of a fixed vocabulary as sample values. A word is matched exactly, upper
and lower case apart; every other text has the default value, so no text is
without one.
-/

namespace FirewallExporter

structure Category where
  /-- The member of the body that holds the word. -/
  field : String
  arms : List (String × Float)
  default : Float

namespace Category

/-- The first arm of a word counts. -/
def value (c : Category) (word : String) : Float := (c.arms.lookup word).getD c.default

def isKnown (c : Category) (word : String) : Bool := (c.arms.lookup word).isSome

def vocabulary (c : Category) : List String := c.arms.map Prod.fst

def rating : Category := ⟨"rating", [("good", 1.0)], 0.0⟩

def linkStatus : Category := ⟨"status", [("up", 1.0)], 0.0⟩

def switchConnection : Category := ⟨"status", [("Connected", 1.0)], 0.0⟩

def duplex : Category := ⟨"duplex", [("full", 1.0), ("half", 0.5)], 0.0⟩

def sandboxConnection : Category :=
  ⟨"status", [("unreachable", 0.0), ("reachable", 1.0), ("disabled", -1.0)], -2.0⟩

def authorizationState : Category :=
  ⟨"state", [("Authorized", 1.0), ("DeAuthorized", 0.0), ("Discovered", 2.0)], -1.0⟩

/-- Whatever is not normal is a backup. -/
def managementMode : Category := ⟨"mode", [("normal", 1.0), ("backup", 2.0)], 2.0⟩

def managementStatus : Category :=
  ⟨"status", [("down", 0.0), ("up", 1.0), ("handshake", 2.0)], -1.0⟩

def registrationStatus : Category :=
  ⟨"registration_status",
   [("in_progress", 1.0), ("registered", 0.0), ("unregistered", 2.0)], -1.0⟩

end Category

end FirewallExporter
