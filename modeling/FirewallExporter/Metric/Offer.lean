import FirewallExporter.Metric.Sample

/-!
Offers to an emitter. Samples are offered to the emitter at hand one after
another, and the answer to each offer is seen. An offer that is refused does not
end the run, and those after it go to the emitter that it left behind.
-/

namespace FirewallExporter

/-- A sample as it is offered: its label values need not match its family. -/
structure Offer where
  family : Family
  value : Float
  labelValues : List String

namespace Emitter

/-- Emits to the emitter at hand. -/
def offer (o : Offer) : ExceptT ArityError (StateM Emitter) Unit := do
  set (← (← get).emit o.family o.value o.labelValues)

/-- What came of an offer, with the emitter before and after it. -/
structure Call where
  offer : Offer
  before : Emitter
  answer : Except ArityError Unit
  after : Emitter

def call (o : Offer) : StateM Emitter Call := do
  let before ← get
  let answer ← (offer o).run
  let after ← get
  return { offer := o, before, answer, after }

/-- Makes all offers, whatever comes of each. -/
def calls (offers : List Offer) : StateM Emitter (List Call) := offers.mapM call

end Emitter

end FirewallExporter
