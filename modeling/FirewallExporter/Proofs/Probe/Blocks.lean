import Mathlib.Logic.Function.Basic
import FirewallExporter.Metric.Sample
import FirewallExporter.Proofs.Device.Runs
import FirewallExporter.Proofs.Firmware.Ranges
import FirewallExporter.Proofs.Json.Frames

/-!
Bodies of records, as the samples they give. Where every record has a block of
samples of its own and the blocks come in order, lists of records that are put
together give what they give apart, one after the other. The records may stand in
a frame, or they may be all that the body is.
-/

namespace FirewallExporter

/-- The replies of a device, but for those of one endpoint, where it has the body. -/
def Fetcher.serving (fetcher : Fetcher) (endpoint : Endpoint) (body : Json) : Fetcher :=
  Function.update fetcher endpoint (.answer (.ok body))

/-- Where records are served, of which shape they are, and the body made of a list of them. -/
structure Source where
  endpoint : Endpoint
  item : Shape
  body : List Json → Json

namespace Source

/-- The dialogue ends with the samples if the device has the records. -/
def Shows (source : Source) (d : Dialogue (List Sample)) (fetcher : Fetcher)
    (records : List Json) (samples : List Sample) : Prop :=
  (d.run (fetcher.serving source.endpoint (source.body records))).ending = .done samples

/-- Each of the records is of the shape. -/
def Fit (source : Source) (records : List Json) : Prop :=
  ∀ record ∈ records, source.item.fault? record.settled = none

/--
With a device that is ready the dialogue is done with records of their shape and
with no others, and what it shows of two lists it shows of them put together, first
that of the one and then that of the other.
-/
structure Recordwise (source : Source) (d : Dialogue (List Sample)) (ready : Fetcher → Prop) :
    Prop where
  done_iff : ∀ fetcher records,
    (∃ samples, source.Shows d fetcher records samples) ↔ ready fetcher ∧ source.Fit records
  append : ∀ {fetcher xs ys samples samples'}, source.Shows d fetcher xs samples →
    source.Shows d fetcher ys samples' → source.Shows d fetcher (xs ++ ys) (samples ++ samples')

/-- What the dialogue shows of a record has the property. -/
def Each (source : Source) (d : Dialogue (List Sample)) (P : Json → List Sample → Prop) : Prop :=
  ∀ fetcher record samples, source.Shows d fetcher [record] samples → P record samples

/--
The dialogue is done with records of their shape and with no others, and it shows
what there is to show of the first one.
-/
structure FirstOnly (source : Source) (d : Dialogue (List Sample)) : Prop where
  done_iff : ∀ fetcher records,
    (∃ samples, source.Shows d fetcher records samples) ↔ source.Fit records
  first : ∀ {fetcher record records samples}, source.Shows d fetcher (record :: records) samples →
    source.Shows d fetcher [record] samples
  none : ∀ {fetcher samples}, source.Shows d fetcher [] samples → samples = []

variable {source : Source} {d : Dialogue (List Sample)}

theorem fit_append {xs ys : List Json} :
    source.Fit (xs ++ ys) ↔ source.Fit xs ∧ source.Fit ys :=
  List.forall_mem_append

/-- The samples of records of the shape are their blocks in order; for others there are none. -/
def HasBlocks (source : Source) (d : Dialogue (List Sample)) (fetcher : Fetcher) (ready : Prop)
    (block : Json → List Sample) : Prop :=
  ∀ records samples, source.Shows d fetcher records samples ↔
    (ready ∧ source.Fit records) ∧ records.flatMap block = samples

theorem HasBlocks.recordwise {ready : Fetcher → Prop}
    (h : ∀ fetcher, ∃ block, source.HasBlocks d fetcher (ready fetcher) block) :
    source.Recordwise d ready := by
  refine ⟨fun fetcher records => ?_, fun {fetcher xs ys samples samples'} hxs hys => ?_⟩
  · obtain ⟨block, hblocks⟩ := h fetcher
    constructor
    · rintro ⟨samples, hshows⟩
      exact ((hblocks records samples).mp hshows).1
    · intro hfit
      exact ⟨_, (hblocks records _).mpr ⟨hfit, rfl⟩⟩
  · obtain ⟨block, hblocks⟩ := h fetcher
    obtain ⟨⟨hready, hfit⟩, hsamples⟩ := (hblocks xs samples).mp hxs
    obtain ⟨⟨-, hfit'⟩, hsamples'⟩ := (hblocks ys samples').mp hys
    refine (hblocks _ _).mpr ⟨⟨hready, fit_append.mpr ⟨hfit, hfit'⟩⟩, ?_⟩
    rw [List.flatMap_append, hsamples, hsamples']

theorem FirstOnly.of_shows {f : List Json → List Sample}
    (h : ∀ fetcher records samples, source.Shows d fetcher records samples ↔
      source.Fit records ∧ f records = samples)
    (hcons : ∀ record records, f (record :: records) = f [record]) (hnil : f [] = []) :
    source.FirstOnly d := by
  refine ⟨fun fetcher records => ?_, fun {fetcher record records samples} hshows => ?_,
    fun {fetcher samples} hshows => ?_⟩
  · simp [h]
  · obtain ⟨hfit, hsamples⟩ := (h _ _ _).mp hshows
    refine (h _ _ _).mpr ⟨List.forall_mem_singleton.mpr (hfit record List.mem_cons_self), ?_⟩
    rw [← hcons record records, hsamples]
  · obtain ⟨-, hsamples⟩ := (h _ _ _).mp hshows
    rw [← hsamples, hnil]

theorem HasBlocks.each {ready : Fetcher → Prop} {block : Json → List Sample}
    (h : ∀ fetcher, source.HasBlocks d fetcher (ready fetcher) block)
    {P : Json → List Sample → Prop} (hblock : ∀ record, P record (block record)) :
    source.Each d P := by
  intro fetcher record samples hshows
  obtain ⟨-, hsamples⟩ := (h fetcher [record] samples).mp hshows
  rw [List.flatMap_singleton] at hsamples
  rw [← hsamples]
  exact hblock record

/-! ### Dialogues that ask for one body -/

section OneBody

variable (source) {shape : Shape} {values : List Json → shape.Value}
  (hdecode : ∀ records value, shape.decode (source.body records).settled = .ok value ↔
    source.Fit records ∧ values records = value)

include hdecode

theorem shows_get_bind_iff {next : shape.Value → Dialogue (List Sample)} {fetcher : Fetcher}
    {records : List Json} {samples : List Sample} :
    source.Shows ((Dialogue.get shape source.endpoint).bind next) fetcher records samples ↔
      source.Fit records ∧ ((next (values records)).run
        (fetcher.serving source.endpoint (source.body records))).ending = .done samples := by
  have hreply : fetcher.serving source.endpoint (source.body records) source.endpoint =
      .answer (.ok (source.body records)) := Function.update_self ..
  rw [Shows, Dialogue.ending_run_bind_iff]
  constructor
  · rintro ⟨value, hvalue, hsamples⟩
    obtain ⟨body, hbody, hvalue⟩ := Dialogue.ending_run_get_iff.mp hvalue
    rw [hreply] at hbody
    cases hbody
    obtain ⟨hfit, rfl⟩ := (hdecode records value).mp hvalue
    exact ⟨hfit, hsamples⟩
  · rintro ⟨hfit, hsamples⟩
    have hvalue := (hdecode records (values records)).mpr ⟨hfit, rfl⟩
    exact ⟨values records, Dialogue.ending_run_get_iff.mpr ⟨_, hreply, hvalue⟩, hsamples⟩

theorem shows_get_iff {f : shape.Value → List Sample} {fetcher : Fetcher} {records : List Json}
    {samples : List Sample} :
    source.Shows ((Dialogue.get shape source.endpoint).bind fun value => .done (f value)) fetcher
      records samples ↔ source.Fit records ∧ f (values records) = samples := by
  rw [shows_get_bind_iff source hdecode, Dialogue.run, Ending.done.injEq]

theorem hasBlocks_get {f : shape.Value → List Sample} {block : Json → List Sample}
    (hf : ∀ records, f (values records) = records.flatMap block) (fetcher : Fetcher) :
    source.HasBlocks ((Dialogue.get shape source.endpoint).bind fun value => .done (f value))
      fetcher True block := by
  intro records samples
  rw [shows_get_iff source hdecode, hf, true_and]

end OneBody

/-- The records under `results` in a frame. -/
def framed (endpoint : Endpoint) (item : Shape) (frame : Frame) : Source where
  endpoint := endpoint
  item := item
  body := frame.fill "results"

/-- The records are all that the body is. -/
def listed (endpoint : Endpoint) (item : Shape) : Source where
  endpoint := endpoint
  item := item
  body := .array

section Framed

variable {name : String} {item : Shape} {endpoint : Endpoint} {frame : Frame}
  (h : frame.Fits (.ofFields name [("results", .list item)]) "results")
  (f : (Shape.ofFields name [("results", .list item)]).Value → List Sample)

include h

theorem shows_framed_iff {fetcher : Fetcher} {records : List Json} {samples : List Sample} :
    (framed endpoint item frame).Shows
        ((Dialogue.get (.ofFields name [("results", .list item)]) endpoint).bind fun value =>
          .done (f value)) fetcher records samples ↔
      (framed endpoint item frame).Fit records ∧
        f (records.map fun record => item.read record.settled, ()) = samples :=
  shows_get_iff (framed endpoint item frame) fun records _ => h.decode_eq_ok_iff records

/-- Records in a frame have their blocks if what is made of a list of them has. -/
theorem hasBlocks_framed {block : item.Value → List Sample}
    (hf : ∀ values : List item.Value, f (values, ()) = values.flatMap block) (fetcher : Fetcher) :
    (framed endpoint item frame).HasBlocks
      ((Dialogue.get (.ofFields name [("results", .list item)]) endpoint).bind fun value =>
        .done (f value)) fetcher True fun record => block (item.read record.settled) :=
  hasBlocks_get (framed endpoint item frame) (fun records _ => h.decode_eq_ok_iff records)
    (fun _ => (hf _).trans (List.flatMap_map ..)) fetcher

/-- So does a probe of a capability that is served in one place. -/
theorem hasBlocks_resolved {c : Capability} (hranges : c.ranges = [⟨.any, endpoint⟩])
    {block : item.Value → List Sample} (hf : ∀ values : List item.Value, f (values, ()) = values.flatMap block)
    (v : Version) (fetcher : Fetcher) {other : Dialogue (List Sample)} :
    (framed endpoint item frame).HasBlocks
      (match c.resolve v with
        | none => other
        | some endpoint => (Dialogue.get (.ofFields name [("results", .list item)]) endpoint).bind
            fun value => .done (f value))
      fetcher True fun record => block (item.read record.settled) := by
  rw [Capability.resolve_of_range hranges]
  exact hasBlocks_framed h f hf fetcher

end Framed

theorem decode_listed_eq_ok_iff {item : Shape} {endpoint : Endpoint} (records : List Json)
    (value : (Shape.list item).Value) :
    (Shape.list item).decode (Json.array records).settled = .ok value ↔
      (listed endpoint item).Fit records ∧
        (records.map fun record => item.read record.settled) = value := by
  have hread : (Shape.list item).read (.array (records.map Json.settled)) =
      records.map fun record => item.read record.settled := List.map_map
  rw [Json.settled_array, Shape.decode_eq_ok_iff, Frame.fault?_list_eq_none_iff,
    List.forall_mem_map, hread]
  exact Iff.rfl

/-- And so have records that are all there is. -/
theorem hasBlocks_listed {item : Shape} {endpoint : Endpoint}
    {f : (Shape.list item).Value → List Sample} {block : item.Value → List Sample}
    (hf : ∀ values : List item.Value, f values = values.flatMap block) (fetcher : Fetcher) :
    (listed endpoint item).HasBlocks
      ((Dialogue.get (.list item) endpoint).bind fun value => .done (f value)) fetcher True
      fun record => block (item.read record.settled) :=
  hasBlocks_get (listed endpoint item) decode_listed_eq_ok_iff
    (fun _ => (hf _).trans (List.flatMap_map ..)) fetcher

end Source

end FirewallExporter
