import FirewallExporter.Proofs.Device.Runs
import FirewallExporter.Proofs.Metric.Emission
import FirewallExporter.Proofs.Probe.Families
import FirewallExporter.Scrape

/-!
Reports on probes. A report says what became of a probe, and how long it took;
without the time, the report of a scrape is a map over its probes.
-/

namespace FirewallExporter

/-- A report without the time taken. -/
def ProbeReport.undated (r : ProbeReport) : ProbeReport := { r with duration := .zero }

@[simp] theorem ProbeReport.undated_ofEnding (name : String) (d : Duration)
    (ending : Ending Outcome) : (ofEnding name d ending).undated = ofEnding name .zero ending := by
  cases ending <;> rfl

theorem ProbeReport.outcome_ofEnding (name : String) (d : Duration) (ending : Ending Outcome) :
    (ofEnding name d ending).outcome =
      match ending with
      | .done outcome => outcome
      | _ => .failed := by
  cases ending <;> rfl

theorem ProbeReport.name_ofEnding (name : String) (d : Duration) (ending : Ending Outcome) :
    (ofEnding name d ending).name = name := by
  cases ending <;> rfl

/-- What a probe comes to on its own; one that crashes has failed. -/
def Probe.outcome (fetcher : Fetcher) (v : Version) (p : Probe) : Outcome :=
  match ((p.invoke v).run fetcher).ending with
  | .done outcome => outcome
  | _ => .failed

theorem ScrapeReport.allOk_iff_failed_eq_nil (r : ScrapeReport) :
    r.allOk = true ↔ r.failed = [] := by
  simp [allOk, failed, List.filter_eq_nil_iff]

/-- The failures of a report tell themselves from the names and the outcomes. -/
theorem ScrapeReport.failed_eq {r : ScrapeReport} {probes : List Probe}
    {outcome : Probe → Outcome} (hnames : r.map ProbeReport.name = probes.map Probe.name)
    (houtcomes : r.map ProbeReport.outcome = probes.map outcome) :
    r.failed = (probes.filter fun p => !(outcome p).ok).map Probe.name := by
  induction probes generalizing r with
  | nil =>
      rw [List.map_nil, List.map_eq_nil_iff] at hnames
      rw [hnames]
      rfl
  | cons p probes ih =>
      cases r with
      | nil => cases hnames
      | cons e r =>
          rw [List.map_cons, List.map_cons, List.cons.injEq] at hnames houtcomes
          have hrest := ih hnames.2 houtcomes.2
          simp only [failed] at hrest ⊢
          rw [List.filter_cons, List.filter_cons, houtcomes.1]
          split
          · rw [List.map_cons, List.map_cons, hrest, hnames.1]
          · exact hrest

/-! ### Reports of a scrape -/

namespace Scrape

variable (clock : Clock) (fetcher : Fetcher) (v : Version) (probes : List Probe)

/-- What does not depend on the time is the same as if there were none. -/
theorem map_run {β : Type} {f : ProbeReport → β}
    (hf : ∀ name d ending, f (.ofEnding name d ending) = f (.ofEnding name .zero ending)) :
    (run clock fetcher v probes).1.map f =
      probes.map fun p => f (.ofEnding p.name .zero ((p.invoke v).run fetcher).ending) := by
  refine List.ext_getElem? fun i => ?_
  simp only [run, report, transcripts, List.getElem?_map, List.getElem?_mapIdx, Option.map_map]
  refine congrArg (Option.map · probes[i]?) (funext fun p => ?_)
  exact hf _ _ _

theorem map_undated_run :
    (run clock fetcher v probes).1.map ProbeReport.undated =
      probes.map fun p => .ofEnding p.name .zero ((p.invoke v).run fetcher).ending := by
  rw [map_run]
  · simp only [ProbeReport.undated_ofEnding]
  · intro name d ending
    rw [ProbeReport.undated_ofEnding, ProbeReport.undated_ofEnding]

theorem map_name_run :
    (run clock fetcher v probes).1.map ProbeReport.name = probes.map Probe.name := by
  rw [map_run]
  · simp only [ProbeReport.name_ofEnding]
  · intro name d ending
    rw [ProbeReport.name_ofEnding, ProbeReport.name_ofEnding]

theorem map_outcome_run :
    (run clock fetcher v probes).1.map ProbeReport.outcome =
      probes.map (Probe.outcome fetcher v) := by
  rw [map_run]
  · simp only [ProbeReport.outcome_ofEnding]
    rfl
  · intro name d ending
    rw [ProbeReport.outcome_ofEnding, ProbeReport.outcome_ofEnding]

end Scrape

/-! ### Samples of a scrape -/

/-- An outcome with samples of the families of the probe, and with none if it failed. -/
structure Probe.Allows (p : Probe) (o : Outcome) : Prop where
  families : OfFamilies p.families o.samples
  samples_of_failed : o.ok = false → o.samples = []

theorem Probe.allows_failed (p : Probe) : p.Allows .failed := ⟨ofFamilies_nil, fun _ => rfl⟩

theorem Probe.invoke_yields {p : Probe} (hp : p ∈ Probe.catalogue) (v : Version) :
    (p.invoke v).Yields p.Allows := by
  refine (run_yields_families hp v).attempt.bind fun result hresult => ?_
  cases result with
  | ok samples => exact ⟨hresult samples rfl, nofun⟩
  | error error => exact p.allows_failed

theorem Probe.allows_outcome {p : Probe} (hp : p ∈ Probe.catalogue) (fetcher : Fetcher)
    (v : Version) : p.Allows (p.outcome fetcher v) := by
  unfold outcome
  split
  · next outcome h => exact (invoke_yields hp v).ending h
  · exact p.allows_failed

/-- All samples of a scrape are of the families the exporter knows. -/
theorem Scrape.ofFamilies_samples_run {probes : List Probe}
    (hprobes : ∀ p ∈ probes, p ∈ Probe.catalogue) (clock : Clock) (fetcher : Fetcher)
    (v : Version) : OfFamilies Family.all (run clock fetcher v probes).1.samples := by
  have hown : [ProbeReport.successFamily, ProbeReport.durationFamily] ⊆ Family.all :=
    List.subset_append_right _ _
  have houtcomes : OfFamilies Family.all
      ((run clock fetcher v probes).1.flatMap (·.outcome.samples)) := by
    have hmap := List.flatMap_map ProbeReport.outcome Outcome.samples
      (run clock fetcher v probes).1
    rw [map_outcome_run] at hmap
    rw [← hmap, List.flatMap_map]
    refine ofFamilies_flatMap.mpr fun p hp => ?_
    have hcatalogue := hprobes p hp
    exact (Probe.allows_outcome hcatalogue fetcher v).families.mono
      (Probe.families_subset_all hcatalogue)
  rw [ScrapeReport.samples, ofFamilies_append, ofFamilies_append]
  refine ⟨⟨houtcomes, ?_⟩, ?_⟩
  · exact ofFamilies_map.mpr fun _ _ => hown (by simp [ProbeReport.success, Family.sample])
  · exact ofFamilies_map.mpr fun _ _ => hown (by simp [ProbeReport.elapsed, Family.sample])

/-! ### Samples put together -/

def ProbeReport.emitSuccess (e : Emitter) (r : ProbeReport) : Except ArityError Emitter :=
  e.emit successFamily (flagValue r.outcome.ok) [r.name]

def ProbeReport.emitDuration (e : Emitter) (r : ProbeReport) : Except ArityError Emitter :=
  e.emit durationFamily r.duration.inSeconds [r.name]

/-- The samples of a report; those of its own pass through an emitter, which might refuse one. -/
def ScrapeReport.assemble (r : ScrapeReport) : Except ArityError (List Sample) := do
  let successes ← r.foldlM ProbeReport.emitSuccess {}
  let all ← r.foldlM ProbeReport.emitDuration successes
  return r.flatMap (·.outcome.samples) ++ all.toList

theorem ScrapeReport.assemble_eq (r : ScrapeReport) : r.assemble = .ok r.samples := by
  have hsuccesses : r.foldlM ProbeReport.emitSuccess {} =
      .ok ⟨#[] ++ (r.map ProbeReport.success).toArray⟩ :=
    Emitter.emitEach_eq ProbeReport.success {} r
  have hdurations : ∀ e, r.foldlM ProbeReport.emitDuration e =
      .ok ⟨e.samples ++ (r.map ProbeReport.elapsed).toArray⟩ :=
    fun e => Emitter.emitEach_eq ProbeReport.elapsed e r
  rw [assemble, hsuccesses]
  simp [bind, Except.bind, hdurations, pure, Except.pure, samples, Emitter.toList]

/-- The one sample of a device whose version is not discovered. -/
def Scrape.assembleFailure : Except ArityError (List Sample) :=
  (ProbeReport.successFamily.sample? 0.0 [discoveryName]).map fun s => [s]

theorem Scrape.assembleFailure_eq : assembleFailure = .ok discoveryFailure := rfl

end FirewallExporter
