import FirewallExporter.Proofs.Exposition.Blocks
import FirewallExporter.Proofs.Lists
import FirewallExporter.Proofs.Probe.Selection
import FirewallExporter.Proofs.Scrape.Termination

/-!
The families of a scrape. Each probe has families of its own, and no two of them
share a name with each other or with the two families about the probes. So
whatever the device answers and however the tasks take turns, samples of one name
come from one place and are of one family, and the header they are shown under
is their own.
-/

namespace FirewallExporter

/-! ### Owners of families -/

/-- Every family beside the name of its probe; the two about the probes have no probe. -/
def Family.owned : List (Option String × Family) :=
  (Probe.catalogue.flatMap fun p => p.families.map fun f => (some p.name, f)) ++
    [(none, ProbeReport.successFamily), (none, ProbeReport.durationFamily)]

/-- No name stands for two families, in one probe or in two. -/
theorem Family.nodup_names_owned : (owned.map fun x => x.2.name).Nodup := by decide +kernel

theorem Family.eq_of_owned {x y : Option String × Family} (hx : x ∈ owned) (hy : y ∈ owned)
    (h : x.2.name = y.2.name) : x = y :=
  List.inj_on_of_nodup_map nodup_names_owned hx hy h

theorem Family.mem_owned_of_probe {p : Probe} (hp : p ∈ Probe.catalogue) {f : Family}
    (hf : f ∈ p.families) : (some p.name, f) ∈ owned :=
  List.mem_append_left _ (List.mem_flatMap.mpr ⟨p, hp, List.mem_map_of_mem hf⟩)

theorem Family.success_mem_owned : (none, ProbeReport.successFamily) ∈ owned :=
  List.mem_append_right _ List.mem_cons_self

theorem Family.duration_mem_owned : (none, ProbeReport.durationFamily) ∈ owned :=
  List.mem_append_right _ (List.mem_cons_of_mem _ List.mem_cons_self)

/-! ### Reports on a probe -/

/-- A report on a probe, with an outcome that the probe can have. -/
structure ProbeReport.Fits (p : Probe) (e : ProbeReport) : Prop where
  name : e.name = p.name
  outcome : p.Allows e.outcome

theorem ProbeReport.Fits.of_ending {p : Probe} {d : Dialogue Outcome} (hd : d.Yields p.Allows)
    {ending : Ending Outcome} (h : d.ending? = some ending) (duration : Duration) :
    Fits p (.ofEnding p.name duration ending) := by
  cases d with
  | done outcome => cases h; exact ⟨rfl, hd⟩
  | fail error => cases h; exact ⟨rfl, p.allows_failed⟩
  | crash => cases h; exact ⟨rfl, p.allows_failed⟩
  | ask endpoint next => cases h
  | note event rest => cases h

/-! ### Scrapes on their way -/

namespace Scrape

variable {σ : Type} {service : Service σ} {v : Version} {probes : List Probe} {c c' : Progress σ}

/-- A task of a probe, which can still end only in ways that the probe can. -/
structure Task.IsFor (p : Probe) (t : Task) : Prop where
  name : t.name = p.name
  yields : t.activity.rest.Yields p.Allows

theorem Activity.Moves.yields {P : Outcome → Prop} {a a' : Activity} {state state' : σ}
    {calls : List Endpoint} (h : a.Moves service state calls a' state') (ha : a.rest.Yields P) :
    a'.rest.Yields P := by
  cases h with
  | call endpoint next => exact ha
  | answered next _ => exact ha _
  | crashed next _ => trivial
  | noted event rest => exact ha

theorem Task.IsFor.fits {p : Probe} {t : Task} (h : t.IsFor p) {ending : Ending Outcome}
    (hending : t.ending? = some ending) (duration : Duration) :
    ProbeReport.Fits p (.ofEnding t.name duration ending) := by
  obtain ⟨name, activity⟩ := t
  obtain rfl := h.name
  cases activity with
  | waiting endpoint next => cases hending
  | active rest => exact .of_ending h.yields hending duration

/-- The probes of a scrape, in order: those reported on, those with a task and those to come. -/
def Progress.Tracks (probes : List Probe) (c : Progress σ) : Prop :=
  ∃ ended running, probes = ended ++ running ++ c.unstarted ∧
    List.Forall₂ ProbeReport.Fits ended c.reports ∧ List.Forall₂ Task.IsFor running c.tasks

theorem Step.tracks (hprobes : ∀ p ∈ probes, p ∈ Probe.catalogue) (h : Step service v c c')
    (hc : c.Tracks probes) : c'.Tracks probes := by
  obtain ⟨ended, running, hsplit, hreports, htasks⟩ := hc
  cases h with
  | @spawn p rest hunstarted =>
      rw [hunstarted] at hsplit
      have hp : p ∈ Probe.catalogue := hprobes p (by simp [hsplit])
      refine ⟨ended, running ++ [p], by simp [hsplit], hreports, ?_⟩
      exact List.rel_append htasks (.cons ⟨rfl, Probe.invoke_yields hp v⟩ .nil)
  | move hsplit' hmoves =>
      rw [hsplit'] at htasks
      refine ⟨ended, running, hsplit, hreports, forall₂_replace htasks fun p hp => ?_⟩
      exact ⟨hp.name, hmoves.yields hp.yields⟩
  | collect duration hunstarted htasks' hending =>
      rw [htasks'] at htasks
      cases htasks with
      | @cons p _ running _ hfirst hrest =>
          refine ⟨ended ++ [p], running, by simp [hsplit], ?_, hrest⟩
          exact List.rel_append hreports (.cons (hfirst.fits hending duration) .nil)

theorem Reaches.tracks (hprobes : ∀ p ∈ probes, p ∈ Probe.catalogue)
    (h : Reaches service v c c') (hc : c.Tracks probes) : c'.Tracks probes := by
  induction h with
  | refl => exact hc
  | tail _ hstep ih => exact hstep.tracks hprobes ih

/-- A finished scrape has one fitting report for each probe, in order. -/
theorem Progress.Finished.fits (hprobes : ∀ p ∈ probes, p ∈ Probe.catalogue) {state : σ}
    (h : c.Finished) (hreaches : Reaches service v (.start state probes) c) :
    List.Forall₂ ProbeReport.Fits probes c.reports := by
  have hstart : (Progress.start state probes).Tracks probes := ⟨[], [], rfl, .nil, .nil⟩
  obtain ⟨ended, running, hsplit, hreports, htasks⟩ := hreaches.tracks hprobes hstart
  rw [h.tasks, List.forall₂_nil_right_iff] at htasks
  rw [hsplit, htasks, h.unstarted, List.append_nil, List.append_nil]
  exact hreports

theorem fits_run (hprobes : ∀ p ∈ probes, p ∈ Probe.catalogue) (clock : Clock)
    (fetcher : Fetcher) (v : Version) :
    List.Forall₂ ProbeReport.Fits probes (run clock fetcher v probes).1 := by
  -- the time taken has no part in whether a report fits
  have hundated : List.Forall₂ ProbeReport.Fits probes
      ((run clock fetcher v probes).1.map ProbeReport.undated) := by
    rw [map_undated_run, List.forall₂_map_right_iff, List.forall₂_same]
    refine fun p hp => ⟨ProbeReport.name_ofEnding .., ?_⟩
    rw [ProbeReport.outcome_ofEnding]
    exact Probe.allows_outcome (hprobes p hp) fetcher v
  rw [List.forall₂_map_right_iff] at hundated
  exact hundated.imp fun p e h => ⟨h.name, h.outcome⟩

end Scrape

/-! ### Samples of a report -/

/--
The samples of a report are those of its entries, in order, and after them the
success and the duration of each entry; a failed entry has none but these two. A
name stands for one family throughout, and no two entries share one with each
other or with the two families about them. So each name has one block, under the
header of its family.
-/
structure ScrapeReport.Coherent (r : ScrapeReport) : Prop where
  assembled : r.assemble = .ok r.samples
  samples_eq : r.samples = r.flatMap (·.outcome.samples) ++
    r.map (fun e =>
      ProbeReport.successFamily.sample (if e.outcome.ok then 1.0 else 0.0) [e.name]) ++
    r.map fun e => ProbeReport.durationFamily.sample e.duration.inSeconds [e.name]
  failed : ∀ e ∈ r, e.outcome.ok = false → e.outcome.samples = []
  names : (r.map ProbeReport.name).Nodup
  family_eq : ∀ s ∈ r.samples, ∀ t ∈ r.samples, s.name = t.name → s.family = t.family
  entry_eq : ∀ e ∈ r, ∀ e' ∈ r, ∀ s ∈ e.outcome.samples, ∀ t ∈ e'.outcome.samples,
    s.name = t.name → e = e'
  name_ne : ∀ e ∈ r, ∀ s ∈ e.outcome.samples,
    s.name ≠ ProbeReport.successFamily.name ∧ s.name ≠ ProbeReport.durationFamily.name
  text : Exposition.render r.samples = Exposition.unlines
    ((Exposition.familyNames r.samples).flatMap (Exposition.block r.samples))
  header : ∀ s ∈ r.samples, Exposition.block r.samples s.name =
    Exposition.helpLine s.family :: Exposition.typeLine s.family ::
      (Exposition.samplesNamed s.name r.samples).map Exposition.line

section Fitting

variable {probes : List Probe} {r : ScrapeReport}

theorem map_name_of_fits (h : List.Forall₂ ProbeReport.Fits probes r) :
    r.map ProbeReport.name = probes.map Probe.name :=
  (map_eq_of_forall₂ h fun _ _ hfits => hfits.name.symm).symm

/-- Where a sample of a report comes from: an entry, or the exporter itself. -/
theorem mem_owned_of_mem_outcome (hprobes : ∀ p ∈ probes, p ∈ Probe.catalogue)
    (h : List.Forall₂ ProbeReport.Fits probes r) {e : ProbeReport} (he : e ∈ r) {s : Sample}
    (hs : s ∈ e.outcome.samples) : (some e.name, s.family) ∈ Family.owned := by
  obtain ⟨p, hp, hfits⟩ := exists_mem_left_of_forall₂ h he
  rw [hfits.name]
  exact Family.mem_owned_of_probe (hprobes p hp) (hfits.outcome.families s hs)

theorem exists_mem_owned_of_mem_samples (hprobes : ∀ p ∈ probes, p ∈ Probe.catalogue)
    (h : List.Forall₂ ProbeReport.Fits probes r) {s : Sample} (hs : s ∈ r.samples) :
    ∃ owner, (owner, s.family) ∈ Family.owned := by
  rw [ScrapeReport.samples, List.mem_append, List.mem_append, List.mem_flatMap, List.mem_map,
    List.mem_map] at hs
  rcases hs with (⟨e, he, hs⟩ | ⟨e, -, rfl⟩) | ⟨e, -, rfl⟩
  · exact ⟨_, mem_owned_of_mem_outcome hprobes h he hs⟩
  · exact ⟨none, Family.success_mem_owned⟩
  · exact ⟨none, Family.duration_mem_owned⟩

theorem ScrapeReport.Coherent.of_fits (hprobes : ∀ p ∈ probes, p ∈ Probe.catalogue)
    (hdistinct : probes.Nodup) (h : List.Forall₂ ProbeReport.Fits probes r) : Coherent r := by
  have hnames : (r.map ProbeReport.name).Nodup := by
    rw [map_name_of_fits h]
    refine hdistinct.map_on fun p hp q hq hpq => ?_
    exact List.inj_on_of_nodup_map Probe.nodup_names (hprobes p hp) (hprobes q hq) hpq
  have hfamily : ∀ s ∈ r.samples, ∀ t ∈ r.samples, s.name = t.name → s.family = t.family := by
    intro s hs t ht hst
    obtain ⟨owner, howner⟩ := exists_mem_owned_of_mem_samples hprobes h hs
    obtain ⟨owner', howner'⟩ := exists_mem_owned_of_mem_samples hprobes h ht
    exact congrArg Prod.snd (Family.eq_of_owned howner howner' hst)
  refine
    { assembled := r.assemble_eq
      samples_eq := rfl
      failed := ?failed
      names := hnames
      family_eq := hfamily
      entry_eq := ?entry_eq
      name_ne := ?name_ne
      text := Exposition.render_eq r.samples
      header := fun s hs => Exposition.block_of_mem hfamily hs }
  case failed =>
    intro e he hok
    obtain ⟨p, -, hfits⟩ := exists_mem_left_of_forall₂ h he
    exact hfits.outcome.samples_of_failed hok
  case entry_eq =>
    intro e he e' he' s hs t ht hst
    have howned := mem_owned_of_mem_outcome hprobes h he hs
    have howned' := mem_owned_of_mem_outcome hprobes h he' ht
    have hname := congrArg Prod.fst (Family.eq_of_owned howned howned' hst)
    exact List.inj_on_of_nodup_map hnames he he' (Option.some.inj hname)
  case name_ne =>
    intro e he s hs
    -- the families about the probes have no probe, and this one has
    have howned := mem_owned_of_mem_outcome hprobes h he hs
    constructor
    · intro hname
      cases congrArg Prod.fst (Family.eq_of_owned howned Family.success_mem_owned hname)
    · intro hname
      cases congrArg Prod.fst (Family.eq_of_owned howned Family.duration_mem_owned hname)

end Fitting

/--
Every scrape of distinct probes of the catalogue is coherent, with one entry for
each of them in order: it makes no difference what the service answers, whether
it keeps a state, and how the tasks take turns.
-/
theorem Scrape.coherent_of_distinct {probes : List Probe}
    (hprobes : ∀ p ∈ probes, p ∈ Probe.catalogue) (hdistinct : probes.Nodup) (v : Version) :
    (∀ (σ : Type) (service : Service σ) (state : σ) (c : Progress σ),
      Reaches service v (.start state probes) c → c.Finished →
        c.reports.map ProbeReport.name = probes.map Probe.name ∧
          ScrapeReport.Coherent c.reports) ∧
      ∀ (clock : Clock) (fetcher : Fetcher),
        (run clock fetcher v probes).1.map ProbeReport.name = probes.map Probe.name ∧
          ScrapeReport.Coherent (run clock fetcher v probes).1 := by
  refine ⟨fun σ service state c hreaches hfinished => ?_, fun clock fetcher => ?_⟩
  · have hfits := hfinished.fits hprobes hreaches
    exact ⟨map_name_of_fits hfits, .of_fits hprobes hdistinct hfits⟩
  · have hfits := fits_run hprobes clock fetcher v
    exact ⟨map_name_of_fits hfits, .of_fits hprobes hdistinct hfits⟩

/-- A service that counts its calls and answers all of them with one record of a sandbox. -/
def Scrape.sandboxService : Service Nat := fun n _ =>
  (.answer (.ok (.object [("results", .array [.object
    [("detected", .int 3), ("status", .string "reachable"), ("type", .string "cloud")]])])), n + 1)

/-- Both probes find members of theirs in the record. -/
def Scrape.sandboxProbes : List Probe := [.sandboxConnection, .sandboxStats]

theorem Scrape.coherent_of_distinct_sandbox :
    (∀ p ∈ sandboxProbes, p ∈ Probe.catalogue) ∧ sandboxProbes.Nodup ∧
      ∃ c, Reaches sandboxService ⟨7, 4⟩ (.start 0 sandboxProbes) c ∧ c.Finished ∧
        c.reports.map ProbeReport.name = ["System/SandboxConnection", "System/SandboxStats"] ∧
        (c.reports.map ProbeReport.outcome).map (·.samples.map Sample.name) =
          [["fortigate_sandbox_connection_status"],
           ["fortigate_sandbox_stats_detected", "fortigate_sandbox_stats_clean",
            "fortigate_sandbox_stats_risk_low", "fortigate_sandbox_stats_risk_medium",
            "fortigate_sandbox_stats_risk_high", "fortigate_sandbox_stats_submitted"]] ∧
        ScrapeReport.Coherent c.reports := by
  have hprobes : ∀ p ∈ sandboxProbes, p ∈ Probe.catalogue := by
    simp [sandboxProbes, Probe.catalogue]
  have hdistinct : sandboxProbes.Nodup := .of_map Probe.name (by decide)
  have hservice : sandboxService.AnswersBy fun path => (sandboxService 0 ⟨path, ""⟩).1 :=
    fun _ _ => rfl
  obtain ⟨c, hreaches, hfinished⟩ := exists_finished sandboxService ⟨7, 4⟩ (.start 0 sandboxProbes)
  obtain ⟨hnames, hcoherent⟩ :=
    (coherent_of_distinct hprobes hdistinct ⟨7, 4⟩).1 Nat sandboxService 0 c hreaches hfinished
  refine ⟨hprobes, hdistinct, c, hreaches, hfinished, hnames, ?_, hcoherent⟩
  rw [hfinished.map_outcome_eq hservice hreaches]
  rfl

end FirewallExporter
