import FirewallExporter.Config.Basic
import FirewallExporter.Device.Script
import FirewallExporter.Proofs.Exporter.Requests
import FirewallExporter.Proofs.Json.Ordered
import FirewallExporter.Proofs.Probe.Endpoints

/-!
Targets whose version is discovered. The device is asked once for its version,
and then all is as if that version were pinned; if no version comes of it,
nothing else is asked and the failure is all there is to report.
-/

namespace FirewallExporter

namespace Discovery

/-- The device answers with a body that has the text as the version. -/
def Tells (fetcher : Fetcher) (text : String) : Prop :=
  ∃ (body : Json) (status : SystemStatus.shape.Value),
    fetcher endpoint = .answer (.ok body) ∧
      SystemStatus.shape.decode body.settled = .ok status ∧
      (SystemStatus.ofValue status).version = text

/-- The version that the device tells. -/
def Finds (fetcher : Fetcher) (v : Version) : Prop :=
  ∃ text, Tells fetcher text ∧ Version.parse text = .ok v

variable {fetcher : Fetcher}

/-- A device tells one text at most. -/
theorem Tells.unique {text text' : String} (h : Tells fetcher text) (h' : Tells fetcher text') :
    text = text' := by
  obtain ⟨body, status, hreply, hdecode, rfl⟩ := h
  obtain ⟨body', status', hreply', hdecode', rfl⟩ := h'
  cases hreply.symm.trans hreply'
  cases hdecode.symm.trans hdecode'
  rfl

/-- What a device tells counts as what is configured does. -/
theorem Tells.finds_iff {text : String} (h : Tells fetcher text) {c : TargetConfig}
    (hconfig : c.version = some text) {v : Version} :
    Finds fetcher v ↔ c.readVersion = .ok (some v) := by
  have hparse : Finds fetcher v ↔ Version.parse text = .ok v := by
    constructor
    · rintro ⟨text', h', hv⟩
      rwa [h.unique h']
    · exact fun hv => ⟨text, h, hv⟩
  rw [hparse, TargetConfig.readVersion]
  simp only [hconfig]
  cases Version.parse text <;> simp

theorem run_readVersion (status : SystemStatus) :
    (readVersion status).run fetcher =
      ⟨match Version.parse status.version with
        | .ok v => .done v
        | .error error => .failed (.version error), [], []⟩ := by
  rw [readVersion]
  cases Version.parse status.version <;> rfl

theorem ending_readVersion_iff {status : SystemStatus} {v : Version} :
    ((readVersion status).run fetcher).ending = .done v ↔
      Version.parse status.version = .ok v := by
  rw [run_readVersion]
  cases Version.parse status.version <;> simp

/-- The system status is asked for once, whatever comes of it. -/
theorem calls_discover (fetcher : Fetcher) : (discover.run fetcher).calls = [endpoint] := by
  have hget := Dialogue.calls_run_get fetcher SystemStatus.shape endpoint
  by_cases h : ∃ status,
      ((Dialogue.get SystemStatus.shape endpoint).run fetcher).ending = .done status
  · obtain ⟨status, hstatus⟩ := h
    rw [discover_eq, Dialogue.run_bind_of_done hstatus, run_readVersion,
      Transcript.after_calls, hget]
    rfl
  · have hnot := fun status hstatus => h ⟨status, hstatus⟩
    rw [discover_eq, (Dialogue.run_bind_of_not_done hnot _).1, hget]

/-- A version is discovered just where the device tells a text that is one. -/
theorem ending_discover_iff {v : Version} :
    (discover.run fetcher).ending = .done v ↔ Finds fetcher v := by
  rw [discover_eq]
  constructor
  · intro h
    by_cases hget : ∃ status,
        ((Dialogue.get SystemStatus.shape endpoint).run fetcher).ending = .done status
    · obtain ⟨status, hstatus⟩ := hget
      rw [Dialogue.run_bind_of_done hstatus, Transcript.after_ending,
        ending_readVersion_iff] at h
      obtain ⟨body, hreply, hbody⟩ := Dialogue.ending_run_get_iff.mp hstatus
      exact ⟨_, ⟨body, status, hreply, hbody, rfl⟩, h⟩
    · have hnot := fun status hstatus => hget ⟨status, hstatus⟩
      exact absurd h ((Dialogue.run_bind_of_not_done hnot _).2 v)
  · rintro ⟨text, ⟨body, status, hreply, hbody, rfl⟩, hparse⟩
    have hstatus := Dialogue.ending_run_get_iff.mpr ⟨body, hreply, hbody⟩
    rw [Dialogue.run_bind_of_done hstatus, Transcript.after_ending, ending_readVersion_iff]
    exact hparse

end Discovery

/-! ### Scrapes of a target -/

namespace Target

variable {t : Target} {clock : Scrape.Clock}

theorem scrape_of_pinned {v : Version} (hversion : t.version = some v) :
    t.scrape clock = t.scrapeAt clock v := by
  rw [scrape, hversion]

theorem scrape_of_discovered (hversion : t.version = none) {v : Version}
    (h : Discovery.Finds t.fetcher v) :
    t.scrape clock =
      ⟨(t.scrapeAt clock v).samples, Discovery.endpoint :: (t.scrapeAt clock v).calls⟩ := by
  rw [scrape, hversion]
  simp only [Discovery.ending_discover_iff.mpr h, Discovery.calls_discover]
  rfl

theorem scrape_of_undiscovered (hversion : t.version = none)
    (h : ∀ v, ¬ Discovery.Finds t.fetcher v) (clock : Scrape.Clock) :
    t.scrape clock = ⟨Scrape.discoveryFailure, [Discovery.endpoint]⟩ := by
  rw [scrape, hversion]
  dsimp only
  split
  · next v hv => exact absurd (Discovery.ending_discover_iff.mp hv) (h v)
  · rw [Discovery.calls_discover]

/-- The time has no say in what is asked. -/
theorem calls_scrapeAt (clock : Scrape.Clock) (v : Version) :
    (t.scrapeAt clock v).calls = Scrape.calls (Scrape.transcripts t.fetcher v t.probes) := rfl

/-- A scrape at a version never asks for the system status. -/
theorem notSystemStatus_of_mem_calls (hprobes : ∀ p ∈ t.probes, p ∈ Probe.catalogue)
    (v : Version) : ∀ e ∈ (t.scrapeAt clock v).calls, NotSystemStatus e := by
  intro e he
  rw [calls_scrapeAt] at he
  obtain ⟨⟨p, transcript⟩, hmem, he⟩ := List.mem_flatMap.mp he
  obtain ⟨_, hp, heq⟩ := List.mem_map.mp hmem
  cases heq
  exact (Probe.invoke_asks (hprobes p hp) v).calls e he

theorem wellNamed_scrapeAt (hprobes : ∀ p ∈ t.probes, p ∈ Probe.catalogue)
    (clock : Scrape.Clock) (v : Version) :
    Exposition.AllWellNamed (t.scrapeAt clock v).samples := by
  intro s hs
  have hfamilies := Scrape.ofFamilies_samples_run hprobes clock t.fetcher v
  exact Family.wellNamed_of_mem_all _ (hfamilies s hs)

theorem wellNamed_scrape (hprobes : ∀ p ∈ t.probes, p ∈ Probe.catalogue) (clock : Scrape.Clock) :
    Exposition.AllWellNamed (t.scrape clock).samples := by
  cases hversion : t.version with
  | some v =>
      rw [scrape_of_pinned hversion]
      exact wellNamed_scrapeAt hprobes clock v
  | none =>
      by_cases hfinds : ∃ v, Discovery.Finds t.fetcher v
      · obtain ⟨v, hv⟩ := hfinds
        rw [scrape_of_discovered hversion hv]
        exact wellNamed_scrapeAt hprobes clock v
      · rw [scrape_of_undiscovered hversion (not_exists.mp hfinds)]
        intro s hs
        have hfamily : ProbeReport.successFamily ∈ Family.all :=
          List.mem_append_right _ List.mem_cons_self
        rw [List.mem_singleton.mp hs]
        exact Family.wellNamed_of_mem_all _ hfamily

/-- Two clocks give the same samples, time aside. -/
theorem untimed_scrapeAt (clock clock' : Scrape.Clock) (v : Version) :
    (t.scrapeAt clock v).samples.map Sample.untimed =
      (t.scrapeAt clock' v).samples.map Sample.untimed := by
  have hreport : ∀ clock : Scrape.Clock, (t.scrapeAt clock v).samples.map Sample.untimed =
      (ScrapeReport.samples (t.probes.map fun p =>
        .ofEnding p.name .zero ((p.invoke v).run t.fetcher).ending)).map Sample.untimed := by
    intro clock
    rw [← Scrape.map_undated_run clock]
    exact ScrapeReport.untimed_samples _
  rw [hreport clock, hreport clock']

end Target

/-! ### Answers about a target -/

/-- The exposition of one sample, the failure of the discovery. -/
def Scrape.discoveryFailureText : String :=
  "# HELP fortigate_exporter_probe_success " ++
    "Whether the probe completed successfully (1) or not (0)\n" ++
    "# TYPE fortigate_exporter_probe_success gauge\n" ++
    "fortigate_exporter_probe_success\x7bprobe=\"System/Status\"\x7d 0\n"

theorem Scrape.render_discoveryFailure :
    Exposition.render discoveryFailure = discoveryFailureText := by
  rw [Exposition.render, Exposition.groups_eq_foldl]
  decide +kernel

namespace Router

variable {d : Directory} {r : Request} {name : String} {t : Target}

/--
A request about a device whose version is not configured. What the device tells
of its version is read as the configuration would be. If that is a version, then
the answer is the one there would be with this version configured, time aside,
and the calls are the same but for one before them; a device with its version
configured is never asked for its status. If it is not a version, then nothing
but the failure is reported, and nothing else is asked.
-/
theorem answer_unpinned (hprobes : ∀ p ∈ t.probes, p ∈ Probe.catalogue)
    (hversion : t.version = none) (hfind : d.find? name = some t) (hr : r.Scrapes name)
    (clock : Scrape.Clock) :
    (∀ v, (Discovery.discover.run t.fetcher).ending = .done v ↔ Discovery.Finds t.fetcher v) ∧
      (∀ text (c : TargetConfig), Discovery.Tells t.fetcher text → c.version = some text →
        ∀ v, Discovery.Finds t.fetcher v ↔ c.readVersion = .ok (some v)) ∧
      (∀ v (clock' : Scrape.Clock) (d' : Directory),
        d'.find? name = some { t with version := some v } →
        (∀ e ∈ (answer clock' d' r).calls, e.path ≠ Discovery.endpoint.path) ∧
        (Discovery.Finds t.fetcher v →
          (answer clock d r).response.EqUntimed (answer clock' d' r).response ∧
          (answer clock d r).calls = Discovery.endpoint :: (answer clock' d' r).calls)) ∧
      ((∀ v, ¬ Discovery.Finds t.fetcher v) →
        (answer clock d r).response =
          ⟨200, some Exposition.contentType,
            if r.method = "GET" then Scrape.discoveryFailureText else ""⟩ ∧
        (answer clock d r).calls = [Discovery.endpoint]) := by
  refine ⟨fun v => Discovery.ending_discover_iff, fun text c htells hconfig v =>
    htells.finds_iff hconfig, ?_, ?_⟩
  · intro v clock' d' hfind'
    -- the pinned target has the fetcher and the probes of `t`
    have hpinned : (answer clock' d' r).calls = (t.scrapeAt clock' v).calls :=
      calls_answer hr hfind'
    refine ⟨fun e he => ?_, fun hfinds => ⟨?_, ?_⟩⟩
    · rw [hpinned] at he
      exact Target.notSystemStatus_of_mem_calls hprobes v e he
    · refine eqUntimed_answer hr hfind hfind' ?_
      rw [Target.scrape_of_discovered hversion hfinds]
      exact Response.eqUntimed_ofSamples (Target.wellNamed_scrapeAt hprobes clock v)
        (Target.wellNamed_scrapeAt hprobes clock' v) (Target.untimed_scrapeAt clock clock' v)
    · rw [calls_answer hr hfind, Target.scrape_of_discovered hversion hfinds, hpinned,
        Target.calls_scrapeAt, Target.calls_scrapeAt]
  · intro hfails
    have hscrape := Target.scrape_of_undiscovered hversion hfails clock
    refine ⟨?_, ?_⟩
    · rcases hr.method with hget | hhead
      · rw [answer_get hr hfind hget, serveTarget, hscrape, Response.ofSamples,
          Scrape.render_discoveryFailure, if_pos hget]
      · have hnot : r.method ≠ "GET" := by simp [hhead]
        rw [answer_head hr hfind hhead, serveTarget, hscrape, if_neg hnot]
        rfl
    · rw [calls_answer hr hfind, hscrape]

/-- A device that tells its version and knows nothing about its sandbox. -/
def talkative : Target where
  name := "fw"
  fetcher := Script.fetcher
    { bodies := [("api/v2/monitor/system/status", .object [("version", .string "v7.4.3")]),
        ("api/v2/monitor/system/sandbox/connection", .object [])] }
  version := none
  probes := [.sandboxConnection]

/-- A device that crashes whoever asks it. -/
def brittle : Target := { talkative with fetcher := fun _ => .crash }

theorem answer_unpinned_talkative :
    Discovery.Finds talkative.fetcher ⟨7, 4⟩ ∧
      (answer (fun _ => .zero) (.ofList [talkative]) ⟨"GET", "/probe?target=fw"⟩).calls =
        [Discovery.endpoint, ⟨"api/v2/monitor/system/sandbox/connection", ""⟩] ∧
      (answer (fun _ => .zero) (.ofList [brittle]) ⟨"GET", "/probe?target=fw"⟩).response.body =
        Scrape.discoveryFailureText := by
  have hfinds : Discovery.Finds talkative.fetcher ⟨7, 4⟩ :=
    ⟨"v7.4.3", ⟨_, ("v7.4.3", "", ()), rfl, rfl, rfl⟩, by decide⟩
  have hfails : ∀ v, ¬ Discovery.Finds brittle.fetcher v := by
    rintro v ⟨text, ⟨body, status, hreply, -⟩, -⟩
    cases hreply
  have hprobes : ∀ p ∈ talkative.probes, p ∈ Probe.catalogue := by
    simp [talkative, Probe.catalogue]
  have hr : Request.Scrapes ⟨"GET", "/probe?target=fw"⟩ "fw" :=
    ⟨by decide, by decide +kernel, .inl rfl⟩
  obtain ⟨-, -, hpinned, -⟩ := answer_unpinned (d := .ofList [talkative]) hprobes rfl rfl hr
    fun _ => .zero
  obtain ⟨-, -, -, hfailure⟩ := answer_unpinned (t := brittle) (d := .ofList [brittle]) hprobes
    rfl rfl hr fun _ => .zero
  obtain ⟨-, hcalls⟩ := (hpinned ⟨7, 4⟩ (fun _ => .zero)
    (.ofList [{ talkative with version := some ⟨7, 4⟩ }]) rfl).2 hfinds
  refine ⟨hfinds, hcalls.trans ?_, ?_⟩
  · rw [calls_answer hr rfl]
    rfl
  · rw [(hfailure hfails).1]
    rfl

end Router

end FirewallExporter
