import Mathlib.Logic.Function.Basic
import FirewallExporter.Proofs.Exporter.Discovery
import FirewallExporter.Proofs.Scrape.Termination

/-!
Devices that keep a state, each behind a fetcher of its own, and the scrape of
one of them. What a scrape asks, and in which order, depends on how its tasks take
turns; whatever it asks, it asks the one device. If the answers of the device
depend on the path only, the samples are those of a device without a state.
-/

namespace FirewallExporter

/-! ### Dialogues with a service -/

open Scrape

section Service

variable {σ α : Type} {service : Service σ} {answers : String → Reply}

/-- How a dialogue with a service ends, and the state in which it leaves the service. -/
def Dialogue.runWith (service : Service σ) : Dialogue α → σ → Ending α × σ
  | done value, state => (.done value, state)
  | fail error, state => (.failed error, state)
  | crash, state => (.crashed, state)
  | ask endpoint next, state =>
    match service state endpoint with
    | (.crash, state) => (.crashed, state)
    | (.answer answer, state) => (next answer).runWith service state
  | note _ next, state => next.runWith service state

theorem Dialogue.ending_runWith (hservice : service.AnswersBy answers) (d : Dialogue α)
    (state : σ) : (d.runWith service state).1 = (d.run (.byPath answers)).ending := by
  induction d generalizing state with
  | done value => rfl
  | fail error => rfl
  | crash => rfl
  | ask endpoint next ih =>
      rw [runWith]
      cases h : service state endpoint with
      | mk reply state' =>
          have hreply := hservice.reply h
          cases reply with
          | crash => rw [run_ask_crash next hreply]
          | answer answer =>
              rw [run_ask_answer next hreply]
              exact ih answer state'
  | note event next ih => exact ih state

/-- No call leads from the states in the set to any other. -/
def Scrape.Service.Keeps (service : Service σ) (P : σ → Prop) : Prop :=
  ∀ state endpoint, P state → P (service state endpoint).2

variable {P : σ → Prop}

theorem Scrape.Service.Keeps.of_eq (hP : service.Keeps P) {state state' : σ}
    {endpoint : Endpoint} {reply : Reply} (h : service state endpoint = (reply, state'))
    (hstate : P state) : P state' := by
  have hcall := hP state endpoint hstate
  rw [h] at hcall
  exact hcall

theorem Dialogue.keeps_runWith (hP : service.Keeps P) (d : Dialogue α) {state : σ}
    (h : P state) : P (d.runWith service state).2 := by
  induction d generalizing state with
  | done value => exact h
  | fail error => exact h
  | crash => exact h
  | ask endpoint next ih =>
      rw [runWith]
      cases hcall : service state endpoint with
      | mk reply state' =>
          have hstate' := hP.of_eq hcall h
          cases reply with
          | crash => exact hstate'
          | answer answer => exact ih answer hstate'
  | note event next ih => exact ih h

theorem Scrape.Activity.Moves.keeps (hP : service.Keeps P) {a a' : Activity}
    {state state' : σ} {calls : List Endpoint} (h : a.Moves service state calls a' state')
    (hstate : P state) : P state' := by
  cases h with
  | call => exact hstate
  | answered next hcall => exact hP.of_eq hcall hstate
  | crashed next hcall => exact hP.of_eq hcall hstate
  | noted => exact hstate

theorem Scrape.Step.keeps (hP : service.Keeps P) {v : Version} {c c' : Progress σ}
    (h : Step service v c c') (hstate : P c.state) : P c'.state := by
  cases h with
  | spawn => exact hstate
  | move _ hmoves => exact hmoves.keeps hP hstate
  | collect => exact hstate

theorem Scrape.Reaches.keeps (hP : service.Keeps P) {v : Version} {c c' : Progress σ}
    (h : Reaches service v c c') (hstate : P c.state) : P c'.state := by
  induction h with
  | refl => exact hstate
  | tail _ hstep ih => exact hstep.keeps hP ih

end Service

/-! ### Hosts -/

/-- A device behind a fetcher that may keep a state, as an exporter knows it. -/
structure Host (σ : Type) where
  name : String
  service : Service σ
  version : Option Version
  probes : List Probe

/-- The states of all devices, and the calls that each of them has received so far. -/
structure World (σ : Type) where
  state : String → σ
  received : String → List Endpoint

variable {σ : Type}

/-- Two worlds that differ in no more than the device of one name. -/
structure World.AgreesBut (name : String) (w w' : World σ) : Prop where
  state : ∀ n, n ≠ name → w'.state n = w.state n
  received : ∀ n, n ≠ name → w'.received n = w.received n

namespace Host

/-- A call to a device is put on its record, and answered in its state. -/
def call (h : Host σ) : Service (World σ) := fun w endpoint =>
  ((h.service (w.state h.name) endpoint).1,
    { state := Function.update w.state h.name (h.service (w.state h.name) endpoint).2
      received := Function.update w.received h.name (w.received h.name ++ [endpoint]) })

/-- A device that goes by the path has the same answers without its state. -/
def byPath (answers : String → Reply) (h : Host σ) : Target :=
  { name := h.name, fetcher := .byPath answers, version := h.version, probes := h.probes }

/-- The device as it answers in a world. -/
def target (w : World σ) (h : Host σ) : Target :=
  { name := h.name, fetcher := fun endpoint => (h.call w endpoint).1, version := h.version,
    probes := h.probes }

/-- A scrape of a device: what its samples come to, and the world after it. -/
inductive Serves (h : Host σ) (w : World σ) :
    Except ArityError (List Sample) → World σ → Prop where
  | pinned {v : Version} {c : Progress (World σ)} (hversion : h.version = some v)
      (hreaches : Reaches h.call v (.start w h.probes) c) (hfinished : c.Finished) :
      Serves h w c.reports.assemble c.state
  | discovered {v : Version} {w' : World σ} {c : Progress (World σ)}
      (hversion : h.version = none)
      (hdiscover : Discovery.discover.runWith h.call w = (.done v, w'))
      (hreaches : Reaches h.call v (.start w' h.probes) c) (hfinished : c.Finished) :
      Serves h w c.reports.assemble c.state
  | undiscovered {ending : Ending Version} {w' : World σ} (hversion : h.version = none)
      (hdiscover : Discovery.discover.runWith h.call w = (ending, w'))
      (hnot : ∀ v, ending ≠ .done v) :
      Serves h w assembleFailure w'

variable {h : Host σ} {w w' : World σ} {answers : String → Reply}

theorem keeps_call (h : Host σ) (w : World σ) : h.call.Keeps (World.AgreesBut h.name w) := by
  intro w' endpoint hw'
  refine ⟨fun n hn => ?_, fun n hn => ?_⟩
  · exact (Function.update_of_ne hn _ _).trans (hw'.state n hn)
  · exact (Function.update_of_ne hn _ _).trans (hw'.received n hn)

theorem answersBy_call (hservice : h.service.AnswersBy answers) : h.call.AnswersBy answers :=
  fun w endpoint => hservice (w.state h.name) endpoint

/-- A scrape can always be brought to its end. -/
theorem exists_serves (h : Host σ) (w : World σ) : ∃ result w', h.Serves w result w' := by
  cases hversion : h.version with
  | some v =>
      obtain ⟨c, hreaches, hfinished⟩ := exists_finished h.call v (.start w h.probes)
      exact ⟨_, _, .pinned hversion hreaches hfinished⟩
  | none =>
      cases hdiscover : Discovery.discover.runWith h.call w with
      | mk ending w' =>
          cases ending with
          | done v =>
              obtain ⟨c, hreaches, hfinished⟩ := exists_finished h.call v (.start w' h.probes)
              exact ⟨_, _, .discovered hversion hdiscover hreaches hfinished⟩
          | failed error =>
              exact ⟨_, _, .undiscovered hversion hdiscover fun _ hdone => nomatch hdone⟩
          | crashed => exact ⟨_, _, .undiscovered hversion hdiscover fun _ hdone => nomatch hdone⟩

/-- Nothing is asked of any other device, and nothing changes there. -/
theorem Serves.agreesBut {result : Except ArityError (List Sample)}
    (hserves : h.Serves w result w') : w.AgreesBut h.name w' := by
  have hstart : w.AgreesBut h.name w := ⟨fun _ _ => rfl, fun _ _ => rfl⟩
  have hdiscovery := Dialogue.keeps_runWith (h.keeps_call w) Discovery.discover hstart
  cases hserves with
  | pinned _ hreaches => exact hreaches.keeps (h.keeps_call w) hstart
  | discovered _ hdiscover hreaches =>
      rw [hdiscover] at hdiscovery
      exact hreaches.keeps (h.keeps_call w) hdiscovery
  | undiscovered _ hdiscover =>
      rw [hdiscover] at hdiscovery
      exact hdiscovery

/-- No sample is refused when they are put together. -/
theorem Serves.eq_ok {result : Except ArityError (List Sample)}
    (hserves : h.Serves w result w') : ∃ samples, result = .ok samples := by
  cases hserves with
  | pinned => exact ⟨_, ScrapeReport.assemble_eq _⟩
  | discovered => exact ⟨_, ScrapeReport.assemble_eq _⟩
  | undiscovered => exact ⟨_, assembleFailure_eq⟩

/-- A finished scrape of a device that goes by the path has the samples it would have anyway. -/
theorem untimed_samples_of_finished (hservice : h.service.AnswersBy answers) {v : Version}
    {c : Progress (World σ)} (hreaches : Reaches h.call v (.start w h.probes) c)
    (hfinished : c.Finished) (clock : Clock) :
    c.reports.samples.map Sample.untimed =
      ((h.byPath answers).scrapeAt clock v).samples.map Sample.untimed := by
  have hreports := hfinished.reports_eq (answersBy_call hservice) hreaches clock
  rw [ScrapeReport.untimed_samples, hreports, ← ScrapeReport.untimed_samples]
  rfl

/-- The samples of a device that goes by the path, time aside, are those without its state. -/
theorem Serves.untimed_eq (hservice : h.service.AnswersBy answers) {samples : List Sample}
    (hserves : h.Serves w (.ok samples) w') (clock : Clock) :
    samples.map Sample.untimed =
      ((h.byPath answers).scrape clock).samples.map Sample.untimed := by
  -- with or without a state, the discovery comes to the same end
  have hending := Dialogue.ending_runWith (answersBy_call hservice) Discovery.discover w
  generalize hresult : Except.ok samples = result at hserves
  cases hserves with
  | pinned hversion hreaches hfinished =>
      rw [ScrapeReport.assemble_eq] at hresult
      cases hresult
      rw [Target.scrape_of_pinned hversion]
      exact untimed_samples_of_finished hservice hreaches hfinished clock
  | discovered hversion hdiscover hreaches hfinished =>
      rw [ScrapeReport.assemble_eq] at hresult
      cases hresult
      rw [hdiscover] at hending
      have hfinds := Discovery.ending_discover_iff.mp hending.symm
      rw [Target.scrape_of_discovered hversion hfinds]
      exact untimed_samples_of_finished hservice hreaches hfinished clock
  | undiscovered hversion hdiscover hnot =>
      rw [assembleFailure_eq] at hresult
      cases hresult
      rw [hdiscover] at hending
      have hfails : ∀ v, ¬ Discovery.Finds (h.byPath answers).fetcher v := fun v hfinds =>
        hnot v (hending.trans (Discovery.ending_discover_iff.mpr hfinds))
      rw [Target.scrape_of_undiscovered hversion hfails]

/-- What a device that goes by the path is reported to be does not depend on its state. -/
theorem Serves.eqUntimed (hservice : h.service.AnswersBy answers)
    (hprobes : ∀ p ∈ h.probes, p ∈ Probe.catalogue) {samples : List Sample}
    (hserves : h.Serves w (.ok samples) w') (clock : Clock) :
    (Response.ofSamples samples).EqUntimed
      (.ofSamples ((h.byPath answers).scrape clock).samples) := by
  have huntimed := hserves.untimed_eq hservice clock
  have hscrape : Exposition.AllWellNamed ((h.byPath answers).scrape clock).samples :=
    Target.wellNamed_scrape hprobes clock
  exact Response.eqUntimed_ofSamples (hscrape.of_untimed huntimed) hscrape huntimed

end Host

end FirewallExporter
