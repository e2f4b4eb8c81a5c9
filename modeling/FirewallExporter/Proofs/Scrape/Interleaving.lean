import Mathlib.Algebra.GroupWithZero.Nat
import Mathlib.Logic.Relation
import FirewallExporter.Proofs.Scrape.Reports

/-!
The tasks of a scrape side by side. Every probe has a task of its own, and all
tasks share one fetcher, which may keep a state. They are started in order and
their reports are collected in order; in between they call the fetcher and come
to their ends in any order whatever. As long as answers depend on the path only,
the report is that of the probes carried out one after another.
-/

namespace FirewallExporter

/-- How a dialogue has ended, if there is nothing left to do in it. -/
def Dialogue.ending? {α : Type} : Dialogue α → Option (Ending α)
  | done value => some (.done value)
  | fail error => some (.failed error)
  | crash => some .crashed
  | ask .. => none
  | note .. => none

/-- A fetcher that goes by the path alone. -/
def Fetcher.byPath (answers : String → Reply) : Fetcher := fun endpoint => answers endpoint.path

/-- How many steps a task takes for a dialogue; a call takes two. -/
def Dialogue.steps {α : Type} (fetcher : Fetcher) : Dialogue α → Nat
  | .done _ => 0
  | .fail _ => 0
  | .crash => 0
  | .ask endpoint next =>
    match fetcher endpoint with
    | .crash => 2
    | .answer answer => (next answer).steps fetcher + 2
  | .note _ next => next.steps fetcher + 1

theorem Dialogue.steps_ask_answer {α : Type} {fetcher : Fetcher} {endpoint : Endpoint}
    {answer : Answer} (next : Answer → Dialogue α) (h : fetcher endpoint = .answer answer) :
    (ask endpoint next).steps fetcher = (next answer).steps fetcher + 2 := by
  rw [steps, h]

theorem Dialogue.steps_ask_crash {α : Type} {fetcher : Fetcher} {endpoint : Endpoint}
    (next : Answer → Dialogue α) (h : fetcher endpoint = .crash) :
    (ask endpoint next).steps fetcher = 2 := by
  rw [steps, h]

namespace Scrape

/-! ### Tasks and their steps -/

/-- A fetcher with a state that each call may read and change. -/
abbrev Service (σ : Type) := σ → Endpoint → Reply × σ

variable {σ : Type}

/-- In every state the service answers by the path alone. -/
def Service.AnswersBy (service : Service σ) (answers : String → Reply) : Prop :=
  ∀ state endpoint, (service state endpoint).1 = answers endpoint.path

/-- A task is at its own work, or it waits for the answer to a call. -/
inductive Activity where
  | active (rest : Dialogue Outcome)
  | waiting (endpoint : Endpoint) (next : Answer → Dialogue Outcome)

/-- A step of one task, with the calls made in it and the state of the service after it. -/
inductive Activity.Moves (service : Service σ) :
    Activity → σ → List Endpoint → Activity → σ → Prop where
  | call (endpoint : Endpoint) (next : Answer → Dialogue Outcome) (state : σ) :
      Moves service (.active (.ask endpoint next)) state [endpoint] (.waiting endpoint next) state
  | answered {endpoint : Endpoint} (next : Answer → Dialogue Outcome) {state state' : σ}
      {answer : Answer} (h : service state endpoint = (.answer answer, state')) :
      Moves service (.waiting endpoint next) state [] (.active (next answer)) state'
  | crashed {endpoint : Endpoint} (next : Answer → Dialogue Outcome) {state state' : σ}
      (h : service state endpoint = (.crash, state')) :
      Moves service (.waiting endpoint next) state [] (.active .crash) state'
  | noted (event : Event) (rest : Dialogue Outcome) (state : σ) :
      Moves service (.active (.note event rest)) state [] (.active rest) state

structure Task where
  name : String
  activity : Activity

def Task.ofProbe (v : Version) (p : Probe) : Task := ⟨p.name, .active (p.invoke v)⟩

/-- A task with nothing left to do, and how it came out. -/
def Task.ending? (t : Task) : Option (Ending Outcome) :=
  match t.activity with
  | .active rest => rest.ending?
  | .waiting .. => none

/-- A scrape on its way. -/
structure Progress (σ : Type) where
  state : σ
  /-- The calls made so far, of all tasks, in the order made. -/
  calls : List Endpoint
  /-- The probes without a task as yet. -/
  unstarted : List Probe
  /-- The tasks whose reports are still to be collected. -/
  tasks : List Task
  reports : ScrapeReport

def Progress.start (state : σ) (probes : List Probe) : Progress σ :=
  { state, calls := [], unstarted := probes, tasks := [], reports := [] }

/--
A step of a scrape. Any task may move at any time. Reports are collected once
all tasks are started, that of the first task first; time is what the clock says.
-/
inductive Step (service : Service σ) (v : Version) : Progress σ → Progress σ → Prop where
  | spawn {c : Progress σ} {p : Probe} {rest : List Probe} (hunstarted : c.unstarted = p :: rest) :
      Step service v c { c with unstarted := rest, tasks := c.tasks ++ [.ofProbe v p] }
  | move {c : Progress σ} {before after : List Task} {t : Task} {calls : List Endpoint}
      {activity : Activity} {state : σ} (htasks : c.tasks = before ++ t :: after)
      (hmoves : t.activity.Moves service c.state calls activity state) :
      Step service v c
        { c with state, calls := c.calls ++ calls, tasks := before ++ { t with activity } :: after }
  | collect {c : Progress σ} {t : Task} {rest : List Task} {ending : Ending Outcome}
      (duration : Duration) (hunstarted : c.unstarted = []) (htasks : c.tasks = t :: rest)
      (hending : t.ending? = some ending) :
      Step service v c
        { c with tasks := rest, reports := c.reports ++ [.ofEnding t.name duration ending] }

/-- What a scrape can come to in any number of steps. -/
abbrev Reaches (service : Service σ) (v : Version) : Progress σ → Progress σ → Prop :=
  Relation.ReflTransGen (Step service v)

/-- All reports are collected. -/
structure Progress.Finished (c : Progress σ) : Prop where
  unstarted : c.unstarted = []
  tasks : c.tasks = []

/-! ### What is still to come -/

section Forecast

variable (fetcher : Fetcher)

/-- The dialogue that a task has left; a call that waits is still part of it. -/
def Activity.rest : Activity → Dialogue Outcome
  | .active rest => rest
  | .waiting endpoint next => .ask endpoint next

/-- The calls a task has yet to make; one that waits has been made. -/
def Activity.callsLeft : Activity → List Endpoint
  | .active rest => (rest.run fetcher).calls
  | .waiting endpoint next => ((Dialogue.ask endpoint next).run fetcher).calls.tail

def Activity.stepsLeft : Activity → Nat
  | .active rest => rest.steps fetcher
  | .waiting endpoint next => (Dialogue.ask endpoint next).steps fetcher - 1

/-- The report a task will give, time aside. -/
def Task.forecast (t : Task) : ProbeReport :=
  .ofEnding t.name .zero (t.activity.rest.run fetcher).ending

/-- The reports a scrape will have given when it is finished, time aside. -/
def Progress.forecast (v : Version) (c : Progress σ) : ScrapeReport :=
  c.reports.map ProbeReport.undated ++
    (c.tasks ++ c.unstarted.map (Task.ofProbe v)).map (Task.forecast fetcher)

/-- The calls made and those to come. -/
def Progress.allCalls (v : Version) (c : Progress σ) : List Endpoint :=
  c.calls ++
    (c.tasks ++ c.unstarted.map (Task.ofProbe v)).flatMap (·.activity.callsLeft fetcher)

/-- A task is collected in one step, and it takes one to start it. -/
def Progress.stepsLeft (v : Version) (c : Progress σ) : Nat :=
  ((c.tasks ++ c.unstarted.map (Task.ofProbe v)).map (·.activity.stepsLeft fetcher + 1)).sum +
    c.unstarted.length

end Forecast

section Steps

variable {service : Service σ} {answers : String → Reply} {v : Version}

theorem Service.AnswersBy.reply (hservice : service.AnswersBy answers) {state state' : σ}
    {endpoint : Endpoint} {reply : Reply} (h : service state endpoint = (reply, state')) :
    Fetcher.byPath answers endpoint = reply := by
  rw [Fetcher.byPath, ← hservice state endpoint, h]

/-- A step of a task changes nothing in how the task will end. -/
theorem Activity.Moves.ending_eq (hservice : service.AnswersBy answers) {a a' : Activity}
    {state state' : σ} {calls : List Endpoint} (h : a.Moves service state calls a' state') :
    (a'.rest.run (.byPath answers)).ending = (a.rest.run (.byPath answers)).ending := by
  cases h with
  | call endpoint next => rfl
  | answered next h =>
      rw [rest, rest, Dialogue.run_ask_answer next (hservice.reply h)]
      rfl
  | crashed next h =>
      rw [rest, rest, Dialogue.run_ask_crash next (hservice.reply h)]
      rfl
  | noted event rest => rfl

theorem Activity.Moves.callsLeft_eq (hservice : service.AnswersBy answers) {a a' : Activity}
    {state state' : σ} {calls : List Endpoint} (h : a.Moves service state calls a' state') :
    a.callsLeft (.byPath answers) = calls ++ a'.callsLeft (.byPath answers) := by
  cases h with
  | call endpoint next =>
      rw [callsLeft, callsLeft]
      cases hreply : Fetcher.byPath answers endpoint with
      | crash => rw [Dialogue.run_ask_crash next hreply]; rfl
      | answer answer => rw [Dialogue.run_ask_answer next hreply]; rfl
  | answered next h =>
      rw [callsLeft, callsLeft, Dialogue.run_ask_answer next (hservice.reply h)]
      rfl
  | crashed next h =>
      rw [callsLeft, callsLeft, Dialogue.run_ask_crash next (hservice.reply h)]
      rfl
  | noted event rest => rfl

theorem Activity.Moves.stepsLeft_eq (hservice : service.AnswersBy answers) {a a' : Activity}
    {state state' : σ} {calls : List Endpoint} (h : a.Moves service state calls a' state') :
    a.stepsLeft (.byPath answers) = a'.stepsLeft (.byPath answers) + 1 := by
  cases h with
  | call endpoint next =>
      rw [stepsLeft, stepsLeft]
      cases hreply : Fetcher.byPath answers endpoint with
      | crash => rw [Dialogue.steps_ask_crash next hreply]
      | answer answer => rw [Dialogue.steps_ask_answer next hreply]; omega
  | answered next h =>
      rw [stepsLeft, stepsLeft, Dialogue.steps_ask_answer next (hservice.reply h)]
      omega
  | crashed next h =>
      rw [stepsLeft, stepsLeft, Dialogue.steps_ask_crash next (hservice.reply h)]
      rfl
  | noted event rest => rfl

/-- A task that has ended reports what was forecast of it. -/
theorem Task.forecast_of_ending (fetcher : Fetcher) {t : Task} {ending : Ending Outcome}
    (h : t.ending? = some ending) : t.forecast fetcher = .ofEnding t.name .zero ending := by
  obtain ⟨name, activity⟩ := t
  cases activity with
  | waiting endpoint next => cases h
  | active rest => cases rest <;> cases h <;> rfl

theorem Task.nothingLeft_of_ending (fetcher : Fetcher) {t : Task} {ending : Ending Outcome}
    (h : t.ending? = some ending) :
    t.activity.callsLeft fetcher = [] ∧ t.activity.stepsLeft fetcher = 0 := by
  obtain ⟨name, activity⟩ := t
  cases activity with
  | waiting endpoint next => cases h
  | active rest => cases rest <;> cases h <;> exact ⟨rfl, rfl⟩

/-- No step changes what the scrape will report. -/
theorem Step.forecast_eq (hservice : service.AnswersBy answers) {c c' : Progress σ}
    (h : Step service v c c') :
    c'.forecast (.byPath answers) v = c.forecast (.byPath answers) v := by
  cases h with
  | spawn hunstarted =>
      simp [Progress.forecast, hunstarted]
  | move htasks hmoves =>
      have hending := hmoves.ending_eq hservice
      simp [Progress.forecast, htasks, Task.forecast, hending]
  | collect duration hunstarted htasks hending =>
      have hforecast := Task.forecast_of_ending (.byPath answers) hending
      simp [Progress.forecast, htasks, hforecast]

/-- A call to come becomes one that has been made. -/
theorem Step.allCalls_perm (hservice : service.AnswersBy answers) {c c' : Progress σ}
    (h : Step service v c c') :
    (c'.allCalls (.byPath answers) v).Perm (c.allCalls (.byPath answers) v) := by
  cases h with
  | spawn hunstarted => simp [Progress.allCalls, hunstarted]
  | move htasks hmoves =>
      have hcalls := hmoves.callsLeft_eq hservice
      simp only [Progress.allCalls, htasks, List.flatMap_append, List.flatMap_cons, hcalls,
        List.append_assoc]
      exact List.Perm.append_left _ (List.perm_append_comm_assoc _ _ _)
  | collect duration hunstarted htasks hending =>
      have hleft := (Task.nothingLeft_of_ending (.byPath answers) hending).1
      simp [Progress.allCalls, htasks, hleft]

/-- Every step is one of those that were left. -/
theorem Step.stepsLeft_eq (hservice : service.AnswersBy answers) {c c' : Progress σ}
    (h : Step service v c c') :
    c.stepsLeft (.byPath answers) v = c'.stepsLeft (.byPath answers) v + 1 := by
  cases h with
  | spawn hunstarted =>
      simp only [Progress.stepsLeft, hunstarted, List.map_cons, List.length_cons,
        List.append_assoc, List.singleton_append]
      omega
  | move htasks hmoves =>
      have hsteps := hmoves.stepsLeft_eq hservice
      simp only [Progress.stepsLeft, htasks, List.map_append, List.map_cons, List.sum_append,
        List.sum_cons, hsteps]
      omega
  | collect duration hunstarted htasks hending =>
      have hleft := (Task.nothingLeft_of_ending (.byPath answers) hending).2
      simp only [Progress.stepsLeft, htasks, List.cons_append, List.map_cons, List.sum_cons, hleft]
      omega

/-! ### Runs -/

theorem Reaches.forecast_eq (hservice : service.AnswersBy answers) {c c' : Progress σ}
    (h : Reaches service v c c') :
    c'.forecast (.byPath answers) v = c.forecast (.byPath answers) v := by
  induction h with
  | refl => rfl
  | tail _ hstep ih => rw [hstep.forecast_eq hservice, ih]

theorem Reaches.allCalls_perm (hservice : service.AnswersBy answers) {c c' : Progress σ}
    (h : Reaches service v c c') :
    (c'.allCalls (.byPath answers) v).Perm (c.allCalls (.byPath answers) v) := by
  induction h with
  | refl => exact .refl _
  | tail _ hstep ih => exact (hstep.allCalls_perm hservice).trans ih

/-- No scrape goes on forever. -/
theorem acc_step (hservice : service.AnswersBy answers) (c : Progress σ) :
    Acc (fun c' c => Step service v c c') c := by
  -- by induction on the number of steps left, which each step lowers by one
  generalize hn : c.stepsLeft (.byPath answers) v = n
  induction n generalizing c with
  | zero =>
      refine .intro c fun c' hstep => ?_
      have := hstep.stepsLeft_eq hservice
      omega
  | succ n ih =>
      refine .intro c fun c' hstep => ih c' ?_
      have := hstep.stepsLeft_eq hservice
      omega

theorem Task.ended_or_moves (service : Service σ) (state : σ) (t : Task) :
    (∃ ending, t.ending? = some ending) ∨
      ∃ calls a state', t.activity.Moves service state calls a state' := by
  obtain ⟨name, activity⟩ := t
  cases activity with
  | waiting endpoint next =>
      right
      cases hreply : service state endpoint with
      | mk reply state' =>
          cases reply with
          | crash => exact ⟨_, _, _, .crashed next hreply⟩
          | answer answer => exact ⟨_, _, _, .answered next hreply⟩
  | active rest =>
      cases rest with
      | done outcome => exact .inl ⟨_, rfl⟩
      | fail error => exact .inl ⟨_, rfl⟩
      | crash => exact .inl ⟨_, rfl⟩
      | ask endpoint next => exact .inr ⟨_, _, _, .call endpoint next state⟩
      | note event rest => exact .inr ⟨_, _, _, .noted event rest state⟩

/-- A scrape that is not finished is never stuck: its first task can go on if nothing else can. -/
theorem finished_or_step (service : Service σ) (v : Version) (c : Progress σ) :
    c.Finished ∨ ∃ c', Step service v c c' := by
  cases hunstarted : c.unstarted with
  | cons p rest => exact .inr ⟨_, .spawn hunstarted⟩
  | nil =>
      cases htasks : c.tasks with
      | nil => exact .inl ⟨hunstarted, htasks⟩
      | cons t rest =>
          right
          have hfirst := t.ended_or_moves service c.state
          rcases hfirst with ⟨ending, hending⟩ | ⟨calls, a, state', hmoves⟩
          · exact ⟨_, .collect .zero hunstarted htasks hending⟩
          · have hsplit : c.tasks = [] ++ t :: rest := htasks
            exact ⟨_, .move hsplit hmoves⟩

theorem Progress.Finished.not_step {c c' : Progress σ} (h : c.Finished) :
    ¬ Step service v c c' := by
  intro hstep
  cases hstep with
  | spawn hunstarted => rw [h.unstarted] at hunstarted; cases hunstarted
  | move htasks => rw [h.tasks] at htasks; simp at htasks
  | collect _ _ htasks => rw [h.tasks] at htasks; cases htasks

theorem exists_reaches_finished (hservice : service.AnswersBy answers) (c : Progress σ) :
    ∃ c', Reaches service v c c' ∧ c'.Finished := by
  induction acc_step (v := v) hservice c with
  | intro c _ ih =>
      rcases finished_or_step service v c with hfinished | ⟨c', hstep⟩
      · exact ⟨c, .refl, hfinished⟩
      · obtain ⟨c'', hreaches, hfinished⟩ := ih c' hstep
        exact ⟨c'', .head hstep hreaches, hfinished⟩

end Steps

/-! ### Finished scrapes -/

section Finished

variable {service : Service σ} {answers : String → Reply} {v : Version} {state : σ}
  {probes : List Probe} {c : Progress σ}

theorem forecast_start (fetcher : Fetcher) (v : Version) (state : σ) (probes : List Probe)
    (clock : Clock) :
    (Progress.start state probes).forecast fetcher v =
      (run clock fetcher v probes).1.map ProbeReport.undated := by
  rw [map_undated_run]
  simp [Progress.start, Progress.forecast, Task.forecast, Task.ofProbe, Activity.rest]

theorem allCalls_start (fetcher : Fetcher) (v : Version) (state : σ) (probes : List Probe)
    (clock : Clock) :
    (Progress.start state probes).allCalls fetcher v = (run clock fetcher v probes).2 := by
  simp [Progress.start, Progress.allCalls, run, calls, transcripts, Task.ofProbe,
    Activity.callsLeft, List.flatMap_map]

/-- A finished scrape has the reports of one that goes probe by probe. -/
theorem Progress.Finished.reports_eq (hservice : service.AnswersBy answers) (h : c.Finished)
    (hreaches : Reaches service v (.start state probes) c) (clock : Clock) :
    c.reports.map ProbeReport.undated =
      (run clock (.byPath answers) v probes).1.map ProbeReport.undated := by
  rw [← forecast_start, ← hreaches.forecast_eq hservice]
  simp [Progress.forecast, h.unstarted, h.tasks]

theorem Progress.Finished.calls_perm (hservice : service.AnswersBy answers) (h : c.Finished)
    (hreaches : Reaches service v (.start state probes) c) (clock : Clock) :
    c.calls.Perm (run clock (.byPath answers) v probes).2 := by
  rw [← allCalls_start _ _ state]
  simpa [Progress.allCalls, h.unstarted, h.tasks] using hreaches.allCalls_perm hservice

/-- The entry of a probe in a finished scrape. -/
theorem Progress.Finished.getElem?_reports (hservice : service.AnswersBy answers)
    (h : c.Finished) (hreaches : Reaches service v (.start state probes) c) {i : Nat} {p : Probe}
    (hp : probes[i]? = some p) :
    c.reports[i]?.map ProbeReport.undated =
      some (.ofEnding p.name .zero ((p.invoke v).run (.byPath answers)).ending) := by
  rw [← List.getElem?_map, h.reports_eq hservice hreaches fun _ => .zero, map_undated_run,
    List.getElem?_map, hp, Option.map_some]

/-- The outcomes of a finished scrape are those of the probes, each on its own. -/
theorem Progress.Finished.map_outcome_eq (hservice : service.AnswersBy answers) (h : c.Finished)
    (hreaches : Reaches service v (.start state probes) c) :
    c.reports.map ProbeReport.outcome = probes.map (Probe.outcome (.byPath answers) v) := by
  have hreports := congrArg (List.map ProbeReport.outcome)
    (h.reports_eq hservice hreaches fun _ => .zero)
  rw [List.map_map, List.map_map] at hreports
  exact hreports.trans (map_outcome_run _ _ _ _)

end Finished

/--
However the tasks of a scrape interleave, it comes to an end, and its report has
one entry for each probe, in order, with what the probe comes to on its own. So
an entry depends on its own probe, and on the answers to the calls of that probe
alone: another scrape that shares them has the same entry in the same place.
-/
theorem report_of_interleaving {σ : Type} {service : Service σ} {answers : String → Reply}
    (hservice : service.AnswersBy answers) (v : Version) (probes : List Probe) (state : σ) :
    Acc (fun c' c => Step service v c c') (.start state probes) ∧
      (∀ c : Progress σ, (∀ c', ¬ Step service v c c') ↔ c.Finished) ∧
      ∀ c, Reaches service v (.start state probes) c → c.Finished →
        c.reports.map ProbeReport.name = probes.map Probe.name ∧
        c.reports.map ProbeReport.outcome = probes.map (Probe.outcome (.byPath answers) v) ∧
        (∀ clock, c.reports.map ProbeReport.undated =
          (run clock (.byPath answers) v probes).1.map ProbeReport.undated) ∧
        (∀ clock, c.calls.Perm (run clock (.byPath answers) v probes).2) ∧
        (c.reports.allOk = true ↔ c.reports.failed = []) ∧
        c.reports.failed =
          (probes.filter fun p => !(p.outcome (.byPath answers) v).ok).map Probe.name ∧
        ∀ (τ : Type) (service' : Service τ) (answers' : String → Reply) (state' : τ)
          (probes' : List Probe) (c' : Progress τ) (i : Nat) (p : Probe),
          service'.AnswersBy answers' → Reaches service' v (.start state' probes') c' →
          c'.Finished → probes[i]? = some p → probes'[i]? = some p →
          (∀ e ∈ ((p.invoke v).run (.byPath answers)).calls, answers' e.path = answers e.path) →
          c'.reports[i]?.map ProbeReport.undated = c.reports[i]?.map ProbeReport.undated := by
  refine ⟨acc_step hservice _, fun c => ⟨fun hstuck => ?_, fun h _ => h.not_step⟩, ?_⟩
  · rcases finished_or_step service v c with h | ⟨c', hstep⟩
    · exact h
    · exact absurd hstep (hstuck c')
  intro c hreaches hfinished
  have hreports := hfinished.reports_eq hservice hreaches
  have hnames : c.reports.map ProbeReport.name = probes.map Probe.name := by
    have h := congrArg (List.map ProbeReport.name) (hreports fun _ => .zero)
    rw [List.map_map, List.map_map] at h
    exact h.trans (map_name_run _ _ _ _)
  have houtcomes := hfinished.map_outcome_eq hservice hreaches
  refine ⟨hnames, houtcomes, hreports, hfinished.calls_perm hservice hreaches,
    c.reports.allOk_iff_failed_eq_nil, ScrapeReport.failed_eq hnames houtcomes, ?_⟩
  intro τ service' answers' state' probes' c' i p hservice' hreaches' hfinished' hp hp' hanswers
  have hrun : (p.invoke v).run (.byPath answers') = (p.invoke v).run (.byPath answers) :=
    Dialogue.run_congr fun e he => (hanswers e he).symm
  rw [hfinished.getElem?_reports hservice hreaches hp,
    hfinished'.getElem?_reports hservice' hreaches' hp', hrun]

/-- A service that counts its calls, knows one path and crashes on all others. -/
def tally : Service Nat := fun n endpoint =>
  (if endpoint.path = "api/v2/monitor/system/sandbox/connection" then .answer (.ok (.object []))
    else .crash, n + 1)

/-- A probe that crashes beside one that succeeds and one whose call crashes. -/
def mixedProbes : List Probe :=
  [⟨"Test/Crash", fun _ => .crash⟩, .sandboxConnection, .sandboxStats]

theorem report_of_interleaving_tally :
    tally.AnswersBy (fun path => (tally 0 ⟨path, ""⟩).1) ∧
      ∃ c, Reaches tally ⟨7, 4⟩ (.start 0 mixedProbes) c ∧ c.Finished ∧
        c.reports.failed = ["Test/Crash", "System/SandboxStats"] := by
  have hservice : tally.AnswersBy fun path => (tally 0 ⟨path, ""⟩).1 := fun _ _ => rfl
  obtain ⟨c, hreaches, hfinished⟩ :=
    exists_reaches_finished (v := ⟨7, 4⟩) hservice (.start 0 mixedProbes)
  obtain ⟨-, -, hall⟩ := report_of_interleaving hservice ⟨7, 4⟩ mixedProbes 0
  obtain ⟨-, -, -, -, -, hfailed, -⟩ := hall c hreaches hfinished
  exact ⟨hservice, c, hreaches, hfinished, hfailed.trans rfl⟩

end Scrape

end FirewallExporter
