import FirewallExporter.Proofs.Exporter.Directory
import FirewallExporter.Proofs.Exporter.Hosts
import FirewallExporter.Proofs.Exporter.Routing

/-!
Sessions of an exporter: one request after another, all answered about the same
devices, which keep their states in between. One exchange leaves all devices as
they were but for the one it asks about; what a session leaves follows by
induction over its exchanges.
-/

namespace FirewallExporter

open Scrape

/-- What is answered once samples are put together, or cannot be. -/
def Response.ofAssembly : Except ArityError (List Sample) → Response
  | .ok samples => .ofSamples samples
  | .error error => .plain 500 error.message

theorem Response.EqUntimed.receives {a b : Response} (h : a.EqUntimed b) (r : Router.Request) :
    (r.receives a).EqUntimed (r.receives b) := by
  unfold Router.Request.receives
  split
  · exact h.withoutBody
  · exact h

namespace Router

variable {σ : Type}

/-- The devices of an exporter as they answer in a world. -/
def directory (hosts : List (Host σ)) (w : World σ) : Directory := .ofList (hosts.map (·.target w))

/--
How a request is answered, and the world after it. Either it is about no device
and nobody is asked, or the device it is about is scraped.
-/
inductive Serves (hosts : List (Host σ)) (w : World σ) (r : Request) :
    Response → World σ → Prop where
  | atOnce (clock : Clock) (htarget : (answer clock (directory hosts w) r).target = none) :
      Serves hosts w r (answer clock (directory hosts w) r).response w
  | scraped (clock : Clock) {h : Host σ} {result : Except ArityError (List Sample)}
      {w' : World σ} (hmem : h ∈ hosts)
      (htarget : (answer clock (directory hosts w) r).target = some (h.target w))
      (hserves : h.Serves w result w') :
      Serves hosts w r (r.receives (.ofAssembly result)) w'

/-- A request with its response, and the worlds before and after it. -/
structure Exchange (σ : Type) where
  request : Request
  response : Response
  before : World σ
  after : World σ

/-- A session from one world to another. -/
inductive Session (hosts : List (Host σ)) : World σ → List (Exchange σ) → World σ → Prop where
  | nil (w : World σ) : Session hosts w [] w
  | cons {r : Request} {response : Response} {w w' w'' : World σ} {rest : List (Exchange σ)}
      (hserves : Serves hosts w r response w') (hrest : Session hosts w' rest w'') :
      Session hosts w (⟨r, response, w, w'⟩ :: rest) w''

/-- An exchange by the kind of its request; the world changes only if a device is asked. -/
structure Exchange.Routed (hosts : List (Host σ)) (x : Exchange σ) : Prop where
  unknownPath : x.request.path ≠ "/probe" → x.request.path ≠ "/healthz" →
    x.response.status = 404 ∧ x.after = x.before
  otherMethod : x.request.path = "/probe" ∨ x.request.path = "/healthz" → ¬ x.request.Reads →
    x.response.status = 405 ∧ x.after = x.before
  health : x.request.path = "/healthz" → x.request.Reads →
    x.response = x.request.receives (.plain 200 "ok") ∧ x.after = x.before
  noTarget : x.request.path = "/probe" → x.request.Reads →
    x.request.targets = [] ∨ x.request.targets = [""] ∨ 2 ≤ x.request.targets.length →
    x.response.status = 400 ∧ x.after = x.before
  unknownTarget : x.request.path = "/probe" → x.request.Reads → ∀ name, name ≠ "" →
    x.request.targets = [name] → name ∉ hosts.map Host.name →
    x.response.status = 404 ∧ x.after = x.before
  knownTarget : x.request.path = "/probe" → x.request.Reads → ∀ name, name ≠ "" →
    x.request.targets = [name] → name ∈ hosts.map Host.name →
    x.response.status = 200 ∧ x.before.AgreesBut name x.after

variable {hosts : List (Host σ)} {w w' : World σ} {r : Request} {response : Response}

theorem map_name_target (hosts : List (Host σ)) (w : World σ) :
    (hosts.map (·.target w)).map Target.name = hosts.map Host.name := by
  rw [List.map_map]
  rfl

theorem find?_directory_of_mem (hnames : (hosts.map Host.name).Nodup) {h : Host σ}
    (hmem : h ∈ hosts) (w : World σ) : (directory hosts w).find? h.name = some (h.target w) := by
  rw [← map_name_target hosts w] at hnames
  exact (Directory.find?_ofList_eq_some hnames).mpr ⟨List.mem_map_of_mem hmem, rfl⟩

theorem find?_directory_of_not_mem {name : String} (h : name ∉ hosts.map Host.name)
    (w : World σ) : (directory hosts w).find? name = none := by
  rw [← Option.not_isSome_iff_eq_none, directory, Directory.isSome_find?_ofList, map_name_target]
  exact h

/-- A request is about a device that the exporter knows, or about none of them. -/
theorem known_or_unknown (hosts : List (Host σ)) (r : Request) :
    (∃ h ∈ hosts, r.Scrapes h.name) ∨ ∀ name, r.Scrapes name → name ∉ hosts.map Host.name := by
  by_cases hknown : ∃ h ∈ hosts, r.Scrapes h.name
  · exact .inl hknown
  · refine .inr fun name hr hname => hknown ?_
    obtain ⟨h, hmem, rfl⟩ := List.mem_map.mp hname
    exact ⟨h, hmem, hr⟩

/-! ### One exchange -/

/-- A request for a device that the exporter knows leads to a scrape of that device. -/
theorem Serves.of_scrapes (hnames : (hosts.map Host.name).Nodup) {h : Host σ} (hmem : h ∈ hosts)
    (hr : r.Scrapes h.name) (hserves : Serves hosts w r response w') :
    ∃ samples, h.Serves w (.ok samples) w' ∧ response = r.receives (.ofSamples samples) := by
  have hfind := find?_directory_of_mem hnames hmem w
  cases hserves with
  | atOnce clock htarget =>
      have hnone := target_answer_eq_none_iff.mp htarget h.name hr
      cases hfind.symm.trans hnone
  | @scraped clock h' result _ hmem' htarget hscrape =>
      obtain ⟨name, hr', hfind'⟩ := target_answer_eq_some_iff.mp htarget
      -- names are distinct, so that the host that is scraped is the one that was asked for
      have hname : name = h.name := by
        have hchoice := hr.choice.symm.trans hr'.choice
        cases hchoice
        rfl
      have hsame : h = h' := by
        rw [hname] at hfind'
        have htargets := Option.some_inj.mp (hfind.symm.trans hfind')
        exact List.inj_on_of_nodup_map hnames hmem hmem' (congrArg Target.name htargets)
      subst hsame
      obtain ⟨samples, rfl⟩ := hscrape.eq_ok
      exact ⟨samples, hscrape, rfl⟩

/-- Any other request is answered as it would be without any device, and nobody is asked. -/
theorem Serves.of_unknown (hunknown : ∀ name, r.Scrapes name → name ∉ hosts.map Host.name)
    (hserves : Serves hosts w r response w') :
    w' = w ∧ ∀ clock (d : Directory), (∀ name, r.Scrapes name → d.find? name = none) →
      answer clock d r = { response } := by
  have hnone : ∀ name, r.Scrapes name → (directory hosts w).find? name = none :=
    fun name hr => find?_directory_of_not_mem (hunknown name hr) w
  cases hserves with
  | atOnce clock htarget =>
      obtain ⟨response, hanswer⟩ := exists_answer_of_unknown r
      refine ⟨rfl, fun clock' d hd => ?_⟩
      rw [hanswer clock' d hd, hanswer clock _ hnone]
  | scraped clock hmem htarget hscrape =>
      have hno := (@target_answer_eq_none_iff clock _ _).mpr hnone
      cases hno.symm.trans htarget

/-- There is an answer to every request, in every world. -/
theorem exists_serves (hnames : (hosts.map Host.name).Nodup) (w : World σ) (r : Request) :
    ∃ response w', Serves hosts w r response w' := by
  rcases known_or_unknown hosts r with ⟨h, hmem, hr⟩ | hunknown
  · obtain ⟨result, w', hserves⟩ := h.exists_serves w
    have htarget : (answer (fun _ => .zero) (directory hosts w) r).target = some (h.target w) :=
      target_answer_eq_some_iff.mpr ⟨h.name, hr, find?_directory_of_mem hnames hmem w⟩
    exact ⟨_, w', .scraped _ hmem htarget hserves⟩
  · have htarget : (answer (fun _ => .zero) (directory hosts w) r).target = none :=
      target_answer_eq_none_iff.mpr fun name hr => find?_directory_of_not_mem (hunknown name hr) w
    exact ⟨_, w, .atOnce _ htarget⟩

/-- What becomes of one request, whatever it is. -/
theorem Serves.routed (hnames : (hosts.map Host.name).Nodup)
    (hserves : Serves hosts w r response w') : Exchange.Routed hosts ⟨r, response, w, w'⟩ := by
  -- requests about no device are answered as by an exporter that has none
  have hidle : (∀ name, r.Scrapes name → name ∉ hosts.map Host.name) → w' = w ∧
      response = (answer (fun _ => .zero) ⟨[]⟩ r).response := by
    intro hunknown
    obtain ⟨hworld, hanswer⟩ := hserves.of_unknown hunknown
    rw [hanswer (fun _ => .zero) ⟨[]⟩ fun _ _ => rfl]
    exact ⟨hworld, rfl⟩
  refine { unknownPath := ?_, otherMethod := ?_, health := ?_, noTarget := ?_,
           unknownTarget := ?_, knownTarget := ?_ }
  · intro hprobe hhealth
    obtain ⟨rfl, rfl⟩ := hidle fun name hr => absurd (Request.scrapes_iff.mp hr).1 hprobe
    rw [answer_of_path hprobe hhealth]
    exact ⟨rfl, rfl⟩
  · intro hpath hmethod
    obtain ⟨rfl, rfl⟩ := hidle fun name hr => absurd hr.method hmethod
    rw [answer_of_method hpath hmethod]
    exact ⟨rfl, rfl⟩
  · intro hpath hreads
    have hprobe : r.path ≠ "/probe" := by
      rw [show r.path = "/healthz" from hpath]
      decide
    obtain ⟨rfl, rfl⟩ := hidle fun name hr => absurd (Request.scrapes_iff.mp hr).1 hprobe
    rw [answer_of_health hpath hreads]
    exact ⟨rfl, rfl⟩
  · intro hpath hreads htargets
    have hchoice := choose_ne_named_iff.mpr htargets
    obtain ⟨rfl, rfl⟩ := hidle fun name hr => absurd hr.choice (hchoice name)
    rw [answer_of_unknown hpath hreads fun _ _ => rfl]
    exact ⟨(r.status_receives _).trans (status_refusal_of_not_named hchoice), rfl⟩
  · intro hpath hreads name hname htargets hunknown
    have hr : r.Scrapes name := Request.scrapes_iff.mpr ⟨hpath, hreads, htargets, hname⟩
    obtain ⟨rfl, rfl⟩ := hidle fun name' hr' => by
      cases hr.choice.symm.trans hr'.choice
      exact hunknown
    rw [answer_of_unknown hpath hreads fun _ _ => rfl]
    exact ⟨(r.status_receives _).trans (status_refusal_of_named hr.choice), rfl⟩
  · intro hpath hreads name hname htargets hknown
    obtain ⟨h, hmem, rfl⟩ := List.mem_map.mp hknown
    have hr : r.Scrapes h.name := Request.scrapes_iff.mpr ⟨hpath, hreads, htargets, hname⟩
    obtain ⟨samples, hscrape, rfl⟩ := hserves.of_scrapes hnames hmem hr
    exact ⟨r.status_receives _, hscrape.agreesBut⟩

/-- The answer goes by the request and the one device it is about, time aside. -/
theorem Serves.eqUntimed (hnames : (hosts.map Host.name).Nodup)
    (hprobes : ∀ h ∈ hosts, ∀ p ∈ h.probes, p ∈ Probe.catalogue)
    {answers : String → String → Reply}
    (hanswers : ∀ h ∈ hosts, h.service.AnswersBy (answers h.name))
    (hserves : Serves hosts w r response w') (clock : Clock) {d : Directory}
    (hd : ∀ name, r.Scrapes name → d.find? name =
      (hosts.find? (·.name == name)).map fun h => h.byPath (answers name)) :
    response.EqUntimed (answer clock d r).response := by
  rcases known_or_unknown hosts r with ⟨h, hmem, hr⟩ | hunknown
  · obtain ⟨samples, hscrape, rfl⟩ := hserves.of_scrapes hnames hmem hr
    have hhost := (find?_name_eq_some_iff hnames).mpr ⟨hmem, rfl⟩
    have hfind := hd h.name hr
    rw [hhost, Option.map_some] at hfind
    rw [answer_of_scrapes hr hfind]
    exact (hscrape.eqUntimed (hanswers h hmem) (hprobes h hmem) clock).receives r
  · obtain ⟨-, hanswer⟩ := hserves.of_unknown hunknown
    have hnone : ∀ name, r.Scrapes name → d.find? name = none := by
      intro name hr
      have hhost : hosts.find? (·.name == name) = none := by
        rw [List.find?_eq_none]
        intro h hmem hname
        exact hunknown name hr (List.mem_map.mpr ⟨h, hmem, beq_iff_eq.mp hname⟩)
      rw [hd name hr, hhost, Option.map_none]
    rw [hanswer clock d hnone]
    exact ⟨rfl, rfl, rfl⟩

/-! ### Sessions -/

/-- What holds of every exchange by itself holds of those of a session. -/
theorem Session.of_mem {log : List (Exchange σ)} (h : Session hosts w log w') {x : Exchange σ}
    (hx : x ∈ log) : Serves hosts x.before x.request x.response x.after := by
  induction h with
  | nil => cases hx
  | cons hserves _ ih =>
      rcases List.mem_cons.mp hx with rfl | hx
      · exact hserves
      · exact ih hx

theorem exists_session (hnames : (hosts.map Host.name).Nodup) (requests : List Request)
    (w : World σ) :
    ∃ log w', Session hosts w log w' ∧ log.map Exchange.request = requests := by
  induction requests generalizing w with
  | nil => exact ⟨[], w, .nil w, rfl⟩
  | cons r requests ih =>
      obtain ⟨response, w₁, hserves⟩ := exists_serves hnames w r
      obtain ⟨log, w₂, hsession, hlog⟩ := ih w₁
      refine ⟨_, w₂, .cons hserves hsession, ?_⟩
      rw [List.map_cons, hlog]

/-- A device that no request of a session is about is left alone by the session. -/
theorem Session.untouched (hnames : (hosts.map Host.name).Nodup) {log : List (Exchange σ)}
    (h : Session hosts w log w') {name : String} (hlog : ∀ x ∈ log, ¬ x.request.Scrapes name) :
    w'.state name = w.state name ∧ w'.received name = w.received name := by
  induction h with
  | nil => exact ⟨rfl, rfl⟩
  | @cons r response w w₁ w₂ rest hserves _ ih =>
      obtain ⟨hr, hrest⟩ := List.forall_mem_cons.mp hlog
      obtain ⟨hstate, hreceived⟩ := ih hrest
      have hfirst : w₁.state name = w.state name ∧ w₁.received name = w.received name := by
        rcases known_or_unknown hosts r with ⟨h, hmem, hr'⟩ | hunknown
        · obtain ⟨samples, hscrape, -⟩ := hserves.of_scrapes hnames hmem hr'
          have hne : name ≠ h.name := by
            rintro rfl
            exact hr hr'
          exact ⟨hscrape.agreesBut.state name hne, hscrape.agreesBut.received name hne⟩
        · obtain ⟨rfl, -⟩ := hserves.of_unknown hunknown
          exact ⟨rfl, rfl⟩
      exact ⟨hstate.trans hfirst.1, hreceived.trans hfirst.2⟩

/--
Requests are routed exactly, and touch the one device they are about. Any number
of requests in turn gets answers, as no scrape goes on forever or is stuck before
its end. Each of them is answered by its kind, and a device is asked only by a
request about it: if it is known, it is asked and the answer is a success. A
device that no request is about is left as it was. If the devices go by the path,
an answer is, time aside, the one that an exporter gives which has been asked
nothing before and which agrees about the one device that the request is about.
-/
theorem session_routed (hnames : (hosts.map Host.name).Nodup)
    (hprobes : ∀ h ∈ hosts, ∀ p ∈ h.probes, p ∈ Probe.catalogue) :
    (∀ w requests, ∃ log w', Session hosts w log w' ∧ log.map Exchange.request = requests) ∧
      (∀ h ∈ hosts, ∀ v, (WellFounded fun c' c : Progress (World σ) => Step h.call v c c') ∧
        ∀ c : Progress (World σ), (∀ c', ¬ Step h.call v c c') → c.Finished) ∧
      ∀ w log w', Session hosts w log w' →
        (∀ x ∈ log, x.Routed hosts) ∧
        (∀ name, (∀ x ∈ log, ¬ x.request.Scrapes name) →
          w'.state name = w.state name ∧ w'.received name = w.received name) ∧
        ∀ answers : String → String → Reply,
          (∀ h ∈ hosts, h.service.AnswersBy (answers h.name)) →
          ∀ x ∈ log, ∀ (clock : Clock) (d : Directory),
            (∀ name, x.request.Scrapes name → d.find? name =
              (hosts.find? (·.name == name)).map fun h => h.byPath (answers name)) →
            x.response.EqUntimed (answer clock d x.request).response := by
  refine ⟨fun w requests => exists_session hnames requests w, fun h _ v =>
    ⟨wellFounded_step h.call v, fun c hstuck => ?_⟩, fun w log w' hsession =>
    ⟨fun x hx => ?_, fun name hlog => hsession.untouched hnames hlog, ?_⟩⟩
  · rcases finished_or_step h.call v c with hfinished | ⟨c', hstep⟩
    · exact hfinished
    · exact absurd hstep (hstuck c')
  · exact (hsession.of_mem hx).routed hnames
  · intro answers hanswers x hx clock d hd
    exact (hsession.of_mem hx).eqUntimed hnames hprobes hanswers clock hd

/-- Two devices that count their calls. -/
def edgeAndCore : List (Host Nat) :=
  [{ name := "edge", service := tally, version := some ⟨7, 4⟩,
     probes := [.sandboxConnection] },
   { name := "core", service := tally, version := none, probes := [] }]

theorem session_routed_edgeAndCore :
    ∃ log w', Session edgeAndCore ⟨fun _ => 0, fun _ => []⟩ log w' ∧
      log.map Exchange.request = [⟨"GET", "/probe?target=edge"⟩, ⟨"HEAD", "/probe?target="⟩] ∧
      log.map (·.response.status) = [200, 400] ∧ w'.received "core" = [] := by
  have hnames : (edgeAndCore.map Host.name).Nodup := by decide
  have hprobes : ∀ h ∈ edgeAndCore, ∀ p ∈ h.probes, p ∈ Probe.catalogue := by
    simp [edgeAndCore, Probe.catalogue]
  obtain ⟨hserved, -, hall⟩ := session_routed hnames hprobes
  obtain ⟨log, w', hsession, hlog⟩ := hserved ⟨fun _ => 0, fun _ => []⟩
    [⟨"GET", "/probe?target=edge"⟩, ⟨"HEAD", "/probe?target="⟩]
  obtain ⟨hrouted, huntouched, -⟩ := hall _ _ _ hsession
  obtain ⟨x, rest, rfl, hx, hrest⟩ := List.map_eq_cons_iff.mp hlog
  obtain ⟨y, rest, rfl, hy, hrest⟩ := List.map_eq_cons_iff.mp hrest
  cases List.map_eq_nil_iff.mp hrest
  have hedge : x.request.path = "/probe" ∧ x.request.targets = ["edge"] := by
    rw [hx]
    decide +kernel
  have hempty : y.request.path = "/probe" ∧ y.request.targets = [""] := by
    rw [hy]
    decide +kernel
  have hcore : ∀ z ∈ [x, y], ¬ z.request.Scrapes "core" := by
    intro z hz hr
    obtain ⟨-, -, htargets, -⟩ := Request.scrapes_iff.mp hr
    rcases List.mem_pair.mp hz with rfl | rfl
    · exact absurd (hedge.2.symm.trans htargets) (by decide)
    · exact absurd (hempty.2.symm.trans htargets) (by decide)
  have hfirst := (hrouted x (by simp)).knownTarget hedge.1 (.inl (by rw [hx])) "edge" (by decide)
    hedge.2 (by decide)
  have hsecond := (hrouted y (by simp)).noTarget hempty.1 (.inr (by rw [hy])) (.inr (.inl hempty.2))
  refine ⟨_, w', hsession, by simp [hx, hy], ?_, (huntouched "core" hcore).2⟩
  rw [List.map_cons, List.map_cons, hfirst.1, hsecond.1]
  rfl

end Router

end FirewallExporter
