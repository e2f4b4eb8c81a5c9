import FirewallExporter.Proofs.Exporter.Requests

/-!
Which requests are answered by a scrape, and what the others are answered. Only a
request that may read the one resource, with a single name that is not empty, can
be about a target; for all others the targets have no say in the answer.
-/

namespace FirewallExporter.Router

/-- The path that a request is for. -/
def Request.path (r : Request) : String := (Resource.ofUri r.uri).path

/-- The decoded values of the parameter `target` in the query of a request, in order. -/
def Request.targets (r : Request) : List String :=
  Form.values "target" (Form.parse ((Resource.ofUri r.uri).query.getD ""))

def Request.Reads (r : Request) : Prop := r.method = "GET" ∨ r.method = "HEAD"

/-- What is sent of a response; nobody who asks for the head alone gets a body. -/
def Request.receives (r : Request) (response : Response) : Response :=
  if r.method = "HEAD" then response.withoutBody else response

theorem Request.status_receives (r : Request) (response : Response) :
    (r.receives response).status = response.status := by
  unfold receives
  split <;> rfl

theorem route?_eq_some_probe {path : String} : route? path = some .probe ↔ path = "/probe" := by
  unfold route?
  split <;> simp_all

theorem route?_eq_some_health {path : String} : route? path = some .health ↔ path = "/healthz" := by
  unfold route?
  split <;> simp_all

theorem route?_eq_none {path : String} :
    route? path = none ↔ path ≠ "/probe" ∧ path ≠ "/healthz" := by
  unfold route?
  split <;> simp_all

theorem choose_eq_named {query name : String} :
    choose query = .named name ↔ Form.values "target" (Form.parse query) = [name] ∧ name ≠ "" := by
  rw [choose]
  generalize Form.values "target" (Form.parse query) = values
  rcases values with _ | ⟨value, _ | ⟨value', rest⟩⟩
  · simp
  · by_cases hempty : value = ""
    · subst hempty
      refine ⟨fun h => by simp at h, ?_⟩
      rintro ⟨h, hne⟩
      exact absurd (List.singleton_inj.mp h).symm hne
    · simp only [String.isEmpty_iff, hempty, if_false, Choice.named.injEq, List.cons.injEq,
        and_true]
      refine ⟨?_, And.left⟩
      rintro rfl
      exact ⟨rfl, hempty⟩
  · simp

/-- A choice of no target: the parameter is absent or empty, or there are several. -/
theorem choose_ne_named_iff {query : String} :
    (∀ name, choose query ≠ .named name) ↔
      Form.values "target" (Form.parse query) = [] ∨
        Form.values "target" (Form.parse query) = [""] ∨
        2 ≤ (Form.values "target" (Form.parse query)).length := by
  simp only [ne_eq, choose_eq_named]
  generalize Form.values "target" (Form.parse query) = values
  rcases values with _ | ⟨value, _ | ⟨value', rest⟩⟩
  · simp
  · simp
  · simp

theorem Request.scrapes_iff {r : Request} {name : String} :
    r.Scrapes name ↔ r.path = "/probe" ∧ r.Reads ∧ r.targets = [name] ∧ name ≠ "" := by
  constructor
  · rintro ⟨hroute, hchoice, hmethod⟩
    exact ⟨route?_eq_some_probe.mp hroute, hmethod, choose_eq_named.mp hchoice⟩
  · rintro ⟨hpath, hmethod, htargets⟩
    exact ⟨route?_eq_some_probe.mpr hpath, choose_eq_named.mpr htargets, hmethod⟩

/-! ### Answers without a scrape -/

variable {clock : Scrape.Clock} {d : Directory} {r : Request}

theorem answer_of_path (h : r.path ≠ "/probe") (h' : r.path ≠ "/healthz") :
    answer clock d r = { response := .empty 404 } := by
  have hroute : route? (Resource.ofUri r.uri).path = none := route?_eq_none.mpr ⟨h, h'⟩
  simp only [answer, hroute]

theorem answer_of_method (hpath : r.path = "/probe" ∨ r.path = "/healthz") (hmethod : ¬ r.Reads) :
    answer clock d r = { response := .empty 405 } := by
  obtain ⟨hget, hhead⟩ := not_or.mp hmethod
  have hroute : ∃ route, route? (Resource.ofUri r.uri).path = some route := by
    rcases hpath with hprobe | hhealth
    · exact ⟨_, route?_eq_some_probe.mpr hprobe⟩
    · exact ⟨_, route?_eq_some_health.mpr hhealth⟩
  obtain ⟨route, hroute⟩ := hroute
  simp only [answer, hroute]

theorem answer_of_reads (hreads : r.Reads) {route : Route}
    (hroute : route? (Resource.ofUri r.uri).path = some route) {served : Served}
    (hserved : route.serve clock d ((Resource.ofUri r.uri).query.getD "") = served) :
    answer clock d r = { served with response := r.receives served.response } := by
  rcases hreads with hget | hhead
  · simp [answer, hroute, hget, hserved, Request.receives]
  · simp [answer, hroute, hhead, hserved, Request.receives, Served.withoutBody]

theorem answer_of_health (hpath : r.path = "/healthz") (hreads : r.Reads) :
    answer clock d r = { response := r.receives (.plain 200 "ok") } :=
  answer_of_reads hreads (route?_eq_some_health.mpr hpath) rfl

theorem answer_of_scrapes {name : String} {t : Target} (hr : r.Scrapes name)
    (hfind : d.find? name = some t) :
    answer clock d r =
      { serveTarget clock t with response := r.receives (serveTarget clock t).response } :=
  answer_of_reads hr.method hr.route (serveProbe_of_find hr.choice hfind)

/-- What a request for a scrape is answered if it names no target that is known. -/
def refusal (query : String) : Response :=
  match choose query with
  | .missing => .plain 400 missingText
  | .repeated => .plain 400 repeatedText
  | .named name => .plain 404 (unknownText name)

theorem status_refusal_of_named {query name : String} (h : choose query = .named name) :
    (refusal query).status = 404 := by
  rw [refusal, h]
  rfl

theorem status_refusal_of_not_named {query : String} (h : ∀ name, choose query ≠ .named name) :
    (refusal query).status = 400 := by
  rw [refusal]
  cases hchoice : choose query with
  | missing => rfl
  | repeated => rfl
  | named name => exact absurd hchoice (h name)

theorem serveProbe_of_unknown {query : String}
    (h : ∀ name, choose query = .named name → d.find? name = none) :
    serveProbe clock d query = { response := refusal query } := by
  rw [serveProbe, refusal]
  cases hchoice : choose query with
  | missing => rfl
  | repeated => rfl
  | named name => simp only [h name hchoice]

theorem answer_of_unknown (hpath : r.path = "/probe") (hreads : r.Reads)
    (h : ∀ name, r.Scrapes name → d.find? name = none) :
    answer clock d r =
      { response := r.receives (refusal ((Resource.ofUri r.uri).query.getD "")) } := by
  have hroute := route?_eq_some_probe.mpr hpath
  have hserved : Route.probe.serve clock d ((Resource.ofUri r.uri).query.getD "") =
      { response := refusal ((Resource.ofUri r.uri).query.getD "") } :=
    serveProbe_of_unknown fun name hchoice => h name ⟨hroute, hchoice, hreads⟩
  rw [answer_of_reads hreads hroute hserved]

/-- Unless a target is known by the name that is asked for, no target has a say in the answer. -/
theorem exists_answer_of_unknown (r : Request) :
    ∃ response, ∀ clock (d : Directory), (∀ name, r.Scrapes name → d.find? name = none) →
      answer clock d r = { response } := by
  by_cases hreads : r.Reads
  · by_cases hprobe : r.path = "/probe"
    · exact ⟨_, fun clock d hunknown => answer_of_unknown hprobe hreads hunknown⟩
    · by_cases hhealth : r.path = "/healthz"
      · exact ⟨_, fun clock d _ => answer_of_health hhealth hreads⟩
      · exact ⟨_, fun clock d _ => answer_of_path hprobe hhealth⟩
  · by_cases hpath : r.path = "/probe" ∨ r.path = "/healthz"
    · exact ⟨_, fun clock d _ => answer_of_method hpath hreads⟩
    · obtain ⟨hprobe, hhealth⟩ := not_or.mp hpath
      exact ⟨_, fun clock d _ => answer_of_path hprobe hhealth⟩

theorem target_answer_eq_some_iff {t : Target} :
    (answer clock d r).target = some t ↔ ∃ name, r.Scrapes name ∧ d.find? name = some t := by
  constructor
  · intro htarget
    by_cases hknown : ∃ name, r.Scrapes name ∧ (d.find? name).isSome
    · obtain ⟨name, hr, hsome⟩ := hknown
      obtain ⟨u, hu⟩ := Option.isSome_iff_exists.mp hsome
      rw [answer_of_scrapes hr hu] at htarget
      exact ⟨name, hr, hu.trans htarget⟩
    · obtain ⟨response, hanswer⟩ := exists_answer_of_unknown r
      have hunknown : ∀ name, r.Scrapes name → d.find? name = none := by
        intro name hr
        rw [← Option.not_isSome_iff_eq_none]
        exact fun hsome => hknown ⟨name, hr, hsome⟩
      rw [hanswer clock d hunknown] at htarget
      cases htarget
  · rintro ⟨name, hr, hfind⟩
    rw [answer_of_scrapes hr hfind]
    rfl

theorem target_answer_eq_none_iff :
    (answer clock d r).target = none ↔ ∀ name, r.Scrapes name → d.find? name = none := by
  constructor
  · intro htarget name hr
    cases hfind : d.find? name with
    | none => rfl
    | some t =>
        have hsome := (@target_answer_eq_some_iff clock d r t).mpr ⟨name, hr, hfind⟩
        rw [htarget] at hsome
        cases hsome
  · intro hunknown
    obtain ⟨response, hanswer⟩ := exists_answer_of_unknown r
    rw [hanswer clock d hunknown]

end FirewallExporter.Router
