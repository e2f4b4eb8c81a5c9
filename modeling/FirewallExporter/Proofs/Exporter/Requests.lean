import FirewallExporter.Exporter.Router
import FirewallExporter.Proofs.Exposition.Durations
import FirewallExporter.Proofs.Http.Form
import FirewallExporter.Proofs.Http.Uris

/-!
Requests that scrape a device, and when two answers to them are the same but for
the time that the probes took.
-/

namespace FirewallExporter

/-- Responses that differ in nothing but the values of durations. -/
structure Response.EqUntimed (a b : Response) : Prop where
  status : a.status = b.status
  contentType : a.contentType = b.contentType
  body : Exposition.untimed a.body = Exposition.untimed b.body

theorem Response.EqUntimed.withoutBody {a b : Response} (h : a.EqUntimed b) :
    a.withoutBody.EqUntimed b.withoutBody :=
  ⟨h.status, h.contentType, rfl⟩

theorem Response.eqUntimed_ofSamples {xs ys : List Sample} (hx : Exposition.AllWellNamed xs)
    (hy : Exposition.AllWellNamed ys) (h : xs.map Sample.untimed = ys.map Sample.untimed) :
    (ofSamples xs).EqUntimed (ofSamples ys) :=
  ⟨rfl, rfl, Exposition.untimed_render_congr hx hy h⟩

namespace Router

/-- A request for a scrape of the device of a name. -/
structure Request.Scrapes (r : Request) (name : String) : Prop where
  route : route? (Resource.ofUri r.uri).path = some .probe
  choice : choose ((Resource.ofUri r.uri).query.getD "") = .named name
  method : r.method = "GET" ∨ r.method = "HEAD"

/-- The request for a scrape of the device of a name. -/
def Request.forDevice (name : String) : Request :=
  { method := "GET"
    uri := "/probe?" ++ String.ofList (Form.field "target".toList name.toList) }

theorem Request.scrapes_forDevice {name : String} (h : name ≠ "") :
    (forDevice name).Scrapes name := by
  have hquery := @Form.not_mem_field '#' (by decide) (by decide) (by decide)
    "target".toList name.toList
  have huri : (forDevice name).uri.toList =
      "/probe".toList ++ '?' :: Form.field "target".toList name.toList := by
    simp [forDevice]
  have hresource : Resource.ofUri (forDevice name).uri =
      ⟨"/probe", some (String.ofList (Form.field "target".toList name.toList))⟩ := by
    have hsent : '#' ∉ "/probe".toList ++
        Uri.marked '?' (some (Form.field "target".toList name.toList)) := by
      simpa [Uri.marked] using hquery
    have hchars := @Resource.ofChars_eq _ _ none (by decide) hsent
    rw [String.ofList_toList] at hchars
    rw [Resource.ofUri, Resource.parse, huri]
    simpa [Uri.marked] using hchars
  refine { route := ?_, choice := ?_, method := .inl rfl }
  · rw [hresource]
    rfl
  · rw [hresource, Option.getD_some, choose, Form.parse_field]
    simp [Form.values, h]

variable {clock : Scrape.Clock} {d : Directory} {r : Request} {name : String} {t : Target}

theorem serveProbe_of_find {query : String} (hchoice : choose query = .named name)
    (hfind : d.find? name = some t) : serveProbe clock d query = serveTarget clock t := by
  rw [serveProbe, hchoice]
  simp only [hfind]

theorem answer_get (hr : r.Scrapes name) (hfind : d.find? name = some t) (hget : r.method = "GET") :
    answer clock d r = serveTarget clock t := by
  simp only [answer, hr.route, hget, Route.serve]
  exact serveProbe_of_find hr.choice hfind

theorem answer_head (hr : r.Scrapes name) (hfind : d.find? name = some t)
    (hhead : r.method = "HEAD") : answer clock d r = (serveTarget clock t).withoutBody := by
  simp only [answer, hr.route, hhead, Route.serve]
  exact congrArg Served.withoutBody (serveProbe_of_find hr.choice hfind)

theorem calls_answer (hr : r.Scrapes name) (hfind : d.find? name = some t) :
    (answer clock d r).calls = (t.scrape clock).calls := by
  rcases hr.method with hget | hhead
  · rw [answer_get hr hfind hget, serveTarget]
  · rw [answer_head hr hfind hhead, Served.withoutBody, serveTarget]

/-- Devices whose samples differ in time alone get answers that do so too. -/
theorem eqUntimed_answer {clock' : Scrape.Clock} {d' : Directory} {t' : Target}
    (hr : r.Scrapes name) (hfind : d.find? name = some t) (hfind' : d'.find? name = some t')
    (h : (Response.ofSamples (t.scrape clock).samples).EqUntimed
      (.ofSamples (t'.scrape clock').samples)) :
    (answer clock d r).response.EqUntimed (answer clock' d' r).response := by
  rcases hr.method with hget | hhead
  · rw [answer_get hr hfind hget, answer_get hr hfind' hget]
    exact h
  · rw [answer_head hr hfind hhead, answer_head hr hfind' hhead]
    exact h.withoutBody

end Router

end FirewallExporter
