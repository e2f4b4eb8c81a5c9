import FirewallExporter.Proofs.Config.Plans
import FirewallExporter.Proofs.Exporter.Directory
import FirewallExporter.Proofs.Exporter.Requests

/-!
The exporter of an accepted configuration. The names that validation found to be
distinct are those of the targets, so that each device of the configuration is a
target of the exporter and none takes the place of another; as no name is empty
there is a request for each.
-/

namespace FirewallExporter

namespace Config

variable {c : Config}

theorem target?_eq_some_iff (hc : (c.targets.map TargetConfig.name).Nodup) {name : String}
    {t : TargetConfig} : c.target? name = some t ↔ t ∈ c.targets ∧ t.name = name :=
  find?_name_eq_some_iff hc

/-- Plans keep the names of the devices and their order. -/
theorem names_of_plans (hc : ∀ t ∈ c.targets, t.Sound) {plans : List Plan}
    (h : c.plans = .ok plans) (network : Network) :
    (plans.map (Plan.target network)).map Target.name = c.targets.map TargetConfig.name := by
  have hall := forall₂_of_mapM_eq_ok h
  clear h
  generalize c.targets = ts at hc hall
  induction hall with
  | nil => rfl
  | @cons t p ts ps hp _ ih =>
      obtain ⟨ht, hts⟩ := List.forall_mem_cons.mp hc
      rw [List.map_cons, List.map_cons, List.map_cons, ih hts, (ht.describes hp network).name]

theorem exists_target_of_plans (hc : c.validate = .ok ()) {plans : List Plan}
    (h : c.plans = .ok plans) (network : Network) {name : String} {t : TargetConfig}
    (ht : c.target? name = some t) :
    ∃ u, (Directory.ofPlans network plans).find? name = some u ∧ t.Describes network u := by
  obtain ⟨-, hsound, hnodup⟩ := validate_eq_ok_iff.mp hc
  obtain ⟨htargets, rfl⟩ := (target?_eq_some_iff hnodup).mp ht
  obtain ⟨p, hp, hplan⟩ := exists_of_mem_of_mapM_eq_ok h htargets
  have hdescribes := (hsound t htargets).describes hplan network
  have hnames := names_of_plans hsound h network
  refine ⟨p.target network, ?_, hdescribes⟩
  exact (Directory.find?_ofList_eq_some (hnames ▸ hnodup)).mpr
    ⟨List.mem_map_of_mem hp, hdescribes.name⟩

/--
An accepted configuration loses no device. Its plans fail over an unknown probe
or not at all, and then over the first one of the first device that names any.
The exporter made of the plans has the names of the configuration, in order; it
finds a target under a name just if the configuration does, and finds the very
one described there. Every device of the configuration is found under its name,
there is a request that carries this name, and whichever does is answered by a
scrape of that device: with its samples, of which a request for the head alone gets
no text, and with its calls and no others.
-/
theorem plans_of_valid (hc : c.validate = .ok ()) (network : Network) :
    (∀ error, c.plans = .error error ↔
      ∃ t name, c.FirstUnknown t name ∧ error = .selection t.name ⟨name⟩) ∧
    ((∃ error, c.plans = .error error) ↔
      ∃ t ∈ c.targets, ∃ n ∈ t.selection.names, n ∉ Probe.names) ∧
    ∀ plans, c.plans = .ok plans →
      (Directory.ofPlans network plans).names.Pairwise (· < ·) ∧
      (Directory.ofPlans network plans).names.Perm (c.targets.map TargetConfig.name) ∧
      (∀ name, ((Directory.ofPlans network plans).find? name).isSome = (c.target? name).isSome) ∧
      (∀ name t, c.target? name = some t →
        ∃ u, (Directory.ofPlans network plans).find? name = some u ∧ t.Describes network u) ∧
      ∀ t ∈ c.targets, c.target? t.name = some t ∧
        (∃ r, Router.Request.Scrapes r t.name) ∧
        ∃ u, t.Describes network u ∧ ∀ r clock, Router.Request.Scrapes r t.name →
          (Router.answer clock (.ofPlans network plans) r =
            if r.method = "GET" then Router.serveTarget clock u
            else (Router.serveTarget clock u).withoutBody) ∧
          (Router.answer clock (.ofPlans network plans) r).response =
            ⟨200, some Exposition.contentType,
              if r.method = "GET" then Exposition.render (u.scrape clock).samples else ""⟩ ∧
          (Router.answer clock (.ofPlans network plans) r).target = some u ∧
          (Router.answer clock (.ofPlans network plans) r).calls = (u.scrape clock).calls := by
  obtain ⟨-, hsound, hnodup⟩ := validate_eq_ok_iff.mp hc
  refine ⟨fun error => plans_eq_error_iff hsound, exists_plans_iff hsound, ?_⟩
  intro plans hplans
  have hnames := names_of_plans hsound hplans network
  have hfind : ∀ name t, c.target? name = some t →
      ∃ u, (Directory.ofPlans network plans).find? name = some u ∧ t.Describes network u := by
    intro name t ht
    exact exists_target_of_plans hc hplans network ht
  refine ⟨Directory.pairwise_names_ofList _, ?_, ?_, hfind, ?_⟩
  · have hperm := Directory.names_ofList_perm (hnames ▸ hnodup)
    rw [hnames] at hperm
    exact hperm
  · intro name
    rw [Bool.eq_iff_iff, Directory.ofPlans, Directory.isSome_find?_ofList, hnames, target?,
      List.find?_isSome]
    simp
  · intro t ht
    have htarget := (target?_eq_some_iff hnodup).mpr ⟨ht, rfl⟩
    obtain ⟨u, hu, hdescribes⟩ := hfind t.name t htarget
    refine ⟨htarget, ⟨_, Router.Request.scrapes_forDevice (hsound t ht).name_ne_empty⟩, u,
      hdescribes, fun r clock hr => ?_⟩
    rcases hr.method with hget | hhead
    · rw [Router.answer_get hr hu hget, if_pos hget, if_pos hget]
      exact ⟨rfl, rfl, rfl, rfl⟩
    · have hne : r.method ≠ "GET" := by
        rw [hhead]
        decide
      rw [Router.answer_head hr hu hhead, if_neg hne, if_neg hne]
      exact ⟨rfl, rfl, rfl, rfl⟩

/-- A device with a pinned version and two probes beside one that leaves a probe out. -/
def edgeAndCore : Config :=
  { targets := [
      { name := "fw-edge-01", address := "10.0.0.1:80", token := some "secret",
        version := some "7.4", timeout := some "500ms",
        probes := some ["System/SensorInfo", "System/NTPStatus"] },
      { name := "fw-core-02", address := "10.0.0.2:80", exclude := ["Switch/PortStats"] }] }

theorem plans_of_valid_edgeAndCore :
    edgeAndCore.validate = .ok () ∧ ∀ network, ∃ plans, edgeAndCore.plans = .ok plans ∧
      (Directory.ofPlans network plans).names.Perm ["fw-edge-01", "fw-core-02"] ∧
      ∀ r clock, Router.Request.Scrapes r "fw-edge-01" →
        (Router.answer clock (.ofPlans network plans) r).response.status = 200 := by
  have hvalid : edgeAndCore.validate = .ok () := by rfl
  refine ⟨hvalid, fun network => ?_⟩
  obtain ⟨-, hfails, hplans⟩ := plans_of_valid hvalid network
  cases h : edgeAndCore.plans with
  | error error =>
      have hknown : ∀ t ∈ edgeAndCore.targets, ∀ n ∈ t.selection.names, n ∈ Probe.names := by
        decide
      obtain ⟨t, ht, n, hn, hunknown⟩ := hfails.mp ⟨error, h⟩
      exact absurd (hknown t ht n hn) hunknown
  | ok plans =>
      obtain ⟨-, hnames, -, -, hserved⟩ := hplans plans h
      obtain ⟨-, -, u, -, hanswers⟩ := hserved _ List.mem_cons_self
      refine ⟨plans, rfl, hnames, fun r clock hr => ?_⟩
      rw [(hanswers r clock hr).2.1]

end Config

end FirewallExporter
