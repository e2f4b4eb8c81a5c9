import FirewallExporter.Exporter.Plan
import FirewallExporter.Proofs.Config.Validity
import FirewallExporter.Proofs.Lists
import FirewallExporter.Proofs.Probe.Selection

/-!
Plans of an accepted configuration. Every device that is in order has a timeout
and a version, so that a plan can only fail over the probes that are selected:
over the first name that the catalogue does not know, of the first device whose
lists hold one.
-/

namespace FirewallExporter

section Traversal

variable {ε α β : Type} {f : α → Except ε β}

theorem mapM_cons_of_error {x : α} {e : ε} (hx : f x = .error e) (xs : List α) :
    (x :: xs).mapM f = .error e := by
  rw [List.mapM_cons, hx]
  rfl

theorem mapM_cons_of_ok {x : α} {y : β} (hx : f x = .ok y) (xs : List α) :
    (x :: xs).mapM f = (xs.mapM f).map (y :: ·) := by
  rw [List.mapM_cons, hx]
  cases xs.mapM f <;> rfl

theorem forall₂_of_mapM_eq_ok {xs : List α} {ys : List β} (h : xs.mapM f = .ok ys) :
    List.Forall₂ (fun x y => f x = .ok y) xs ys := by
  induction xs generalizing ys with
  | nil =>
      cases h
      exact .nil
  | cons x xs ih =>
      cases hx : f x with
      | error e =>
          rw [mapM_cons_of_error hx] at h
          cases h
      | ok y =>
          rw [mapM_cons_of_ok hx] at h
          cases hxs : xs.mapM f with
          | error e => rw [hxs] at h; cases h
          | ok ys' =>
              rw [hxs] at h
              cases h
              exact .cons hx (ih hxs)

theorem exists_of_mem_of_mapM_eq_ok {xs : List α} {ys : List β} (h : xs.mapM f = .ok ys) {x : α}
    (hx : x ∈ xs) : ∃ y ∈ ys, f x = .ok y :=
  exists_mem_right_of_forall₂ (forall₂_of_mapM_eq_ok h) hx

/-- A traversal fails at the first member that fails, and in the same way. -/
theorem mapM_eq_error_iff {xs : List α} {e : ε} :
    xs.mapM f = .error e ↔
      ∃ before x after, xs = before ++ x :: after ∧ (∀ y ∈ before, ∃ b, f y = .ok b) ∧
        f x = .error e := by
  induction xs with
  | nil =>
      constructor
      · intro h
        cases h
      · rintro ⟨before, x, after, hsplit, -⟩
        simp at hsplit
  | cons x xs ih =>
      cases hx : f x with
      | error e' =>
          rw [mapM_cons_of_error hx]
          constructor
          · intro h
            cases h
            exact ⟨[], x, xs, rfl, by simp, hx⟩
          · rintro ⟨before, y, after, hsplit, hbefore, hy⟩
            -- nothing can stand before a member that fails
            rcases before with _ | ⟨z, before⟩
            · cases hsplit
              cases hx.symm.trans hy
              rfl
            · cases hsplit
              obtain ⟨b, hb⟩ := hbefore x List.mem_cons_self
              cases hx.symm.trans hb
      | ok b =>
          have htail : (x :: xs).mapM f = .error e ↔ xs.mapM f = .error e := by
            rw [mapM_cons_of_ok hx]
            cases xs.mapM f <;> simp [Except.map]
          rw [htail, ih]
          constructor
          · rintro ⟨before, y, after, rfl, hbefore, hy⟩
            exact ⟨x :: before, y, after, rfl, List.forall_mem_cons.mpr ⟨⟨b, hx⟩, hbefore⟩, hy⟩
          · rintro ⟨before, y, after, hsplit, hbefore, hy⟩
            rcases before with _ | ⟨z, before⟩
            · cases hsplit
              cases hx.symm.trans hy
            · cases hsplit
              exact ⟨before, y, after, rfl, (List.forall_mem_cons.mp hbefore).2, hy⟩

theorem exists_mapM_eq_error_iff {xs : List α} :
    (∃ e, xs.mapM f = .error e) ↔ ∃ x ∈ xs, ¬ ∃ y, f x = .ok y := by
  constructor
  · rintro ⟨e, he⟩
    obtain ⟨before, x, after, rfl, -, hx⟩ := mapM_eq_error_iff.mp he
    refine ⟨x, by simp, ?_⟩
    rintro ⟨y, hy⟩
    cases hx.symm.trans hy
  · rintro ⟨x, hx, hfails⟩
    cases hxs : xs.mapM f with
    | error e => exact ⟨e, rfl⟩
    | ok ys =>
        obtain ⟨y, -, hy⟩ := exists_of_mem_of_mapM_eq_ok hxs hx
        exact absurd ⟨y, hy⟩ hfails

end Traversal

namespace TargetConfig

variable {t : TargetConfig}

/-- Over a network this is the device that the entry tells of. -/
structure Describes (network : Network) (t : TargetConfig) (u : Target) : Prop where
  name : u.name = t.name
  fetcher : ∃ timeout, t.readTimeout = .ok timeout ∧
    u.fetcher = Client.fetcher network { address := t.address, token := t.token, timeout }
  version : t.readVersion = .ok u.version
  probes : u.probes = Probe.catalogue.filter t.selection.admits

/-- The plan for a device in order fails over its probes or not at all. -/
theorem Sound.plan_eq (h : t.Sound) : ∃ timeout version,
    t.readTimeout = .ok timeout ∧ t.readVersion = .ok version ∧
      t.plan = match t.selection.probes with
        | .error e => .error (.selection t.name e)
        | .ok probes =>
          .ok { name := t.name, version, probes,
                client := { address := t.address, token := t.token, timeout } } := by
  obtain ⟨timeout, htimeout⟩ := h.timeout
  obtain ⟨version, hversion⟩ := h.version
  refine ⟨timeout, version, htimeout, hversion, ?_⟩
  rw [plan, htimeout, hversion]
  cases t.selection.probes <;> rfl

theorem Sound.plan_eq_error_iff (h : t.Sound) {error : PlanError} :
    t.plan = .error error ↔
      ∃ name, t.selection.FirstUnknown name ∧ error = .selection t.name ⟨name⟩ := by
  obtain ⟨timeout, version, -, -, hplan⟩ := h.plan_eq
  constructor
  · intro herror
    rw [hplan] at herror
    split at herror
    · next e hprobes =>
        cases herror
        exact ⟨e.name, Selection.probes_eq_error_iff.mp hprobes, rfl⟩
    · cases herror
  · rintro ⟨name, hname, rfl⟩
    rw [hplan, (@Selection.probes_eq_error_iff _ ⟨name⟩).mpr hname]

theorem Sound.plan_eq_ok_iff (h : t.Sound) :
    (∃ p, t.plan = .ok p) ↔ ∀ n ∈ t.selection.names, n ∈ Probe.names := by
  obtain ⟨timeout, version, -, -, hplan⟩ := h.plan_eq
  constructor
  · rintro ⟨p, hp⟩
    rw [hplan] at hp
    split at hp
    · cases hp
    · next ps hprobes => exact (Selection.probes_eq_ok_iff.mp hprobes).1
  · intro hknown
    rw [hplan, Selection.probes_eq_ok_iff.mpr ⟨hknown, rfl⟩]
    exact ⟨_, rfl⟩

theorem Sound.describes (h : t.Sound) {p : Plan} (hp : t.plan = .ok p) (network : Network) :
    t.Describes network (p.target network) := by
  obtain ⟨timeout, version, htimeout, hversion, hplan⟩ := h.plan_eq
  rw [hplan] at hp
  split at hp
  · cases hp
  · next ps hprobes =>
      cases hp
      exact { name := rfl, fetcher := ⟨timeout, htimeout, rfl⟩, version := hversion,
              probes := (Selection.probes_eq_ok_iff.mp hprobes).2 }

end TargetConfig

namespace Config

variable {c : Config}

/-- The first device whose lists hold a name unknown to the catalogue, and the first such name. -/
structure FirstUnknown (c : Config) (t : TargetConfig) (name : String) : Prop where
  target : ∃ before after, c.targets = before ++ t :: after ∧
    ∀ u ∈ before, ∀ n ∈ u.selection.names, n ∈ Probe.names
  name : t.selection.FirstUnknown name

theorem plans_eq_error_iff (hc : ∀ t ∈ c.targets, t.Sound) {error : PlanError} :
    c.plans = .error error ↔
      ∃ t name, c.FirstUnknown t name ∧ error = .selection t.name ⟨name⟩ := by
  rw [plans, mapM_eq_error_iff]
  constructor
  · rintro ⟨before, t, after, hsplit, hbefore, ht⟩
    have hsound : ∀ u ∈ before, u.Sound := fun u hu => hc u (by simp [hsplit, hu])
    obtain ⟨name, hname, herror⟩ := ((hc t (by simp [hsplit])).plan_eq_error_iff).mp ht
    refine ⟨t, name, ⟨⟨before, after, hsplit, fun u hu => ?_⟩, hname⟩, herror⟩
    exact (hsound u hu).plan_eq_ok_iff.mp (hbefore u hu)
  · rintro ⟨t, name, ⟨⟨before, after, hsplit, hbefore⟩, hname⟩, herror⟩
    have hsound : ∀ u ∈ before, u.Sound := fun u hu => hc u (by simp [hsplit, hu])
    refine ⟨before, t, after, hsplit, fun u hu => ?_, ?_⟩
    · exact (hsound u hu).plan_eq_ok_iff.mpr (hbefore u hu)
    · exact (hc t (by simp [hsplit])).plan_eq_error_iff.mpr ⟨name, hname, herror⟩

theorem exists_plans_iff (hc : ∀ t ∈ c.targets, t.Sound) :
    (∃ error, c.plans = .error error) ↔
      ∃ t ∈ c.targets, ∃ n ∈ t.selection.names, n ∉ Probe.names := by
  rw [plans, exists_mapM_eq_error_iff]
  refine exists_congr fun t => and_congr_right fun ht => ?_
  rw [(hc t ht).plan_eq_ok_iff]
  push Not
  rfl

end Config

end FirewallExporter
