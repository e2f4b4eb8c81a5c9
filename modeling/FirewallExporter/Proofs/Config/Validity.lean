import Mathlib.Tactic.SplitIfs
import FirewallExporter.Config.Basic

/-!
What a configuration is like that passes validation: it has devices, no two of
one name, and each of them is in order by itself.
-/

namespace FirewallExporter

namespace TargetConfig

/-- A device that is in order whatever the other devices are. -/
structure Sound (t : TargetConfig) : Prop where
  name : Text.isBlankText t.name = false
  address : Text.isBlankText t.address = false
  timeout : ∃ timeout, t.readTimeout = .ok timeout
  version : ∃ version, t.readVersion = .ok version

variable {t : TargetConfig}

/-- A text of no characters is blank. -/
theorem Sound.name_ne_empty (h : t.Sound) : t.name ≠ "" := by
  intro hempty
  have hname := h.name
  rw [hempty] at hname
  exact absurd hname (by decide)

theorem check_eq_ok_iff {seen : List String} :
    t.check seen = .ok () ↔ t.Sound ∧ t.name ∉ seen := by
  simp only [check, bind, Except.bind, pure, Except.pure, throw, throwThe, MonadExceptOf.throw]
  constructor
  · intro h
    split_ifs at h with hname hseen haddress
    rw [List.contains_iff_mem] at hseen
    cases htimeout : t.readTimeout with
    | error fault => rw [htimeout] at h; cases h
    | ok timeout =>
        cases hversion : t.readVersion with
        | error fault => rw [htimeout, hversion] at h; cases h
        | ok version =>
            exact ⟨⟨Bool.eq_false_iff.mpr hname, Bool.eq_false_iff.mpr haddress,
              ⟨timeout, htimeout⟩, ⟨version, hversion⟩⟩, hseen⟩
  · rintro ⟨⟨hname, haddress, ⟨timeout, htimeout⟩, ⟨version, hversion⟩⟩, hseen⟩
    simp [hname, haddress, htimeout, hversion, hseen]

theorem checkAll_eq_ok_iff {seen : List String} {ts : List TargetConfig} :
    checkAll seen ts = .ok () ↔
      (∀ t ∈ ts, t.Sound) ∧ (ts.map name).Nodup ∧ ∀ t ∈ ts, t.name ∉ seen := by
  induction ts generalizing seen with
  | nil => simp [checkAll]
  | cons t ts ih =>
      have hstep : checkAll seen (t :: ts) = .ok () ↔
          t.check seen = .ok () ∧ checkAll (t.name :: seen) ts = .ok () := by
        rw [checkAll]
        cases t.check seen <;> simp [bind, Except.bind]
      rw [hstep, check_eq_ok_iff, ih]
      rw [List.forall_mem_cons, List.forall_mem_cons, List.map_cons, List.nodup_cons]
      simp only [List.mem_map, List.mem_cons, not_or, not_exists, not_and]
      -- what the rest must not repeat is what was seen, and the name of the first
      constructor
      · rintro ⟨⟨hsound, hseen⟩, hsounds, hnodup, hnew⟩
        exact ⟨⟨hsound, hsounds⟩, ⟨fun u hu => (hnew u hu).1, hnodup⟩, hseen,
          fun u hu => (hnew u hu).2⟩
      · rintro ⟨⟨hsound, hsounds⟩, ⟨hnew, hnodup⟩, hseen, hseens⟩
        exact ⟨⟨hsound, hseen⟩, hsounds, hnodup, fun u hu => ⟨hnew u hu, hseens u hu⟩⟩

end TargetConfig

namespace Config

variable {c : Config}

theorem validate_eq_ok_iff :
    c.validate = .ok () ↔
      c.targets ≠ [] ∧ (∀ t ∈ c.targets, t.Sound) ∧ (c.targets.map TargetConfig.name).Nodup := by
  rw [validate]
  cases hts : c.targets with
  | nil => simp
  | cons t ts => simp [TargetConfig.checkAll_eq_ok_iff]

end Config

end FirewallExporter
