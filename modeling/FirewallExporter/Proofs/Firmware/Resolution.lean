import Mathlib.Data.Prod.Lex
import FirewallExporter.Proofs.Probe.SwitchPorts

/-!
Which range of a capability a version comes to. The ranges of every capability are
listed from the newest to the oldest, so the first one that starts at or below a
version is the newest of all that do. A newer version never comes to an older range.
-/

namespace FirewallExporter

/-! ### The order of versions -/

namespace Version

variable {u v w : Version}

/-- The numbers of a version as a pair in the lexicographic order. -/
def key (v : Version) : ℕ ×ₗ ℕ := toLex (v.major.toNat, v.minor.toNat)

theorem le_iff_key_le : v ≤ w ↔ v.key ≤ w.key := by
  have hle : v ≤ w ↔ v.major < w.major ∨ v.major = w.major ∧ v.minor ≤ w.minor := Iff.rfl
  rw [hle, key, key, Prod.Lex.toLex_le_toLex, UInt32.lt_iff_toNat_lt, UInt32.le_iff_toNat_le,
    UInt32.toNat_inj]

theorem le_self (v : Version) : v ≤ v := le_iff_key_le.mpr (le_refl v.key)

theorem le_trans (h : u ≤ v) (h' : v ≤ w) : u ≤ w :=
  le_iff_key_le.mpr ((le_iff_key_le.mp h).trans (le_iff_key_le.mp h'))

theorem le_of_not_le (h : ¬ v ≤ w) : w ≤ v := by
  rw [le_iff_key_le] at h ⊢
  exact (not_le.mp h).le

end Version

/-! ### Ranges from the newest to the oldest -/

/-- Each of the ranges starts above all that come after it. -/
def Descending (ranges : List VersionRange) : Prop :=
  ranges.Pairwise fun r s => ¬ r.since ≤ s.since

instance (ranges : List VersionRange) : Decidable (Descending ranges) :=
  inferInstanceAs (Decidable (ranges.Pairwise _))

/-- Of the ranges that start at or below the version, none starts above this one. -/
structure IsNewest (ranges : List VersionRange) (v : Version) (r : VersionRange) : Prop where
  mem : r ∈ ranges
  since_le : r.since ≤ v
  greatest : ∀ s ∈ ranges, s.since ≤ v → s.since ≤ r.since

namespace IsNewest

variable {ranges : List VersionRange} {v w : Version} {r s t : VersionRange}

theorem cons_of_not_le (h : ¬ t.since ≤ v) : IsNewest (t :: ranges) v r ↔ IsNewest ranges v r := by
  constructor
  · rintro ⟨hmem, hle, hgreatest⟩
    rcases List.mem_cons.mp hmem with rfl | hmem
    · exact absurd hle h
    · exact ⟨hmem, hle, fun s hs => hgreatest s (List.mem_cons_of_mem _ hs)⟩
  · rintro ⟨hmem, hle, hgreatest⟩
    refine ⟨List.mem_cons_of_mem _ hmem, hle, fun s hs hsv => ?_⟩
    rcases List.mem_cons.mp hs with rfl | hs
    · exact absurd hsv h
    · exact hgreatest s hs hsv

/-- A range that starts above all others is the newest as soon as it has started. -/
theorem cons_of_le (h : t.since ≤ v) (hdescending : ∀ s ∈ ranges, ¬ t.since ≤ s.since) :
    IsNewest (t :: ranges) v r ↔ t = r := by
  constructor
  · rintro ⟨hmem, -, hgreatest⟩
    rcases List.mem_cons.mp hmem with rfl | hmem
    · rfl
    · exact absurd (hgreatest t List.mem_cons_self h) (hdescending r hmem)
  · rintro rfl
    refine ⟨List.mem_cons_self, h, fun s hs _ => ?_⟩
    rcases List.mem_cons.mp hs with rfl | hs
    · exact Version.le_self _
    · exact Version.le_of_not_le (hdescending s hs)

/-- What is newest for a newer version starts no earlier. -/
theorem since_mono (h : v ≤ w) (hr : IsNewest ranges v r) (hs : IsNewest ranges w s) :
    r.since ≤ s.since :=
  hs.greatest r hr.mem (Version.le_trans hr.since_le h)

end IsNewest

/-- Among ranges in descending order the first that has started is the newest. -/
theorem find?_atLeast_eq_some_iff {ranges : List VersionRange} (h : Descending ranges)
    {v : Version} {r : VersionRange} :
    ranges.find? (fun r => v.atLeast r.since) = some r ↔ IsNewest ranges v r := by
  induction ranges with
  | nil => exact iff_of_false nofun fun hr => nomatch hr.mem
  | cons t ranges ih =>
      obtain ⟨ht, hrest⟩ := List.pairwise_cons.mp h
      by_cases hv : t.since ≤ v
      · have hstarted : v.atLeast t.since = true := decide_eq_true hv
        rw [List.find?_cons, hstarted, IsNewest.cons_of_le hv ht, Option.some.injEq]
      · have hstarted : v.atLeast t.since = false := decide_eq_false hv
        rw [List.find?_cons, hstarted, IsNewest.cons_of_not_le hv, ← ih hrest]

namespace Capability

theorem descending_ranges (c : Capability) : Descending c.ranges := by
  cases c <;> decide

theorem resolve_eq_some_iff {c : Capability} {v : Version} {e : Endpoint} :
    c.resolve v = some e ↔ ∃ r, IsNewest c.ranges v r ∧ r.endpoint = e := by
  rw [resolve, Option.map_eq_some_iff]
  exact exists_congr fun r => and_congr_left' (find?_atLeast_eq_some_iff c.descending_ranges)

theorem resolve_eq_none_iff {c : Capability} {v : Version} :
    c.resolve v = none ↔ ∀ r ∈ c.ranges, ¬ r.since ≤ v := by
  rw [resolve, Option.map_eq_none_iff, List.find?_eq_none]
  simp [Version.atLeast]

/-- What is served goes on being served. -/
theorem resolve_ne_none_of_le {c : Capability} {v w : Version} (h : v ≤ w)
    (hv : c.resolve v ≠ none) : c.resolve w ≠ none := by
  rw [Ne, resolve_eq_none_iff] at hv ⊢
  exact fun hw => hv fun r hr hrv => hw r hr (Version.le_trans hrv h)

theorem resolve_switchPortStats_eq_none_iff {v : Version} :
    switchPortStats.resolve v = none ↔
      switchStatus.resolve v = some SwitchPorts.legacyEndpoint := by
  rw [SwitchPorts.resolve_switchPortStats, SwitchPorts.resolve_switchStatus]
  by_cases hv : SwitchPorts.splitVersion ≤ v
  · rw [if_pos hv, if_pos hv]
    decide
  · rw [if_neg hv, if_neg hv]
    exact iff_of_true rfl rfl

/--
A capability is served by the newest of its ranges that have started by the
version, and it is not served just if none of them has. On a newer version it is
still served, and by a range that starts no earlier. The counters of switch ports
are not served apart just where the switches are served with their counters.
-/
theorem resolve_newest (c : Capability) (v : Version) :
    (∀ e, c.resolve v = some e ↔ ∃ r, IsNewest c.ranges v r ∧ r.endpoint = e) ∧
      (c.resolve v = none ↔ ∀ r ∈ c.ranges, ¬ r.since ≤ v) ∧
      (∀ w, v ≤ w → (c.resolve v ≠ none → c.resolve w ≠ none) ∧
        ∀ r s, IsNewest c.ranges v r → IsNewest c.ranges w s → r.since ≤ s.since) ∧
      (switchPortStats.resolve v = none ↔
        switchStatus.resolve v = some SwitchPorts.legacyEndpoint) := by
  refine ⟨fun e => resolve_eq_some_iff, resolve_eq_none_iff, fun w h => ?_,
    resolve_switchPortStats_eq_none_iff⟩
  exact ⟨resolve_ne_none_of_le h, fun r s hr hs => hr.since_mono h hs⟩

/-- The minor number counts only among versions of one major number. -/
theorem resolve_newest_switchHealth :
    (⟨7, 10⟩ : Version) ≤ ⟨8, 0⟩ ∧ switchHealth.resolve ⟨8, 0⟩ ≠ none ∧
      ∀ s, IsNewest switchHealth.ranges ⟨8, 0⟩ s → (⟨7, 6⟩ : Version) ≤ s.since := by
  have hle : (⟨7, 10⟩ : Version) ≤ ⟨8, 0⟩ := by decide
  obtain ⟨-, -, hnewer, -⟩ := resolve_newest switchHealth ⟨7, 10⟩
  obtain ⟨hserved, hsince⟩ := hnewer ⟨8, 0⟩ hle
  have hnewest : IsNewest switchHealth.ranges ⟨7, 10⟩
      (since 7 6 "switch-controller/managed-switch/health-status" "vdom=root") :=
    ⟨by decide, by decide, by decide⟩
  exact ⟨hle, hserved (by decide), fun s hs => hsince _ s hnewest hs⟩

end Capability

end FirewallExporter
