import FirewallExporter.Firmware.Capability

/-!
Where capabilities are served. A range that starts at the lowest version takes in
all that no newer range does.
-/

namespace FirewallExporter

theorem Version.any_le (v : Version) : any ≤ v := by
  obtain ⟨major, minor⟩ := v
  by_cases h : 0 < major
  · exact .inl h
  · have hzero : (0 : UInt32) = major := by
      rw [UInt32.lt_iff_toNat_lt] at h
      rw [← UInt32.toNat_inj]
      simp only [UInt32.toNat_zero] at h ⊢
      omega
    exact .inr ⟨hzero, UInt32.zero_le⟩

namespace Capability

variable {c : Capability}

theorem resolve_of_floor {floor : Version} {endpoint : Endpoint}
    (h : c.ranges = [⟨floor, endpoint⟩]) (v : Version) :
    c.resolve v = if floor ≤ v then some endpoint else none := by
  by_cases hv : floor ≤ v
  · simp [resolve, h, Version.atLeast, hv]
  · simp [resolve, h, Version.atLeast, hv]

theorem resolve_of_range {endpoint : Endpoint} (h : c.ranges = [⟨.any, endpoint⟩]) (v : Version) :
    c.resolve v = some endpoint := by
  rw [resolve_of_floor h, if_pos v.any_le]

theorem resolve_of_ranges {floor : Version} {new old : Endpoint}
    (h : c.ranges = [⟨floor, new⟩, ⟨.any, old⟩]) (v : Version) :
    c.resolve v = some (if floor ≤ v then new else old) := by
  by_cases hv : floor ≤ v
  · simp [resolve, h, Version.atLeast, hv]
  · simp [resolve, h, Version.atLeast, hv, Version.any_le]

end Capability

end FirewallExporter
