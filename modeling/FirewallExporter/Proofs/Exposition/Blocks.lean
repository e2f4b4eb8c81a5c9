import Mathlib.Data.List.Nodup
import FirewallExporter.Proofs.Exposition.Groups

/-!
Exposition text as a stable grouping. It consists of one block for each name of a
family, in the order in which the names first appear: the header that the first
sample of the name gives, and the lines of all its samples in their order. What
samples of other names stand between them makes no difference.
-/

namespace FirewallExporter.Exposition

/-- A text of lines, each of which ends with a line feed. -/
def unlines (lines : List String) : String := String.join (lines.map (· ++ "\n"))

/-- The lines of one name: the header of its first sample, and all its samples. -/
def block (samples : List Sample) (name : String) : List String :=
  match samples.find? (·.name == name) with
  | some first =>
    helpLine first.family :: typeLine first.family :: (samplesNamed name samples).map line
  | none => []

theorem unlines_append (xs ys : List String) : unlines (xs ++ ys) = unlines xs ++ unlines ys := by
  rw [unlines, List.map_append, String.join_append, unlines, unlines]

theorem lines_ofSamples (samples : List Sample) (name : String) :
    (Group.ofSamples (samplesNamed name samples)).flatMap Group.lines = block samples name := by
  have hfirst : samples.find? (·.name == name) = (samplesNamed name samples).head? :=
    List.head?_filter.symm
  rw [block, hfirst]
  cases samplesNamed name samples with
  | nil => rfl
  | cons s rest => exact List.flatMap_singleton _ _

theorem render_eq (samples : List Sample) :
    render samples = unlines ((familyNames samples).flatMap (block samples)) := by
  have hlines : (groups samples).flatMap Group.lines =
      (familyNames samples).flatMap (block samples) := by
    rw [groups_eq, List.flatMap_assoc]
    exact List.flatMap_congr fun name _ => lines_ofSamples samples name
  rw [render, hlines, unlines]

/-! ### The order of names -/

/-- What is left of a list keeps the order in which its elements first appear. -/
theorem idxOf_lt_of_filter {p : String → Bool} {a b : String} (ha : p a = true)
    (hb : p b = true) {names : List String}
    (h : (names.filter p).idxOf a < (names.filter p).idxOf b) :
    names.idxOf a < names.idxOf b := by
  induction names with
  | nil => simp at h
  | cons x names ih =>
      by_cases hxb : x = b
      · subst hxb
        rw [List.filter_cons_of_pos hb, List.idxOf_cons_self] at h
        omega
      by_cases hxa : x = a
      · subst hxa
        rw [List.idxOf_cons_self, List.idxOf_cons_ne _ hxb]
        omega
      have hrest : (names.filter p).idxOf a < (names.filter p).idxOf b := by
        by_cases hx : p x = true
        · rw [List.filter_cons_of_pos hx, List.idxOf_cons_ne _ hxa, List.idxOf_cons_ne _ hxb] at h
          omega
        · rwa [List.filter_cons_of_neg hx] at h
      rw [List.idxOf_cons_ne _ hxa, List.idxOf_cons_ne _ hxb]
      exact Nat.succ_lt_succ (ih hrest)

/-- A name comes before those that first appear after it does. -/
theorem pairwise_idxOf_familyNames (samples : List Sample) :
    (familyNames samples).Pairwise fun a b =>
      (samples.map Sample.name).idxOf a < (samples.map Sample.name).idxOf b := by
  induction samples using byName_induction with
  | nil => exact List.Pairwise.nil
  | cons s rest ih =>
      have hne : ∀ name ∈ familyNames (samplesNotNamed s.name rest), s.name ≠ name := by
        rintro _ hname rfl
        exact not_mem_familyNames_samplesNotNamed _ rest hname
      have hkeeps : ∀ name ∈ familyNames (samplesNotNamed s.name rest),
          (!name == s.name) = true := fun name hname => by simp [(hne name hname).symm]
      rw [familyNames_cons, List.map_cons]
      refine List.pairwise_cons.mpr ⟨fun name hname => ?_, ?_⟩
      · rw [List.idxOf_cons_self, List.idxOf_cons_ne _ (hne name hname)]
        exact Nat.succ_pos _
      · refine ih.imp_of_mem fun {a b} ha hb hlt => ?_
        rw [samplesNotNamed, ← Function.comp_def (fun name : String => !name == s.name) Sample.name,
          ← List.filter_map] at hlt
        rw [List.idxOf_cons_ne _ (hne a ha), List.idxOf_cons_ne _ (hne b hb)]
        exact Nat.succ_lt_succ (idxOf_lt_of_filter (hkeeps a ha) (hkeeps b hb) hlt)

/-! ### One block for each name -/

theorem samplesNamed_append (name : String) (xs ys : List Sample) :
    samplesNamed name (xs ++ ys) = samplesNamed name xs ++ samplesNamed name ys :=
  List.filter_append ..

theorem eq_of_mem_samplesNamed {s : Sample} {name : String} {samples : List Sample}
    (h : s ∈ samplesNamed name samples) : s.name = name :=
  beq_iff_eq.mp (List.mem_filter.mp h).2

/-- Samples of one name that come first are the first group. -/
theorem groups_append {name : String} {xs ys : List Sample} (hxs : ∀ s ∈ xs, s.name = name)
    (hys : ∀ s ∈ ys, s.name ≠ name) : groups (xs ++ ys) = Group.ofSamples xs ++ groups ys := by
  cases xs with
  | nil => rfl
  | cons s xs =>
      obtain ⟨rfl, hxs⟩ := List.forall_mem_cons.mp hxs
      have hnamed : samplesNamed s.name (xs ++ ys) = xs := by
        rw [samplesNamed_append, samplesNamed, samplesNamed,
          List.filter_eq_self.mpr (by simpa using hxs),
          List.filter_eq_nil_iff.mpr (by simpa using hys), List.append_nil]
      have hothers : samplesNotNamed s.name (xs ++ ys) = ys := by
        rw [samplesNotNamed, List.filter_append,
          List.filter_eq_nil_iff.mpr (by simpa using hxs),
          List.filter_eq_self.mpr (by simpa using hys), List.nil_append]
      rw [List.cons_append, groups_cons, hnamed, hothers]
      rfl

/-- Samples that come name by name stay as they are. -/
theorem groups_flatMap (samples : List Sample) {names : List String} (h : names.Nodup) :
    groups (names.flatMap fun name => samplesNamed name samples) =
      names.flatMap fun name => Group.ofSamples (samplesNamed name samples) := by
  induction names with
  | nil => rfl
  | cons name names ih =>
      obtain ⟨hname, hnames⟩ := List.nodup_cons.mp h
      -- none of the later samples has the first name
      have hlater : ∀ s ∈ names.flatMap fun name => samplesNamed name samples, s.name ≠ name := by
        rintro s hs rfl
        obtain ⟨name', hname', hs⟩ := List.mem_flatMap.mp hs
        exact hname (eq_of_mem_samplesNamed hs ▸ hname')
      rw [List.flatMap_cons, List.flatMap_cons, ← ih hnames]
      exact groups_append (fun s hs => eq_of_mem_samplesNamed hs) hlater

theorem render_flatMap (samples : List Sample) {names : List String} (h : names.Nodup) :
    render (names.flatMap fun name => samplesNamed name samples) =
      unlines (names.flatMap (block samples)) := by
  have hlines : (names.flatMap fun name => Group.ofSamples (samplesNamed name samples)).flatMap
      Group.lines = names.flatMap (block samples) := by
    rw [List.flatMap_assoc]
    exact List.flatMap_congr fun name _ => lines_ofSamples samples name
  rw [render, groups_flatMap samples h, hlines, unlines]

/-- The block of a name stands in one piece, and what is around it is about other names. -/
theorem exists_render_around {samples : List Sample} {name : String}
    (h : name ∈ familyNames samples) :
    ∃ earlier later, (∀ s ∈ earlier ++ later, s.name ≠ name) ∧
      render samples = render earlier ++ unlines (block samples name) ++ render later := by
  obtain ⟨before, after, hsplit⟩ := List.append_of_mem h
  have hnodup := nodup_familyNames samples
  rw [hsplit, List.nodup_middle, List.nodup_cons] at hnodup
  obtain ⟨hname, hothers⟩ := hnodup
  have hbefore := render_flatMap samples hothers.of_append_left
  have hafter := render_flatMap samples hothers.of_append_right
  refine ⟨before.flatMap fun name => samplesNamed name samples,
    after.flatMap fun name => samplesNamed name samples, ?_, ?_⟩
  · rw [← List.flatMap_append]
    rintro s hs rfl
    obtain ⟨name', hname', hs⟩ := List.mem_flatMap.mp hs
    exact hname (eq_of_mem_samplesNamed hs ▸ hname')
  · rw [hbefore, hafter, render_eq, hsplit, List.flatMap_append, List.flatMap_cons,
      unlines_append, unlines_append, String.append_assoc]

theorem block_congr {samples samples' : List Sample} {name : String}
    (h : samplesNamed name samples' = samplesNamed name samples) :
    block samples' name = block samples name := by
  rw [← lines_ofSamples, ← lines_ofSamples, h]

/-- Where a name stands for one family, the header of a block is that of all its samples. -/
theorem block_of_mem {samples : List Sample}
    (h : ∀ s ∈ samples, ∀ t ∈ samples, s.name = t.name → s.family = t.family) {s : Sample}
    (hs : s ∈ samples) :
    block samples s.name =
      helpLine s.family :: typeLine s.family :: (samplesNamed s.name samples).map line := by
  rw [block]
  cases hfirst : samples.find? (·.name == s.name) with
  | none => simpa using List.find?_eq_none.mp hfirst s hs
  | some first =>
      have hname : first.name = s.name := by simpa using List.find?_some hfirst
      have hfamily := h first (List.mem_of_find?_eq_some hfirst) s hs hname
      simp only [hfamily]

/--
Exposition text is the stable grouping of samples by the name of their family.
There is one block for each name, in the order in which the names first appear,
with the header of the first sample of that name and the lines of all of them in
their order. No sample is lost or shown twice, a block stands in one piece, and
samples in another order give the same text as long as the order of names and
the order within each name stay.
-/
theorem render_eq_blocks (samples : List Sample) :
    render samples = unlines ((familyNames samples).flatMap (block samples)) ∧
      (∀ name, name ∈ familyNames samples ↔ ∃ s ∈ samples, s.name = name) ∧
      (familyNames samples).Nodup ∧
      ((familyNames samples).Pairwise fun a b =>
        (samples.map Sample.name).idxOf a < (samples.map Sample.name).idxOf b) ∧
      ((familyNames samples).flatMap fun name => samplesNamed name samples).Perm samples ∧
      (∀ name ∈ familyNames samples, ∃ earlier later, (∀ s ∈ earlier ++ later, s.name ≠ name) ∧
        render samples = render earlier ++ unlines (block samples name) ++ render later) ∧
      ∀ samples' : List Sample, familyNames samples' = familyNames samples →
        (∀ name, samplesNamed name samples' = samplesNamed name samples) →
          render samples' = render samples := by
  refine ⟨render_eq samples, fun _ => mem_familyNames, nodup_familyNames samples,
    pairwise_idxOf_familyNames samples, flatMap_samplesNamed_perm samples,
    fun _ h => exists_render_around h, fun samples' hnames hnamed => ?_⟩
  rw [render_eq, render_eq, hnames, List.flatMap_congr fun name _ => block_congr (hnamed name)]

end FirewallExporter.Exposition
