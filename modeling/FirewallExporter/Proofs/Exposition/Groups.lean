import Mathlib.Data.List.Basic
import FirewallExporter.Proofs.Exposition.Lines
import FirewallExporter.Proofs.Exposition.Slots

/-!
Grouping samples by the names of their families. The groups come in the order
in which the names first appear, and each holds the samples of its name in
their order; no sample is lost or shown twice.
-/

namespace FirewallExporter.Exposition

/-- The names of the families in the order in which they first appear. -/
def familyNames (samples : List Sample) : List String := (samples.map Sample.name).eraseDups

def samplesNamed (name : String) (samples : List Sample) : List Sample :=
  samples.filter (·.name == name)

def samplesNotNamed (name : String) (samples : List Sample) : List Sample :=
  samples.filter (!·.name == name)

/-- The group of the samples of one name, if there are any; the first gives the family. -/
def Group.ofSamples : List Sample → List Group
  | [] => []
  | s :: rest => [⟨s.family, s :: rest⟩]

/-- A list of samples is its first sample, those of the same name, and a list without them. -/
theorem byName_induction {P : List Sample → Prop} (nil : P [])
    (cons : ∀ s rest, P (samplesNotNamed s.name rest) → P (s :: rest)) :
    ∀ samples, P samples
  | [] => nil
  | s :: rest => cons s rest (byName_induction nil cons (samplesNotNamed s.name rest))
termination_by samples => samples.length
decreasing_by
  have hle := List.length_filter_le (fun t => !t.name == s.name) rest
  simp only [samplesNotNamed, List.length_cons]
  omega

theorem length_samplesNamed_add (name : String) (samples : List Sample) :
    (samplesNamed name samples).length + (samplesNotNamed name samples).length =
      samples.length := by
  induction samples with
  | nil => rfl
  | cons s rest ih =>
      by_cases h : s.name = name
      · simp [samplesNamed, samplesNotNamed, h] at ih ⊢
        omega
      · simp [samplesNamed, samplesNotNamed, h] at ih ⊢
        omega

theorem familyNames_cons (s : Sample) (rest : List Sample) :
    familyNames (s :: rest) = s.name :: familyNames (samplesNotNamed s.name rest) := by
  simp only [familyNames, samplesNotNamed, List.map_cons, List.eraseDups_cons, List.filter_map]
  rfl

theorem mem_familyNames {name : String} {samples : List Sample} :
    name ∈ familyNames samples ↔ ∃ s ∈ samples, s.name = name := by
  simp [familyNames, List.mem_eraseDups]

theorem not_mem_familyNames_samplesNotNamed (name : String) (samples : List Sample) :
    name ∉ familyNames (samplesNotNamed name samples) := by
  simp [mem_familyNames, samplesNotNamed]

theorem nodup_familyNames (samples : List Sample) : (familyNames samples).Nodup := by
  induction samples using byName_induction with
  | nil => exact List.nodup_nil
  | cons s rest ih =>
      rw [familyNames_cons]
      exact List.nodup_cons.mpr ⟨not_mem_familyNames_samplesNotNamed s.name rest, ih⟩

/-- Samples of the first group's name join it and the others go on to the later groups. -/
theorem foldl_addSample (g : Group) (gs : List Group) (samples : List Sample) :
    samples.foldl (fun gs s => addSample s gs) (g :: gs) =
      { g with members := g.members ++ samplesNamed g.family.name samples } ::
        (samplesNotNamed g.family.name samples).foldl (fun gs s => addSample s gs) gs := by
  induction samples generalizing g gs with
  | nil => simp [samplesNamed, samplesNotNamed]
  | cons s rest ih =>
      rw [List.foldl_cons, addSample]
      by_cases h : g.family.name = s.name
      · rw [if_pos h, ih]
        simp [Group.push, samplesNamed, samplesNotNamed, h]
      · rw [if_neg h, ih]
        simp [samplesNamed, samplesNotNamed, Ne.symm h]

theorem groups_cons (s : Sample) (rest : List Sample) :
    groups (s :: rest) =
      ⟨s.family, s :: samplesNamed s.name rest⟩ :: groups (samplesNotNamed s.name rest) := by
  rw [groups_eq_foldl, groups_eq_foldl, List.foldl_cons]
  exact foldl_addSample ⟨s.family, [s]⟩ [] rest

theorem samplesNamed_samplesNotNamed {n m : String} (h : n ≠ m) (samples : List Sample) :
    samplesNamed n (samplesNotNamed m samples) = samplesNamed n samples := by
  rw [samplesNamed, samplesNotNamed, List.filter_filter]
  refine List.filter_congr fun s _ => ?_
  by_cases hs : s.name = n
  · simp [hs, h]
  · simp [hs]

theorem samplesNamed_cons_self (s : Sample) (rest : List Sample) :
    samplesNamed s.name (s :: rest) = s :: samplesNamed s.name rest := by
  simp [samplesNamed]

/-- A name of what is left over has all its samples there. -/
theorem samplesNamed_cons_of_mem {s : Sample} {rest : List Sample} {name : String}
    (h : name ∈ familyNames (samplesNotNamed s.name rest)) :
    samplesNamed name (s :: rest) = samplesNamed name (samplesNotNamed s.name rest) := by
  have hne : name ≠ s.name := by
    rintro rfl
    exact not_mem_familyNames_samplesNotNamed s.name rest h
  rw [samplesNamed_samplesNotNamed hne]
  simp [samplesNamed, hne.symm]

/-- The groups are the names in the order of their first appearance, each with its samples. -/
theorem groups_eq (samples : List Sample) :
    groups samples =
      (familyNames samples).flatMap fun name => Group.ofSamples (samplesNamed name samples) := by
  induction samples using byName_induction with
  | nil => rfl
  | cons s rest ih =>
      have hrest : ∀ name ∈ familyNames (samplesNotNamed s.name rest),
          Group.ofSamples (samplesNamed name (samplesNotNamed s.name rest)) =
            Group.ofSamples (samplesNamed name (s :: rest)) := by
        intro name hname
        rw [samplesNamed_cons_of_mem hname]
      rw [groups_cons, familyNames_cons, List.flatMap_cons, samplesNamed_cons_self, ih,
        List.flatMap_congr hrest]
      rfl

theorem length_flatMap_groups (samples : List Sample) :
    ((groups samples).flatMap Group.lines).length =
      2 * (familyNames samples).length + samples.length := by
  induction samples using byName_induction with
  | nil => rfl
  | cons s rest ih =>
      have hsplit := length_samplesNamed_add s.name rest
      rw [groups_cons, familyNames_cons, List.flatMap_cons, List.length_append, ih]
      simp only [Group.lines, List.length_cons, List.length_map]
      omega

/-- The names take up every sample once. -/
theorem flatMap_samplesNamed_perm (samples : List Sample) :
    ((familyNames samples).flatMap fun name => samplesNamed name samples).Perm samples := by
  induction samples using byName_induction with
  | nil => exact .nil
  | cons s rest ih =>
      -- the other names lose nothing when the first one is taken out
      have hrest : ∀ name ∈ familyNames (samplesNotNamed s.name rest),
          samplesNamed name (s :: rest) = samplesNamed name (samplesNotNamed s.name rest) :=
        fun _ hname => samplesNamed_cons_of_mem hname
      have hsplit : (samplesNamed s.name rest ++ samplesNotNamed s.name rest).Perm rest :=
        List.filter_append_perm _ _
      rw [familyNames_cons, List.flatMap_cons, samplesNamed_cons_self, List.flatMap_congr hrest,
        List.cons_append]
      exact List.Perm.cons s ((ih.append_left _).trans hsplit)

end FirewallExporter.Exposition
