import Mathlib.Data.List.Basic
import FirewallExporter.Metric.Exposition

/-!
The index of the groups. After each sample it tells for every name the first group of that
name, so a sample ends up where a search through all the groups would put it.
-/

namespace FirewallExporter.Exposition

/-- Adds a sample to the first group of its name, or a new group at the end. -/
def addSample (s : Sample) : List Group → List Group
  | [] => [⟨s.family, [s]⟩]
  | g :: rest =>
    if g.family.name = s.name then g.push s :: rest
    else g :: addSample s rest

/-- The first place of a name among the groups. -/
def placeOf (name : String) (gs : List Group) : Option Nat :=
  gs.findIdx? (·.family.name == name)

section Places

variable {name : String} {s : Sample} {gs : List Group} {i : Nat}

theorem placeOf_cons (g : Group) : placeOf name (g :: gs) =
    if g.family.name = name then some 0 else (placeOf name gs).map (· + 1) := by
  simp [placeOf, List.findIdx?_cons]

theorem placeOf_concat (g : Group) : placeOf name (gs ++ [g]) =
    (placeOf name gs).or (if g.family.name = name then some gs.length else none) := by
  rw [placeOf, List.findIdx?_append, ← placeOf, ← placeOf, placeOf_cons]
  split <;> simp [placeOf]

/-- Groups keep their places when samples are added to them. -/
theorem placeOf_modify : placeOf name (gs.modify i (Group.push s)) = placeOf name gs := by
  induction gs generalizing i with
  | nil => rw [List.modify_nil]
  | cons g gs ih =>
      cases i with
      | zero => rw [List.modify_zero_cons, placeOf_cons, placeOf_cons, Group.push]
      | succ i => rw [List.modify_succ_cons, placeOf_cons, placeOf_cons, ih]

theorem modify_concat_length (f : Group → Group) (g : Group) :
    (gs ++ [g]).modify gs.length f = gs ++ [f g] := by
  induction gs with
  | nil => rfl
  | cons g' gs ih => rw [List.cons_append, List.length_cons, List.modify_succ_cons, ih]; rfl

theorem addSample_of_some (h : placeOf s.name gs = some i) :
    addSample s gs = gs.modify i (Group.push s) := by
  induction gs generalizing i with
  | nil => cases h
  | cons g gs ih =>
      rw [placeOf_cons] at h
      rw [addSample]
      split at h
      · next hname =>
          cases h
          rw [if_pos hname, List.modify_zero_cons]
      · next hname =>
          obtain ⟨i, hi, rfl⟩ := Option.map_eq_some_iff.mp h
          rw [if_neg hname, ih hi, List.modify_succ_cons]

theorem addSample_of_none (h : placeOf s.name gs = none) :
    addSample s gs = gs ++ [⟨s.family, [s]⟩] := by
  induction gs with
  | nil => rfl
  | cons g gs ih =>
      rw [placeOf_cons] at h
      rw [addSample]
      split at h
      · cases h
      · next hname => rw [if_neg hname, ih (Option.map_eq_none_iff.mp h), List.cons_append]

end Places

namespace Grouping

/-- The index tells for every name where its first group is. -/
def Indexed (g : Grouping) : Prop := ∀ name, g.slots[name]? = placeOf name g.groups.toList

variable {g : Grouping}

theorem toList_add (h : g.Indexed) (s : Sample) :
    (g.add s).groups.toList = addSample s g.groups.toList := by
  have hplace := h s.name
  cases hslot : g.slots[s.family.name]? with
  | some i =>
      rw [add, slot, hslot, addSample_of_some (hplace.symm.trans hslot)]
      exact Array.toList_modify
  | none =>
      rw [add, slot, hslot, addSample_of_none (hplace.symm.trans hslot)]
      dsimp only
      rw [Array.toList_modify, Array.toList_push, ← Array.length_toList, modify_concat_length]
      rfl

theorem Indexed.slot (h : g.Indexed) (f : Family) : (g.slot f).2.Indexed := by
  intro name
  cases hslot : g.slots[f.name]? with
  | some i =>
      rw [Grouping.slot, hslot]
      exact h name
  | none =>
      rw [Grouping.slot, hslot]
      dsimp only
      rw [Std.HashMap.getElem?_insert, Array.toList_push, placeOf_concat, ← h]
      by_cases hname : f.name = name
      · subst hname
        simp [hslot]
      · simp [hname]

theorem Indexed.add (h : g.Indexed) (s : Sample) : (g.add s).Indexed := by
  intro name
  rw [Grouping.add, Array.toList_modify, placeOf_modify]
  exact h.slot s.family name

theorem toList_foldl_add (h : g.Indexed) (samples : List Sample) :
    (samples.foldl Grouping.add g).groups.toList =
      samples.foldl (fun gs s => addSample s gs) g.groups.toList := by
  induction samples generalizing g with
  | nil => rfl
  | cons s rest ih => rw [List.foldl_cons, List.foldl_cons, ih (h.add s), toList_add h]

end Grouping

/-- Grouping by the index is grouping by search. -/
theorem groups_eq_foldl (samples : List Sample) :
    groups samples = samples.foldl (fun gs s => addSample s gs) [] :=
  Grouping.toList_foldl_add (fun _ => Std.HashMap.getElem?_empty) samples

end FirewallExporter.Exposition
