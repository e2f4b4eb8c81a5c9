import Mathlib.Data.List.Nodup
import Mathlib.Data.List.Perm.Basic
import Mathlib.Order.Basic
import FirewallExporter.Exporter.Target

/-!
What a directory holds of the targets it is made of: the last one of each name,
in the order of the names. Of targets whose names differ it holds all.
-/

namespace FirewallExporter

/-- Where names are distinct each thing is found under its own. -/
theorem find?_name_eq_some_iff {α : Type} {name : α → String} {xs : List α}
    (h : (xs.map name).Nodup) {x : α} {n : String} :
    xs.find? (name · == n) = some x ↔ x ∈ xs ∧ name x = n := by
  constructor
  · intro hfind
    have hname := List.find?_some hfind
    exact ⟨List.mem_of_find?_eq_some hfind, beq_iff_eq.mp hname⟩
  · rintro ⟨hx, rfl⟩
    cases hfind : xs.find? (name · == name x) with
    | none =>
        have hno := List.find?_eq_none.mp hfind x hx
        exact absurd (beq_self_eq_true (name x)) hno
    | some y =>
        have hname := List.find?_some hfind
        have hy := List.mem_of_find?_eq_some hfind
        rw [List.inj_on_of_nodup_map h hy hx (beq_iff_eq.mp hname)]

variable {t : Target} {ts : List Target}

namespace Target

theorem mem_insert_name {name : String} :
    name ∈ (t.insert ts).map Target.name ↔ name = t.name ∨ name ∈ ts.map Target.name := by
  induction ts with
  | nil => simp [insert]
  | cons u rest ih =>
      rw [insert]
      split_ifs with hlt heq
      · simp
      · simp [heq]
      · rw [List.map_cons, List.mem_cons, ih, List.map_cons, List.mem_cons]
        tauto

theorem pairwise_insert (h : (ts.map Target.name).Pairwise (· < ·)) :
    ((t.insert ts).map Target.name).Pairwise (· < ·) := by
  induction ts with
  | nil => simp [insert]
  | cons u rest ih =>
      rw [List.map_cons, List.pairwise_cons] at h
      obtain ⟨hu, hrest⟩ := h
      rw [insert]
      split_ifs with hlt heq
      · refine List.pairwise_cons.mpr ⟨fun name hname => ?_, List.pairwise_cons.mpr ⟨hu, hrest⟩⟩
        rcases List.mem_cons.mp hname with rfl | hname
        · exact hlt
        · exact String.lt_trans hlt (hu name hname)
      · rw [List.map_cons, heq]
        exact List.pairwise_cons.mpr ⟨hu, hrest⟩
      · have hgt : u.name < t.name :=
          Std.lt_of_le_of_ne (String.not_lt.mp hlt) (Ne.symm heq)
        refine List.pairwise_cons.mpr ⟨fun name hname => ?_, ih hrest⟩
        rcases mem_insert_name.mp hname with rfl | hname
        · exact hgt
        · exact hu name hname

theorem find?_cons (name : String) :
    (t :: ts).find? (·.name == name) =
      if t.name = name then some t else ts.find? (·.name == name) := by
  by_cases h : t.name = name
  · simp [h]
  · simp [h]

/-- What is found under other names stays. -/
theorem find?_insert (name : String) :
    (t.insert ts).find? (·.name == name) =
      if t.name = name then some t else ts.find? (·.name == name) := by
  induction ts with
  | nil => exact find?_cons name
  | cons u rest ih =>
      rw [insert, find?_cons]
      by_cases hlt : t.name < u.name
      · rw [if_pos hlt, find?_cons, find?_cons]
      rw [if_neg hlt]
      by_cases heq : t.name = u.name
      · rw [if_pos heq, find?_cons, heq]
        split_ifs <;> rfl
      rw [if_neg heq, find?_cons, ih]
      by_cases hname : t.name = name
      · rw [if_pos hname, if_pos hname, if_neg fun hu => heq (hname.trans hu.symm)]
      · rw [if_neg hname, if_neg hname]

end Target

namespace Directory

theorem mem_names_ofList {name : String} :
    name ∈ (ofList ts).names ↔ name ∈ ts.map Target.name := by
  -- the induction is on what is still to come, whatever is known already
  have hfold : ∀ known : List Target,
      name ∈ (ts.foldl (fun known t => t.insert known) known).map Target.name ↔
        name ∈ known.map Target.name ∨ name ∈ ts.map Target.name := by
    induction ts with
    | nil => simp
    | cons t ts ih =>
        intro known
        rw [List.foldl_cons, ih, Target.mem_insert_name, List.map_cons, List.mem_cons]
        tauto
  simpa [names, ofList] using hfold []

/-- No two targets of a directory have one name, and they come in the order of their names. -/
theorem pairwise_names_ofList (ts : List Target) : (ofList ts).names.Pairwise (· < ·) := by
  have hfold : ∀ known : List Target, (known.map Target.name).Pairwise (· < ·) →
      ((ts.foldl (fun known t => t.insert known) known).map Target.name).Pairwise (· < ·) := by
    induction ts with
    | nil => exact fun known h => h
    | cons t ts ih => exact fun known h => ih _ (Target.pairwise_insert h)
  exact hfold [] .nil

/-- The last target of a name is the one that is found. -/
theorem find?_ofList (ts : List Target) (name : String) :
    (ofList ts).find? name = ts.reverse.find? (·.name == name) := by
  have hfold : ∀ known : List Target,
      (ts.foldl (fun known t => t.insert known) known).find? (·.name == name) =
        (ts.reverse ++ known).find? (·.name == name) := by
    induction ts with
    | nil => exact fun known => rfl
    | cons t ts ih =>
        intro known
        rw [List.foldl_cons, ih, List.reverse_cons, List.append_assoc, List.singleton_append,
          List.find?_append, List.find?_append, Target.find?_insert, Target.find?_cons]
  rw [find?, ofList, hfold, List.append_nil]

/-- Among distinct names the order of the targets does not matter. -/
theorem find?_ofList_eq_some (hts : (ts.map Target.name).Nodup) {name : String} :
    (ofList ts).find? name = some t ↔ t ∈ ts ∧ t.name = name := by
  have hreverse : (ts.reverse.map Target.name).Nodup := by
    rw [List.map_reverse]
    exact List.nodup_reverse.mpr hts
  rw [find?_ofList, find?_name_eq_some_iff hreverse, List.mem_reverse]

theorem isSome_find?_ofList {name : String} :
    ((ofList ts).find? name).isSome = true ↔ name ∈ ts.map Target.name := by
  rw [find?_ofList, List.find?_isSome]
  simp

theorem names_ofList_perm (hts : (ts.map Target.name).Nodup) :
    (ofList ts).names.Perm (ts.map Target.name) := by
  have hnodup : (ofList ts).names.Nodup :=
    (pairwise_names_ofList ts).imp fun h => by rintro rfl; exact String.lt_irrefl _ h
  exact (List.perm_ext_iff_of_nodup hnodup hts).mpr fun name => mem_names_ofList

end Directory

end FirewallExporter
