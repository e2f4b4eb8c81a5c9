import Mathlib.Data.List.Nodup
import FirewallExporter.Proofs.Json.Nulls

/-!
The order in which members are written. Members of an object may change places
as long as those under one key keep their order among themselves, so all of them
may where no key is there twice. Bodies that differ in nothing else, at whatever
depth, look the same once they are settled. Members in the order of their keys
are those below a key, the one under it and those above it.
-/

namespace FirewallExporter.Json

/-! ### Members in the order of their keys -/

section Ascending

variable {members members' : List (String × Json)}

theorem nodup_keys_of_ascending (h : (members.map Prod.fst).Pairwise (· < ·)) :
    (members.map Prod.fst).Nodup := by
  refine h.imp fun hlt heq => ?_
  rw [heq] at hlt
  exact String.lt_irrefl _ hlt

theorem nodup_of_ascending (h : (members.map Prod.fst).Pairwise (· < ·)) : members.Nodup :=
  .of_map _ (nodup_keys_of_ascending h)

/-- Members in order are settled by what is there under each key. -/
theorem eq_of_filter_key_eq (h : (members.map Prod.fst).Pairwise (· < ·))
    (h' : (members'.map Prod.fst).Pairwise (· < ·))
    (hfilter : ∀ key, members'.filter (·.1 == key) = members.filter (·.1 == key)) :
    members' = members := by
  have hperm : members'.Perm members := by
    rw [List.perm_ext_iff_of_nodup (nodup_of_ascending h') (nodup_of_ascending h)]
    intro m
    have hmem : m ∈ members'.filter (·.1 == m.1) ↔ m ∈ members.filter (·.1 == m.1) := by
      rw [hfilter]
    simpa using hmem
  rw [List.pairwise_map] at h h'
  exact hperm.eq_of_pairwise (fun _ _ _ _ hlt hgt => absurd hgt (String.lt_asymm hlt)) h' h

section Above

variable {key : String} (h : ∀ m ∈ members, key < m.1)

include h

theorem filter_lt_of_forall_lt : members.filter (·.1 < key) = [] := by
  rw [List.filter_eq_nil_iff]
  intro m hm
  simpa using String.lt_asymm (h m hm)

theorem filter_gt_of_forall_lt : members.filter (key < ·.1) = members := by
  rw [List.filter_eq_self]
  intro m hm
  simpa using h m hm

theorem lookup_of_forall_lt : members.lookup key = none := by
  rw [List.lookup_eq_none_iff]
  intro m hm
  rw [bne_iff_ne]
  rintro rfl
  exact String.lt_irrefl _ (h m hm)

end Above

/-- The members below a key come first, then what is under it, then those above it. -/
theorem split_ascending (h : (members.map Prod.fst).Pairwise (· < ·)) (key : String) :
    members = members.filter (·.1 < key) ++ (members.lookup key).toList.map (key, ·) ++
      members.filter (key < ·.1) := by
  induction members with
  | nil => rfl
  | cons m members ih =>
      obtain ⟨k, value⟩ := m
      obtain ⟨hfirst, hrest⟩ := pairwise_keys_cons.mp h
      by_cases hgt : key < k
      · -- all of them are above the key
        have hall : ∀ m ∈ (k, value) :: members, key < m.1 := by
          intro m hm
          rcases List.mem_cons.mp hm with rfl | hm
          · exact hgt
          · exact String.lt_trans hgt (hfirst m hm)
        rw [filter_lt_of_forall_lt hall, filter_gt_of_forall_lt hall, lookup_of_forall_lt hall]
        rfl
      · by_cases hk : key = k
        · subst hk
          rw [List.filter_cons_of_neg (by simp), List.filter_cons_of_neg (by simp),
            filter_lt_of_forall_lt hfirst, filter_gt_of_forall_lt hfirst, List.lookup_cons_self]
          rfl
        · have hlt : k < key := Std.lt_of_le_of_ne (String.not_lt.mp hgt) (Ne.symm hk)
          have hne : (key == k) = false := beq_eq_false_iff_ne.mpr hk
          rw [List.filter_cons_of_pos (by simpa using hlt),
            List.filter_cons_of_neg (by simpa using hgt), List.lookup_cons, hne, List.cons_append,
            List.cons_append, ← ih hrest]

end Ascending

/-! ### Bodies whose members are in another order -/

/-- The members of one object, at some depth, change places; under one key they keep their order. -/
inductive OrderStep : Json → Json → Prop where
  | members {members members' : List (String × Json)}
      (h : ∀ key, members'.filter (·.1 == key) = members.filter (·.1 == key)) :
      OrderStep (.object members) (.object members')
  | member (key : String) (before after : List (String × Json)) {value value' : Json}
      (h : OrderStep value value') :
      OrderStep (.object (before ++ (key, value) :: after))
        (.object (before ++ (key, value') :: after))
  | item (before after : List Json) {value value' : Json} (h : OrderStep value value') :
      OrderStep (.array (before ++ value :: after)) (.array (before ++ value' :: after))

/-- Members may change places any number of times. -/
def Reordered : Json → Json → Prop := Relation.EqvGen OrderStep

/-- Where no key is there twice, any order will do. -/
theorem OrderStep.of_perm {members members' : List (String × Json)}
    (hkeys : (members.map Prod.fst).Nodup) (h : members'.Perm members) :
    OrderStep (.object members) (.object members') := by
  refine .members fun key => ?_
  have hfilter := h.filter (·.1 == key)
  have hone : ((members.filter (·.1 == key)).map Prod.fst).Nodup :=
    hkeys.sublist (List.filter_sublist.map _)
  have hkey : ∀ m ∈ members.filter (·.1 == key), m.1 = key :=
    fun m hm => beq_iff_eq.mp (List.mem_filter.mp hm).2
  generalize members.filter (·.1 == key) = found at hfilter hone hkey
  match found with
  | [] => exact List.perm_nil.mp hfilter
  | [m] => exact List.perm_singleton.mp hfilter
  | m :: m' :: rest =>
      have hne : m.1 ≠ m'.1 := fun heq => (List.nodup_cons.mp hone).1 (heq ▸ List.mem_cons_self)
      exact absurd ((hkey m (by simp)).trans (hkey m' (by simp)).symm) hne

theorem inOrder_eq_of_filter_key_eq {members members' : List (String × Json)}
    (h : ∀ key, members'.filter (·.1 == key) = members.filter (·.1 == key)) :
    inOrder members' = inOrder members := by
  refine eq_of_filter_key_eq (pairwise_inOrder _) (pairwise_inOrder _) fun key => ?_
  have hfilter := filter_inOrder (· == key)
  rw [hfilter, hfilter, h]

theorem OrderStep.settled_eq {a b : Json} (h : OrderStep a b) : a.settled = b.settled := by
  induction h with
  | @members members members' h =>
      have hsettled : ∀ key, (members'.map fun m => (m.1, m.2.settled)).filter (·.1 == key) =
          (members.map fun m => (m.1, m.2.settled)).filter (·.1 == key) := by
        intro key
        rw [List.filter_map, List.filter_map]
        exact congrArg _ (h key)
      rw [settled_object, settled_object, inOrder_eq_of_filter_key_eq hsettled]
  | member key before after _ ih => exact settled_member ih key before after
  | item before after _ ih => exact settled_item ih before after

theorem Reordered.settled_eq {a b : Json} (h : Reordered a b) : a.settled = b.settled := by
  induction h with
  | rel a b h => exact h.settled_eq
  | refl a => rfl
  | symm a b _ ih => exact ih.symm
  | trans a b c _ _ hab hbc => exact hab.trans hbc

end FirewallExporter.Json
