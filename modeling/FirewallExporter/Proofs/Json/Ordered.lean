import FirewallExporter.Json

/-!
The order of the members of a body as it is decoded. In every object of it, at
whatever depth, the keys ascend strictly, so none is there twice. Leaving out
members by their keys, and changing the values under keys, can be done before
or after a body is put in order.
-/

namespace FirewallExporter.Json

/-- A body as it is decoded: in order and without null members. -/
def settled (body : Json) : Json := body.canonical.dropNulls

/-- In every object of the value the keys ascend strictly. -/
inductive Ordered : Json → Prop where
  | null : Ordered .null
  | bool (b : Bool) : Ordered (.bool b)
  | int (n : Int) : Ordered (.int n)
  | float (x : Float) : Ordered (.float x)
  | string (s : String) : Ordered (.string s)
  | array {items : List Json} (h : ∀ item ∈ items, Ordered item) : Ordered (.array items)
  | object {members : List (String × Json)} (hkeys : (members.map Prod.fst).Pairwise (· < ·))
      (h : ∀ m ∈ members, Ordered m.2) : Ordered (.object members)

/-! ### The walks as maps -/

theorem canonicalItems_eq_map (items : List Json) : canonicalItems items = items.map canonical := by
  induction items with
  | nil => rfl
  | cons item items ih => rw [canonicalItems, ih, List.map_cons]

theorem dropNullsItems_eq_map (items : List Json) :
    dropNullsItems items = items.map dropNulls := by
  induction items with
  | nil => rfl
  | cons item items ih => rw [dropNullsItems, ih, List.map_cons]

theorem canonical_array (items : List Json) :
    (Json.array items).canonical = .array (items.map canonical) := by
  rw [canonical, canonicalItems_eq_map]

theorem dropNulls_array (items : List Json) :
    (Json.array items).dropNulls = .array (items.map dropNulls) := by
  rw [dropNulls, dropNullsItems_eq_map]

theorem dropNullsMembers_eq (members : List (String × Json)) :
    dropNullsMembers members =
      (members.filter fun m => !m.2.isNull).map fun m => (m.1, m.2.dropNulls) := by
  induction members with
  | nil => rfl
  | cons m members ih =>
      rw [dropNullsMembers, ih, List.filter_cons]
      cases m.2.isNull <;> rfl

/-! ### Insertion -/

section Insertion

variable {key : String} {value : Json} {members : List (String × Json)}

theorem mem_insertNew {m : String × Json} (h : m ∈ insertNew key value members) :
    m = (key, value) ∨ m ∈ members := by
  induction members with
  | nil => exact .inl (List.mem_singleton.mp h)
  | cons m' members ih =>
      obtain ⟨k, v⟩ := m'
      rw [insertNew] at h
      split at h
      · exact List.mem_cons.mp h
      · split at h
        · exact .inr h
        · rcases List.mem_cons.mp h with rfl | h
          · exact .inr List.mem_cons_self
          · exact (ih h).imp id (List.mem_cons_of_mem _)

/-- A key below all others comes first. -/
theorem insertNew_of_forall_lt (h : ∀ m ∈ members, key < m.1) :
    insertNew key value members = (key, value) :: members := by
  cases members with
  | nil => rfl
  | cons m members => rw [insertNew, if_pos (h m List.mem_cons_self)]

theorem pairwise_keys_cons {m : String × Json} :
    ((m :: members).map Prod.fst).Pairwise (· < ·) ↔
      (∀ m' ∈ members, m.1 < m'.1) ∧ (members.map Prod.fst).Pairwise (· < ·) := by
  rw [List.map_cons, List.pairwise_cons, List.forall_mem_map]

theorem pairwise_insertNew (h : (members.map Prod.fst).Pairwise (· < ·)) :
    ((insertNew key value members).map Prod.fst).Pairwise (· < ·) := by
  induction members with
  | nil => exact List.pairwise_singleton _ _
  | cons m members ih =>
      obtain ⟨k, v⟩ := m
      obtain ⟨hfirst, hrest⟩ := pairwise_keys_cons.mp h
      rw [insertNew]
      split
      · next hlt =>
          refine pairwise_keys_cons.mpr ⟨fun m' hm' => ?_, h⟩
          rcases List.mem_cons.mp hm' with rfl | hm'
          · exact hlt
          · exact String.lt_trans hlt (hfirst m' hm')
      · next hnlt =>
          split
          · exact h
          · next hne =>
              refine pairwise_keys_cons.mpr ⟨fun m' hm' => ?_, ih hrest⟩
              rcases mem_insertNew hm' with rfl | hm'
              · exact Std.lt_of_le_of_ne (String.not_lt.mp hnlt) (Ne.symm hne)
              · exact hfirst m' hm'

/-- Members are left out by key before or after an insertion. -/
theorem filter_insertNew (p : String → Bool) (h : (members.map Prod.fst).Pairwise (· < ·)) :
    (insertNew key value members).filter (fun m => p m.1) =
      if p key then insertNew key value (members.filter fun m => p m.1)
      else members.filter fun m => p m.1 := by
  induction members with
  | nil => cases hp : p key <;> simp [insertNew, hp]
  | cons m members ih =>
      obtain ⟨k, v⟩ := m
      obtain ⟨hfirst, hrest⟩ := pairwise_keys_cons.mp h
      rw [insertNew]
      split
      · next hlt =>
          -- the key is below all that are left, so it is still the first
          have hall : ∀ m' ∈ ((k, v) :: members).filter (fun m => p m.1), key < m'.1 := by
            intro m' hm'
            rcases List.mem_cons.mp (List.mem_filter.mp hm').1 with rfl | hm'
            · exact hlt
            · exact String.lt_trans hlt (hfirst m' hm')
          rw [List.filter_cons, insertNew_of_forall_lt hall]
      · next hnlt =>
          split
          · next heq =>
              subst heq
              cases hp : p key <;> simp [insertNew, hp]
          · next hne =>
              rw [List.filter_cons, List.filter_cons, ih hrest]
              cases p k <;> cases p key <;> simp [insertNew, hnlt, hne]

/-- Values are changed by key before or after an insertion. -/
theorem map_insertNew (g : String → Json → Json) :
    (insertNew key value members).map (fun m => (m.1, g m.1 m.2)) =
      insertNew key (g key value) (members.map fun m => (m.1, g m.1 m.2)) := by
  induction members with
  | nil => rfl
  | cons m members ih =>
      obtain ⟨k, v⟩ := m
      rw [List.map_cons, insertNew, insertNew]
      split
      · rfl
      · split
        · rfl
        · rw [List.map_cons, ih]

end Insertion

/-! ### Walks and changes by key -/

theorem pairwise_canonicalMembers (members : List (String × Json)) :
    ((canonicalMembers members).map Prod.fst).Pairwise (· < ·) := by
  induction members with
  | nil => exact List.Pairwise.nil
  | cons m members ih => exact pairwise_insertNew ih

theorem canonicalMembers_filter (p : String → Bool) (members : List (String × Json)) :
    canonicalMembers (members.filter fun m => p m.1) =
      (canonicalMembers members).filter fun m => p m.1 := by
  induction members with
  | nil => rfl
  | cons m members ih =>
      rw [List.filter_cons, canonicalMembers,
        filter_insertNew p (pairwise_canonicalMembers members)]
      split
      · rw [canonicalMembers, ih]
      · exact ih

theorem canonicalMembers_map {g : String → Json → Json}
    (hg : ∀ key value, (g key value).canonical = g key value.canonical)
    (members : List (String × Json)) :
    canonicalMembers (members.map fun m => (m.1, g m.1 m.2)) =
      (canonicalMembers members).map fun m => (m.1, g m.1 m.2) := by
  induction members with
  | nil => rfl
  | cons m members ih =>
      rw [List.map_cons, canonicalMembers, canonicalMembers, map_insertNew, ih, hg]

theorem dropNullsMembers_filter (p : String → Bool) (members : List (String × Json)) :
    dropNullsMembers (members.filter fun m => p m.1) =
      (dropNullsMembers members).filter fun m => p m.1 := by
  rw [dropNullsMembers_eq, dropNullsMembers_eq, List.filter_map, List.filter_filter,
    List.filter_filter]
  refine congrArg _ (List.filter_congr fun m _ => ?_)
  exact Bool.and_comm _ _

theorem dropNullsMembers_map {g : String → Json → Json}
    (hnull : ∀ key value, (g key value).isNull = value.isNull)
    (hg : ∀ key value, (g key value).dropNulls = g key value.dropNulls)
    (members : List (String × Json)) :
    dropNullsMembers (members.map fun m => (m.1, g m.1 m.2)) =
      (dropNullsMembers members).map fun m => (m.1, g m.1 m.2) := by
  induction members with
  | nil => rfl
  | cons m members ih =>
      rw [List.map_cons, dropNullsMembers, dropNullsMembers, hnull, ih, hg]
      split <;> rfl

/-- A value without elements and members. -/
def isScalar : Json → Bool
  | array _ => false
  | object _ => false
  | _ => true

/--
What goes through a body part by part: each element on its own, and members so
that they may be left out or changed by their keys before or after it.
-/
structure Walk (walk : Json → Json)
    (walkMembers : List (String × Json) → List (String × Json)) : Prop where
  scalar : ∀ j, j.isScalar = true → walk j = j
  array : ∀ items, walk (.array items) = .array (items.map walk)
  object : ∀ members, walk (.object members) = .object (walkMembers members)
  filter : ∀ (p : String → Bool) members,
    walkMembers (members.filter fun m => p m.1) = (walkMembers members).filter fun m => p m.1
  map : ∀ g : String → Json → Json, (∀ key value, (g key value).isNull = value.isNull) →
    (∀ key value, walk (g key value) = g key (walk value)) → ∀ members,
      walkMembers (members.map fun m => (m.1, g m.1 m.2)) =
        (walkMembers members).map fun m => (m.1, g m.1 m.2)

theorem walk_canonical : Walk canonical canonicalMembers where
  scalar := by
    intro j hj
    cases j with
    | array _ | object _ => cases hj
    | null | bool _ | int _ | float _ | string _ => rfl
  array := canonical_array
  object _ := rfl
  filter := canonicalMembers_filter
  map _ _ hg := canonicalMembers_map hg

theorem walk_dropNulls : Walk dropNulls dropNullsMembers where
  scalar := by
    intro j hj
    cases j with
    | array _ | object _ => cases hj
    | null | bool _ | int _ | float _ | string _ => rfl
  array := dropNulls_array
  object _ := rfl
  filter := dropNullsMembers_filter
  map _ hnull hg := dropNullsMembers_map hnull hg

section Walk

variable {walk : Json → Json} {walkMembers : List (String × Json) → List (String × Json)}

theorem Walk.change_scalar (hwalk : Walk walk walkMembers) {change : Json → Json} {j : Json}
    (hj : j.isScalar = true) (hchange : (change j).isScalar = true) :
    walk (change j) = change (walk j) := by
  rw [hwalk.scalar _ hchange, hwalk.scalar j hj]

/-- A change of the elements can be made before or after the walk. -/
theorem Walk.change_array (hwalk : Walk walk walkMembers) {change : Json → Json}
    (hchange : ∀ item, walk (change item) = change (walk item)) (items : List Json) :
    walk (.array (items.map change)) = .array ((items.map walk).map change) := by
  rw [hwalk.array, List.map_map, List.map_map]
  exact congrArg Json.array (List.map_congr_left fun item _ => hchange item)

end Walk

/-! ### Bodies in order -/

mutual
theorem ordered_canonical : (j : Json) → j.canonical.Ordered
  | .null => .null
  | .bool b => .bool b
  | .int n => .int n
  | .float x => .float x
  | .string s => .string s
  | .array items => .array (ordered_canonicalItems items)
  | .object members =>
    .object (pairwise_canonicalMembers members) (ordered_canonicalMembers members)

theorem ordered_canonicalItems :
    (items : List Json) → ∀ item ∈ canonicalItems items, item.Ordered
  | [] => nofun
  | item :: items =>
    List.forall_mem_cons.mpr ⟨ordered_canonical item, ordered_canonicalItems items⟩

theorem ordered_canonicalMembers :
    (members : List (String × Json)) → ∀ m ∈ canonicalMembers members, m.2.Ordered
  | [] => nofun
  | (_, value) :: members => fun m hm =>
    match mem_insertNew hm with
    | .inl h => h ▸ ordered_canonical value
    | .inr h => ordered_canonicalMembers members m h
end

theorem Ordered.dropNulls {j : Json} (h : j.Ordered) : j.dropNulls.Ordered := by
  induction h with
  | null => exact .null
  | bool b => exact .bool b
  | int n => exact .int n
  | float x => exact .float x
  | string s => exact .string s
  | array _ ih =>
      refine .array ?_
      rw [dropNullsItems_eq_map]
      exact List.forall_mem_map.mpr ih
  | object hkeys _ ih =>
      refine .object ?_ ?_
      · rw [dropNullsMembers_eq, List.map_map]
        exact hkeys.sublist (List.filter_sublist.map _)
      · rw [dropNullsMembers_eq]
        exact List.forall_mem_map.mpr fun m hm => ih m (List.mem_filter.mp hm).1

theorem ordered_settled (body : Json) : body.settled.Ordered := (ordered_canonical body).dropNulls

end FirewallExporter.Json
