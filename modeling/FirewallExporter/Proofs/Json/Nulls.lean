import Mathlib.Logic.Relation
import FirewallExporter.Proofs.Json.Ordered

/-!
Members that are null. Two bodies are equivalent up to such members if one comes
from the other by putting them in and taking them out. All bodies that are so
equivalent look the same once they are in order and without null members.
Dropping null members takes away nothing else: what is left is where it was.
-/

namespace FirewallExporter.Json

/-- One null member is put in at some depth, under a key that is not there yet. -/
inductive NullStep : Json → Json → Prop where
  | insert {key : String} {before after : List (String × Json)}
      (h : key ∉ (before ++ after).map Prod.fst) :
      NullStep (.object (before ++ after)) (.object (before ++ (key, .null) :: after))
  | member (key : String) (before after : List (String × Json)) {value value' : Json}
      (h : NullStep value value') :
      NullStep (.object (before ++ (key, value) :: after))
        (.object (before ++ (key, value') :: after))
  | item (before after : List Json) {value value' : Json} (h : NullStep value value') :
      NullStep (.array (before ++ value :: after)) (.array (before ++ value' :: after))

/-- Null members may be put in and taken out any number of times. -/
def NullEquiv : Json → Json → Prop := Relation.EqvGen NullStep

/-! ### Settled bodies -/

/-- Members in the order of their keys, of which the last of each key counts. -/
def inOrder (members : List (String × Json)) : List (String × Json) :=
  members.foldr (fun m rest => insertNew m.1 m.2 rest) []

theorem inOrder_cons (m : String × Json) (members : List (String × Json)) :
    inOrder (m :: members) = insertNew m.1 m.2 (inOrder members) := rfl

theorem canonicalMembers_eq (members : List (String × Json)) :
    canonicalMembers members = inOrder (members.map fun m => (m.1, m.2.canonical)) := by
  induction members with
  | nil => rfl
  | cons m members ih => rw [canonicalMembers, ih, List.map_cons, inOrder_cons]

theorem pairwise_inOrder (members : List (String × Json)) :
    ((inOrder members).map Prod.fst).Pairwise (· < ·) := by
  induction members with
  | nil => exact List.Pairwise.nil
  | cons m members ih => exact pairwise_insertNew ih

theorem mem_inOrder {m : String × Json} {members : List (String × Json)}
    (h : m ∈ inOrder members) : m ∈ members := by
  induction members with
  | nil => cases h
  | cons m' members ih =>
      rcases mem_insertNew h with rfl | h
      · exact List.mem_cons_self
      · exact List.mem_cons_of_mem _ (ih h)

theorem filter_inOrder (p : String → Bool) (members : List (String × Json)) :
    (inOrder members).filter (fun m => p m.1) = inOrder (members.filter fun m => p m.1) := by
  induction members with
  | nil => rfl
  | cons m members ih =>
      rw [inOrder_cons, filter_insertNew p (pairwise_inOrder members), ih, List.filter_cons]
      split <;> rfl

theorem map_inOrder (g : Json → Json) (members : List (String × Json)) :
    (inOrder members).map (fun m => (m.1, g m.2)) =
      inOrder (members.map fun m => (m.1, g m.2)) := by
  induction members with
  | nil => rfl
  | cons m members ih =>
      rw [inOrder_cons, map_insertNew fun _ => g, ih]
      rfl

@[simp] theorem isNull_dropNulls (j : Json) : j.dropNulls.isNull = j.isNull := by
  cases j <;> rfl

theorem settled_array (items : List Json) :
    (Json.array items).settled = .array (items.map settled) := by
  rw [settled, canonical_array, dropNulls_array, List.map_map]
  rfl

/-- An object is settled member by member; those that are null then go. -/
theorem settled_object (members : List (String × Json)) :
    (Json.object members).settled =
      .object ((inOrder (members.map fun m => (m.1, m.2.settled))).filter
        fun m => !m.2.isNull) := by
  have hmap : inOrder (members.map fun m => (m.1, m.2.settled)) =
      (canonicalMembers members).map fun m => (m.1, m.2.dropNulls) := by
    rw [canonicalMembers_eq, map_inOrder, List.map_map]
    rfl
  rw [settled, canonical, dropNulls, dropNullsMembers_eq, hmap, List.filter_map]
  simp [Function.comp_def]

section Contexts

variable {value value' : Json} (h : value.settled = value'.settled)

include h

theorem settled_member (key : String) (before after : List (String × Json)) :
    (Json.object (before ++ (key, value) :: after)).settled =
      (Json.object (before ++ (key, value') :: after)).settled := by
  rw [settled_object, settled_object, List.map_append, List.map_append, List.map_cons,
    List.map_cons, h]

theorem settled_item (before after : List Json) :
    (Json.array (before ++ value :: after)).settled =
      (Json.array (before ++ value' :: after)).settled := by
  rw [settled_array, settled_array, List.map_append, List.map_append, List.map_cons,
    List.map_cons, h]

end Contexts

/-- Where a member is put in under a key that is not there yet, it is the only one there. -/
theorem eq_of_mem_insert {key : String} {value inserted : Json}
    {before after : List (String × Json)} (h : key ∉ (before ++ after).map Prod.fst)
    (hmem : (key, value) ∈ before ++ (key, inserted) :: after) : value = inserted := by
  rcases List.mem_append.mp hmem with hmem | hmem
  · exact absurd (List.mem_map_of_mem (List.mem_append_left _ hmem)) h
  · rcases List.mem_cons.mp hmem with heq | hmem
    · exact congrArg Prod.snd heq
    · exact absurd (List.mem_map_of_mem (List.mem_append_right _ hmem)) h

/-- A null member whose key is not there yet goes unseen. -/
theorem filter_inOrder_null {key : String} {before after : List (String × Json)}
    (h : key ∉ (before ++ after).map Prod.fst) :
    (inOrder (before ++ (key, .null) :: after)).filter (fun m => !m.2.isNull) =
      (inOrder (before ++ after)).filter fun m => !m.2.isNull := by
  -- what is left without the key is `before ++ after`
  have hrest : (before ++ (key, Json.null) :: after).filter (fun m => m.1 != key) =
      before ++ after := by
    have hall : (before ++ after).filter (fun m => m.1 != key) = before ++ after := by
      refine List.filter_eq_self.mpr fun m hm => bne_iff_ne.mpr fun heq => h ?_
      exact heq ▸ List.mem_map_of_mem hm
    rw [List.filter_append, List.filter_cons_of_neg (by simp), ← List.filter_append, hall]
  -- what is there under the key is null, so it goes in any case
  have hnull : ∀ m ∈ inOrder (before ++ (key, .null) :: after), m.1 = key → m.2.isNull = true := by
    rintro m hm rfl
    rw [eq_of_mem_insert h (mem_inOrder hm)]
    rfl
  rw [← hrest, ← filter_inOrder fun k => k != key, List.filter_filter]
  refine List.filter_congr fun m hm => ?_
  by_cases heq : m.1 = key
  · simp [hnull m hm heq]
  · simp [heq]

theorem NullStep.settled_eq {a b : Json} (h : NullStep a b) : a.settled = b.settled := by
  induction h with
  | insert h =>
      rename_i key before after
      have hkeys : key ∉ ((before ++ after).map fun m => (m.1, m.2.settled)).map Prod.fst := by
        rwa [List.map_map]
      rw [List.map_append] at hkeys
      rw [settled_object, settled_object, List.map_append, List.map_append, List.map_cons]
      exact congrArg Json.object (filter_inOrder_null hkeys).symm
  | member key before after _ ih => exact settled_member ih key before after
  | item before after _ ih => exact settled_item ih before after

theorem NullEquiv.settled_eq {a b : Json} (h : NullEquiv a b) : a.settled = b.settled := by
  induction h with
  | rel a b h => exact h.settled_eq
  | refl a => rfl
  | symm a b _ ih => exact ih.symm
  | trans a b c _ _ hab hbc => exact hab.trans hbc

/-! ### What is left where nulls are dropped -/

/-- From a value to one of its parts. -/
inductive Step where
  | key (key : String)
  | index (i : Nat)
deriving DecidableEq, Repr

/-- The part of a value at the end of a path. -/
inductive At : List Step → Json → Json → Prop where
  | here (j : Json) : At [] j j
  | member {key : String} {value part : Json} {path : List Step} {members : List (String × Json)}
      (hmem : (key, value) ∈ members) (h : At path value part) :
      At (.key key :: path) (.object members) part
  | item {i : Nat} {value part : Json} {path : List Step} {items : List Json}
      (hitem : items[i]? = some value) (h : At path value part) :
      At (.index i :: path) (.array items) part

/-- The path ends with a member of an object. -/
def EndsAtMember (path : List Step) : Prop := ∃ key, path.getLast? = some (.key key)

theorem endsAtMember_key_cons {key : String} {path : List Step} :
    EndsAtMember (.key key :: path) ↔ path = [] ∨ EndsAtMember path := by
  cases path <;> simp [EndsAtMember, List.getLast?_cons]

theorem endsAtMember_index_cons {i : Nat} {path : List Step} :
    EndsAtMember (.index i :: path) ↔ EndsAtMember path := by
  cases path <;> simp [EndsAtMember, List.getLast?_cons]

/-- Null has no parts but itself. -/
theorem At.not_isNull {path : List Step} {j part : Json} (h : At path j part)
    (hpath : path ≠ []) : j.isNull = false := by
  cases h with
  | here => exact absurd rfl hpath
  | member => rfl
  | item => rfl

theorem mem_dropNullsMembers {key : String} {value : Json} {members : List (String × Json)} :
    (key, value) ∈ dropNullsMembers members ↔
      ∃ original, (key, original) ∈ members ∧ original.isNull = false ∧
        original.dropNulls = value := by
  rw [dropNullsMembers_eq, List.mem_map]
  constructor
  · rintro ⟨⟨k, original⟩, hmem, heq⟩
    cases heq
    obtain ⟨hmem, hnull⟩ := List.mem_filter.mp hmem
    exact ⟨original, hmem, by simpa using hnull, rfl⟩
  · rintro ⟨original, hmem, hnull, rfl⟩
    exact ⟨(key, original), List.mem_filter.mpr ⟨hmem, by simpa using hnull⟩, rfl⟩

theorem getElem?_map_dropNulls {i : Nat} {value : Json} {items : List Json} :
    (items.map dropNulls)[i]? = some value ↔
      ∃ original, items[i]? = some original ∧ original.dropNulls = value := by
  rw [List.getElem?_map, Option.map_eq_some_iff]

/-- The parts left are those there were, at their old places, but for null members. -/
theorem at_dropNulls_iff {path : List Step} {j part : Json} :
    At path j.dropNulls part ↔
      ∃ original, At path j original ∧ original.dropNulls = part ∧
        (EndsAtMember path → original.isNull = false) := by
  induction path generalizing j with
  | nil =>
      have hends : ¬ EndsAtMember [] := by simp [EndsAtMember]
      constructor
      · intro h
        cases h
        exact ⟨j, .here j, rfl, fun hpath => absurd hpath hends⟩
      · rintro ⟨original, h, rfl, -⟩
        cases h
        exact .here _
  | cons step path ih =>
      cases j with
      | null | bool _ | int _ | float _ | string _ =>
          constructor
          · intro h
            cases h
          · rintro ⟨original, h, -⟩
            cases h
      | array items =>
          rw [dropNulls_array]
          constructor
          · intro h
            cases h with
            | item hitem h =>
                obtain ⟨value, hvalue, rfl⟩ := getElem?_map_dropNulls.mp hitem
                obtain ⟨original, hat, hpart, hnull⟩ := ih.mp h
                exact ⟨original, .item hvalue hat, hpart,
                  fun hpath => hnull (endsAtMember_index_cons.mp hpath)⟩
          · rintro ⟨original, h, hpart, hnull⟩
            cases h with
            | item hitem h =>
                refine .item (getElem?_map_dropNulls.mpr ⟨_, hitem, rfl⟩) (ih.mpr ?_)
                exact ⟨original, h, hpart, fun hpath => hnull (endsAtMember_index_cons.mpr hpath)⟩
      | object members =>
          rw [dropNulls]
          constructor
          · intro h
            cases h with
            | member hmem h =>
                obtain ⟨value, hvalue, hvaluenull, rfl⟩ := mem_dropNullsMembers.mp hmem
                obtain ⟨original, hat, hpart, hnull⟩ := ih.mp h
                refine ⟨original, .member hvalue hat, hpart, fun hpath => ?_⟩
                rcases endsAtMember_key_cons.mp hpath with rfl | hpath
                · cases hat
                  exact hvaluenull
                · exact hnull hpath
          · rintro ⟨original, h, hpart, hnull⟩
            cases h with
            | @member key value _ _ _ hmem h =>
                have hvaluenull : value.isNull = false := by
                  by_cases hpath : path = []
                  · subst hpath
                    cases h
                    exact hnull (endsAtMember_key_cons.mpr (.inl rfl))
                  · exact h.not_isNull hpath
                refine .member (mem_dropNullsMembers.mpr ⟨_, hmem, hvaluenull, rfl⟩) (ih.mpr ?_)
                exact ⟨original, h, hpart,
                  fun hpath => hnull (endsAtMember_key_cons.mpr (.inr hpath))⟩

/-- No member that is left is null, at whatever depth. -/
theorem isNull_of_at_dropNulls {path : List Step} {j part : Json} (h : At path j.dropNulls part)
    (hpath : EndsAtMember path) : part.isNull = false := by
  obtain ⟨original, -, rfl, hnull⟩ := at_dropNulls_iff.mp h
  rw [isNull_dropNulls]
  exact hnull hpath

mutual
theorem dropNulls_dropNulls : (j : Json) → j.dropNulls.dropNulls = j.dropNulls
  | .null | .bool _ | .int _ | .float _ | .string _ => rfl
  | .array items => by rw [dropNulls, dropNulls, dropNullsItems_dropNullsItems items]
  | .object members => by rw [dropNulls, dropNulls, dropNullsMembers_dropNullsMembers members]

theorem dropNullsItems_dropNullsItems :
    (items : List Json) → dropNullsItems (dropNullsItems items) = dropNullsItems items
  | [] => rfl
  | item :: items => by
      rw [dropNullsItems, dropNullsItems, dropNulls_dropNulls item,
        dropNullsItems_dropNullsItems items]

theorem dropNullsMembers_dropNullsMembers :
    (members : List (String × Json)) →
      dropNullsMembers (dropNullsMembers members) = dropNullsMembers members
  | [] => rfl
  | (key, value) :: members => by
      rw [dropNullsMembers]
      split
      · exact dropNullsMembers_dropNullsMembers members
      · next hnull =>
          rw [dropNullsMembers, isNull_dropNulls, if_neg hnull, dropNulls_dropNulls value,
            dropNullsMembers_dropNullsMembers members]
end

/-! ### Settled bodies are settled -/

theorem inOrder_eq_self {members : List (String × Json)}
    (h : (members.map Prod.fst).Pairwise (· < ·)) : inOrder members = members := by
  induction members with
  | nil => rfl
  | cons m members ih =>
      obtain ⟨hfirst, hrest⟩ := pairwise_keys_cons.mp h
      rw [inOrder_cons, ih hrest, insertNew_of_forall_lt hfirst]

theorem Ordered.canonical_eq {j : Json} (h : j.Ordered) : j.canonical = j := by
  induction h with
  | null | bool _ | int _ | float _ | string _ => rfl
  | array _ ih => rw [canonical_array, List.map_congr_left ih, List.map_id']
  | @object members hkeys _ ih =>
      have hvalues : (members.map fun m => (m.1, m.2.canonical)) = members := by
        rw [List.map_congr_left fun m hm => congrArg (m.1, ·) (ih m hm), List.map_id']
      rw [canonical, canonicalMembers_eq, hvalues, inOrder_eq_self hkeys]

theorem settled_settled (body : Json) : body.settled.settled = body.settled := by
  rw [settled, (ordered_settled body).canonical_eq, settled, dropNulls_dropNulls]

end FirewallExporter.Json
