import Mathlib.Data.List.Basic
import Mathlib.Tactic.Tauto
import FirewallExporter.Proofs.Json.Extensions

/-!
Records around a list. A frame is what a record has beside the list in one of its
fields; filled with items it is a body. The items are then what stands under the
key, whatever stands under the other keys does not depend on them, and the body is
one of its shape if each of the items is one of theirs.
-/

namespace FirewallExporter

/-- What a record has beside a list, written as an object or as an array. -/
inductive Frame where
  | object (before after : List (String × Json))
  | array (before after : List Json)

namespace Frame

def fill (key : String) : Frame → List Json → Json
  | object before after, items => .object (before ++ (key, .array items) :: after)
  | array before after, items => .array (before ++ .array items :: after)

/-- A list in the frame is the one that a reader of the keys finds under the key. -/
def Holds (keys : List String) (key : String) : Frame → Prop
  | object _ after => key ∉ after.map Prod.fst
  | array before _ => keys[before.length]? = some key

end Frame

/-- The keys of a record in declared order. -/
def Shape.keys : Shape → List String
  | .record _ _ fields => fields.keys
  | _ => []

/-- A frame that is of the shape as long as it has no items. -/
structure Frame.Fits (frame : Frame) (s : Shape) (key : String) : Prop where
  holds : frame.Holds s.keys key
  empty : s.fault? (frame.fill key []).settled = none

/-! ### What is under the keys -/

namespace Json

theorem lookup_eq_head?_filter (key : String) (members : List (String × Json)) :
    members.lookup key = ((members.filter fun m => m.1 == key).head?).map Prod.snd := by
  induction members with
  | nil => rfl
  | cons m members ih =>
      obtain ⟨k, v⟩ := m
      by_cases h : k = key
      · subst h
        simp
      · have hne : (key == k) = false := beq_eq_false_iff_ne.mpr (Ne.symm h)
        rw [List.lookup_cons, hne, ih, List.filter_cons_of_neg (by simpa using h)]

/-- Of members under one key the last is kept. -/
theorem inOrder_append_singleton {key : String} (value : Json) {members : List (String × Json)}
    (h : ∀ m ∈ members, m.1 = key) : inOrder (members ++ [(key, value)]) = [(key, value)] := by
  induction members with
  | nil => rfl
  | cons m members ih =>
      obtain ⟨hm, hrest⟩ := List.forall_mem_cons.mp h
      rw [List.cons_append, inOrder_cons, ih hrest, hm]
      simp [insertNew]

theorem lookup_settledMembers {key : String} {value : Json} (hnull : value.isNull = false)
    (before : List (String × Json)) {after : List (String × Json)}
    (h : key ∉ after.map Prod.fst) :
    (settledMembers (before ++ (key, value) :: after)).lookup key = some value.settled := by
  have hafter : after.filter (fun m => m.1 == key) = [] := by
    rw [List.filter_eq_nil_iff]
    intro m hm heq
    exact h (List.mem_map.mpr ⟨m, hm, by simpa using heq⟩)
  have hfilter := filter_settledMembers (· == key) (before ++ (key, value) :: after)
  rw [List.filter_append, List.filter_cons_of_pos (by simp), hafter] at hfilter
  rw [lookup_eq_head?_filter, hfilter, settledMembers, List.map_append, List.map_singleton,
    inOrder_append_singleton]
  · simp [isNull_settled, hnull]
  · intro m hm
    obtain ⟨m', hm', rfl⟩ := List.mem_map.mp hm
    simpa using (List.mem_filter.mp hm').2

end Json

namespace Frame

variable {key : String} {frame : Frame}

theorem settled_fill_array (before after items : List Json) :
    (fill key (.array before after) items).settled =
      fill key (.array (before.map Json.settled) (after.map Json.settled))
        (items.map Json.settled) := by
  rw [fill, Json.settled_array, List.map_append, List.map_cons, Json.settled_array]
  rfl

/-- The key of the list, between those of the elements before it and after it. -/
theorem Holds.exists_keys {keys : List String} {before after : List Json}
    (h : (Frame.array before after).Holds keys key) :
    ∃ ks ks', keys = ks ++ key :: ks' ∧ ks.length = before.length := by
  obtain ⟨hlt, hkey⟩ := List.getElem?_eq_some_iff.mp h
  refine ⟨keys.take before.length, keys.drop (before.length + 1), ?_, ?_⟩
  · rw [← hkey, ← List.drop_eq_getElem_cons hlt, List.take_append_drop]
  · rw [List.length_take, Nat.min_eq_left (Nat.le_of_lt hlt)]

theorem Holds.lookup_zip {keys : List String} {before after : List Json}
    (h : (Frame.array before after).Holds keys key) (hkeys : keys.Nodup) (value : Json) :
    (keys.zip (before ++ value :: after)).lookup key = some value := by
  obtain ⟨ks, ks', rfl, hlength⟩ := h.exists_keys
  have hks : key ∉ ks := fun hmem =>
    (List.nodup_append'.mp hkeys).2.2 hmem List.mem_cons_self
  have hbefore : (ks.zip before).lookup key = none := by
    rw [List.lookup_eq_none_iff]
    intro m hm
    exact bne_iff_ne.mpr fun heq => hks (heq ▸ (List.of_mem_zip hm).1)
  rw [List.zip_append hlength, List.zip_cons_cons, List.lookup_append, hbefore,
    List.lookup_cons_self]
  rfl

theorem Holds.lookup_zip_of_ne {keys : List String} {before after : List Json}
    (h : (Frame.array before after).Holds keys key) {k : String} (hk : k ≠ key)
    (value value' : Json) :
    (keys.zip (before ++ value :: after)).lookup k =
      (keys.zip (before ++ value' :: after)).lookup k := by
  obtain ⟨ks, ks', rfl, hlength⟩ := h.exists_keys
  have hne : (k == key) = false := beq_eq_false_iff_ne.mpr hk
  rw [List.zip_append hlength, List.zip_append hlength, List.zip_cons_cons, List.zip_cons_cons,
    List.lookup_append, List.lookup_append, List.lookup_cons, List.lookup_cons, hne]

theorem Holds.map_settled {keys : List String} {before after : List Json}
    (h : (Frame.array before after).Holds keys key) :
    (Frame.array (before.map Json.settled) (after.map Json.settled)).Holds keys key := by
  rw [Holds, List.length_map]
  exact h

/-- The items are under the key. -/
theorem Holds.under_fill {keys : List String} (h : frame.Holds keys key) (hkeys : keys.Nodup)
    (items : List Json) :
    (frame.fill key items).settled.under keys key = some (.array (items.map Json.settled)) := by
  cases frame with
  | object before after =>
      rw [fill, Json.settled_object_eq, ← Json.settled_array]
      exact Json.lookup_settledMembers rfl before h
  | array before after =>
      rw [settled_fill_array]
      exact h.map_settled.lookup_zip hkeys _

/-- Under another key there is the same for any items. -/
theorem Holds.under_fill_of_ne {keys : List String} (h : frame.Holds keys key) {k : String}
    (hk : k ≠ key) (items items' : List Json) :
    (frame.fill key items).settled.under keys k =
      (frame.fill key items').settled.under keys k := by
  cases frame with
  | object before after =>
      rw [fill, fill, Json.settled_object_eq, Json.settled_object_eq]
      have hchange := Json.ChangedAt.lookup (Json.forall₂_settledMembers key
        (a := .array items) (b := .array items') rfl before after) k
      exact hchange.resolve_right fun hat => hk hat.1
  | array before after =>
      rw [settled_fill_array, settled_fill_array]
      exact h.map_settled.lookup_zip_of_ne hk _ _

/-! ### What does not fit -/

theorem fault?_list_eq_none_iff {item : Shape} {items : List Json} :
    (Shape.list item).fault? (.array items) = none ↔ ∀ x ∈ items, item.fault? x = none :=
  List.findSome?_eq_none_iff

/-- Of elements that stand for fields only those of the list can be to blame for its items. -/
theorem faultAmong?_fill {item : Shape} (items after : List Json) :
    (fs : Fields) → (before : List Json) → fs.keys.Nodup → (key, .list item) ∈ fs.toList →
      fs.keys[before.length]? = some key →
        (fs.faultAmong? (before ++ .array items :: after) = none ↔
          fs.faultAmong? (before ++ .array [] :: after) = none ∧ ∀ x ∈ items, item.fault? x = none)
  | .nil, _, _, hitem, _ => nomatch hitem
  | .cons k s rest, [], hkeys, hitem, hbefore => by
      obtain rfl : k = key := Option.some.inj hbefore
      obtain rfl : s = .list item :=
        Fields.eq_of_mem_toList hkeys List.mem_cons_self hitem
      rw [List.nil_append, List.nil_append, Fields.faultAmong?, Fields.faultAmong?,
        Option.or_eq_none_iff, Option.or_eq_none_iff, fault?_list_eq_none_iff,
        fault?_list_eq_none_iff]
      simp [and_comm]
  | .cons k s rest, b :: before, hkeys, hitem, hbefore => by
      obtain ⟨hk, hrest⟩ := List.nodup_cons.mp hkeys
      have hlater : rest.keys[before.length]? = some key := hbefore
      have hmem : (key, .list item) ∈ rest.toList := by
        rcases List.mem_cons.mp hitem with heq | hmem
        · cases heq
          exact absurd (List.mem_of_getElem? hlater) hk
        · exact hmem
      rw [List.cons_append, List.cons_append, Fields.faultAmong?, Fields.faultAmong?,
        Option.or_eq_none_iff, Option.or_eq_none_iff,
        faultAmong?_fill items after rest before hrest hmem hlater, and_assoc]

section Record

variable {name : String} {positional : Bool} {fields : Fields} {item : Shape}

theorem fault?_object_eq_none_iff {members : List (String × Json)} :
    (Shape.record name positional fields).fault? (.object members) = none ↔
      ∀ m ∈ members, fields.fault? m.1 m.2 = none :=
  List.findSome?_eq_none_iff

theorem fault?_array_eq_none_iff {items : List Json} :
    (Shape.record name positional fields).fault? (.array items) = none ↔
      positional = true ∧ fields.faultAmong? items = none ∧ items.length ≤ fields.length := by
  cases positional with
  | false => simp [Shape.fault?]
  | true => simp [Shape.fault?]

/-- A body fits its shape if it does without items and each of the items does. -/
theorem Holds.fault?_fill (h : frame.Holds fields.keys key) (hkeys : fields.keys.Nodup)
    (hitem : (key, .list item) ∈ fields.toList) (items : List Json) :
    (Shape.record name positional fields).fault? (frame.fill key items).settled = none ↔
      (Shape.record name positional fields).fault? (frame.fill key []).settled = none ∧
        ∀ x ∈ items, item.fault? x.settled = none := by
  cases frame with
  | object before after =>
      have hmembers := Json.forall₂_settledMembers key (a := .array items) (b := .array []) rfl
        before after
      have hlist (xs : List Json) : fields.fault? key (.array (xs.map Json.settled)) = none ↔
          ∀ x ∈ xs, item.fault? x.settled = none := by
        rw [fields.fault?_of_mem _ hkeys hitem, fault?_list_eq_none_iff, List.forall_mem_map]
      rw [Json.settled_array, Json.settled_array] at hmembers
      rw [fill, fill, Json.settled_object_eq, Json.settled_object_eq, fault?_object_eq_none_iff,
        fault?_object_eq_none_iff]
      constructor
      · intro hfault
        refine ⟨fun m hm => ?_, (hlist items).mp ?_⟩
        · obtain ⟨m', hm', hchange⟩ := exists_mem_left_of_forall₂ hmembers hm
          rcases hchange with rfl | ⟨-, rfl⟩
          · exact hfault m' hm'
          · exact (hlist []).mpr nofun
        · have hlookup : (Json.settledMembers (before ++ (key, .array items) :: after)).lookup key =
              some (Json.array items).settled := Json.lookup_settledMembers rfl before h
          rw [Json.settled_array] at hlookup
          obtain ⟨_, _, hsplit, -⟩ := List.lookup_eq_some_iff.mp hlookup
          have hmem : (key, Json.array (items.map Json.settled)) ∈
              Json.settledMembers (before ++ (key, .array items) :: after) := by
            rw [hsplit]
            simp
          exact hfault _ hmem
      · rintro ⟨hempty, hfit⟩ m hm
        obtain ⟨m', hm', hchange⟩ := exists_mem_right_of_forall₂ hmembers hm
        rcases hchange with rfl | ⟨rfl, -⟩
        · exact hempty m hm'
        · exact (hlist items).mpr hfit
  | array before after =>
      rw [settled_fill_array, settled_fill_array, fill, fill, fault?_array_eq_none_iff,
        fault?_array_eq_none_iff,
        faultAmong?_fill _ _ fields _ hkeys hitem h.map_settled, List.forall_mem_map]
      simp only [List.map_nil, List.length_append, List.length_cons]
      tauto

end Record

/-! ### Decoded bodies -/

section Fits

variable {name : String} {item : Shape}

/-- What fits into a frame that fits is nothing but items that do. -/
theorem Fits.fault?_fill {fields : List (String × Shape)}
    (h : frame.Fits (.ofFields name fields) key) (hkeys : (fields.map Prod.fst).Nodup)
    (hitem : (key, .list item) ∈ fields) (items : List Json) :
    (Shape.ofFields name fields).fault? (frame.fill key items).settled = none ↔
      ∀ x ∈ items, item.fault? x.settled = none := by
  have hnodup : (Fields.ofList fields).keys.Nodup := by
    rw [Fields.keys_ofList]
    exact hkeys
  have hmem : (key, .list item) ∈ (Fields.ofList fields).toList := by
    rw [Fields.toList_ofList]
    exact hitem
  refine (h.holds.fault?_fill hnodup hmem items).trans ?_
  exact and_iff_right h.empty

theorem Fits.under_fill {fields : List (String × Shape)}
    (h : frame.Fits (.ofFields name fields) key) (hkeys : (fields.map Prod.fst).Nodup)
    (items : List Json) :
    (frame.fill key items).settled.under (fields.map Prod.fst) key =
      some (.array (items.map Json.settled)) := by
  have hholds : frame.Holds (Fields.ofList fields).keys key := h.holds
  rw [Fields.keys_ofList] at hholds
  exact hholds.under_fill hkeys items

/-- A record of one list is decoded item by item. -/
theorem Fits.decode_eq_ok_iff (h : frame.Fits (.ofFields name [(key, .list item)]) key)
    (items : List Json) {value : (Shape.ofFields name [(key, .list item)]).Value} :
    (Shape.ofFields name [(key, .list item)]).decode (frame.fill key items).settled = .ok value ↔
      (∀ x ∈ items, item.fault? x.settled = none) ∧
        (items.map fun x => item.read x.settled, ()) = value := by
  have hkeys : ([(key, Shape.list item)].map Prod.fst).Nodup := List.pairwise_singleton _ _
  have hunder : (frame.fill key items).settled.under [key] key =
      some (.array (items.map Json.settled)) := h.under_fill hkeys items
  have hread : (Shape.ofFields name [(key, .list item)]).read (frame.fill key items).settled =
      (items.map fun x => item.read x.settled, ()) := by
    rw [Shape.read_listField, hunder, Json.itemsOf, List.map_map]
    rfl
  have hfault := h.fault?_fill hkeys (List.mem_singleton.mpr rfl) items
  exact Shape.decode_eq_ok_iff.trans (and_congr hfault (by rw [hread]; exact Iff.rfl))

end Fits

end Frame

end FirewallExporter
