import Mathlib.Algebra.GroupWithZero.Nat
import Mathlib.Data.List.Forall2
import Mathlib.Data.List.Nodup

/-!
Lists that are related member by member, lists whose members go by their indices or
by tags, searches that a filter leaves alone, and look-ups by place.
-/

namespace FirewallExporter

section Related

variable {α β γ : Type} {R : α → β → Prop} {xs : List α} {ys : List β}

theorem exists_mem_right_of_forall₂ (h : List.Forall₂ R xs ys) {x : α} (hx : x ∈ xs) :
    ∃ y ∈ ys, R x y := by
  induction h with
  | nil => cases hx
  | @cons x' y' xs ys hxy _ ih =>
      rcases List.mem_cons.mp hx with rfl | hx
      · exact ⟨y', List.mem_cons_self, hxy⟩
      · obtain ⟨y, hy, hxy⟩ := ih hx
        exact ⟨y, List.mem_cons_of_mem _ hy, hxy⟩

theorem exists_mem_left_of_forall₂ (h : List.Forall₂ R xs ys) {y : β} (hy : y ∈ ys) :
    ∃ x ∈ xs, R x y :=
  exists_mem_right_of_forall₂ (R := flip R) h.flip hy

/-- What comes in the place of a member has to be related to what the member was. -/
theorem forall₂_replace {before after : List β} {y y' : β}
    (h : List.Forall₂ R xs (before ++ y :: after)) (hy : ∀ x, R x y → R x y') :
    List.Forall₂ R xs (before ++ y' :: after) := by
  induction before generalizing xs with
  | nil =>
      cases h with
      | cons hfirst hrest => exact .cons (hy _ hfirst) hrest
  | cons b before ih =>
      cases h with
      | cons hfirst hrest => exact .cons hfirst (ih hrest)

theorem map_eq_of_forall₂ (h : List.Forall₂ R xs ys) {f : α → γ} {g : β → γ}
    (hfg : ∀ x y, R x y → f x = g y) : xs.map f = ys.map g := by
  rw [← List.forall₂_eq_eq_eq, List.forall₂_map_left_iff, List.forall₂_map_right_iff]
  exact h.imp hfg

theorem findSome?_eq_of_forall₂ (h : List.Forall₂ R xs ys) {f : α → Option γ} {g : β → Option γ}
    (hfg : ∀ x y, R x y → f x = g y) : xs.findSome? f = ys.findSome? g := by
  have hmap := congrArg (List.findSome? id) (map_eq_of_forall₂ h hfg)
  rw [List.findSome?_map, List.findSome?_map] at hmap
  exact hmap

end Related

section Indexed

variable {α β γ δ : Type} {f : Nat → α → β}

theorem pairwise_mapIdx {R : β → β → Prop} (h : ∀ i j x y, i < j → R (f i x) (f j y))
    (xs : List α) : (xs.mapIdx f).Pairwise R := by
  rw [List.pairwise_iff_getElem]
  intro i j hi hj hij
  rw [List.getElem_mapIdx, List.getElem_mapIdx]
  exact h i j _ _ hij

theorem map_mapIdx (g : β → γ) (xs : List α) :
    (xs.mapIdx f).map g = xs.mapIdx fun i x => g (f i x) := by
  apply List.ext_getElem
  · simp
  · intro i hi hi'
    simp

/-- Members are changed before they are numbered, and what they come to after it. -/
theorem map_flatten_mapIdx {f : Nat → β → List γ} {g : α → β} {h : γ → δ}
    {k : Nat → α → List δ} (hk : ∀ i x, (f i (g x)).map h = k i x) (xs : List α) :
    (((xs.map g).mapIdx f).flatten).map h = (xs.mapIdx k).flatten := by
  rw [List.map_flatten, map_mapIdx]
  congr 1
  apply List.ext_getElem
  · simp
  · intro i hi hi'
    simp [hk]

theorem length_flatten_mapIdx {f : Nat → α → List β} {size : α → Nat}
    (h : ∀ i x, (f i x).length = size x) (xs : List α) :
    (xs.mapIdx f).flatten.length = (xs.map size).sum := by
  have hsizes : (xs.mapIdx f).map List.length = xs.map size := by
    rw [map_mapIdx]
    apply List.ext_getElem
    · simp
    · intro i hi hi'
      simp [h]
  rw [List.length_flatten, hsizes]

end Indexed

/-- What comes of members with different tags is different, if the tag can be told from it. -/
theorem nodup_flatMap_of_tag {α β γ : Type} {xs : List α} {f : α → List β} {tag : α → γ}
    {tagOf : β → Option γ} (hf : ∀ x, (f x).Nodup) (htag : ∀ x, ∀ y ∈ f x, tagOf y = some (tag x))
    (h : (xs.map tag).Nodup) : (xs.flatMap f).Nodup := by
  rw [List.nodup_flatMap]
  refine ⟨fun x _ => hf x, ?_⟩
  rw [List.Nodup, List.pairwise_map] at h
  refine h.imp fun hne y hy hy' => hne ?_
  have htags := (htag _ y hy).symm.trans (htag _ y hy')
  exact Option.some.inj htags

theorem findSome?_filter {α β : Type} {xs : List α} {p : α → Bool} {f : α → Option β}
    (h : ∀ x ∈ xs, p x = false → f x = none) : (xs.filter p).findSome? f = xs.findSome? f := by
  induction xs with
  | nil => rfl
  | cons x xs ih =>
      obtain ⟨hx, hxs⟩ := List.forall_mem_cons.mp h
      rw [List.filter_cons, List.findSome?_cons, ← ih hxs]
      split
      · rw [List.findSome?_cons]
      · next hp => rw [hx (by simpa using hp)]

/-- Where a key occurs twice, its first place counts. -/
theorem lookup_zip {α β : Type} [BEq α] [LawfulBEq α] {keys : List α} {values : List β}
    (h : values.length = keys.length) (key : α) :
    (keys.zip values).lookup key = values[keys.idxOf key]? := by
  induction keys generalizing values with
  | nil => simp [List.length_eq_zero_iff.mp h]
  | cons first keys ih =>
      obtain ⟨value, values, rfl⟩ := List.exists_cons_of_length_eq_add_one h
      rw [List.zip_cons_cons, List.lookup_cons, List.idxOf_cons, ih (Nat.succ.inj h),
        BEq.comm (a := key)]
      cases first == key <;> rfl

end FirewallExporter
