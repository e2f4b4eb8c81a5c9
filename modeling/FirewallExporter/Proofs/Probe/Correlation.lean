import FirewallExporter.Proofs.Device.Runs

/-!
The join of two lists by key. An entity is attached to the first one of its key
in the secondary list, and the join asks the device nothing. So it is the join
that searches the whole secondary list for each entity, and of that list nothing
counts but the first entities of the keys that are looked for.
-/

namespace FirewallExporter

namespace Correlation

variable {α β : Type} [Keyed α] [Keyed β]

theorem getElem?_insertIfNew_key (i : Index β) (entity : β) (key : String) :
    (i.insertIfNew (Keyed.key entity) entity)[key]? =
      i[key]?.or (if Keyed.key entity == key then some entity else none) := by
  rw [Std.HashMap.getElem?_insertIfNew]
  by_cases hkey : Keyed.key entity = key
  · subst hkey
    cases hi : i[Keyed.key entity]? with
    | none => simp [Std.HashMap.mem_iff_isSome_getElem?, hi]
    | some other => simp [Std.HashMap.mem_iff_isSome_getElem?, hi]
  · simp [hkey]

/-- Entities already in the index come before those that are added. -/
theorem getElem?_foldl_insertIfNew (secondary : List β) (i : Index β) (key : String) :
    (secondary.foldl (fun i entity => i.insertIfNew (Keyed.key entity) entity) i)[key]? =
      i[key]?.or (secondary.find? (Keyed.key · == key)) := by
  induction secondary generalizing i with
  | nil => simp
  | cons entity rest ih =>
      rw [List.foldl_cons, ih, getElem?_insertIfNew_key, Option.or_assoc, List.find?_cons]
      cases Keyed.key entity == key <;> simp

/-- The index finds the first entity of a key. -/
theorem getElem?_index (secondary : List β) (key : String) :
    (index secondary)[key]? = secondary.find? (Keyed.key · == key) := by
  rw [index, getElem?_foldl_insertIfNew, Std.HashMap.getElem?_empty, Option.none_or]

/-- What a search of the whole list finds for an entity. -/
def search (empty : β) (secondary : List β) (entity : α) : Merged α β :=
  match secondary.find? (Keyed.key · == Keyed.key entity) with
  | some other => ⟨entity, other, true⟩
  | none => ⟨entity, empty, false⟩

theorem attach_index_eq_search (empty : β) (secondary : List β) (entity : α) :
    attach empty (index secondary) entity = search empty secondary entity := by
  cases hfind : secondary.find? (Keyed.key · == Keyed.key entity) with
  | none => rw [attach, getElem?_index, search, hfind]
  | some other => rw [attach, getElem?_index, search, hfind]

theorem attach_index (empty : β) (secondary : List β) (entity : α) :
    (attach empty (index secondary) entity).primary = entity ∧
      (attach empty (index secondary) entity).secondary =
        (secondary.find? (Keyed.key · == Keyed.key entity)).getD empty := by
  rw [attach_index_eq_search, search]
  split
  · next h => rw [h]; exact ⟨rfl, rfl⟩
  · next h => rw [h]; exact ⟨rfl, rfl⟩

/-! ### Entities that none is found for -/

/-- No entity of the list has the key. -/
def lacks (secondary : List β) (key : String) : Bool := secondary.all (Keyed.key · != key)

theorem find?_eq_none_iff_lacks {secondary : List β} {key : String} :
    secondary.find? (Keyed.key · == key) = none ↔ lacks secondary key = true := by
  simp [lacks]

theorem missing_search (empty : β) (facet : String) (secondary : List β) (entity : α) :
    missing facet (search empty secondary entity) =
      if lacks secondary (Keyed.key entity) then
        some (.unmatched (Keyed.describe entity) (Keyed.key entity) facet)
      else none := by
  rw [search]
  cases hfind : secondary.find? (Keyed.key · == Keyed.key entity) with
  | none =>
      have hlacks := find?_eq_none_iff_lacks.mp hfind
      simp [missing, hlacks]
  | some other =>
      have hlacks : lacks secondary (Keyed.key entity) = false := by
        rw [← Bool.not_eq_true, ← find?_eq_none_iff_lacks, hfind]
        simp
      simp [missing, hlacks]

theorem filterMap_missing_search (empty : β) (facet : String) (primary : List α)
    (secondary : List β) :
    (primary.map (search empty secondary)).filterMap (missing facet) =
      (primary.filter fun entity => lacks secondary (Keyed.key entity)).map fun entity =>
        .unmatched (Keyed.describe entity) (Keyed.key entity) facet := by
  induction primary with
  | nil => rfl
  | cons entity primary ih =>
      rw [List.map_cons, List.filterMap_cons, missing_search, ih, List.filter_cons]
      cases lacks secondary (Keyed.key entity) <;> simp

end Correlation

open Correlation

section Merge

variable {α β : Type} [Keyed α] [Keyed β]

/-- A join ends well and without a call. -/
theorem run_merge (fetcher : Fetcher) (empty : β) (facet : String) (primary : List α)
    (secondary : List β) :
    (merge empty facet primary secondary).run fetcher =
      ⟨.done (primary.map (attach empty (index secondary))), [],
        (primary.map (attach empty (index secondary))).filterMap (missing facet)⟩ := by
  rw [merge, Dialogue.run_noteAll_bind, Dialogue.run, Transcript.after, List.append_nil,
    List.append_nil]

theorem run_merge_eq (fetcher : Fetcher) (empty : β) (facet : String) (primary : List α)
    (secondary : List β) :
    (merge empty facet primary secondary).run fetcher =
      ⟨.done (primary.map (search empty secondary)), [],
        (primary.map (search empty secondary)).filterMap (missing facet)⟩ := by
  have hattach : (attach empty (index secondary) : α → Merged α β) = search empty secondary :=
    funext (attach_index_eq_search empty secondary)
  rw [run_merge, hattach]

/-- Of the secondary list a join sees what comes first under the keys of the other. -/
theorem run_merge_congr {primary : List α} {secondary other : List β}
    (h : ∀ entity ∈ primary, other.find? (Keyed.key · == Keyed.key entity) =
      secondary.find? (Keyed.key · == Keyed.key entity))
    (fetcher : Fetcher) (empty : β) (facet : String) :
    (merge empty facet primary other).run fetcher =
      (merge empty facet primary secondary).run fetcher := by
  have hsearch : primary.map (search empty other) = primary.map (search empty secondary) := by
    apply List.map_congr_left
    intro entity hentity
    rw [search, search, h entity hentity]
  rw [run_merge_eq, run_merge_eq, hsearch]

/-- The entities whose keys are looked for. -/
def Correlation.sought (primary : List α) (secondary : List β) : List β :=
  secondary.filter fun other => primary.any fun entity => Keyed.key other == Keyed.key entity

theorem Correlation.find?_sought {primary : List α} {entity : α} (h : entity ∈ primary)
    (secondary : List β) :
    (sought primary secondary).find? (Keyed.key · == Keyed.key entity) =
      secondary.find? (Keyed.key · == Keyed.key entity) := by
  rw [sought, List.find?_filter]
  congr 1
  ext other
  by_cases hkey : Keyed.key other = Keyed.key entity
  · simp [hkey]
    exact ⟨entity, h, rfl⟩
  · simp [hkey]

/-- A join as it comes of a search for each entity. -/
structure Transcript.JoinsBySearch (empty : β) (facet : String) (primary : List α)
    (secondary : List β) (t : Transcript (List (Merged α β))) : Prop where
  /-- Every entity is there in its place, with the first one of its key or an empty one. -/
  ending : t.ending = .done (primary.map (search empty secondary))
  calls : t.calls = []
  /-- There is one warning for each entity that none is found for, in their order. -/
  warnings : t.events.map (fun event => (event.level, event.message, event.fields)) =
    (primary.filter fun entity => lacks secondary (Keyed.key entity)).map fun entity =>
      ("WARN", "no matching record, using empty defaults",
        [("entity", Keyed.describe entity), ("key", Keyed.key entity), ("facet", facet)])

/--
A join comes to the same as a search of the whole secondary list for each entity,
and it warns of those that none is found for. Entities under keys that are not
looked for make no difference to it, and neither does the order of the secondary
list, nor what else is in it, as long as the same entity comes first under each key.
-/
theorem run_merge_joinsBySearch (empty : β) (facet : String) (primary : List α)
    (secondary : List β) :
    (∀ fetcher : Fetcher, ((merge empty facet primary secondary).run fetcher).JoinsBySearch
        empty facet primary secondary) ∧
      (∀ other : List β, sought primary other = sought primary secondary →
        ∀ fetcher : Fetcher, (merge empty facet primary other).run fetcher =
          (merge empty facet primary secondary).run fetcher) ∧
      ∀ other : List β,
        (∀ key, other.find? (Keyed.key · == key) = secondary.find? (Keyed.key · == key)) →
        ∀ fetcher : Fetcher, (merge empty facet primary other).run fetcher =
          (merge empty facet primary secondary).run fetcher := by
  refine ⟨fun fetcher => ?_, fun other h fetcher => ?_, fun other h fetcher => ?_⟩
  · rw [run_merge_eq]
    refine ⟨rfl, rfl, ?_⟩
    show List.map _ (List.filterMap _ _) = _
    rw [filterMap_missing_search, List.map_map]
    rfl
  · refine run_merge_congr (fun entity hentity => ?_) fetcher empty facet
    rw [← find?_sought hentity other, h, find?_sought hentity]
  · exact run_merge_congr (fun entity _ => h (Keyed.key entity)) fetcher empty facet

end Merge

/-- A number under a key. -/
structure Tagged where
  tag : String
  number : Nat
deriving DecidableEq

instance : Keyed Tagged where
  key := Tagged.tag
  describe t := t.tag ++ " " ++ toString t.number

namespace Tagged

/-- One of them is not stored, and another is wanted twice. -/
def wanted : List Tagged := [⟨"b", 3⟩, ⟨"a", 4⟩, ⟨"c", 5⟩, ⟨"a", 6⟩]

def stored : List Tagged := [⟨"a", 1⟩, ⟨"z", 9⟩, ⟨"a", 2⟩, ⟨"b", 0⟩]

/-- What is stored, in another order that leaves the first of each key the first. -/
def reordered : List Tagged := [⟨"b", 0⟩, ⟨"z", 9⟩, ⟨"a", 1⟩, ⟨"a", 2⟩]

theorem run_merge_joinsBySearch_stored :
    sought wanted [⟨"a", 1⟩, ⟨"a", 2⟩, ⟨"b", 0⟩] = sought wanted stored ∧
      (∀ key, reordered.find? (Keyed.key · == key) = stored.find? (Keyed.key · == key)) ∧
      ∀ fetcher : Fetcher,
        ((merge ⟨"", 0⟩ "numbers" wanted stored).run fetcher).ending =
          .done [⟨⟨"b", 3⟩, ⟨"b", 0⟩, true⟩, ⟨⟨"a", 4⟩, ⟨"a", 1⟩, true⟩,
            ⟨⟨"c", 5⟩, ⟨"", 0⟩, false⟩, ⟨⟨"a", 6⟩, ⟨"a", 1⟩, true⟩] ∧
        ((merge ⟨"", 0⟩ "numbers" wanted stored).run fetcher).events.map Event.fields =
          [[("entity", "c 5"), ("key", "c"), ("facet", "numbers")]] ∧
        (merge ⟨"", 0⟩ "numbers" wanted [⟨"a", 1⟩, ⟨"a", 2⟩, ⟨"b", 0⟩]).run fetcher =
          (merge ⟨"", 0⟩ "numbers" wanted stored).run fetcher ∧
        (merge ⟨"", 0⟩ "numbers" wanted reordered).run fetcher =
          (merge ⟨"", 0⟩ "numbers" wanted stored).run fetcher := by
  have hsought : sought wanted [⟨"a", 1⟩, ⟨"a", 2⟩, ⟨"b", 0⟩] = sought wanted stored := by decide
  have hfirst : ∀ key,
      reordered.find? (Keyed.key · == key) = stored.find? (Keyed.key · == key) := by
    intro key
    simp only [reordered, stored, List.find?_cons, Keyed.key]
    by_cases ha : "a" = key
    · subst ha; rfl
    · by_cases hb : "b" = key
      · subst hb; rfl
      · rw [beq_eq_false_iff_ne.mpr ha, beq_eq_false_iff_ne.mpr hb]
  obtain ⟨hjoins, hunsought, hreordered⟩ :=
    run_merge_joinsBySearch (⟨"", 0⟩ : Tagged) "numbers" wanted stored
  refine ⟨hsought, hfirst, fun fetcher => ⟨(hjoins fetcher).ending, ?_,
    hunsought _ hsought fetcher, hreordered _ hfirst fetcher⟩⟩
  have hwarnings := congrArg (List.map fun line => line.2.2) (hjoins fetcher).warnings
  rw [List.map_map] at hwarnings
  exact hwarnings

end Tagged

end FirewallExporter
