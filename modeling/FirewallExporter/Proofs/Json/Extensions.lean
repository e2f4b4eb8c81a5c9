import Mathlib.Data.List.Nodup
import FirewallExporter.Proofs.Json.Nulls
import FirewallExporter.Proofs.Json.Records
import FirewallExporter.Proofs.Lists

/-!
Bodies that say less than their shape declares, or more. A record may lack any of
its members and may have others. To a reader of the shape a missing member is one
with a zero value, and one that is not declared is not there; this goes for every
record, however deep it stands in a body.
-/

namespace FirewallExporter

/-- The fields of a record in declared order. -/
def Fields.toList : Fields → List (String × Shape)
  | .nil => []
  | .cons key shape rest => (key, shape) :: rest.toList

theorem Fields.toList_ofList (fields : List (String × Shape)) :
    (Fields.ofList fields).toList = fields := by
  induction fields with
  | nil => rfl
  | cons field fields ih => rw [ofList, toList, ih]

theorem Fields.keys_eq : (fs : Fields) → fs.keys = fs.toList.map Prod.fst
  | .nil => rfl
  | .cons key _ rest => congrArg (key :: ·) rest.keys_eq

mutual
/-- No record has two fields under one key. -/
def Shape.distinct : Shape → Bool
  | .text => true
  | .flag => true
  | .number => true
  | .list item => item.distinct
  | .table item => item.distinct
  | .record _ _ fields => decide fields.keys.Nodup && fields.distinct

def Fields.distinct : Fields → Bool
  | .nil => true
  | .cons _ shape rest => shape.distinct && rest.distinct
end

theorem Fields.distinct_of_mem {key : String} {shape : Shape} :
    (fs : Fields) → fs.distinct = true → (key, shape) ∈ fs.toList → shape.distinct = true
  | .nil, _, hmem => nomatch hmem
  | .cons _ _ rest, h, hmem => by
      rw [distinct, Bool.and_eq_true] at h
      rcases List.mem_cons.mp hmem with heq | hmem
      · cases heq
        exact h.1
      · exact distinct_of_mem rest h.2 hmem

/-! ### Bodies of a shape -/

/--
Whatever the body has, it has in the declared shape. Records are objects, and
which of their members are there is left open, as is what stands under other keys.
-/
inductive Shape.Conforms : Shape → Json → Prop where
  | text (s : String) : Conforms .text (.string s)
  | flag (b : Bool) : Conforms .flag (.bool b)
  | int (n : Int) : Conforms .number (.int n)
  | float (x : Float) : Conforms .number (.float x)
  | list {item : Shape} {items : List Json} (h : ∀ j ∈ items, Conforms item j) :
      Conforms (.list item) (.array items)
  | table {item : Shape} {members : List (String × Json)}
      (h : ∀ m ∈ members, Conforms item m.2) : Conforms (.table item) (.object members)
  | record {name : String} {positional : Bool} {fields : Fields}
      {members : List (String × Json)}
      (h : ∀ m ∈ members, ∀ shape, (m.1, shape) ∈ fields.toList → Conforms shape m.2) :
      Conforms (.record name positional fields) (.object members)

theorem Fields.fault?_eq_none {key : String} {value : Json} :
    (fs : Fields) → (∀ shape, (key, shape) ∈ fs.toList → shape.fault? value = none) →
      fs.fault? key value = none
  | .nil, _ => rfl
  | .cons k shape rest, h => by
      rw [fault?]
      split
      · next heq => exact h shape (heq ▸ List.mem_cons_self)
      · exact rest.fault?_eq_none fun s hs => h s (List.mem_cons_of_mem _ hs)

/-- Nothing that is missing or undeclared is a fault. -/
theorem Shape.Conforms.fault?_eq_none {s : Shape} {body : Json} (h : s.Conforms body) :
    s.fault? body = none := by
  induction h with
  | text s => rfl
  | flag b => rfl
  | int n => rfl
  | float x => rfl
  | list _ ih => exact List.findSome?_eq_none_iff.mpr ih
  | table _ ih => exact List.findSome?_eq_none_iff.mpr ih
  | record _ ih =>
      exact List.findSome?_eq_none_iff.mpr fun m hm => Fields.fault?_eq_none _ (ih m hm)

/-! ### Values that are zero -/

/-- What is written for the zero value of a shape. -/
def Shape.zeroBody : Shape → Json
  | .text => .string ""
  | .flag => .bool false
  | .number => .int 0
  | .list _ => .array []
  | .table _ => .object []
  | .record .. => .object []

theorem Shape.settled_zeroBody (s : Shape) : s.zeroBody.settled = s.zeroBody := by
  cases s <;> rfl

theorem Shape.conforms_zeroBody (s : Shape) : s.Conforms s.zeroBody := by
  cases s with
  | text => exact .text _
  | flag => exact .flag _
  | number => exact .int 0
  | list item => exact .list nofun
  | table item => exact .table nofun
  | record name positional fields => exact .record nofun

theorem Shape.read_zeroBody (s : Shape) : s.read s.zeroBody = s.zero := by
  cases s with
  | text | flag | number | list _ | table _ => rfl
  | record name positional fields => exact fields.readMembers_nil

theorem Shape.decode_zeroBody (s : Shape) : s.decode s.zeroBody = .ok s.zero :=
  Shape.decode_eq_ok_iff.mpr ⟨s.conforms_zeroBody.fault?_eq_none, s.read_zeroBody⟩

/-! ### Members of a settled object -/

namespace Json

theorem isNull_settled (j : Json) : j.settled.isNull = j.isNull := by
  cases j <;> rfl

/-- The members that an object has once it is settled. -/
def settledMembers (members : List (String × Json)) : List (String × Json) :=
  (inOrder (members.map fun m => (m.1, m.2.settled))).filter fun m => !m.2.isNull

theorem settled_object_eq (members : List (String × Json)) :
    (Json.object members).settled = .object (settledMembers members) := settled_object members

theorem filter_settledMembers (p : String → Bool) (members : List (String × Json)) :
    (settledMembers members).filter (fun m => p m.1) =
      settledMembers (members.filter fun m => p m.1) := by
  rw [settledMembers, settledMembers, List.filter_comm, filter_inOrder, List.filter_map]
  rfl

theorem exists_of_mem_settledMembers {m : String × Json} {members : List (String × Json)}
    (h : m ∈ settledMembers members) : ∃ value, (m.1, value) ∈ members ∧ m.2 = value.settled := by
  obtain ⟨m', hm', rfl⟩ := List.mem_map.mp (mem_inOrder (List.mem_filter.mp h).1)
  exact ⟨m'.2, hm', rfl⟩

/-- Without the members under a key, it makes no difference to have put one there. -/
theorem filter_settledMembers_insert (key : String) (value : Json)
    (before after : List (String × Json)) :
    (settledMembers (before ++ (key, value) :: after)).filter (fun m => m.1 != key) =
      (settledMembers (before ++ after)).filter fun m => m.1 != key := by
  rw [filter_settledMembers (· != key), filter_settledMembers (· != key), List.filter_append,
    List.filter_cons_of_neg (by simp), ← List.filter_append]

section Change

variable {R : String × Json → String × Json → Prop}

theorem forall₂_insertNew (hR : ∀ m n, R m n → m.1 = n.1) {m n : String × Json} (hmn : R m n)
    {xs ys : List (String × Json)} (h : List.Forall₂ R xs ys) :
    List.Forall₂ R (insertNew m.1 m.2 xs) (insertNew n.1 n.2 ys) := by
  induction h with
  | nil => exact .cons hmn .nil
  | @cons x y xs ys hxy hrest ih =>
      have hkey := hR m n hmn
      have hkey' := hR x y hxy
      obtain ⟨key, value⟩ := m
      obtain ⟨key', value'⟩ := x
      cases hkey
      cases hkey'
      rw [insertNew, insertNew]
      split
      · exact .cons hmn (.cons hxy hrest)
      · split
        · exact .cons hxy hrest
        · exact .cons hxy ih

theorem forall₂_inOrder (hR : ∀ m n, R m n → m.1 = n.1) {xs ys : List (String × Json)}
    (h : List.Forall₂ R xs ys) : List.Forall₂ R (inOrder xs) (inOrder ys) := by
  induction h with
  | nil => exact .nil
  | cons hxy _ ih => exact forall₂_insertNew hR hxy ih

end Change

/-- Members that are the same, or that stand under the key with one value and the other. -/
def ChangedAt (key : String) (x y : Json) (m n : String × Json) : Prop :=
  m = n ∨ m = (key, x) ∧ n = (key, y)

theorem ChangedAt.key_eq {key : String} {x y : Json} {m n : String × Json}
    (h : ChangedAt key x y m n) : m.1 = n.1 := by
  rcases h with rfl | ⟨rfl, rfl⟩ <;> rfl

theorem forall₂_settledMembers (key : String) {a b : Json} (hnull : a.isNull = b.isNull)
    (before after : List (String × Json)) :
    List.Forall₂ (ChangedAt key a.settled b.settled)
      (settledMembers (before ++ (key, a) :: after))
      (settledMembers (before ++ (key, b) :: after)) := by
  have hsame (ms : List (String × Json)) : List.Forall₂ (ChangedAt key a.settled b.settled)
      (ms.map fun m => (m.1, m.2.settled)) (ms.map fun m => (m.1, m.2.settled)) :=
    List.forall₂_same.mpr fun m _ => .inl rfl
  have hchange : List.Forall₂ (ChangedAt key a.settled b.settled)
      ((before ++ (key, a) :: after).map fun m => (m.1, m.2.settled))
      ((before ++ (key, b) :: after).map fun m => (m.1, m.2.settled)) := by
    rw [List.map_append, List.map_append, List.map_cons, List.map_cons]
    exact List.rel_append (hsame before) (.cons (.inr ⟨rfl, rfl⟩) (hsame after))
  refine List.rel_filter (fun m n h => ?_) (forall₂_inOrder (fun _ _ => ChangedAt.key_eq) hchange)
  rcases h with rfl | ⟨rfl, rfl⟩
  · rfl
  · simp [isNull_settled, hnull]

theorem ChangedAt.lookup {key : String} {x y : Json} {xs ys : List (String × Json)}
    (h : List.Forall₂ (ChangedAt key x y) xs ys) (k : String) :
    xs.lookup k = ys.lookup k ∨ k = key ∧ xs.lookup k = some x ∧ ys.lookup k = some y := by
  induction h with
  | nil => exact .inl rfl
  | @cons m n xs ys hmn _ ih =>
      have hkey := hmn.key_eq
      rw [List.lookup_cons, List.lookup_cons, hkey]
      cases hk : k == n.1 with
      | false => exact ih
      | true =>
          rcases hmn with rfl | ⟨rfl, rfl⟩
          · exact .inl rfl
          · exact .inr ⟨beq_iff_eq.mp hk, rfl, rfl⟩

end Json

theorem Shape.Conforms.settled {s : Shape} {body : Json} (h : s.Conforms body) :
    s.Conforms body.settled := by
  induction h with
  | text s => exact .text s
  | flag b => exact .flag b
  | int n => exact .int n
  | float x => exact .float x
  | list _ ih =>
      rw [Json.settled_array]
      exact .list (List.forall_mem_map.mpr ih)
  | table _ ih =>
      rw [Json.settled_object_eq]
      refine .table fun m hm => ?_
      obtain ⟨value, hvalue, heq⟩ := Json.exists_of_mem_settledMembers hm
      rw [heq]
      exact ih _ hvalue
  | record _ ih =>
      rw [Json.settled_object_eq]
      refine .record fun m hm shape hshape => ?_
      obtain ⟨value, hvalue, heq⟩ := Json.exists_of_mem_settledMembers hm
      rw [heq]
      exact ih _ hvalue shape hshape

/-! ### Records that differ under one key -/

namespace Fields

theorem readMembers_congr {xs ys : List (String × Json)} :
    (fs : Fields) →
      (∀ key shape, (key, shape) ∈ fs.toList →
        shape.readMember (xs.lookup key) = shape.readMember (ys.lookup key)) →
      fs.readMembers xs = fs.readMembers ys
  | .nil, _ => rfl
  | .cons key shape rest, h => by
      rw [readMembers_cons, readMembers_cons, h key shape List.mem_cons_self,
        rest.readMembers_congr fun k s hs => h k s (List.mem_cons_of_mem _ hs)]

/-- One declaration for each key. -/
theorem eq_of_mem_toList {fs : Fields} (hkeys : fs.keys.Nodup) {key : String} {s s' : Shape}
    (h : (key, s) ∈ fs.toList) (h' : (key, s') ∈ fs.toList) : s = s' := by
  rw [keys_eq] at hkeys
  exact congrArg Prod.snd (List.inj_on_of_nodup_map hkeys h h' rfl)

theorem not_mem_toList_of_not_mem_keys {fs : Fields} {key : String} (h : key ∉ fs.keys)
    (shape : Shape) : (key, shape) ∉ fs.toList := by
  rw [keys_eq] at h
  exact fun hmem => h (List.mem_map_of_mem hmem)

/-- The fault under a key is that of the shape declared for it. -/
theorem fault?_of_mem {key : String} {shape : Shape} (value : Json) :
    (fs : Fields) → fs.keys.Nodup → (key, shape) ∈ fs.toList →
      fs.fault? key value = shape.fault? value
  | .nil, _, hmem => nomatch hmem
  | .cons k s rest, hkeys, hmem => by
      rw [fault?]
      obtain ⟨hk, hrest⟩ := List.nodup_cons.mp hkeys
      rcases List.mem_cons.mp hmem with heq | hlater
      · cases heq
        exact if_pos rfl
      · have hne : key ≠ k := fun heq => not_mem_toList_of_not_mem_keys hk shape (heq ▸ hlater)
        rw [if_neg hne, fault?_of_mem value rest hrest hlater]

/-- What the members have under a key is to the reader as if it were not there. -/
def Idle (fs : Fields) (key : String) (members : List (String × Json)) : Prop :=
  ∀ value, (key, value) ∈ members → ∀ shape, (key, shape) ∈ fs.toList →
    shape.fault? value = none ∧ shape.read value = shape.zero

variable {fs : Fields} {key : String} {members : List (String × Json)}

theorem Idle.findSome?_fault? (h : fs.Idle key members) :
    (members.filter fun m => m.1 != key).findSome? (fun m => fs.fault? m.1 m.2) =
      members.findSome? fun m => fs.fault? m.1 m.2 := by
  refine findSome?_filter fun m hm hkey => ?_
  obtain rfl : m.1 = key := by simpa using hkey
  exact fs.fault?_eq_none fun shape hshape => (h m.2 hm shape hshape).1

theorem Idle.readMembers (h : fs.Idle key members) :
    fs.readMembers (members.filter fun m => m.1 != key) = fs.readMembers members := by
  refine fs.readMembers_congr fun k shape hshape => ?_
  by_cases hk : k = key
  · subst hk
    -- nothing is left under the key, and what was there reads as zero
    have hgone : (members.filter fun m => m.1 != k).lookup k = none := by
      refine List.lookup_eq_none_iff.mpr fun m hm => ?_
      exact bne_iff_ne.mpr (Ne.symm (bne_iff_ne.mp (List.mem_filter.mp hm).2))
    rw [hgone]
    cases hlookup : members.lookup k with
    | none => rfl
    | some value =>
        obtain ⟨before, after, rfl, -⟩ := List.lookup_eq_some_iff.mp hlookup
        exact (h value (by simp) shape hshape).2.symm
  · rw [Json.lookup_filter_of_ne hk]

end Fields

/-! ### Bodies that read the same -/

/-- Neither a reader of the shape nor one who looks for nulls can tell the bodies apart. -/
structure Shape.SameRead (s : Shape) (a b : Json) : Prop where
  isNull : a.isNull = b.isNull
  fault? : s.fault? a.settled = s.fault? b.settled
  read : s.read a.settled = s.read b.settled

namespace Shape.SameRead

section Record

variable {name : String} {positional : Bool} {fields : Fields}

theorem of_members {xs ys : List (String × Json)}
    (hfault : (Json.settledMembers xs).findSome? (fun m => fields.fault? m.1 m.2) =
      (Json.settledMembers ys).findSome? fun m => fields.fault? m.1 m.2)
    (hread : fields.readMembers (Json.settledMembers xs) =
      fields.readMembers (Json.settledMembers ys)) :
    (Shape.record name positional fields).SameRead (.object xs) (.object ys) := by
  refine ⟨rfl, ?_, ?_⟩
  · rw [Json.settled_object_eq, Json.settled_object_eq]
    exact hfault
  · rw [Json.settled_object_eq, Json.settled_object_eq]
    exact hread

/-- A member that is put in makes no difference where it is idle. -/
theorem of_idle {key : String} {value : Json} {before after : List (String × Json)}
    (hbare : fields.Idle key (Json.settledMembers (before ++ after)))
    (hmore : fields.Idle key (Json.settledMembers (before ++ (key, value) :: after))) :
    (Shape.record name positional fields).SameRead (.object (before ++ after))
      (.object (before ++ (key, value) :: after)) := by
  have hfilter := Json.filter_settledMembers_insert key value before after
  apply of_members
  · rw [← hbare.findSome?_fault?, ← hmore.findSome?_fault?, hfilter]
  · rw [← hbare.readMembers, ← hmore.readMembers, hfilter]

theorem member (hkeys : fields.keys.Nodup) {key : String} {shape : Shape}
    (hshape : (key, shape) ∈ fields.toList) {a b : Json} (h : shape.SameRead a b)
    (before after : List (String × Json)) :
    (Shape.record name positional fields).SameRead (.object (before ++ (key, a) :: after))
      (.object (before ++ (key, b) :: after)) := by
  have hmembers := Json.forall₂_settledMembers key h.isNull before after
  apply of_members
  · refine findSome?_eq_of_forall₂ hmembers ?_
    rintro m n (rfl | ⟨rfl, rfl⟩)
    · rfl
    · rw [fields.fault?_of_mem _ hkeys hshape, fields.fault?_of_mem _ hkeys hshape, h.fault?]
  · refine fields.readMembers_congr fun k s hs => ?_
    rcases Json.ChangedAt.lookup hmembers k with hlookup | ⟨rfl, hx, hy⟩
    · rw [hlookup]
    · rw [hx, hy, Fields.eq_of_mem_toList hkeys hs hshape]
      exact h.read

end Record

variable {s : Shape} {a b : Json}

theorem entry (h : s.SameRead a b) (key : String) (before after : List (String × Json)) :
    (Shape.table s).SameRead (.object (before ++ (key, a) :: after))
      (.object (before ++ (key, b) :: after)) := by
  have hmembers := Json.forall₂_settledMembers key h.isNull before after
  refine ⟨rfl, ?_, ?_⟩
  · rw [Json.settled_object_eq, Json.settled_object_eq]
    refine findSome?_eq_of_forall₂ hmembers ?_
    rintro m n (rfl | ⟨rfl, rfl⟩)
    · rfl
    · exact h.fault?
  · rw [Json.settled_object_eq, Json.settled_object_eq]
    refine map_eq_of_forall₂ hmembers ?_
    rintro m n (rfl | ⟨rfl, rfl⟩)
    · rfl
    · exact congrArg (key, ·) h.read

theorem item (h : s.SameRead a b) (before after : List Json) :
    (Shape.list s).SameRead (.array (before ++ a :: after)) (.array (before ++ b :: after)) := by
  have hfault : ((before ++ a :: after).map Json.settled).findSome? s.fault? =
      ((before ++ b :: after).map Json.settled).findSome? s.fault? := by
    simp only [List.map_append, List.map_cons, List.findSome?_append, List.findSome?_cons, h.fault?]
  have hread : ((before ++ a :: after).map Json.settled).map s.read =
      ((before ++ b :: after).map Json.settled).map s.read := by
    simp only [List.map_append, List.map_cons, h.read]
  refine ⟨rfl, ?_, ?_⟩
  · rw [Json.settled_array, Json.settled_array]
    exact hfault
  · rw [Json.settled_array, Json.settled_array]
    exact hread

/-- One and the same for the decoder. -/
theorem decode_eq (h : s.SameRead a b) : s.decode a.settled = s.decode b.settled := by
  rw [Shape.decode, Shape.decode, h.fault?, h.read]

end Shape.SameRead

/-! ### Extensions -/

/--
One body says a thing that the other leaves unsaid: in some record of it there is a
member that is not declared, or one that is and was missing, with its zero value.
How members are ordered, which of them are repeated and which are null is nothing
that it says.
-/
inductive Shape.Extends : Shape → Json → Json → Prop where
  | settle (s : Shape) (body : Json) : Extends s body body.settled
  | undeclared {name : String} {positional : Bool} {fields : Fields} {key : String}
      (hkey : key ∉ fields.keys) (value : Json) (before after : List (String × Json)) :
      Extends (.record name positional fields) (.object (before ++ after))
        (.object (before ++ (key, value) :: after))
  | missing {name : String} {positional : Bool} {fields : Fields} {key : String} {shape : Shape}
      (hshape : (key, shape) ∈ fields.toList) (before after : List (String × Json))
      (hkey : key ∉ (before ++ after).map Prod.fst) :
      Extends (.record name positional fields) (.object (before ++ after))
        (.object (before ++ (key, shape.zeroBody) :: after))
  | member {name : String} {positional : Bool} {fields : Fields} {key : String} {shape : Shape}
      (hshape : (key, shape) ∈ fields.toList) {a b : Json} (h : Extends shape a b)
      (before after : List (String × Json)) :
      Extends (.record name positional fields) (.object (before ++ (key, a) :: after))
        (.object (before ++ (key, b) :: after))
  | entry {item : Shape} {a b : Json} (h : Extends item a b) (key : String)
      (before after : List (String × Json)) :
      Extends (.table item) (.object (before ++ (key, a) :: after))
        (.object (before ++ (key, b) :: after))
  | item {item : Shape} {a b : Json} (h : Extends item a b) (before after : List Json) :
      Extends (.list item) (.array (before ++ a :: after)) (.array (before ++ b :: after))

/-- Bodies that come from each other by extending them and taking extensions back. -/
def Shape.Alike (s : Shape) : Json → Json → Prop := Relation.EqvGen s.Extends

theorem Fields.idle_of_not_mem_keys {fs : Fields} {key : String} (h : key ∉ fs.keys)
    (members : List (String × Json)) : fs.Idle key members :=
  fun _ _ shape hshape => absurd hshape (fs.not_mem_toList_of_not_mem_keys h shape)

theorem Fields.idle_settledMembers {fs : Fields} {key : String} {members : List (String × Json)}
    (h : ∀ value, (key, value) ∈ members → ∀ shape, (key, shape) ∈ fs.toList →
      value = shape.zeroBody) : fs.Idle key (Json.settledMembers members) := by
  intro value hmem shape hshape
  obtain ⟨original, horiginal, hvalue⟩ := Json.exists_of_mem_settledMembers hmem
  dsimp only at horiginal hvalue
  rw [hvalue, h original horiginal shape hshape, shape.settled_zeroBody]
  exact ⟨shape.conforms_zeroBody.fault?_eq_none, shape.read_zeroBody⟩

theorem Shape.Extends.sameRead {s : Shape} {a b : Json} (h : s.Extends a b)
    (hs : s.distinct = true) : s.SameRead a b := by
  induction h with
  | settle s body =>
      refine ⟨body.isNull_settled.symm, ?_, ?_⟩
      · rw [body.settled_settled]
      · rw [body.settled_settled]
  | undeclared hkey value before after =>
      exact .of_idle (Fields.idle_of_not_mem_keys hkey _) (Fields.idle_of_not_mem_keys hkey _)
  | @missing name positional fields key shape hshape before after hkey =>
      rw [distinct, Bool.and_eq_true, decide_eq_true_iff] at hs
      -- the key is not there before, and afterwards it has the one value put in
      refine .of_idle (Fields.idle_settledMembers fun value hmem => ?_)
        (Fields.idle_settledMembers fun value hmem s hs' => ?_)
      · exact absurd (List.mem_map_of_mem hmem) hkey
      · rw [Json.eq_of_mem_insert hkey hmem, Fields.eq_of_mem_toList hs.1 hs' hshape]
  | member hshape _ before after ih =>
      rw [distinct, Bool.and_eq_true, decide_eq_true_iff] at hs
      exact (ih (Fields.distinct_of_mem _ hs.2 hshape)).member hs.1 hshape before after
  | entry _ key before after ih => exact (ih hs).entry key before after
  | item _ before after ih => exact (ih hs).item before after

theorem Shape.Alike.decode_eq {s : Shape} {a b : Json} (h : s.Alike a b)
    (hs : s.distinct = true) : s.decode a.settled = s.decode b.settled := by
  induction h with
  | rel a b h => exact (h.sameRead hs).decode_eq
  | refl a => rfl
  | symm a b _ ih => exact ih.symm
  | trans a b c _ _ hab hbc => exact hab.trans hbc

end FirewallExporter
