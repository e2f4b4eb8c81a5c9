import FirewallExporter.Json.Shape
import FirewallExporter.Proofs.Json.Ordered
import FirewallExporter.Proofs.Text.ByteOrder

/-!
Records as their members. A record written as an array of its fields reads as
the object that has them under the declared keys, so each field of a record is
what stands under its key, or zero.
-/

namespace FirewallExporter

/-- The keys of the fields in declared order. -/
def Fields.keys : Fields → List String
  | .nil => []
  | .cons key _ rest => key :: rest.keys

/-- The members of a record; the elements of an array go under the given keys. -/
def Json.named (keys : List String) : Json → List (String × Json)
  | .object members => members
  | .array items => keys.zip items
  | _ => []

/-- What stands under a key, or zero. -/
def Shape.readMember (s : Shape) : Option Json → s.Value
  | some value => s.read value
  | none => s.zero

namespace Fields

theorem readMembers_cons (key : String) (shape : Shape) (rest : Fields)
    (members : List (String × Json)) :
    (cons key shape rest).readMembers members =
      (shape.readMember (members.lookup key), rest.readMembers members) := by
  rw [readMembers]
  cases members.lookup key <;> rfl

theorem readMembers_nil : (fs : Fields) → fs.readMembers [] = fs.zero
  | .nil => rfl
  | .cons key shape rest => by
      rw [readMembers_cons, readMembers_nil rest]
      rfl

theorem readMembers_cons_of_not_mem {key : String} (value : Json)
    (members : List (String × Json)) :
    (fs : Fields) → key ∉ fs.keys →
      fs.readMembers ((key, value) :: members) = fs.readMembers members
  | .nil, _ => rfl
  | .cons k shape rest, h => by
      rw [keys, List.mem_cons, not_or] at h
      obtain ⟨hk, hrest⟩ := h
      have hlookup : ((key, value) :: members).lookup k = members.lookup k := by
        have hne : (k == key) = false := beq_eq_false_iff_ne.mpr (Ne.symm hk)
        rw [List.lookup_cons, hne]
      rw [readMembers_cons, readMembers_cons, hlookup,
        readMembers_cons_of_not_mem value members rest hrest]

theorem readItems_nil : (fs : Fields) → fs.readItems [] = fs.zero
  | .nil => rfl
  | .cons _ _ _ => rfl

theorem readItems_cons (key : String) (shape : Shape) (rest : Fields) (value : Json)
    (items : List Json) :
    (cons key shape rest).readItems (value :: items) =
      (shape.read value, rest.readItems items) := rfl

theorem readItems_eq :
    (fs : Fields) → fs.keys.Nodup → (items : List Json) →
      fs.readItems items = fs.readMembers (fs.keys.zip items)
  | .nil, _, _ => rfl
  | .cons key shape rest, _, [] => by
      rw [List.zip_nil_right, readMembers_nil, readItems_nil]
  | .cons key shape rest, hkeys, value :: items => by
      obtain ⟨hkey, hrest⟩ := List.nodup_cons.mp hkeys
      rw [readItems_cons, readItems_eq rest hrest items, keys, List.zip_cons_cons, readMembers_cons,
        readMembers_cons_of_not_mem value _ rest hkey, List.lookup_cons_self]
      rfl

end Fields

/-- A record is read by key, in whichever way it is written. -/
theorem Shape.read_record {name : String} {positional : Bool} {fields : Fields}
    (hkeys : fields.keys.Nodup) (body : Json) :
    (Shape.record name positional fields).read body =
      fields.readMembers (body.named fields.keys) := by
  cases body with
  | object members => rfl
  | array items => exact fields.readItems_eq hkeys items
  | null | bool _ | int _ | float _ | string _ => exact fields.readMembers_nil.symm

theorem Fields.keys_ofList (fields : List (String × Shape)) :
    (Fields.ofList fields).keys = fields.map Prod.fst := by
  induction fields with
  | nil => rfl
  | cons field fields ih => rw [ofList, keys, ih, List.map_cons]

theorem Shape.read_ofFields (name : String) (fields : List (String × Shape))
    (hkeys : (fields.map Prod.fst).Nodup) (body : Json) :
    (Shape.ofFields name fields).read body =
      (Fields.ofList fields).readMembers (body.named (fields.map Prod.fst)) := by
  rw [← Fields.keys_ofList] at hkeys ⊢
  exact read_record hkeys body

/-! ### Values under a key -/

def Json.textOf : Option Json → String
  | some (.string text) => text
  | _ => ""

def Json.flagOf : Option Json → Bool
  | some (.bool flag) => flag
  | _ => false

def Json.numberOf : Option Json → Float
  | some (.int n) => Float.ofInt n
  | some (.float x) => x
  | _ => 0.0

def Json.itemsOf : Option Json → List Json
  | some (.array items) => items
  | _ => []

def Json.membersOf : Option Json → List (String × Json)
  | some (.object members) => members
  | _ => []

theorem Json.lookup_filter_of_ne {key gone : String} (h : key ≠ gone)
    (members : List (String × Json)) :
    (members.filter fun m => m.1 != gone).lookup key = members.lookup key := by
  induction members with
  | nil => rfl
  | cons m members ih =>
      obtain ⟨k, v⟩ := m
      rw [List.filter_cons]
      by_cases hk : k = gone
      · have hne : (key == k) = false := by
          rw [hk]
          exact beq_eq_false_iff_ne.mpr h
        rw [List.lookup_cons, hne, if_neg (by simp [hk]), ih]
      · rw [if_pos (by simpa using hk), List.lookup_cons, List.lookup_cons, ih]

/-- What a record with the given keys has under one of them. -/
def Json.under (keys : List String) (record : Json) (key : String) : Option Json :=
  (record.named keys).lookup key

/-- What stands under a key of a record, or null. -/
def Json.part (keys : List String) (record : Json) (key : String) : Json :=
  (record.under keys key).getD .null

namespace Shape

/-- What is missing reads as null does. -/
theorem readMember_eq (s : Shape) (j : Option Json) : s.readMember j = s.read (j.getD .null) := by
  cases j with
  | some value => rfl
  | none => cases s <;> rfl

theorem readMember_text (j : Option Json) : Shape.text.readMember j = Json.textOf j := by
  rcases j with _ | (_ | _ | _ | _ | _ | _ | _) <;> rfl

theorem readMember_flag (j : Option Json) : Shape.flag.readMember j = Json.flagOf j := by
  rcases j with _ | (_ | _ | _ | _ | _ | _ | _) <;> rfl

theorem readMember_number (j : Option Json) : Shape.number.readMember j = Json.numberOf j := by
  rcases j with _ | (_ | _ | _ | _ | _ | _ | _) <;> rfl

theorem readMember_list (item : Shape) (j : Option Json) :
    (Shape.list item).readMember j = (Json.itemsOf j).map item.read := by
  rcases j with _ | (_ | _ | _ | _ | _ | _ | _) <;> rfl

theorem readMember_table (item : Shape) (j : Option Json) :
    (Shape.table item).readMember j = (Json.membersOf j).map fun m => (m.1, item.read m.2) := by
  rcases j with _ | (_ | _ | _ | _ | _ | _ | _) <;> rfl

/-- A record of one list is read as what its items are. -/
theorem read_listField (name key : String) (item : Shape) (body : Json) :
    (Shape.ofFields name [(key, .list item)]).read body =
      ((Json.itemsOf (body.under [key] key)).map item.read, ()) := by
  have hkeys : ([(key, Shape.list item)].map Prod.fst).Nodup := List.pairwise_singleton _ _
  refine (read_ofFields name _ hkeys body).trans ?_
  rw [← readMember_list]
  simp only [Fields.ofList, Fields.readMembers_cons]
  rfl

section Values

variable {α : Type} {s : Shape} {ofValue : s.Value → α} {ofRecord : Json → α}
  (h : ∀ record, ofValue (s.read record) = ofRecord record)

include h

/-! Values that are made of what is read can as well be made of what is there. -/

theorem ofRecord_part (record : Json) (keys : List String) (key : String) :
    ofRecord (record.part keys key) = ofValue (s.readMember (record.under keys key)) := by
  rw [readMember_eq, ← h]
  rfl

theorem map_ofRecord_itemsOf (j : Option Json) :
    (Json.itemsOf j).map ofRecord = List.map ofValue ((Shape.list s).readMember j) := by
  have hread := readMember_list s j
  refine Eq.trans ?_ (congrArg (List.map ofValue) hread).symm
  rw [List.map_map]
  exact List.map_congr_left fun item _ => (h item).symm

theorem map_ofRecord_membersOf (j : Option Json) :
    ((Json.membersOf j).map fun m => (m.1, ofRecord m.2)) =
      List.map (fun m => (m.1, ofValue m.2)) ((Shape.table s).readMember j) := by
  have hread := readMember_table s j
  refine Eq.trans ?_ (congrArg (List.map fun m => (m.1, ofValue m.2)) hread).symm
  rw [List.map_map]
  exact List.map_congr_left fun m _ => congrArg (Prod.mk m.1) (h m.2).symm

end Values

end Shape

namespace Json.Ordered

theorem named {keys : List String} {record : Json} (h : record.Ordered) :
    ∀ m ∈ record.named keys, m.2.Ordered := by
  cases h with
  | array h => exact fun m hm => h m.2 (List.of_mem_zip hm).2
  | object _ h => exact h
  | null | bool _ | int _ | float _ | string _ => exact nofun

theorem under {keys : List String} {record : Json} (h : record.Ordered) {key : String}
    {value : Json} (hvalue : record.under keys key = some value) : value.Ordered := by
  obtain ⟨before, after, hsplit, -⟩ := List.lookup_eq_some_iff.mp hvalue
  have hmem : (key, value) ∈ record.named keys := by
    rw [hsplit]
    exact List.mem_append_right _ List.mem_cons_self
  exact h.named _ hmem

/-- The keys of what is under a key ascend, as do those of the whole body. -/
theorem pairwise_membersOf {j : Option Json} (h : ∀ value, j = some value → value.Ordered) :
    ((Json.membersOf j).map Prod.fst).Pairwise (· < ·) := by
  rcases j with _ | (_ | _ | _ | _ | _ | _ | members)
  all_goals try exact List.Pairwise.nil
  cases h _ rfl with
  | object hkeys _ => exact hkeys

/-- Their bytes ascend with them. -/
theorem ascending_under {keys : List String} {key : String} {record : Json} (h : record.Ordered) :
    ((Json.membersOf (record.under keys key)).map fun m => Text.bytes m.1).Pairwise (· < ·) := by
  have hkeys : ((Json.membersOf (record.under keys key)).map Prod.fst).Pairwise (· < ·) :=
    pairwise_membersOf fun _ hvalue => h.under hvalue
  rw [List.pairwise_map] at hkeys ⊢
  exact hkeys.imp Text.lt_iff_bytes_lt.mp

end Json.Ordered

end FirewallExporter
