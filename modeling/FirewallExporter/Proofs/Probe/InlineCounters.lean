import FirewallExporter.Proofs.Probe.SwitchRecords

/-!
What switches themselves report of their counters. A body can be stripped of it
before or after it is put in order, and all that a record says besides, it still
says when it is stripped.
-/

namespace FirewallExporter.SwitchPorts

/-- The record of a switch without its counters; in an array they come last. -/
def stripRecord : Json → Json
  | .object members => .object (members.filter fun m => m.1 != "port_stats")
  | .array items => .array (items.take 8)
  | value => value

def stripRecords : Json → Json
  | .array items => .array (items.map stripRecord)
  | value => value

def stripMember (key : String) (value : Json) : Json :=
  if key = "results" then stripRecords value else value

/-- A body of switches without their counters. -/
def withoutInline : Json → Json
  | .object members => .object (members.map fun m => (m.1, stripMember m.1 m.2))
  | .array items => .array (items.map stripRecords)
  | value => value

/-! ### Stripping a body that is put in order -/

theorem isNull_stripMember (key : String) (value : Json) :
    (stripMember key value).isNull = value.isNull := by
  unfold stripMember
  split
  · cases value <;> rfl
  · rfl

section Walk

variable {walk : Json → Json} {walkMembers : List (String × Json) → List (String × Json)}
  (hwalk : Json.Walk walk walkMembers)
include hwalk

theorem walk_stripRecord (record : Json) :
    walk (stripRecord record) = stripRecord (walk record) := by
  cases record with
  | object members =>
      rw [stripRecord, hwalk.object, hwalk.object, stripRecord]
      exact congrArg Json.object (hwalk.filter (· != "port_stats") members)
  | array items => rw [stripRecord, hwalk.array, hwalk.array, stripRecord, List.map_take]
  | null | bool _ | int _ | float _ | string _ =>
      exact hwalk.change_scalar rfl rfl

theorem walk_stripRecords (value : Json) :
    walk (stripRecords value) = stripRecords (walk value) := by
  cases value with
  | array items =>
      rw [stripRecords, hwalk.change_array (walk_stripRecord hwalk), hwalk.array, stripRecords]
  | object members =>
      rw [hwalk.object]
      exact hwalk.object members
  | null | bool _ | int _ | float _ | string _ =>
      exact hwalk.change_scalar rfl rfl

theorem walk_stripMember (key : String) (value : Json) :
    walk (stripMember key value) = stripMember key (walk value) := by
  unfold stripMember
  split
  · exact walk_stripRecords hwalk value
  · rfl

theorem walk_withoutInline (body : Json) :
    walk (withoutInline body) = withoutInline (walk body) := by
  cases body with
  | object members =>
      rw [withoutInline, hwalk.object, hwalk.object, withoutInline]
      exact congrArg Json.object
        (hwalk.map stripMember isNull_stripMember (walk_stripMember hwalk) members)
  | array items =>
      rw [withoutInline, hwalk.change_array (walk_stripRecords hwalk), hwalk.array, withoutInline]
  | null | bool _ | int _ | float _ | string _ =>
      exact hwalk.change_scalar rfl rfl

end Walk

theorem settled_withoutInline (body : Json) :
    (withoutInline body).settled = withoutInline body.settled := by
  rw [Json.settled, walk_withoutInline Json.walk_canonical,
    walk_withoutInline Json.walk_dropNulls, Json.settled]

/-! ### What is left of a record -/

/-- Keys go to the elements in order, so one at the end is free to have none. -/
theorem lookup_zip_take {key last : String} (h : key ≠ last) (keys : List String)
    (items : List Json) :
    ((keys ++ [last]).zip (items.take keys.length)).lookup key =
      ((keys ++ [last]).zip items).lookup key := by
  induction keys generalizing items with
  | nil =>
      have hne : (key == last) = false := beq_eq_false_iff_ne.mpr h
      cases items with
      | nil => rfl
      | cons item items => simp [List.lookup_cons, hne]
  | cons k keys ih =>
      cases items with
      | nil => rfl
      | cons item items =>
          rw [List.length_cons, List.take_succ_cons, List.cons_append, List.zip_cons_cons,
            List.zip_cons_cons, List.lookup_cons, List.lookup_cons, ih]

/-- A stripped record still has all that it had under other keys. -/
theorem under_stripRecord {key : String} (h : key ≠ "port_stats") (record : Json) :
    (stripRecord record).under switchKeys key = record.under switchKeys key := by
  cases record with
  | object members => exact Json.lookup_filter_of_ne h members
  | array items =>
      exact lookup_zip_take h
        ["name", "serial", "fgt_peer_intf_name", "status", "state", "connecting_from", "vdom",
         "ports"] items
  | null | bool _ | int _ | float _ | string _ => rfl

theorem switchText_stripRecord {key : String} (h : key ≠ "port_stats") (record : Json) :
    switchText (stripRecord record) key = switchText record key := by
  rw [switchText, under_stripRecord h, switchText]

theorem ofRecord_stripRecord (record : Json) (counters : PortTable) :
    { Switch.ofRecord (stripRecord record) with counters } =
      { Switch.ofRecord record with counters } := by
  have hports : portsOf (stripRecord record) = portsOf record := by
    rw [portsOf, under_stripRecord (by decide), portsOf]
  simp (disch := decide) only [Switch.ofRecord, hports, switchText_stripRecord]

theorem itemsOf_stripRecords (value : Json) :
    Json.itemsOf (some (stripRecords value)) = (Json.itemsOf (some value)).map stripRecord := by
  cases value <;> rfl

theorem lookup_map_stripMember (key : String) (members : List (String × Json)) :
    (members.map fun m => (m.1, stripMember m.1 m.2)).lookup key =
      (members.lookup key).map (stripMember key) := by
  induction members with
  | nil => rfl
  | cons m members ih =>
      obtain ⟨k, v⟩ := m
      rw [List.map_cons, List.lookup_cons, List.lookup_cons, ih]
      by_cases hk : key = k
      · subst hk
        simp
      · have hne : (key == k) = false := beq_eq_false_iff_ne.mpr hk
        rw [hne]

/-- The records of a stripped body are stripped. -/
theorem records_withoutInline (body : Json) :
    records (withoutInline body) = (records body).map stripRecord := by
  cases body with
  | object members =>
      show Json.itemsOf ((members.map fun m => (m.1, stripMember m.1 m.2)).lookup "results") =
        (Json.itemsOf (members.lookup "results")).map stripRecord
      rw [lookup_map_stripMember]
      cases members.lookup "results" with
      | none => rfl
      | some value => exact itemsOf_stripRecords value
  | array items =>
      cases items with
      | nil => rfl
      | cons item items => exact itemsOf_stripRecords item
  | null | bool _ | int _ | float _ | string _ => rfl

/-- The switches with counters from elsewhere are those of the stripped body. -/
theorem map_records_withoutInline (table : String → PortTable) (body : Json) :
    ((records (withoutInline body)).map fun switch =>
        { Switch.ofRecord switch with counters := table (switchText switch "serial") }) =
      (records body).map fun switch =>
        { Switch.ofRecord switch with counters := table (switchText switch "serial") } := by
  rw [records_withoutInline, List.map_map]
  refine List.map_congr_left fun switch _ => ?_
  rw [Function.comp_apply, switchText_stripRecord (by decide), ofRecord_stripRecord]

end FirewallExporter.SwitchPorts
