import Mathlib.Algebra.GroupWithZero.Nat
import FirewallExporter.Probe.Performance
import FirewallExporter.Proofs.Device.Runs
import FirewallExporter.Proofs.Firmware.Ranges
import FirewallExporter.Proofs.Json.Records
import FirewallExporter.Proofs.Lists
import FirewallExporter.Proofs.Metric.Rows
import FirewallExporter.Proofs.Text.Trim

/-!
The samples of the load of a device, as what they show. Every core of a record
gives five rows, and then the record gives five for all cores and four for its
memory. The label of a row tells the record and the core by their numbers, and a
label is read back in one way only, so no two rows are of the same series unless
two virtual domains have one name.
-/

namespace FirewallExporter

namespace Performance

/-! ### Records -/

def domainKeys : List String := ["results", "vdom"]

def recordKeys : List String := ["cpu", "mem"]

def timesKeys : List String := ["user", "system", "nice", "idle", "iowait"]

def cpuKeys : List String := "cores" :: timesKeys

def memoryKeys : List String := ["total", "used", "free", "freeable"]

def domainsOf (body : Json) : List Json := Json.itemsOf (some body)

def nameOf (domain : Json) : String := Json.textOf (domain.under domainKeys "vdom")

def recordsOf (domain : Json) : List Json := Json.itemsOf (domain.under domainKeys "results")

def coresOf (record : Json) : List Json :=
  Json.itemsOf ((record.part recordKeys "cpu").under cpuKeys "cores")

/-- A share of the time of a core. -/
def coreNumber (core : Json) (key : String) : Float := Json.numberOf (core.under timesKeys key)

/-- A share of the time of all cores. -/
def totalNumber (record : Json) (key : String) : Float :=
  Json.numberOf ((record.part recordKeys "cpu").under cpuKeys key)

def memoryNumber (record : Json) (key : String) : Float :=
  Json.numberOf ((record.part recordKeys "mem").under memoryKeys key)

def Times.of (number : String → Float) : Times where
  user := number "user"
  system := number "system"
  nice := number "nice"
  idle := number "idle"
  iowait := number "iowait"

def Cpu.ofRecord (cpu : Json) : Cpu where
  cores := (Json.itemsOf (cpu.under cpuKeys "cores")).map fun core => .of (coreNumber core)
  total := .of fun key => Json.numberOf (cpu.under cpuKeys key)

def Memory.ofRecord (memory : Json) : Memory where
  total := Json.numberOf (memory.under memoryKeys "total")
  used := Json.numberOf (memory.under memoryKeys "used")
  free := Json.numberOf (memory.under memoryKeys "free")
  freeable := Json.numberOf (memory.under memoryKeys "freeable")

def Record.ofRecord (record : Json) : Record where
  cpu := .ofRecord (record.part recordKeys "cpu")
  memory := .ofRecord (record.part recordKeys "mem")

def Domain.ofRecord (domain : Json) : Domain where
  records := (recordsOf domain).map Record.ofRecord
  name := nameOf domain

/-- The shares of time are read in the same way wherever they stand. -/
theorem Times.ofValue_readMembers (members : List (String × Json)) :
    ofValue ((Fields.ofList fields).readMembers members) =
      of fun key => Json.numberOf (members.lookup key) := by
  simp only [of, fields, ← Shape.readMember_number, Fields.ofList, Fields.readMembers_cons]
  rfl

theorem Times.ofValue_read (core : Json) : ofValue (shape.read core) = of (coreNumber core) := by
  have hread : shape.read core = _ := Shape.read_ofFields _ _ (by decide) core
  exact (congrArg ofValue hread).trans (ofValue_readMembers _)

theorem Cpu.ofValue_read (cpu : Json) : ofValue (shape.read cpu) = ofRecord cpu := by
  have hkeys : (Fields.ofList (("cores", .list Times.shape) :: Times.fields)).keys.Nodup := by
    rw [Fields.keys_ofList]
    decide
  have hread : shape.read cpu =
      ((Shape.list Times.shape).readMember (cpu.under cpuKeys "cores"),
        (Fields.ofList Times.fields).readMembers (cpu.named cpuKeys)) :=
    (Shape.read_record hkeys cpu).trans (Fields.readMembers_cons _ _ _ _)
  refine (congrArg ofValue hread).trans ?_
  rw [ofRecord, Shape.map_ofRecord_itemsOf Times.ofValue_read]
  exact congrArg (Cpu.mk _) (Times.ofValue_readMembers _)

theorem Memory.ofValue_read (memory : Json) : ofValue (shape.read memory) = ofRecord memory := by
  have hread : shape.read memory = _ := Shape.read_ofFields _ _ (by decide) memory
  refine (congrArg ofValue hread).trans ?_
  simp only [ofRecord, ← Shape.readMember_number, Fields.ofList, Fields.readMembers_cons]
  rfl

theorem Record.ofValue_read (record : Json) : ofValue (shape.read record) = ofRecord record := by
  have hread : shape.read record = _ := Shape.read_ofFields _ _ (by decide) record
  refine (congrArg ofValue hread).trans ?_
  simp only [ofRecord, Shape.ofRecord_part Cpu.ofValue_read,
    Shape.ofRecord_part Memory.ofValue_read, Fields.ofList, Fields.readMembers_cons]
  rfl

theorem Domain.ofValue_read (domain : Json) : ofValue (shape.read domain) = ofRecord domain := by
  have hread : shape.read domain = _ := Shape.read_ofFields _ _ (by decide) domain
  refine (congrArg ofValue hread).trans ?_
  simp only [ofRecord, nameOf, recordsOf, ← Shape.readMember_text,
    Shape.map_ofRecord_itemsOf Record.ofValue_read, Fields.ofList, Fields.readMembers_cons]
  rfl

theorem domains_read (body : Json) :
    domains (shape.read body) = (domainsOf body).map Domain.ofRecord :=
  (Shape.map_ofRecord_itemsOf Domain.ofValue_read (some body)).symm

/-! ### Rows -/

def loadRow (domain word label : String) (value : Float) : Row where
  family := "fortigate_system_performance_status_" ++ word
  kind := .gauge
  labels := [("label", label), ("vdom", domain)]
  value := value

def coreRows (domain : String) (n m : Nat) (core : Json) : List Row :=
  timesKeys.map fun key =>
    loadRow domain ("cpu_cores_" ++ key) (coreLabel n m) (coreNumber core key)

def totalRows (domain : String) (n : Nat) (record : Json) : List Row :=
  timesKeys.map fun key => loadRow domain ("cpu_" ++ key) (cpuLabel n) (totalNumber record key)

def memoryRows (domain : String) (n : Nat) (record : Json) : List Row :=
  memoryKeys.map fun key => loadRow domain ("mem_" ++ key) (memLabel n) (memoryNumber record key)

/-- What the record of a number shows. -/
def recordRows (domain : String) (n : Nat) (record : Json) : List Row :=
  ((coresOf record).mapIdx (coreRows domain n)).flatten ++ totalRows domain n record ++
    memoryRows domain n record

/-- What a domain shows; its records are numbered from zero. -/
def domainRows (domain : Json) : List Row :=
  ((recordsOf domain).mapIdx (recordRows (nameOf domain))).flatten

theorem map_row_record (domain : String) (n : Nat) (record : Json) :
    ((Record.ofRecord record).samples domain n).map Sample.row = recordRows domain n record := by
  have hcores : (((Record.ofRecord record).cpu.cores.mapIdx (coreSamples domain n)).flatten).map
      Sample.row = ((coresOf record).mapIdx (coreRows domain n)).flatten :=
    map_flatten_mapIdx (fun _ _ => rfl) (coresOf record)
  rw [Record.samples, List.map_append, List.map_append, hcores]
  rfl

theorem map_row_domain (domain : Json) :
    (Domain.ofRecord domain).samples.map Sample.row = domainRows domain :=
  map_flatten_mapIdx (map_row_record (nameOf domain)) (recordsOf domain)

theorem map_row_samples (body : Json) :
    (samples ((domainsOf body).map Domain.ofRecord)).map Sample.row =
      (domainsOf body).flatMap domainRows := by
  rw [samples, List.flatMap_map, List.map_flatMap]
  exact List.flatMap_congr fun domain _ => map_row_domain domain

/-! ### Labels -/

theorem toDigits_injective : Function.Injective (Nat.toDigits 10) := by
  intro n n' h
  calc
    n = Nat.ofDigitChars 10 (Nat.toDigits 10 n) 0 := Nat.ofDigitChars_ten_toDigits.symm
    _ = Nat.ofDigitChars 10 (Nat.toDigits 10 n') 0 := by rw [h]
    _ = n' := Nat.ofDigitChars_ten_toDigits

/-- A number is read off up to the first character that is not a digit. -/
theorem toDigits_append_inj {n n' : Nat} {rest rest' : List Char}
    (hrest : ∀ c, rest.head? = some c → c.isDigit = false)
    (hrest' : ∀ c, rest'.head? = some c → c.isDigit = false)
    (h : Nat.toDigits 10 n ++ rest = Nat.toDigits 10 n' ++ rest') : n = n' ∧ rest = rest' := by
  have hdigits (k : Nat) : ∀ c ∈ Nat.toDigits 10 k, c.isDigit = true :=
    fun c hc => Nat.isDigit_of_mem_toDigits (by decide) (by decide) hc
  have hnumber := congrArg (List.takeWhile Char.isDigit) h
  rw [Text.takeWhile_append (hdigits n) hrest, Text.takeWhile_append (hdigits n') hrest'] at hnumber
  rw [hnumber] at h
  exact ⟨toDigits_injective hnumber, List.append_cancel_left h⟩

/-- What a label stands for. -/
inductive Place where
  | core (n m : Nat)
  | total (n : Nat)
  | memory (n : Nat)
deriving DecidableEq, Repr

namespace Place

def label : Place → String
  | core n m => coreLabel n m
  | total n => cpuLabel n
  | memory n => memLabel n

/-- The number of the record. -/
def record : Place → Nat
  | core n _ => n
  | total n => n
  | memory n => n

/-- What stands before the number of the record in a label. -/
def stem : Place → List Char
  | core _ _ => ['c', 'p', 'u', '_']
  | total _ => ['c', 'p', 'u', '_']
  | memory _ => ['m', 'e', 'm', '_']

/-- What stands after it. -/
def suffix : Place → List Char
  | core _ m => ['_', 'c', 'o', 'r', 'e', '_'] ++ Nat.toDigits 10 m
  | total _ => []
  | memory _ => []

theorem toList_label (p : Place) :
    p.label.toList = p.stem ++ (Nat.toDigits 10 p.record ++ p.suffix) := by
  cases p <;>
    simp [label, stem, record, suffix, coreLabel, cpuLabel, memLabel]

theorem length_stem (p : Place) : p.stem.length = 4 := by
  cases p <;> rfl

theorem isDigit_of_head?_suffix {p : Place} {c : Char} (h : p.suffix.head? = some c) :
    c.isDigit = false := by
  cases p with
  | core n m => cases h; rfl
  | total n | memory n => cases h

theorem label_injective : Function.Injective label := by
  intro p q h
  have hchars := congrArg String.toList h
  rw [toList_label, toList_label] at hchars
  obtain ⟨hstem, hrest⟩ := List.append_inj hchars (by rw [length_stem, length_stem])
  obtain ⟨hrecord, hsuffix⟩ := toDigits_append_inj (fun _ => isDigit_of_head?_suffix)
    (fun _ => isDigit_of_head?_suffix) hrest
  match p, q with
  | core n m, core n' m' =>
      have hcore : m = m' := toDigits_injective (List.append_cancel_left hsuffix)
      rw [show n = n' from hrecord, hcore]
  | total n, total n' => rw [show n = n' from hrecord]
  | memory n, memory n' => rw [show n = n' from hrecord]
  | core .., total .. | total .., core .. => simp [suffix] at hsuffix
  | core .., memory .. | total .., memory .. | memory .., core .. | memory .., total .. =>
      simp [stem] at hstem

end Place

/-! ### Series -/

/-- The ends of the names of the families that have a row at a place. -/
def Place.words : Place → List String
  | .core _ _ => timesKeys.map ("cpu_cores_" ++ ·)
  | .total _ => timesKeys.map ("cpu_" ++ ·)
  | .memory _ => memoryKeys.map ("mem_" ++ ·)

def Place.series (domain : String) (p : Place) : List (String × List String) :=
  p.words.map fun word => ("fortigate_system_performance_status_" ++ word, [p.label, domain])

/-- The places of the rows of a record. -/
def recordPlaces (n : Nat) (record : Json) : List Place :=
  (coresOf record).mapIdx (fun m _ => .core n m) ++ [.total n, .memory n]

def places (domain : Json) : List Place := ((recordsOf domain).mapIdx recordPlaces).flatten

theorem map_series_recordRows (domain : String) (n : Nat) (record : Json) :
    (recordRows domain n record).map Row.series =
      (recordPlaces n record).flatMap (Place.series domain) := by
  have hcores : ((coresOf record).mapIdx (coreRows domain n)).flatten.map Row.series =
      ((coresOf record).mapIdx fun m _ => Place.core n m).flatMap (Place.series domain) := by
    rw [List.map_flatten, map_mapIdx, List.flatMap_def, map_mapIdx]
    rfl
  rw [recordRows, List.map_append, List.map_append, hcores, recordPlaces, List.flatMap_append,
    List.append_assoc]
  rfl

theorem map_series_domainRows (domain : Json) :
    (domainRows domain).map Row.series =
      (places domain).flatMap (Place.series (nameOf domain)) := by
  rw [domainRows, places, List.map_flatten, map_mapIdx, List.flatMap_def, List.map_flatten,
    map_mapIdx, List.flatten_flatten, map_mapIdx]
  simp only [map_series_recordRows, List.flatMap_def]

theorem Place.nodup_words (p : Place) : p.words.Nodup := by
  cases p with
  | core n m => exact (by decide : (timesKeys.map ("cpu_cores_" ++ ·)).Nodup)
  | total n => exact (by decide : (timesKeys.map ("cpu_" ++ ·)).Nodup)
  | memory n => exact (by decide : (memoryKeys.map ("mem_" ++ ·)).Nodup)

theorem Place.nodup_series (domain : String) (p : Place) : (p.series domain).Nodup := by
  refine p.nodup_words.map fun word word' h => ?_
  have hfamily := congrArg Prod.fst h
  simpa using hfamily

theorem record_of_mem_recordPlaces {n : Nat} {record : Json} {p : Place}
    (h : p ∈ recordPlaces n record) : p.record = n := by
  rcases List.mem_append.mp h with h | h
  · obtain ⟨m, _, rfl⟩ := List.mem_mapIdx.mp h
    rfl
  · simp only [List.mem_cons, List.not_mem_nil, or_false] at h
    rcases h with rfl | rfl <;> rfl

theorem nodup_recordPlaces (n : Nat) (record : Json) : (recordPlaces n record).Nodup := by
  have hcores : ((coresOf record).mapIdx fun m _ => Place.core n m).Nodup :=
    pairwise_mapIdx (fun i j _ _ hij h => by cases h; omega) _
  refine List.nodup_append'.mpr ⟨hcores, by simp, ?_⟩
  intro p hp hp'
  obtain ⟨m, _, rfl⟩ := List.mem_mapIdx.mp hp
  simp at hp'

theorem nodup_places (domain : Json) : (places domain).Nodup := by
  refine List.nodup_flatten.mpr ⟨fun records hrecords => ?_, ?_⟩
  · obtain ⟨n, _, rfl⟩ := List.mem_mapIdx.mp hrecords
    exact nodup_recordPlaces n _
  · refine pairwise_mapIdx (fun i j _ _ hij p hp hp' => ?_) _
    have hrecord := (record_of_mem_recordPlaces hp).symm.trans (record_of_mem_recordPlaces hp')
    omega

theorem Place.snd_of_mem_series {domain : String} {p : Place} {series : String × List String}
    (h : series ∈ p.series domain) : series.2 = [p.label, domain] := by
  obtain ⟨word, -, rfl⟩ := List.mem_map.mp h
  rfl

/-- Within a domain the label decides. -/
theorem nodup_series_domain (domain : Json) : ((domainRows domain).map Row.series).Nodup := by
  have hlabel : ∀ p : Place, ∀ series ∈ p.series (nameOf domain),
      series.2.head? = some p.label := by
    intro p series h
    rw [Place.snd_of_mem_series h]
    rfl
  rw [map_series_domainRows]
  exact nodup_flatMap_of_tag (Place.nodup_series _) hlabel
    ((nodup_places domain).map Place.label_injective)

theorem name_of_mem_series {domain : Json} {series : String × List String}
    (h : series ∈ (domainRows domain).map Row.series) :
    series.2.getLast? = some (nameOf domain) := by
  rw [map_series_domainRows] at h
  obtain ⟨p, -, h⟩ := List.mem_flatMap.mp h
  rw [Place.snd_of_mem_series h]
  rfl

/-- Between domains the name does. -/
theorem nodup_series {domains : List Json} (h : (domains.map nameOf).Nodup) :
    ((domains.flatMap domainRows).map Row.series).Nodup := by
  rw [List.map_flatMap]
  exact nodup_flatMap_of_tag nodup_series_domain (fun _ _ hseries => name_of_mem_series hseries) h

/-! ### Numbers of rows -/

theorem length_recordRows (domain : String) (n : Nat) (record : Json) :
    (recordRows domain n record).length = 5 * (coresOf record).length + 9 := by
  have hcore : ∀ m core, (coreRows domain n m core).length = 5 := fun _ _ => rfl
  have hcores := length_flatten_mapIdx hcore (coresOf record)
  rw [List.map_const', List.sum_replicate_nat] at hcores
  rw [recordRows, List.length_append, List.length_append, hcores]
  show _ * 5 + 5 + 4 = _
  omega

theorem length_domainRows (domain : Json) :
    (domainRows domain).length =
      ((recordsOf domain).map fun record => 5 * (coresOf record).length + 9).sum :=
  length_flatten_mapIdx (length_recordRows (nameOf domain)) (recordsOf domain)

/-! ### Runs -/

def endpoint : Endpoint := { path := "api/v2/monitor/system/performance/status", query := "vdom=*" }

theorem resolve_performanceStatus (v : Version) :
    Capability.performanceStatus.resolve v = some endpoint := by
  have hranges : Capability.performanceStatus.ranges = [⟨.any, endpoint⟩] := by decide
  exact Capability.resolve_of_range hranges v

/-- Samples that show the load of the domains of a body. -/
structure ShowsLoad (body : Json) (samples : List Sample) : Prop where
  /-- They are the rows of the domains in order. -/
  rows : samples.map Sample.row = (domainsOf body).flatMap domainRows
  /-- Every record of a domain is there, with all of its cores. -/
  length : samples.length =
    (((domainsOf body).flatMap recordsOf).map fun record => 5 * (coresOf record).length + 9).sum
  /-- No series is there twice, unless two domains have one name. -/
  distinct : ((domainsOf body).map nameOf).Nodup → (samples.map Sample.series).Nodup

theorem showsLoad (body : Json) :
    ShowsLoad body (samples ((domainsOf body).map Domain.ofRecord)) := by
  have hrows := map_row_samples body
  refine ⟨hrows, ?_, fun hnames => ?_⟩
  · rw [← List.length_map Sample.row, hrows, List.length_flatMap, List.map_flatMap,
      List.flatMap_def, List.sum_flatten, List.map_map]
    exact congrArg List.sum (List.map_congr_left fun domain _ => length_domainRows domain)
  · rw [Sample.map_series hrows]
    exact nodup_series hnames

/--
A body that decodes gives five samples for every core, and five and four for every
record, in the order and under the numbers in which they stand. No two of its
labels are the same, so no series is there twice if no two domains have one name.
-/
theorem run_showsLoad (v : Version) {body : Json} {value : shape.Value}
    (hvalue : shape.decode body.settled = .ok value) {fetcher : Fetcher}
    (hreply : fetcher endpoint = .answer (.ok body)) :
    (∃ samples, (probe v).run fetcher = ⟨.done samples, [endpoint], []⟩ ∧
        ShowsLoad body.settled samples) ∧
      Function.Injective Place.label := by
  have hdomains : domains value = (domainsOf body.settled).map Domain.ofRecord := by
    rw [← (Shape.decode_eq_ok_iff.mp hvalue).2, domains_read]
  have hrun : (probe v).run fetcher = ⟨.done (samples (domains value)), [endpoint], []⟩ :=
    Dialogue.run_resolved (resolve_performanceStatus v) hreply hvalue
  rw [hdomains] at hrun
  exact ⟨⟨_, hrun, showsLoad body.settled⟩, Place.label_injective⟩

/-- A record of so many cores. -/
def coresRecord (n : Nat) : Json :=
  .object [("cpu", .object [("cores", .array (List.replicate n (.object [])))])]

/-- Two domains whose records have the same numbers. -/
def coresBody : Json := .array
  [.object [("vdom", .string "root"), ("results", .array [coresRecord 2, coresRecord 0])],
   .object [("vdom", .string "dmz"), ("results", .array [coresRecord 1])]]

def servingCores : Fetcher := fun _ => .answer (.ok coresBody)

theorem run_showsLoad_coresBody :
    ∃ samples, (probe ⟨7, 4⟩).run servingCores = ⟨.done samples, [endpoint], []⟩ ∧
      samples.length = 42 ∧ (samples.map Sample.series).Nodup := by
  have hvalue : shape.decode coresBody.settled = .ok _ := rfl
  have hnames : ((domainsOf coresBody.settled).map nameOf).Nodup :=
    (by decide : ["root", "dmz"].Nodup)
  have hreply : servingCores endpoint = .answer (.ok coresBody) := rfl
  obtain ⟨⟨samples, hrun, hshows⟩, -⟩ := run_showsLoad ⟨7, 4⟩ hvalue hreply
  exact ⟨samples, hrun, hshows.length.trans rfl, hshows.distinct hnames⟩

end Performance

end FirewallExporter
