import Mathlib.Data.List.Forall2
import FirewallExporter.Proofs.Probe.Categories
import FirewallExporter.Proofs.Probe.SwitchHealth
import FirewallExporter.Proofs.Probe.SwitchPorts

/-!
Families that show words. For each record of a body such a family has one sample,
which shows a word of that record and of no other, as its value or in a label.
Where a number is set apart for words that are not known, it is shown for just
those words that the vocabulary of the family lacks.
-/

namespace FirewallExporter

/-- Where a sample shows a number. -/
inductive Site where
  | value
  | label (name : String)

def Site.Shows : Site → Row → Float → Prop
  | value, row, x => row.value = x
  | label name, row, x => row.labels.lookup name = some (numberLabel x)

/-- A family that shows a word of each record that a capability is served with. -/
structure WordFamily where
  name : String
  capability : Capability
  site : Site
  category : Category
  /-- The number that is set apart for words that are not known, if there is one. -/
  unknown : Option Float
  records : Json → List Json
  word : Json → String

namespace WordFamily

variable {w : WordFamily} {record : Json} {row : Row} {rows rows' : List Row}

/-- The row shows the word of the record. -/
structure Tells (w : WordFamily) (record : Json) (row : Row) : Prop where
  shows : w.site.Shows row (w.category.value (w.word record))
  unknown_iff : ∀ x, w.unknown = some x →
    (w.site.Shows row x ↔ w.word record ∉ w.category.vocabulary)

/-- The number for words that are not known is the default and is shown for no word that is. -/
def Distinct (w : WordFamily) : Prop :=
  ∀ x, w.unknown = some x → x = w.category.default ∧
    match w.site with
    | .value => ∀ arm ∈ w.category.arms, arm.2 ≠ x
    | .label _ => ∀ arm ∈ w.category.arms, numberLabel arm.2 ≠ numberLabel x

theorem Distinct.of_value {x : Float} (hsite : w.site = .value) (hunknown : w.unknown = some x)
    (hdefault : x = w.category.default) (harms : ∀ arm ∈ w.category.arms, arm.2 ≠ x) :
    w.Distinct := by
  intro y hy
  cases hunknown.symm.trans hy
  rw [hsite]
  exact ⟨hdefault, harms⟩

theorem Distinct.tells (h : w.Distinct)
    (hrow : w.site.Shows row (w.category.value (w.word record))) : w.Tells record row := by
  refine ⟨hrow, fun x hx => ?_⟩
  obtain ⟨hdefault, happart⟩ := h x hx
  obtain ⟨name, capability, site, category, unknown, records, word⟩ := w
  cases site with
  | value =>
      replace hrow : row.value = category.value (word record) := hrow
      show row.value = x ↔ _
      subst hdefault
      rw [hrow]
      exact Category.show_value_eq_default_iff id happart
  | label name =>
      replace hrow : row.labels.lookup name = some (numberLabel (category.value (word record))) :=
        hrow
      show row.labels.lookup name = some (numberLabel x) ↔ _
      subst hdefault
      rw [hrow, Option.some.injEq]
      exact Category.show_value_eq_default_iff numberLabel happart

/-- The rows of the family tell of the records, of one after the other. -/
def Reads (w : WordFamily) (records : List Json) (rows : List Row) : Prop :=
  List.Forall₂ w.Tells records (rows.filter (·.family == w.name))

theorem Reads.of_filter {records : List Json} {filtered : List Row}
    (hfilter : rows.filter (·.family == w.name) = filtered)
    (h : List.Forall₂ w.Tells records filtered) : w.Reads records rows := by
  rw [Reads, hfilter]
  exact h

theorem Reads.append {records records' : List Json} (h : w.Reads records rows)
    (h' : w.Reads records' rows') : w.Reads (records ++ records') (rows ++ rows') := by
  rw [Reads, List.filter_append]
  exact List.rel_append h h'

theorem Reads.flatMap {α : Type} {xs : List α} {f : α → List Json} {g : α → List Row}
    (h : ∀ x, w.Reads (f x) (g x)) : w.Reads (xs.flatMap f) (xs.flatMap g) := by
  induction xs with
  | nil => exact .nil
  | cons x xs ih =>
      rw [List.flatMap_cons, List.flatMap_cons]
      exact (h x).append ih

theorem Reads.of_each {records : List Json} {g : Json → List Row}
    (h : ∀ record, w.Reads [record] (g record)) : w.Reads records (records.flatMap g) := by
  have hflat : w.Reads (records.flatMap fun record => [record]) (records.flatMap g) := .flatMap h
  rwa [List.flatMap_singleton'] at hflat

/-- What the device serves the capability with is told of by the samples. -/
def Told (w : WordFamily) (v : Version) (fetcher : Fetcher) (samples : List Sample) : Prop :=
  ∃ endpoint body, w.capability.resolve v = some endpoint ∧
    fetcher endpoint = .answer (.ok body) ∧
      w.Reads (w.records body.settled) (samples.map Sample.row)

/-- A family of one capability tells of what is served if it does so for every body. -/
theorem told_of_reads {v : Version} {fetcher : Fetcher} {shown : List Sample} {shape : Shape}
    {f : shape.Value → List Sample} {other : Dialogue (List Sample)} {endpoint : Endpoint}
    (hendpoint : w.capability.resolve v = some endpoint)
    (hreads : ∀ body, w.Reads (w.records body) ((f (shape.read body)).map Sample.row))
    (h : ((match w.capability.resolve v with
      | none => other
      | some endpoint => (Dialogue.get shape endpoint).bind fun value => .done (f value)).run
        fetcher).ending = .done shown) : w.Told v fetcher shown := by
  rw [hendpoint] at h
  obtain ⟨value, hvalue, hshown⟩ := Dialogue.ending_run_bind_iff.mp h
  obtain ⟨body, hreply, hdecode⟩ := Dialogue.ending_run_get_iff.mp hvalue
  obtain rfl : shape.read body.settled = value := (Shape.decode_eq_ok_iff.mp hdecode).2
  obtain rfl := Ending.done.inj hshown
  exact ⟨endpoint, body, hendpoint, hreply, hreads body.settled⟩

end WordFamily

/-! ### Ratings of switches -/

namespace SwitchHealth

def ratingWords (key : String) : WordFamily where
  name := "fortiswitch_health_summary_" ++ key
  capability := .switchHealth
  site := .value
  category := .rating
  unknown := none
  records body := (switchesOf body).map Prod.snd
  word switch := (Rating.ofRecord (ratingIn switch key)).rating

theorem filter_ratingRows {key : String} (hkey : key ∈ summaryKeys) (domain serial : String)
    (switch : Json) : (block domain serial switch).filter (·.family == (ratingWords key).name) =
      [ratingRow domain serial switch key] := by
  have hname : ∀ key ∈ summaryKeys,
      "fortiswitch_health_temperature" ≠ (ratingWords key).name := by decide
  have hsensors : ((sensorsOf switch).map (sensorRow domain serial)).filter
      (·.family == (ratingWords key).name) = [] := by
    rw [List.filter_eq_nil_iff, List.forall_mem_map]
    exact fun _ _ => by simpa [sensorRow] using hname key hkey
  rw [block, List.filter_append, List.filter_append, hsensors]
  simp only [summaryKeys, List.mem_cons, List.not_mem_nil, or_false] at hkey
  rcases hkey with rfl | rfl | rfl | rfl <;> rfl

theorem told_ratingWords {key : String} (hkey : key ∈ summaryKeys) {v : Version}
    {fetcher : Fetcher} {shown : List Sample}
    (h : ((probe v).run fetcher).ending = .done shown) : (ratingWords key).Told v fetcher shown := by
  have hdistinct : (ratingWords key).Distinct := nofun
  refine WordFamily.told_of_reads (resolve_switchHealth v) (fun body => ?_) h
  rw [Response.ofValue_read, samples_ofRecord, map_row_samplesOf]
  show WordFamily.Reads _ ((switchesOf body).map Prod.snd) _
  rw [List.map_eq_flatMap]
  apply WordFamily.Reads.flatMap
  intro m
  exact .of_filter (filter_ratingRows hkey _ m.1 m.2) (.cons (hdistinct.tells rfl) .nil)

end SwitchHealth

/-! ### States of switches and of their ports -/

namespace SwitchPorts

def connectionWords : WordFamily where
  name := "fortiswitch_status"
  capability := .switchStatus
  site := .value
  category := .switchConnection
  unknown := none
  records := records
  word switch := switchText switch "status"

def stateWords : WordFamily where
  name := "fortiswitch_status"
  capability := .switchStatus
  site := .label "state"
  category := .authorizationState
  unknown := some (-1.0)
  records := records
  word switch := switchText switch "state"

def portWords : WordFamily where
  name := "fortiswitch_port_status"
  capability := .switchStatus
  site := .value
  category := .linkStatus
  unknown := none
  records body := (records body).flatMap portsOf
  word port := portText port "status"

def duplexWords : WordFamily where
  name := "fortiswitch_port_duplex_status"
  capability := .switchStatus
  site := .value
  category := .duplex
  unknown := none
  records body := (records body).flatMap portsOf
  word port := portText port "duplex"

/-- Whatever the version, the rows are the blocks of the switches that are served. -/
theorem exists_body_of_done {v : Version} {fetcher : Fetcher} {shown : List Sample}
    (h : ((probe v).run fetcher).ending = .done shown) :
    ∃ endpoint body, ∃ table : Json → List (String × Json),
      Capability.switchStatus.resolve v = some endpoint ∧ fetcher endpoint = .answer (.ok body) ∧
        shown.map Sample.row =
          (records body.settled).flatMap fun switch => block switch (table switch) := by
  by_cases hv : splitVersion ≤ v
  · have hending := h
    rw [probe_of_le hv] at hending
    obtain ⟨status, hstatus, hending⟩ := Dialogue.ending_run_bind_iff.mp hending
    obtain ⟨counters, hcounters, -⟩ := Dialogue.ending_run_bind_iff.mp hending
    obtain ⟨body, hbody, hdecode⟩ := Dialogue.ending_run_get_iff.mp hstatus
    obtain ⟨counterBody, hcounterBody, hcounterDecode⟩ := Dialogue.ending_run_get_iff.mp hcounters
    have hrun := run_probe_of_le hv hdecode hcounterDecode hbody hcounterBody
    obtain rfl := Ending.done.inj (h.symm.trans hrun.1)
    exact ⟨_, body, _, by rw [resolve_switchStatus, if_pos hv], hbody, map_row_samples _ _⟩
  · have hending := h
    rw [probe_of_not_le hv] at hending
    obtain ⟨status, hstatus, -⟩ := Dialogue.ending_run_bind_iff.mp hending
    obtain ⟨body, hbody, hdecode⟩ := Dialogue.ending_run_get_iff.mp hstatus
    have hrun := run_probe_of_not_le hv hdecode hbody
    obtain rfl := Ending.done.inj (h.symm.trans hrun.1)
    exact ⟨_, body, _, by rw [resolve_switchStatus, if_neg hv], hbody, map_row_samples _ _⟩

/-- A family tells of the switches if its rows in the block of one switch do. -/
theorem told_of_block {w : WordFamily} {f : Json → List Json}
    (hcapability : w.capability = .switchStatus)
    (hrecords : ∀ body, w.records body = (records body).flatMap f)
    (hblock : ∀ switch table, w.Reads (f switch) (block switch table)) {v : Version}
    {fetcher : Fetcher} {shown : List Sample}
    (h : ((probe v).run fetcher).ending = .done shown) : w.Told v fetcher shown := by
  obtain ⟨endpoint, body, table, hendpoint, hbody, hrows⟩ := exists_body_of_done h
  refine ⟨endpoint, body, by rw [hcapability, hendpoint], hbody, ?_⟩
  rw [hrecords, hrows]
  exact WordFamily.Reads.flatMap fun switch => hblock switch (table switch)

theorem reads_connectionWords (switch : Json) (table : List (String × Json)) :
    connectionWords.Reads [switch] (block switch table) := by
  have hdistinct : connectionWords.Distinct := nofun
  exact .of_filter (filter_block switch table) (.cons (hdistinct.tells rfl) .nil)

theorem reads_stateWords (switch : Json) (table : List (String × Json)) :
    stateWords.Reads [switch] (block switch table) := by
  have hdistinct : stateWords.Distinct := by
    rintro x hx
    cases hx
    exact ⟨rfl, (by decide : ∀ arm ∈ Category.authorizationState.arms,
      numberLabel arm.2 ≠ numberLabel (-1.0))⟩
  exact .of_filter (filter_block switch table) (.cons (hdistinct.tells rfl) .nil)

/-- The rows of the counters of one port. -/
def counterRows (switch : Json) (entry : String × Json) : List Row :=
  counterNames.map fun names => counterRow switch entry.1 entry.2 names.1 names.2

theorem block_eq_append (switch : Json) (table : List (String × Json)) :
    block switch table = [statusRow switch] ++ (portsOf switch).flatMap (portRows switch) ++
      table.flatMap (counterRows switch) := rfl

/-- What is shown of ports stands between the row of the switch and those of the counters. -/
theorem reads_of_ports {w : WordFamily} (hname : "fortiswitch_status" ≠ w.name)
    (hcounters : ∀ switch entry,
      (counterRows switch entry).filter (·.family == w.name) = [])
    (hports : ∀ switch port, w.Reads [port] (portRows switch port)) (switch : Json)
    (table : List (String × Json)) : w.Reads (portsOf switch) (block switch table) := by
  have hstatus : w.Reads [] [statusRow switch] := by
    refine .of_filter ?_ .nil
    rw [List.filter_eq_nil_iff, List.forall_mem_singleton]
    simpa [statusRow] using hname
  have hall : w.Reads (portsOf switch) ((portsOf switch).flatMap (portRows switch)) :=
    .of_each (hports switch)
  have hrest : w.Reads [] (table.flatMap (counterRows switch)) := by
    refine .of_filter ?_ .nil
    rw [List.filter_flatMap, List.flatMap_eq_nil_iff]
    exact fun entry _ => hcounters switch entry
  rw [block_eq_append]
  have hblock := (hstatus.append hall).append hrest
  rwa [List.nil_append, List.append_nil] at hblock

theorem reads_portWords (switch : Json) (table : List (String × Json)) :
    portWords.Reads (portsOf switch) (block switch table) := by
  have hdistinct : portWords.Distinct := nofun
  refine reads_of_ports (by decide) (fun _ _ => rfl) (fun switch port => ?_) switch table
  exact .of_filter rfl (.cons (hdistinct.tells rfl) .nil)

theorem reads_duplexWords (switch : Json) (table : List (String × Json)) :
    duplexWords.Reads (portsOf switch) (block switch table) := by
  have hdistinct : duplexWords.Distinct := nofun
  refine reads_of_ports (by decide) (fun _ _ => rfl) (fun switch port => ?_) switch table
  exact .of_filter rfl (.cons (hdistinct.tells rfl) .nil)

theorem told_of_switch {w : WordFamily} (hcapability : w.capability = .switchStatus)
    (hrecords : w.records = records)
    (hblock : ∀ switch table, w.Reads [switch] (block switch table)) {v : Version}
    {fetcher : Fetcher} {shown : List Sample}
    (h : ((probe v).run fetcher).ending = .done shown) : w.Told v fetcher shown := by
  refine told_of_block hcapability (fun body => ?_) hblock h
  rw [hrecords, List.flatMap_singleton']

def wordFamilies : List WordFamily := [connectionWords, stateWords, portWords, duplexWords]

theorem told_wordFamilies {w : WordFamily} (hw : w ∈ wordFamilies) {v : Version}
    {fetcher : Fetcher} {shown : List Sample}
    (h : ((probe v).run fetcher).ending = .done shown) : w.Told v fetcher shown := by
  simp only [wordFamilies, List.mem_cons, List.not_mem_nil, or_false] at hw
  rcases hw with rfl | rfl | rfl | rfl
  · exact told_of_switch rfl rfl reads_connectionWords h
  · exact told_of_switch rfl rfl reads_stateWords h
  · exact told_of_block rfl (fun _ => rfl) reads_portWords h
  · exact told_of_block rfl (fun _ => rfl) reads_duplexWords h

end SwitchPorts

/-! ### Central management -/

namespace CentralManagement

def statusKeys : List String :=
  ["mode", "server", "status", "registration_status", "mgmt_ip", "mgmt_port", "sn",
   "pending_fortimanager"]

/-- The one record of a body. -/
def statusOf (body : Json) : Json := body.part ["results"] "results"

def statusText (record : Json) (key : String) : String :=
  Json.textOf (record.under statusKeys key)

def Status.ofRecord (record : Json) : Status where
  mode := statusText record "mode"
  server := statusText record "server"
  status := statusText record "status"
  registrationStatus := statusText record "registration_status"
  managementIp := statusText record "mgmt_ip"
  managementPort := Json.numberOf (record.under statusKeys "mgmt_port")
  serial := statusText record "sn"
  pending := statusText record "pending_fortimanager"

theorem Status.ofValue_read (record : Json) : ofValue (shape.read record) = ofRecord record := by
  have hread : shape.read record = _ := Shape.read_ofFields _ _ (by decide) record
  refine (congrArg ofValue hread).trans ?_
  simp only [ofRecord, statusText, ← Shape.readMember_text, ← Shape.readMember_number,
    Fields.ofList, Fields.readMembers_cons]
  rfl

theorem status_read (body : Json) : status (shape.read body) = .ofRecord (statusOf body) := by
  have hread : shape.read body = _ := Shape.read_ofFields _ _ (by decide) body
  refine (congrArg status hread).trans ?_
  rw [statusOf, Shape.ofRecord_part Status.ofValue_read]
  simp only [Fields.ofList, Fields.readMembers_cons]
  rfl

/-- A family that shows what the record has under a key. -/
def statusWords (name key : String) (category : Category) (unknown : Option Float) :
    WordFamily where
  name := name
  capability := .centralManagement
  site := .value
  category := category
  unknown := unknown
  records body := [statusOf body]
  word record := statusText record key

def modeWords : WordFamily :=
  statusWords "fortigate_system_central_management_mode" "mode" .managementMode none

def connectionWords : WordFamily :=
  statusWords "fortigate_system_central_management_status" "status" .managementStatus
    (some (-1.0))

def registrationWords : WordFamily :=
  statusWords "fortigate_system_central_management_registration_status" "registration_status"
    .registrationStatus (some (-1.0))

def wordFamilies : List WordFamily := [modeWords, connectionWords, registrationWords]

theorem told_statusWords {name key : String} {category : Category} {unknown : Option Float}
    (hreads : ∀ record, (statusWords name key category unknown).Reads [record]
      ((samples (.ofRecord record)).map Sample.row)) {v : Version} {fetcher : Fetcher}
    {shown : List Sample} (h : ((probe v).run fetcher).ending = .done shown) :
    (statusWords name key category unknown).Told v fetcher shown := by
  have hendpoint := Capability.resolve_of_range (c := .centralManagement) rfl v
  refine WordFamily.told_of_reads hendpoint (fun body => ?_) h
  rw [status_read]
  exact hreads (statusOf body)

theorem reads_modeWords (record : Json) :
    modeWords.Reads [record] ((samples (.ofRecord record)).map Sample.row) := by
  have hdistinct : modeWords.Distinct := nofun
  exact .of_filter rfl (.cons (hdistinct.tells rfl) .nil)

theorem reads_connectionWords (record : Json) :
    connectionWords.Reads [record] ((samples (.ofRecord record)).map Sample.row) := by
  have hdistinct : connectionWords.Distinct := .of_value rfl rfl rfl (by decide)
  exact .of_filter rfl (.cons (hdistinct.tells rfl) .nil)

theorem reads_registrationWords (record : Json) :
    registrationWords.Reads [record] ((samples (.ofRecord record)).map Sample.row) := by
  have hdistinct : registrationWords.Distinct := .of_value rfl rfl rfl (by decide)
  exact .of_filter rfl (.cons (hdistinct.tells rfl) .nil)

theorem told_wordFamilies {w : WordFamily} (hw : w ∈ wordFamilies) {v : Version}
    {fetcher : Fetcher} {shown : List Sample}
    (h : ((probe v).run fetcher).ending = .done shown) : w.Told v fetcher shown := by
  simp only [wordFamilies, List.mem_cons, List.not_mem_nil, or_false] at hw
  rcases hw with rfl | rfl | rfl
  · exact told_statusWords reads_modeWords h
  · exact told_statusWords reads_connectionWords h
  · exact told_statusWords reads_registrationWords h

end CentralManagement

/-! ### Connections to the sandbox -/

namespace Sandbox

def connectionKeys : List String := ["status", "type"]

/-- The records of the connections, in order. -/
def connectionsOf (body : Json) : List Json := Json.itemsOf (body.under ["results"] "results")

def connectionText (record : Json) (key : String) : String :=
  Json.textOf (record.under connectionKeys key)

def Connection.ofRecord (record : Json) : Connection where
  status := connectionText record "status"
  type := connectionText record "type"

theorem Connection.ofValue_read (record : Json) :
    ofValue (shape.read record) = ofRecord record := by
  have hread : shape.read record = _ := Shape.read_ofFields _ _ (by decide) record
  refine (congrArg ofValue hread).trans ?_
  simp only [ofRecord, connectionText, ← Shape.readMember_text, Fields.ofList,
    Fields.readMembers_cons]
  rfl

theorem connections_read (body : Json) :
    connections ((results Connection.shape).read body) =
      (connectionsOf body).map Connection.ofRecord := by
  have hread : (results Connection.shape).read body = _ := Shape.read_ofFields _ _ (by decide) body
  refine (congrArg connections hread).trans ?_
  rw [connectionsOf, Shape.map_ofRecord_itemsOf Connection.ofValue_read]
  rfl

def connectionWords : WordFamily where
  name := "fortigate_sandbox_connection_status"
  capability := .sandboxConnection
  site := .value
  category := .sandboxConnection
  unknown := some (-2.0)
  records := connectionsOf
  word record := connectionText record "status"

theorem told_connectionWords {v : Version} {fetcher : Fetcher} {shown : List Sample}
    (h : ((connectionProbe v).run fetcher).ending = .done shown) :
    connectionWords.Told v fetcher shown := by
  have hdistinct : connectionWords.Distinct := .of_value rfl rfl rfl (by decide)
  have hendpoint := Capability.resolve_of_range (c := .sandboxConnection) rfl v
  refine WordFamily.told_of_reads hendpoint (fun body => ?_) h
  show connectionWords.Reads (connectionsOf body) _
  rw [connections_read, connectionSamples, List.flatMap_map, List.map_flatMap]
  apply WordFamily.Reads.of_each
  intro record
  exact .of_filter rfl (.cons (hdistinct.tells rfl) .nil)

end Sandbox

/-! ### Every probe -/

namespace Probe

/-- The families of a probe that show words. -/
def wordFamilies (p : Probe) : List WordFamily :=
  match p.name with
  | "Switch/Health" => SwitchHealth.summaryKeys.map SwitchHealth.ratingWords
  | "Switch/PortStats" => SwitchPorts.wordFamilies
  | "System/CentralManagement/Status" => CentralManagement.wordFamilies
  | "System/SandboxConnection" => [Sandbox.connectionWords]
  | _ => []

theorem told_wordFamilies {p : Probe} (hp : p ∈ catalogue) {w : WordFamily}
    (hw : w ∈ p.wordFamilies) {v : Version} {fetcher : Fetcher} {samples : List Sample}
    (h : ((p.run v).run fetcher).ending = .done samples) : w.Told v fetcher samples := by
  simp only [catalogue, List.mem_cons, List.not_mem_nil, or_false] at hp
  rcases hp with rfl | rfl | rfl | rfl | rfl | rfl | rfl | rfl | rfl | rfl | rfl
  · cases hw
  · obtain ⟨key, hkey, rfl⟩ := List.mem_map.mp hw
    exact SwitchHealth.told_ratingWords hkey h
  · exact SwitchPorts.told_wordFamilies hw h
  · exact CentralManagement.told_wordFamilies hw h
  · cases hw
  · cases hw
  · cases hw
  · cases List.mem_singleton.mp hw
    exact Sandbox.told_connectionWords h
  · cases hw
  · cases hw
  · cases hw

/-- No probe has samples of a family in which another one shows words. -/
theorem mem_wordFamilies_of_name {p q : Probe} (hp : p ∈ catalogue) (hq : q ∈ catalogue)
    {w : WordFamily} (hw : w ∈ q.wordFamilies) {f : Family} (hf : f ∈ p.families)
    (hname : f.name = w.name) : w ∈ p.wordFamilies := by
  have hapart : ∀ p ∈ catalogue, ∀ q ∈ catalogue, p.name ≠ q.name →
      ∀ f ∈ p.families, ∀ w ∈ q.wordFamilies, f.name ≠ w.name := by decide +kernel
  by_cases h : p.name = q.name
  · rwa [wordFamilies, h]
  · exact absurd hname (hapart p hp q hq h f hf w hw)

/-- What a probe shows of words whenever it is done. -/
structure Categorical (p : Probe) (v : Version) (fetcher : Fetcher) (samples : List Sample) :
    Prop where
  documented : AllDocumented samples
  told : ∀ w ∈ p.wordFamilies, w.Told v fetcher samples
  /-- A sample of a family that shows words is one of those that are told of. -/
  own : ∀ s ∈ samples, ∀ q ∈ catalogue, ∀ w ∈ q.wordFamilies, s.name = w.name →
    w ∈ p.wordFamilies

/-- Every probe shows words in the documented values, and what is not known as such. -/
theorem run_categorical {p : Probe} (hp : p ∈ catalogue) (v : Version) {fetcher : Fetcher}
    {samples : List Sample} (h : ((p.run v).run fetcher).ending = .done samples) :
    p.Categorical v fetcher samples where
  documented := (run_yields_documented hp v).ending h
  told _ hw := told_wordFamilies hp hw h
  own s hs _ hq _ hw hname :=
    mem_wordFamilies_of_name hp hq hw ((run_yields_families hp v).ending h s hs) hname

/-- A sandbox that is reachable, one of a word in the wrong case, and one of no word. -/
def sandboxBody : Json := .object
  [("results", .array
    [.object [("status", .string "reachable"), ("type", .string "cloud")],
     .object [("status", .string "Reachable"), ("type", .string "appliance")], .object []])]

theorem run_categorical_sandbox :
    ∃ samples, ((Sandbox.connectionProbe ⟨7, 4⟩).run fun _ => .answer (.ok sandboxBody)).ending =
        .done samples ∧ samples.map Sample.value = [1.0, -2.0, -2.0] ∧
      sandboxConnection.Categorical ⟨7, 4⟩
        (fun _ => .answer (.ok sandboxBody)) samples := by
  have hp : sandboxConnection ∈ catalogue := by
    simp [catalogue]
  have hrun : ((Sandbox.connectionProbe ⟨7, 4⟩).run fun _ => .answer (.ok sandboxBody)).ending =
      .done (Sandbox.connectionSamples
        [⟨"reachable", "cloud"⟩, ⟨"Reachable", "appliance"⟩, ⟨"", ""⟩]) := rfl
  exact ⟨_, hrun, rfl, run_categorical hp ⟨7, 4⟩ hrun⟩

end Probe

end FirewallExporter
