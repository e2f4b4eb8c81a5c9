import Mathlib.Data.List.Nodup
import Mathlib.Data.List.Perm.Subperm
import Mathlib.Tactic.Tauto
import FirewallExporter.Probe.Catalogue

/-!
What is selected of the catalogue. A selection fails over the first of its names
that the catalogue does not know. Otherwise it comes to those probes that are
included and not excluded, in the order of the catalogue and each of them once, so
that it makes no difference in which order and how often names are listed.
-/

namespace FirewallExporter

theorem Probe.nodup_names : (catalogue.map Probe.name).Nodup := by decide

namespace Selection

variable {s t : Selection} {ps qs : List Probe}

/-- Of the names that are listed, this is the first that the catalogue does not know. -/
def FirstUnknown (s : Selection) (name : String) : Prop :=
  ∃ known rest, s.names = known ++ name :: rest ∧ (∀ n ∈ known, n ∈ Probe.names) ∧
    name ∉ Probe.names

theorem find?_eq_some_iff {name : String} :
    s.names.find? (fun name => !Probe.names.contains name) = some name ↔ s.FirstUnknown name := by
  rw [List.find?_eq_some_iff_append, FirstUnknown]
  simp only [Bool.not_eq_true', List.contains_eq_mem, decide_eq_false_iff_not, Bool.not_not,
    decide_eq_true_eq]
  tauto

theorem probes_eq_error_iff {e : UnknownProbe} :
    s.probes = .error e ↔ s.FirstUnknown e.name := by
  rw [probes, ← find?_eq_some_iff]
  cases s.names.find? fun name => !Probe.names.contains name with
  | none => simp
  | some name =>
      obtain ⟨unknown⟩ := e
      simp

theorem probes_eq_ok_iff {ps : List Probe} :
    s.probes = .ok ps ↔
      (∀ n ∈ s.names, n ∈ Probe.names) ∧ ps = Probe.catalogue.filter s.admits := by
  rw [probes]
  cases hfind : s.names.find? fun name => !Probe.names.contains name with
  | none =>
      have hknown : ∀ n ∈ s.names, n ∈ Probe.names := by simpa using hfind
      simp only [Except.ok.injEq, eq_comm]
      exact ⟨fun h => ⟨hknown, h⟩, fun h => h.2⟩
  | some name =>
      obtain ⟨known, rest, hsplit, -, hunknown⟩ := find?_eq_some_iff.mp hfind
      constructor
      · intro h
        cases h
      · rintro ⟨hknown, -⟩
        exact absurd (hknown name (by simp [hsplit])) hunknown

theorem exists_probes_eq_error_iff :
    (∃ e, s.probes = .error e) ↔ ∃ n ∈ s.names, n ∉ Probe.names := by
  constructor
  · rintro ⟨e, he⟩
    obtain ⟨known, rest, hsplit, -, hunknown⟩ := probes_eq_error_iff.mp he
    exact ⟨e.name, by simp [hsplit], hunknown⟩
  · rintro ⟨n, hn, hunknown⟩
    cases hprobes : s.probes with
    | error e => exact ⟨e, rfl⟩
    | ok ps => exact absurd ((probes_eq_ok_iff.mp hprobes).1 n hn) hunknown

/-! ### What is selected -/

/-- Without a list of probes to include every probe is included. -/
def Includes (s : Selection) (p : Probe) : Prop :=
  ∀ listed, s.included = some listed → p.name ∈ listed

def Excludes (s : Selection) (p : Probe) : Prop := p.name ∈ s.excluded

/-- The probes are those that a selection of known names is meant to come to. -/
structure Selects (s : Selection) (ps : List Probe) : Prop where
  known : ∀ n ∈ s.names, n ∈ Probe.names
  /-- They stand in the order of the catalogue. -/
  ordered : ps.Sublist Probe.catalogue
  /-- None of them is there twice. -/
  once : (ps.map Probe.name).Nodup
  mem_iff : ∀ p, p ∈ ps ↔ p ∈ Probe.catalogue ∧ s.Includes p ∧ ¬ s.Excludes p

theorem admits_iff {p : Probe} : s.admits p = true ↔ s.Includes p ∧ ¬ s.Excludes p := by
  obtain ⟨included, excluded⟩ := s
  cases included with
  | none => simp [admits, Includes, Excludes]
  | some listed => simp [admits, Includes, Excludes]

theorem nodup_catalogue : Probe.catalogue.Nodup := .of_map _ Probe.nodup_names

/-- There is but one list of the given probes in the order of the catalogue. -/
theorem eq_of_sublist (hps : ps.Sublist Probe.catalogue) (hqs : qs.Sublist Probe.catalogue)
    (h : ∀ p, p ∈ ps ↔ p ∈ qs) : ps = qs := by
  have hperm : ps.Perm qs := (List.perm_ext_iff_of_nodup (hps.nodup nodup_catalogue)
    (hqs.nodup nodup_catalogue)).mpr h
  exact (List.Nodup.perm_iff_eq_of_sublist nodup_catalogue hps hqs).mp hperm

theorem selects_filter (h : ∀ n ∈ s.names, n ∈ Probe.names) :
    s.Selects (Probe.catalogue.filter s.admits) where
  known := h
  ordered := List.filter_sublist
  once := (List.filter_sublist.map _).nodup Probe.nodup_names
  mem_iff p := by rw [List.mem_filter, admits_iff]

theorem probes_eq_ok_iff_selects : s.probes = .ok ps ↔ s.Selects ps := by
  rw [probes_eq_ok_iff]
  constructor
  · rintro ⟨hknown, rfl⟩
    exact selects_filter hknown
  · intro h
    have hfilter := selects_filter h.known
    exact ⟨h.known, eq_of_sublist h.ordered hfilter.ordered fun p =>
      (h.mem_iff p).trans (hfilter.mem_iff p).symm⟩

/-! ### Lists of the same names -/

/-- The selections name the same probes, in whatever order and however often. -/
structure SameNames (s t : Selection) : Prop where
  included : Option.Rel (fun xs ys => ∀ n, n ∈ xs ↔ n ∈ ys) s.included t.included
  excluded : ∀ n, n ∈ s.excluded ↔ n ∈ t.excluded

theorem SameNames.includes_iff (h : s.SameNames t) {p : Probe} : s.Includes p ↔ t.Includes p := by
  obtain ⟨included, excluded⟩ := s
  obtain ⟨included', excluded'⟩ := t
  cases h.included with
  | none => exact Iff.rfl
  | some hnames => simp [Includes, hnames]

theorem SameNames.mem_names_iff (h : s.SameNames t) {n : String} :
    n ∈ s.names ↔ n ∈ t.names := by
  obtain ⟨included, excluded⟩ := s
  obtain ⟨included', excluded'⟩ := t
  have hexcluded := h.excluded n
  cases h.included with
  | none => simpa [names] using hexcluded
  | some hnames => simp [names, hnames, hexcluded]

theorem SameNames.selects (h : s.SameNames t) (hs : s.Selects ps) : t.Selects ps where
  known n hn := hs.known n (h.mem_names_iff.mpr hn)
  ordered := hs.ordered
  once := hs.once
  mem_iff p := by rw [hs.mem_iff, h.includes_iff, Excludes, h.excluded, Excludes]

/-! ### Exclusions that are put together -/

/-- The selection with other names to leave out. -/
def excluding (s : Selection) (excluded : List String) : Selection := { s with excluded }

theorem excludes_append {xs ys : List String} {p : Probe} :
    (s.excluding (xs ++ ys)).Excludes p ↔
      (s.excluding xs).Excludes p ∨ (s.excluding ys).Excludes p :=
  List.mem_append

theorem forall_mem_names_excluding_append {xs ys : List String} :
    (∀ n ∈ (s.excluding (xs ++ ys)).names, n ∈ Probe.names) ↔
      (∀ n ∈ (s.excluding xs).names, n ∈ Probe.names) ∧
        ∀ n ∈ (s.excluding ys).names, n ∈ Probe.names := by
  simp only [names, excluding, List.forall_mem_append]
  tauto

theorem probes_excluding_append_iff {xs ys : List String} :
    (s.excluding (xs ++ ys)).probes = .ok ps ↔
      ∃ qs rs, (s.excluding xs).probes = .ok qs ∧ (s.excluding ys).probes = .ok rs ∧
        ps.Sublist Probe.catalogue ∧ ∀ p, p ∈ ps ↔ p ∈ qs ∧ p ∈ rs := by
  simp only [probes_eq_ok_iff_selects]
  have hboth {qs rs : List Probe} (hqs : (s.excluding xs).Selects qs)
      (hrs : (s.excluding ys).Selects rs) (p : Probe) : p ∈ qs ∧ p ∈ rs ↔
        p ∈ Probe.catalogue ∧ s.Includes p ∧ ¬ (s.excluding (xs ++ ys)).Excludes p := by
    rw [hqs.mem_iff, hrs.mem_iff, excludes_append]
    have hincludes (zs : List String) : (s.excluding zs).Includes p ↔ s.Includes p := Iff.rfl
    rw [hincludes, hincludes]
    tauto
  constructor
  · intro h
    obtain ⟨hxs, hys⟩ := forall_mem_names_excluding_append.mp h.known
    have hqs := selects_filter hxs
    have hrs := selects_filter hys
    exact ⟨_, _, hqs, hrs, h.ordered, fun p => (h.mem_iff p).trans (hboth hqs hrs p).symm⟩
  · rintro ⟨qs, rs, hqs, hrs, hordered, hmem⟩
    exact { known := forall_mem_names_excluding_append.mpr ⟨hqs.known, hrs.known⟩
            ordered := hordered
            once := (hordered.map _).nodup Probe.nodup_names
            mem_iff := fun p => (hmem p).trans (hboth hqs hrs p) }

/--
A selection fails just if the catalogue does not know all its names, over the first
that it does not know. Otherwise it comes to the probes that it includes and does
not exclude, in the order of the catalogue. In which order and how often names are
listed makes no difference to that, and what is left by two lists of exclusions put
together is what both of them leave.
-/
theorem probes_exact (s : Selection) :
    ((∃ e, s.probes = .error e) ↔ ∃ n ∈ s.names, n ∉ Probe.names) ∧
      (∀ e, s.probes = .error e ↔ s.FirstUnknown e.name) ∧
      (∀ ps, s.probes = .ok ps ↔ s.Selects ps) ∧
      (∀ t ps, s.SameNames t → s.probes = .ok ps → t.probes = .ok ps) ∧
      ∀ xs ys ps, (s.excluding (xs ++ ys)).probes = .ok ps ↔
        ∃ qs rs, (s.excluding xs).probes = .ok qs ∧ (s.excluding ys).probes = .ok rs ∧
          ps.Sublist Probe.catalogue ∧ ∀ p, p ∈ ps ↔ p ∈ qs ∧ p ∈ rs := by
  refine ⟨exists_probes_eq_error_iff, fun e => probes_eq_error_iff,
    fun ps => probes_eq_ok_iff_selects, fun t ps h hprobes => ?_,
    fun xs ys ps => probes_excluding_append_iff⟩
  rw [probes_eq_ok_iff_selects] at hprobes ⊢
  exact h.selects hprobes

/-- A probe is named twice, and another one is both included and excluded. -/
def sensorsOnly : Selection :=
  ⟨some ["System/SensorInfo", "Switch/Health", "System/SensorInfo"], ["Switch/Health"]⟩

/-- The same names in other lists. -/
def sensorsAgain : Selection :=
  ⟨some ["Switch/Health", "System/SensorInfo"], ["Switch/Health", "Switch/Health"]⟩

theorem probes_exact_sensorsOnly :
    sensorsOnly.SameNames sensorsAgain ∧
      sensorsOnly.probes = .ok [.sensors] ∧
      sensorsAgain.probes = .ok [.sensors] := by
  have hincluded (n : String) : n ∈ ["System/SensorInfo", "Switch/Health", "System/SensorInfo"] ↔
      n ∈ ["Switch/Health", "System/SensorInfo"] := by
    simp only [List.mem_cons, List.not_mem_nil, or_false]
    tauto
  have hnames : sensorsOnly.SameNames sensorsAgain :=
    ⟨.some hincluded, fun n => by simp [sensorsOnly, sensorsAgain]⟩
  have hprobes : sensorsOnly.probes = .ok [.sensors] := rfl
  obtain ⟨-, -, -, hsame, -⟩ := probes_exact sensorsOnly
  exact ⟨hnames, hprobes, hsame sensorsAgain _ hnames hprobes⟩

end Selection

end FirewallExporter
