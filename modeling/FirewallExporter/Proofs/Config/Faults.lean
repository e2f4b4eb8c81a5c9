import FirewallExporter.Proofs.Config.Validity
import FirewallExporter.Proofs.Text.Trim

/-!
The fault that validation reports. A device can have several flaws, and so can
several devices; the flaws of a device come in a fixed order, and those of a device
before those of later ones. What is reported is the flaw that comes first, and a
configuration without flaws is valid.
-/

namespace FirewallExporter

namespace TargetConfig

/-- What can be wrong with a device. -/
inductive Flaw where
  | blankName
  | repeatedName
  | blankAddress
  | timeout
  | version
deriving DecidableEq, Repr

/-- The order of the flaws of a device. -/
def Flaw.rank : Flaw → Nat
  | blankName => 0
  | repeatedName => 1
  | blankAddress => 2
  | timeout => 3
  | version => 4

theorem Flaw.rank_injective : Function.Injective rank := by
  intro flaw flaw' h
  cases flaw <;> cases flaw' <;> first | rfl | cases h

/-- A flaw that the device has after devices of the given names, and what is reported of it. -/
inductive Has (t : TargetConfig) (earlier : List String) : Flaw → ConfigFault → Prop where
  | blankName (h : Text.trim t.name = "") : Has t earlier .blankName .blankName
  | repeatedName (h : t.name ∈ earlier) : Has t earlier .repeatedName (.duplicateName t.name)
  | blankAddress (h : Text.trim t.address = "") : Has t earlier .blankAddress (.blankAddress t.name)
  | timeout {fault : ConfigFault} (h : t.readTimeout = .error fault) : Has t earlier .timeout fault
  | version {fault : ConfigFault} (h : t.readVersion = .error fault) : Has t earlier .version fault

variable {t : TargetConfig} {earlier earlier' seen : List String} {flaw flaw' : Flaw}
  {fault fault' : ConfigFault}

theorem Has.fault_unique (h : t.Has earlier flaw fault) (h' : t.Has earlier flaw fault') :
    fault = fault' := by
  cases h with
  | blankName | repeatedName | blankAddress => cases h'; rfl
  | timeout h =>
      cases h' with
      | timeout h' => exact Except.error.inj (h.symm.trans h')
  | version h =>
      cases h' with
      | version h' => exact Except.error.inj (h.symm.trans h')

/-- Of the earlier names only which they are counts. -/
theorem Has.congr (hnames : ∀ name, name ∈ earlier ↔ name ∈ earlier') :
    t.Has earlier flaw fault ↔ t.Has earlier' flaw fault := by
  have hmono {earlier earlier' : List String} (hnames : ∀ name, name ∈ earlier → name ∈ earlier')
      (h : t.Has earlier flaw fault) : t.Has earlier' flaw fault := by
    cases h with
    | blankName h => exact .blankName h
    | repeatedName h => exact .repeatedName (hnames _ h)
    | blankAddress h => exact .blankAddress h
    | timeout h => exact .timeout h
    | version h => exact .version h
  exact ⟨hmono fun name => (hnames name).mp, hmono fun name => (hnames name).mpr⟩

/-- A flaw of the device that none of its flaws comes before. -/
structure HasFirst (t : TargetConfig) (earlier : List String) (flaw : Flaw) (fault : ConfigFault) :
    Prop where
  has : t.Has earlier flaw fault
  first : ∀ {flaw' fault'}, t.Has earlier flaw' fault' → flaw.rank ≤ flaw'.rank

theorem HasFirst.fault_unique (h : t.HasFirst earlier flaw fault)
    (h' : t.HasFirst earlier flaw' fault') : fault = fault' := by
  obtain rfl : flaw = flaw' :=
    Flaw.rank_injective (Nat.le_antisymm (h.first h'.has) (h'.first h.has))
  exact h.has.fault_unique h'.has

/-! ### One device -/

def Flaw.inOrder : List Flaw := [blankName, repeatedName, blankAddress, timeout, version]

theorem Flaw.mem_inOrder (flaw : Flaw) : flaw ∈ inOrder := by
  cases flaw <;> decide

theorem Flaw.pairwise_inOrder : inOrder.Pairwise fun flaw flaw' => flaw.rank ≤ flaw'.rank := by
  decide

/-- What is reported of a flaw if the device has it. -/
def found? (t : TargetConfig) (seen : List String) : Flaw → Option ConfigFault
  | .blankName => if Text.isBlankText t.name then some .blankName else none
  | .repeatedName => if seen.contains t.name then some (.duplicateName t.name) else none
  | .blankAddress => if Text.isBlankText t.address then some (.blankAddress t.name) else none
  | .timeout => match t.readTimeout with
    | .ok _ => none
    | .error fault => some fault
  | .version => match t.readVersion with
    | .ok _ => none
    | .error fault => some fault

theorem found?_eq_some_iff : t.found? seen flaw = some fault ↔ t.Has seen flaw fault := by
  constructor
  · intro h
    cases flaw with
    | blankName =>
        obtain ⟨hname, heq⟩ := Option.ite_none_right_eq_some.mp h
        cases heq
        exact .blankName (Text.isBlankText_iff.mp hname)
    | repeatedName =>
        obtain ⟨hseen, heq⟩ := Option.ite_none_right_eq_some.mp h
        cases heq
        exact .repeatedName (List.contains_iff_mem.mp hseen)
    | blankAddress =>
        obtain ⟨haddress, heq⟩ := Option.ite_none_right_eq_some.mp h
        cases heq
        exact .blankAddress (Text.isBlankText_iff.mp haddress)
    | timeout =>
        rw [found?] at h
        cases htimeout : t.readTimeout with
        | ok timeout => rw [htimeout] at h; cases h
        | error fault => rw [htimeout] at h; cases h; exact .timeout htimeout
    | version =>
        rw [found?] at h
        cases hversion : t.readVersion with
        | ok version => rw [hversion] at h; cases h
        | error fault => rw [hversion] at h; cases h; exact .version hversion
  · rintro (h | h | h | h | h)
    · exact if_pos (Text.isBlankText_iff.mpr h)
    · exact if_pos (List.contains_iff_mem.mpr h)
    · exact if_pos (Text.isBlankText_iff.mpr h)
    · rw [found?, h]
    · rw [found?, h]

/-- The checks of a device look for its flaws in their order. -/
theorem check_eq : t.check seen = match Flaw.inOrder.findSome? (t.found? seen) with
    | none => .ok ()
    | some fault => .error fault := by
  simp only [check, bind, Except.bind, pure, Except.pure, throw, throwThe, MonadExceptOf.throw,
    Flaw.inOrder, List.findSome?_cons, List.findSome?_nil, found?]
  split_ifs
  all_goals try rfl
  -- only what is read from texts is left
  cases t.readTimeout with
  | error fault => rfl
  | ok timeout => cases t.readVersion <;> rfl

theorem not_has_of_check (h : t.check seen = .ok ()) : ¬ t.Has seen flaw fault := by
  intro hhas
  rw [check_eq] at h
  cases hfound : Flaw.inOrder.findSome? (t.found? seen) with
  | some reported => rw [hfound] at h; cases h
  | none =>
      have hnone := List.findSome?_eq_none_iff.mp hfound flaw flaw.mem_inOrder
      rw [found?_eq_some_iff.mpr hhas] at hnone
      cases hnone

theorem exists_hasFirst_of_check (h : t.check seen = .error fault) :
    ∃ flaw, t.HasFirst seen flaw fault := by
  rw [check_eq] at h
  cases hfound : Flaw.inOrder.findSome? (t.found? seen) with
  | none => rw [hfound] at h; cases h
  | some reported =>
      rw [hfound] at h
      cases h
      obtain ⟨before, flaw, after, hsplit, hflaw, hbefore⟩ := List.findSome?_eq_some_iff.mp hfound
      refine ⟨flaw, found?_eq_some_iff.mp hflaw, fun {flaw' fault'} hother => ?_⟩
      have hmem := flaw'.mem_inOrder
      have horder := Flaw.pairwise_inOrder
      rw [hsplit] at hmem horder
      -- a flaw that is looked for before would have been found
      rcases List.mem_append.mp hmem with hmem | hmem
      · have hnone := hbefore flaw' hmem
        rw [found?_eq_some_iff.mpr hother] at hnone
        cases hnone
      · rcases List.mem_cons.mp hmem with rfl | hmem
        · exact Nat.le_refl _
        · have hafter := (List.pairwise_append.mp horder).2.1
          exact List.rel_of_pairwise_cons hafter hmem

theorem check_eq_error_iff : t.check seen = .error fault ↔ ∃ flaw, t.HasFirst seen flaw fault := by
  refine ⟨exists_hasFirst_of_check, ?_⟩
  rintro ⟨flaw, hfirst⟩
  cases hcheck : t.check seen with
  | ok => exact absurd hfirst.has (not_has_of_check hcheck)
  | error fault' =>
      obtain ⟨flaw', hfirst'⟩ := exists_hasFirst_of_check hcheck
      rw [hfirst'.fault_unique hfirst]

/-! ### Devices in order -/

/-- The device at a place of a list has a flaw, after devices of the given names. -/
def HasAt (ts : List TargetConfig) (seen : List String) (i : Nat) (flaw : Flaw)
    (fault : ConfigFault) : Prop :=
  ∃ t, ts[i]? = some t ∧ t.Has (seen ++ (ts.take i).map name) flaw fault

/-- A flaw in a list that no other comes before, by the place and then by the order of flaws. -/
structure HasFirstAt (ts : List TargetConfig) (seen : List String) (i : Nat) (flaw : Flaw)
    (fault : ConfigFault) : Prop where
  has : HasAt ts seen i flaw fault
  first : ∀ {j flaw' fault'}, HasAt ts seen j flaw' fault' →
    i < j ∨ i = j ∧ flaw.rank ≤ flaw'.rank

variable {ts : List TargetConfig} {i : Nat}

theorem hasAt_zero : HasAt (t :: ts) seen 0 flaw fault ↔ t.Has seen flaw fault := by
  simp [HasAt]

/-- To those after it a device is one more that came before. -/
theorem hasAt_succ :
    HasAt (t :: ts) seen (i + 1) flaw fault ↔ HasAt ts (t.name :: seen) i flaw fault := by
  refine exists_congr fun u => and_congr Iff.rfl (Has.congr fun name => ?_)
  simp [or_left_comm]

theorem hasFirstAt_zero :
    HasFirstAt (t :: ts) seen 0 flaw fault ↔ t.HasFirst seen flaw fault := by
  constructor
  · rintro ⟨hhas, hfirst⟩
    refine ⟨hasAt_zero.mp hhas, fun hother => ?_⟩
    have hle := hfirst (hasAt_zero.mpr hother)
    exact (hle.resolve_left (Nat.lt_irrefl 0)).2
  · rintro ⟨hhas, hfirst⟩
    refine ⟨hasAt_zero.mpr hhas, fun {j flaw' fault'} hother => ?_⟩
    cases j with
    | zero => exact .inr ⟨rfl, hfirst (hasAt_zero.mp hother)⟩
    | succ j => exact .inl (Nat.zero_lt_succ j)

/-- Behind a device without flaws the first flaw is that of the rest. -/
theorem hasFirstAt_succ (h : ∀ flaw fault, ¬ t.Has seen flaw fault) :
    HasFirstAt (t :: ts) seen (i + 1) flaw fault ↔ HasFirstAt ts (t.name :: seen) i flaw fault := by
  constructor
  · rintro ⟨hhas, hfirst⟩
    refine ⟨hasAt_succ.mp hhas, fun hother => ?_⟩
    have hle := hfirst (hasAt_succ.mpr hother)
    omega
  · rintro ⟨hhas, hfirst⟩
    refine ⟨hasAt_succ.mpr hhas, fun {j flaw' fault'} hother => ?_⟩
    cases j with
    | zero => exact absurd (hasAt_zero.mp hother) (h flaw' fault')
    | succ j =>
        have hle := hfirst (hasAt_succ.mp hother)
        omega

theorem checkAll_eq_error_iff :
    checkAll seen ts = .error fault ↔ ∃ i flaw, HasFirstAt ts seen i flaw fault := by
  induction ts generalizing seen with
  | nil =>
      refine iff_of_false nofun ?_
      rintro ⟨i, flaw, ⟨t, ht, -⟩, -⟩
      cases ht
  | cons t ts ih =>
      rw [checkAll]
      cases hcheck : t.check seen with
      | error reported =>
          -- the rest is not looked at, and nothing in it comes before this device
          obtain ⟨flaw, hfirst⟩ := check_eq_error_iff.mp hcheck
          constructor
          · intro h
            cases h
            exact ⟨0, flaw, hasFirstAt_zero.mpr hfirst⟩
          · rintro ⟨i, flaw', h⟩
            obtain rfl : i = 0 := by
              have hle := h.first (hasAt_zero.mpr hfirst.has)
              omega
            have hfault := check_eq_error_iff.mpr ⟨flaw', hasFirstAt_zero.mp h⟩
            rw [hcheck] at hfault
            exact hfault
      | ok =>
          have hnone : ∀ flaw fault, ¬ t.Has seen flaw fault :=
            fun _ _ => not_has_of_check hcheck
          refine (@ih (t.name :: seen)).trans ?_
          constructor
          · rintro ⟨i, flaw, h⟩
            exact ⟨i + 1, flaw, (hasFirstAt_succ hnone).mpr h⟩
          · rintro ⟨i, flaw, h⟩
            cases i with
            | zero => exact absurd (hasAt_zero.mp h.has) (hnone flaw fault)
            | succ i => exact ⟨i, flaw, (hasFirstAt_succ hnone).mp h⟩

/-! ### Validation -/

/-- A device that has neither a blank name or address nor a timeout or version that is not one. -/
structure InOrder (t : TargetConfig) : Prop where
  name : Text.trim t.name ≠ ""
  address : Text.trim t.address ≠ ""
  timeout : ∃ timeout, t.readTimeout = .ok timeout
  version : ∃ version, t.readVersion = .ok version

theorem sound_iff_inOrder : t.Sound ↔ t.InOrder := by
  have hblank {s : String} : Text.isBlankText s = false ↔ Text.trim s ≠ "" := by
    rw [← Bool.not_eq_true, Text.isBlankText_iff]
  constructor
  · rintro ⟨hname, haddress, htimeout, hversion⟩
    exact ⟨hblank.mp hname, hblank.mp haddress, htimeout, hversion⟩
  · rintro ⟨hname, haddress, htimeout, hversion⟩
    exact ⟨hblank.mpr hname, hblank.mpr haddress, htimeout, hversion⟩

end TargetConfig

namespace Config

open TargetConfig (InOrder HasFirstAt)

/--
A configuration is valid just if it has devices, each of them is in order, and their
names are distinct. If it has none, that is what is reported; and if it has some, what
is reported is the flaw of a device that comes before all other flaws of all devices.
-/
theorem validate_reports_first (c : Config) :
    (c.validate = .ok () ↔
      c.targets ≠ [] ∧ (∀ t ∈ c.targets, t.InOrder) ∧ (c.targets.map TargetConfig.name).Nodup) ∧
    (c.targets = [] → c.validate = .error .noTargets ∧
      ConfigFault.noTargets.message = "invalid configuration: no targets configured") ∧
    (c.targets ≠ [] → ∀ fault, c.validate = .error fault ↔
      ∃ i flaw, HasFirstAt c.targets [] i flaw fault) := by
  refine ⟨?_, fun hempty => ⟨?_, rfl⟩, fun hne fault => ?_⟩
  · simp only [validate_eq_ok_iff, TargetConfig.sound_iff_inOrder]
  · rw [validate, hempty]
    rfl
  · have hnonempty : c.targets.isEmpty = false := List.isEmpty_eq_false_iff.mpr hne
    rw [validate, hnonempty]
    exact TargetConfig.checkAll_eq_error_iff

/-- The second device has the name of the first and other flaws, and the third has no name. -/
def flawedConfig : Config where
  targets :=
    [{ name := "core", address := "192.0.2.1", timeout := some "5s" },
     { name := "core", address := " ", timeout := some "5 s" },
     { name := "\u00a0", address := "192.0.2.2", version := some "seven" }]

theorem validate_reports_first_flawedConfig :
    flawedConfig.validate = .error (.duplicateName "core") ∧
      ∃ i flaw, HasFirstAt flawedConfig.targets [] i flaw (.duplicateName "core") := by
  obtain ⟨-, -, hreported⟩ := validate_reports_first flawedConfig
  have hfault : flawedConfig.validate = .error (.duplicateName "core") := by decide
  exact ⟨hfault, (hreported (by decide) _).mp hfault⟩

end Config

end FirewallExporter
