import Mathlib.Data.List.DropRight
import FirewallExporter.Http.Authority

/-!
Which texts are an authority. The scan keeps in its state what it needs to know of the
characters that it has consumed, so every character is judged by those before it.
-/

namespace FirewallExporter

namespace Authority

/-- What stands behind the last at sign or closing bracket: as far as is known by then, it
belongs neither to a user nor to an IPv6 address. -/
def sinceMark (cs : List Char) : List Char := cs.rtakeWhile fun c => c ≠ '@' ∧ c ≠ ']'

/-- When a character may stand after others. -/
structure CanFollow (before : List Char) (c : Char) : Prop where
  known : c.isAlphanum ∨ c ∈ "!$%&'()*+,-.:;=@[]_~".toList
  colon : c = ':' → (sinceMark before).count ':' < 8
  opening : c = '[' → '[' ∉ before ∧ '%' ∉ sinceMark before
  closing : c = ']' → '[' ∈ before ∧ ']' ∉ before

/-- Every character may stand where it does. -/
def InPlace (cs : List Char) : Prop := ∀ before c, before ++ [c] <+: cs → CanFollow before c

structure IsAuthority (cs : List Char) : Prop where
  ne_nil : cs ≠ []
  places : InPlace cs
  closed : '[' ∈ cs → ']' ∈ cs
  /-- The last colon is that of a port. -/
  colons : (sinceMark cs).count ':' ≤ 1
  percent : '%' ∉ sinceMark cs
  last : cs.getLast? ≠ some '@'

variable {before cs : List Char} {c : Char} {s : Scan}

theorem IsAuthority.known (h : IsAuthority cs) (hc : c ∈ cs) :
    c.isAlphanum ∨ c ∈ "!$%&'()*+,-.:;=@[]_~".toList := by
  obtain ⟨before, after, rfl⟩ := List.append_of_mem hc
  exact (h.places before c ⟨after, by simp⟩).known

theorem sinceMark_concat_of_mark (h : c = '@' ∨ c = ']') : sinceMark (before ++ [c]) = [] := by
  rw [sinceMark, List.rtakeWhile_concat_neg]
  rcases h with rfl | rfl <;> decide

theorem sinceMark_concat (hat : c ≠ '@') (hclose : c ≠ ']') :
    sinceMark (before ++ [c]) = sinceMark before ++ [c] :=
  List.rtakeWhile_concat_pos _ _ _ (by simp [hat, hclose])

/-- What the state of the scan says about the characters before it. -/
def summary (cs : List Char) : Scan where
  colons := (sinceMark cs).count ':'
  opened := '[' ∈ cs
  closed := ']' ∈ cs
  percent := '%' ∈ sinceMark cs

/-- A mark that starts nothing anew is a character like any other to the summary. -/
theorem summary_concat (hat : c ≠ '@') (hclose : c ≠ ']') : summary (before ++ [c]) =
    { colons := (sinceMark before).count ':' + [c].count ':'
      opened := '[' ∈ before ∨ c = '['
      closed := ']' ∈ before
      percent := '%' ∈ sinceMark before ∨ c = '%' } := by
  simp [summary, sinceMark_concat hat hclose, hclose.symm, eq_comm]

theorem canFollow_colon : CanFollow before ':' ↔ (sinceMark before).count ':' < 8 :=
  ⟨fun h => h.colon rfl, fun h => ⟨by decide, fun _ => h, nofun, nofun⟩⟩

theorem canFollow_opening :
    CanFollow before '[' ↔ '[' ∉ before ∧ '%' ∉ sinceMark before :=
  ⟨fun h => h.opening rfl, fun h => ⟨by decide, nofun, fun _ => h, nofun⟩⟩

theorem canFollow_closing : CanFollow before ']' ↔ '[' ∈ before ∧ ']' ∉ before :=
  ⟨fun h => h.closing rfl, fun h => ⟨by decide, nofun, nofun, fun _ => h⟩⟩

theorem canFollow_of_known (hknown : c.isAlphanum ∨ c ∈ "!$%&'()*+,-.:;=@[]_~".toList)
    (hcolon : c ≠ ':') (hopen : c ≠ '[') (hclose : c ≠ ']') : CanFollow before c :=
  ⟨hknown, (absurd · hcolon), (absurd · hopen), (absurd · hclose)⟩

theorem canFollow_of_unmarked (hcolon : c ≠ ':') (hopen : c ≠ '[') (hclose : c ≠ ']')
    (hat : c ≠ '@') (hpercent : c ≠ '%') : CanFollow before c ↔ isPlain c = true := by
  constructor
  · intro h
    simpa [isPlain, hcolon, hopen, hclose, hat, hpercent] using h.known
  · intro h
    have hplain : c.isAlphanum ∨ c ∈ "!$&'()*+,-.;=_~".toList := by
      simpa only [isPlain, Bool.or_eq_true, decide_eq_true_eq] using h
    have hsubset : ∀ x ∈ "!$&'()*+,-.;=_~".toList, x ∈ "!$%&'()*+,-.:;=@[]_~".toList := by
      simp
    exact canFollow_of_known (hplain.imp_right (hsubset c)) hcolon hopen hclose

theorem inPlace_concat : InPlace (before ++ [c]) ↔ InPlace before ∧ CanFollow before c := by
  simp only [InPlace, List.prefix_concat_iff, List.append_singleton_inj]
  constructor
  · intro h
    exact ⟨fun before' c' hprefix => h before' c' (.inr hprefix), h before c (.inl ⟨rfl, rfl⟩)⟩
  · rintro ⟨hbefore, hc⟩ before' c' (⟨rfl, rfl⟩ | hprefix)
    · exact hc
    · exact hbefore before' c' hprefix

/-- One step of the scan: a character is taken if it may follow those before it. -/
theorem step?_summary : (summary before).step? c = some s ↔
    CanFollow before c ∧ summary (before ++ [c]) = s := by
  by_cases hcolon : c = ':'
  · subst hcolon
    rw [canFollow_colon, summary_concat (by decide) (by decide), Scan.step?, if_pos rfl,
      Option.ite_none_right_eq_some, Option.some.injEq]
    simp [summary, maxColons]
  by_cases hopen : c = '['
  · subst hopen
    rw [canFollow_opening, summary_concat (by decide) (by decide)]
    simp [Scan.step?, summary]
  by_cases hclose : c = ']'
  · subst hclose
    rw [canFollow_closing]
    simp [Scan.step?, summary, sinceMark_concat_of_mark]
  by_cases hat : c = '@'
  · subst hat
    have hfollow : CanFollow before '@' :=
      canFollow_of_known (by decide) (by decide) (by decide) (by decide)
    simp [Scan.step?, summary, sinceMark_concat_of_mark, hfollow]
  by_cases hpercent : c = '%'
  · subst hpercent
    have hfollow : CanFollow before '%' :=
      canFollow_of_known (by decide) (by decide) (by decide) (by decide)
    rw [summary_concat (by decide) (by decide)]
    simp [Scan.step?, summary, hfollow]
  rw [canFollow_of_unmarked hcolon hopen hclose hat hpercent, summary_concat hat hclose]
  simp [Scan.step?, hcolon, hopen, hclose, hat, hpercent, summary]

/-- The scan goes on as long as every character is in its place. -/
theorem foldlM_eq_some_iff :
    cs.foldlM Scan.step? {} = some s ↔ InPlace cs ∧ summary cs = s := by
  induction cs using List.reverseRecOn generalizing s with
  | nil =>
      have hnil : summary [] = {} := by decide
      simp [InPlace, hnil]
  | append_singleton before c ih =>
      simp only [List.foldlM_append, List.foldlM_cons, List.foldlM_nil, Option.bind_eq_bind,
        Option.bind_eq_some_iff, ih, inPlace_concat]
      constructor
      · rintro ⟨_, ⟨hbefore, rfl⟩, next, hstep, hnext⟩
        obtain ⟨hc, rfl⟩ := step?_summary.mp hstep
        exact ⟨⟨hbefore, hc⟩, Option.some.inj hnext⟩
      · rintro ⟨⟨hbefore, hc⟩, rfl⟩
        exact ⟨_, ⟨hbefore, rfl⟩, _, step?_summary.mpr ⟨hc, rfl⟩, rfl⟩

theorem Scan.isComplete_iff : s.isComplete = true ↔
    s.opened = s.closed ∧ s.colons ≤ 1 ∧ s.percent = false := by
  simp [Scan.isComplete, and_assoc]

theorem isComplete_summary : (summary cs).isComplete = true ↔
    ('[' ∈ cs ↔ ']' ∈ cs) ∧ (sinceMark cs).count ':' ≤ 1 ∧ '%' ∉ sinceMark cs := by
  rw [Scan.isComplete_iff]
  simp [summary]

theorem isValid_iff : isValid cs = true ↔ IsAuthority cs := by
  have hvalid : isValid cs = true ↔ cs ≠ [] ∧ cs.getLast? ≠ some '@' ∧ InPlace cs ∧
      (summary cs).isComplete = true := by
    simp [isValid, Option.any_eq_true, foldlM_eq_some_iff, and_assoc]
  rw [hvalid, isComplete_summary]
  constructor
  · rintro ⟨hne, hlast, hplaces, hbrackets, hcolons, hpercent⟩
    exact ⟨hne, hplaces, hbrackets.mp, hcolons, hpercent, hlast⟩
  · rintro ⟨hne, hplaces, hclosed, hcolons, hpercent, hlast⟩
    refine ⟨hne, hlast, hplaces, ⟨hclosed, fun h => ?_⟩, hcolons, hpercent⟩
    -- A closing bracket is in its place only behind an opening one.
    obtain ⟨before, after, rfl⟩ := List.append_of_mem h
    have hfollow := hplaces before ']' ⟨after, by simp⟩
    exact List.mem_append_left _ (hfollow.closing rfl).1

end Authority

end FirewallExporter
