import Mathlib.Algebra.Group.Nat.Defs
import FirewallExporter.Firmware.Version
import FirewallExporter.Proofs.Text.Trim

/-!
The grammar of version texts. A text is trimmed and may begin with a mark; the
dotted numbers are the digits and dots that then come first, without dots at
their end. It is a version just if those of its first three parts that are there
are well formed and the first two fit 32 bits. What is written out as a version
reads as the same one.
-/

namespace FirewallExporter.Version

open Text (IsTrimmed)

/-! ### Where the numbers are -/

/-- A text without its mark, of which it has one at most. -/
inductive Unmarked : List Char → List Char → Prop where
  | lower (cs : List Char) : Unmarked ('v' :: cs) cs
  | upper (cs : List Char) : Unmarked ('V' :: cs) cs
  | bare {cs : List Char} (hlower : cs.head? ≠ some 'v') (hupper : cs.head? ≠ some 'V') :
      Unmarked cs cs

/-- The longest run of digits and dots at the start, without dots at its end. -/
structure StartsWithNumbers (cs numbers : List Char) : Prop where
  split : ∃ dots rest, cs = numbers ++ dots ++ rest ∧ (∀ c ∈ dots, c = '.') ∧
    ∀ c, rest.head? = some c → ¬ (c.isDigit = true ∨ c = '.')
  numeric : ∀ c ∈ numbers, c.isDigit = true ∨ c = '.'
  last : numbers.getLast? ≠ some '.'

/-- The dotted numbers of a version text. -/
def NumbersOf (s : String) (numbers : List Char) : Prop :=
  ∃ trimmed bare, IsTrimmed s.toList trimmed ∧ Unmarked trimmed bare ∧
    StartsWithNumbers bare numbers

theorem unmarked_iff {cs bare : List Char} : Unmarked cs bare ↔ bare = dropMark cs := by
  constructor
  · intro h
    cases h with
    | lower | upper => rfl
    | bare hlower hupper =>
        unfold dropMark
        split
        · exact absurd rfl hlower
        · exact absurd rfl hupper
        · rfl
  · rintro rfl
    unfold dropMark
    split
    · exact .lower _
    · exact .upper _
    · next hlower hupper =>
        refine .bare (fun h => ?_) (fun h => ?_)
        · obtain ⟨rest, rfl⟩ := List.head?_eq_some_iff.mp h
          exact hlower rest rfl
        · obtain ⟨rest, rfl⟩ := List.head?_eq_some_iff.mp h
          exact hupper rest rfl

theorem isNumeric_iff {c : Char} : isNumeric c = true ↔ c.isDigit = true ∨ c = '.' := by
  simp [isNumeric]

theorem isNumeric_eq_false_iff {c : Char} :
    isNumeric c = false ↔ ¬ (c.isDigit = true ∨ c = '.') := by
  rw [← isNumeric_iff, Bool.not_eq_true]

theorem startsWithNumbers_iff {cs numbers : List Char} :
    StartsWithNumbers cs numbers ↔
      numbers = Text.dropEnd (· == '.') (cs.takeWhile isNumeric) := by
  constructor
  · rintro ⟨⟨dots, rest, rfl, hdots, hrest⟩, hnumeric, hlast⟩
    have hrun : ∀ c ∈ numbers ++ dots, isNumeric c = true := by
      intro c hc
      rcases List.mem_append.mp hc with hc | hc
      · exact isNumeric_iff.mpr (hnumeric c hc)
      · exact isNumeric_iff.mpr (.inr (hdots c hc))
    rw [Text.takeWhile_append hrun fun c hc => isNumeric_eq_false_iff.mpr (hrest c hc)]
    refine (Text.dropEnd_append (fun c hc => ?_) fun c hc => ?_).symm
    · refine beq_eq_false_iff_ne.mpr ?_
      rintro rfl
      exact hlast hc
    · exact beq_iff_eq.mpr (hdots c hc)
  · rintro rfl
    obtain ⟨dots, hsplit, hdots⟩ :=
      Text.exists_dropEnd_append (· == '.') (cs.takeWhile isNumeric)
    refine ⟨⟨dots, cs.dropWhile isNumeric, ?_, fun c hc => beq_iff_eq.mp (hdots c hc),
      fun c hc => isNumeric_eq_false_iff.mp (Text.head?_dropWhile hc)⟩, fun c hc => ?_,
      fun hlast => ?_⟩
    · rw [hsplit, List.takeWhile_append_dropWhile]
    · have hmem : c ∈ cs.takeWhile isNumeric := by
        rw [← hsplit]
        exact List.mem_append_left _ hc
      exact isNumeric_iff.mp (List.mem_takeWhile_imp hmem)
    · have hdot := Text.getLast?_dropEnd (p := (· == '.')) hlast
      cases hdot

/-- Every text has its dotted numbers in one place only. -/
theorem numbersOf_iff {s : String} {numbers : List Char} :
    NumbersOf s numbers ↔ numbers = numericPart s := by
  constructor
  · rintro ⟨trimmed, bare, htrimmed, hbare, hnumbers⟩
    rw [Text.isTrimmed_iff.mp htrimmed] at hbare
    rw [unmarked_iff.mp hbare] at hnumbers
    exact startsWithNumbers_iff.mp hnumbers
  · rintro rfl
    exact ⟨_, _, Text.isTrimmed_trimChars _, unmarked_iff.mpr rfl, startsWithNumbers_iff.mpr rfl⟩

/-! ### What the numbers say -/

/-- What stands between the dots. -/
def components (numbers : List Char) : List (List Char) := numbers.splitOn '.'

def partValue (digits : List Char) : Nat := Nat.ofDigitChars 10 digits 0

/-- A number of at most 64 bits without a superfluous zero before it. -/
structure IsPart (digits : List Char) : Prop where
  nonempty : digits ≠ []
  isDigit : ∀ c ∈ digits, c.isDigit = true
  noLeadingZero : digits.head? = some '0' → digits = ['0']
  fits : partValue digits ≤ 2 ^ 64 - 1

/-- The numbers are those of a version; a minor one that is not there is zero. -/
structure Spells (numbers : List Char) (v : Version) : Prop where
  nonempty : numbers ≠ []
  parts : ∀ digits ∈ (components numbers).take 3, IsPart digits
  major : ((components numbers)[0]?.map partValue).getD 0 = v.major.toNat
  minor : ((components numbers)[1]?.map partValue).getD 0 = v.minor.toNat

theorem of_mem_splitOn {c sep : Char} {digits cs : List Char} (hdigits : digits ∈ cs.splitOn sep)
    (hc : c ∈ digits) : c ∈ cs ∧ c ≠ sep := by
  induction cs generalizing digits with
  | nil =>
      rw [List.splitOn_nil, List.mem_singleton] at hdigits
      subst hdigits
      cases hc
  | cons x cs ih =>
      rw [List.splitOn_cons_eq_if_modifyHead] at hdigits
      split at hdigits
      · rcases List.mem_cons.mp hdigits with rfl | hdigits
        · cases hc
        · exact (ih hdigits hc).imp (List.mem_cons_of_mem _) id
      · next hx =>
          cases hsplit : cs.splitOn sep with
          | nil => exact absurd hsplit (List.splitOn_ne_nil _ _)
          | cons first rest =>
              rw [hsplit, List.modifyHead_cons] at hdigits
              rcases List.mem_cons.mp hdigits with rfl | hdigits
              · rcases List.mem_cons.mp hc with rfl | hc
                · exact ⟨List.mem_cons_self, by simpa using hx⟩
                · have hfirst := ih (hsplit ▸ List.mem_cons_self) hc
                  exact hfirst.imp (List.mem_cons_of_mem _) id
              · have hrest := ih (hsplit ▸ List.mem_cons_of_mem _ hdigits) hc
                exact hrest.imp (List.mem_cons_of_mem _) id

/-- Between the dots of dotted numbers there are digits. -/
theorem isDigit_of_mem_components {numbers digits : List Char} {c : Char}
    (h : ∀ c ∈ numbers, c.isDigit = true ∨ c = '.') (hdigits : digits ∈ components numbers)
    (hc : c ∈ digits) : c.isDigit = true := by
  obtain ⟨hmem, hdot⟩ := of_mem_splitOn hdigits hc
  exact (h c hmem).resolve_right hdot

theorem readPart_eq_ok_iff {part : Part} {last : Bool} {digits : List Char} {n : Nat}
    (hdigits : ∀ c ∈ digits, c.isDigit = true) :
    readPart part last digits = .ok n ↔ IsPart digits ∧ partValue digits = n := by
  unfold readPart
  split
  · constructor
    · nofun
    · rintro ⟨h, -⟩
      exact absurd rfl h.nonempty
  · next c rest =>
      constructor
      · nofun
      · rintro ⟨h, -⟩
        cases h.noLeadingZero rfl
  · next hnonempty hzero =>
      have hpart : IsPart digits ↔ partValue digits ≤ Text.maxWord := by
        refine ⟨fun h => h.fits, fun h => ⟨hnonempty, hdigits, fun hhead => ?_, h⟩⟩
        obtain ⟨rest, rfl⟩ := List.head?_eq_some_iff.mp hhead
        cases rest with
        | nil => rfl
        | cons c rest => exact absurd rfl (hzero c rest)
      rw [hpart]
      dsimp only [partValue]
      split
      · next h => simp [h]
      · next h => simp [h]

theorem inRange_eq_ok_iff {part : Part} {n : Nat} {x : UInt32} :
    inRange part n = .ok x ↔ n = x.toNat := by
  unfold inRange
  split
  · next h =>
      rw [Except.ok.injEq, ← UInt32.toNat_inj, UInt32.toNat_ofNat_of_lt' h]
  · next h =>
      refine ⟨nofun, fun heq => absurd ?_ h⟩
      rw [heq]
      exact x.toNat_lt

/-- A part that is not there reads as zero. -/
theorem threeParts_eq (numbers : List Char) :
    threeParts numbers =
      ((components numbers)[0]?.getD ['0'], (components numbers)[1]?.getD ['0'],
        (components numbers)[2]?.getD ['0']) := by
  unfold threeParts components
  split
  · next h => rw [h]; rfl
  · next h => rw [h]; rfl
  · next h => rw [h]; rfl
  · next h => exact absurd h (List.splitOn_ne_nil _ _)

theorem isPart_zero : IsPart ['0'] :=
  ⟨by decide, List.forall_mem_singleton.mpr rfl, by decide, by decide⟩

/-- A part is read where it is there and well formed, or is not there. -/
theorem readPart_getD_iff {numbers : List Char} (h : ∀ c ∈ numbers, c.isDigit = true ∨ c = '.')
    {part : Part} {last : Bool} {i n : Nat} :
    readPart part last ((components numbers)[i]?.getD ['0']) = .ok n ↔
      (∀ digits, (components numbers)[i]? = some digits → IsPart digits) ∧
        ((components numbers)[i]?.map partValue).getD 0 = n := by
  cases hpart : (components numbers)[i]? with
  | none =>
      rw [Option.getD_none, readPart_eq_ok_iff isPart_zero.isDigit]
      exact and_congr (iff_of_true isPart_zero nofun) Iff.rfl
  | some digits =>
      have hdigits := fun c => isDigit_of_mem_components (c := c) h (List.mem_of_getElem? hpart)
      rw [Option.getD_some, readPart_eq_ok_iff hdigits]
      simp

theorem forall_mem_take_three {α : Type} {P : α → Prop} {xs : List α} :
    (∀ x ∈ xs.take 3, P x) ↔
      (∀ x, xs[0]? = some x → P x) ∧ (∀ x, xs[1]? = some x → P x) ∧
        ∀ x, xs[2]? = some x → P x := by
  rcases xs with _ | ⟨a, _ | ⟨b, _ | ⟨c, rest⟩⟩⟩ <;> simp

theorem bind_eq_ok_iff {α β : Type} {x : Except Fault α} {f : α → Except Fault β} {b : β} :
    (x >>= f) = .ok b ↔ ∃ a, x = .ok a ∧ f a = .ok b := by
  cases x <;> simp [bind, Except.bind]

theorem readNumeric_of_ne_nil {numbers : List Char} (h : numbers ≠ []) :
    readNumeric numbers = do
      let major ← readPart .major false ((components numbers)[0]?.getD ['0'])
      let minor ← readPart .minor false ((components numbers)[1]?.getD ['0'])
      let _ ← readPart .patch true ((components numbers)[2]?.getD ['0'])
      return { major := ← inRange .major major, minor := ← inRange .minor minor } := by
  have hempty : numbers.isEmpty = false := List.isEmpty_eq_false_iff.mpr h
  rw [readNumeric, hempty, threeParts_eq]
  rfl

theorem readNumeric_eq_ok_iff {numbers : List Char} {v : Version}
    (h : ∀ c ∈ numbers, c.isDigit = true ∨ c = '.') :
    readNumeric numbers = .ok v ↔ Spells numbers v := by
  by_cases hne : numbers = []
  · subst hne
    exact iff_of_false nofun fun hv => hv.nonempty rfl
  rw [readNumeric_of_ne_nil hne]
  simp only [bind_eq_ok_iff, readPart_getD_iff h, inRange_eq_ok_iff, pure, Except.pure,
    Except.ok.injEq]
  constructor
  · rintro ⟨_, ⟨hfirst, rfl⟩, _, ⟨hsecond, rfl⟩, _, ⟨hthird, rfl⟩, _, hmajor, _, hminor, rfl⟩
    exact ⟨hne, forall_mem_take_three.mpr ⟨hfirst, hsecond, hthird⟩, hmajor, hminor⟩
  · rintro ⟨-, hparts, hmajor, hminor⟩
    obtain ⟨hfirst, hsecond, hthird⟩ := forall_mem_take_three.mp hparts
    exact ⟨_, ⟨hfirst, rfl⟩, _, ⟨hsecond, rfl⟩, _, ⟨hthird, rfl⟩, v.major, hmajor, v.minor,
      hminor, rfl⟩

/-! ### Versions written out -/

theorem toList_toString (n : UInt32) : (toString n).toList = Nat.toDigits 10 n.toNat := by
  have htext : toString n = toString n.toNat := rfl
  rw [htext, Nat.toString_eq_ofList_toDigits, String.toList_ofList]

theorem toList_text (v : Version) :
    v.text.toList = Nat.toDigits 10 v.major.toNat ++ '.' :: Nat.toDigits 10 v.minor.toNat := by
  rw [text, String.toList_append, String.toList_append, toList_toString, toList_toString]
  simp

theorem isDigit_of_mem_toDigits {n : Nat} {c : Char} (h : c ∈ Nat.toDigits 10 n) :
    c.isDigit = true := Nat.isDigit_of_mem_toDigits (by decide) (by decide) h

theorem dot_not_mem_toDigits (n : Nat) : '.' ∉ Nat.toDigits 10 n := fun h =>
  absurd (isDigit_of_mem_toDigits h) (by decide)

/-- No number but zero begins with a zero. -/
theorem eq_zero_of_head?_toDigits {n : Nat} (h : (Nat.toDigits 10 n).head? = some '0') :
    n = 0 := by
  induction n using Nat.strong_induction_on with
  | _ n ih =>
      by_cases hlt : n < 10
      · rw [Nat.toDigits_of_lt_base hlt, List.head?_cons, Option.some.injEq,
          Nat.digitChar_eq_zero] at h
        exact h
      · have hdigits := Nat.toDigits_of_base_le (b := 10) (by decide) (Nat.not_lt.mp hlt)
        rw [hdigits, List.head?_append_of_ne_nil _ Nat.toDigits_ne_nil] at h
        have hquotient := ih (n / 10) (by omega) h
        omega

theorem isPart_toDigits (x : UInt32) : IsPart (Nat.toDigits 10 x.toNat) := by
  refine ⟨Nat.toDigits_ne_nil, fun _ hc => isDigit_of_mem_toDigits hc, fun hhead => ?_, ?_⟩
  · rw [eq_zero_of_head?_toDigits hhead, Nat.toDigits_zero]
  · have hlt := x.toNat_lt
    rw [partValue, Nat.ofDigitChars_ten_toDigits]
    omega

theorem isDigit_or_dot_of_mem_text {v : Version} {c : Char} (h : c ∈ v.text.toList) :
    c.isDigit = true ∨ c = '.' := by
  rw [toList_text, List.mem_append, List.mem_cons] at h
  rcases h with h | h | h
  · exact .inl (isDigit_of_mem_toDigits h)
  · exact .inr h
  · exact .inl (isDigit_of_mem_toDigits h)

theorem isBlank_of_isDigit_or_dot {c : Char} (h : c.isDigit = true ∨ c = '.') :
    Text.isBlank c = false := by
  rcases h with h | rfl
  · simp only [Char.isDigit, Bool.and_eq_true, decide_eq_true_eq, UInt32.le_iff_toNat_le] at h
    have hlow : 48 ≤ c.toNat := h.1
    have hhigh : c.toNat ≤ 57 := h.2
    simp [Text.isBlank]
    omega
  · decide

theorem unmarked_append {mark cs : List Char} (hmark : mark = [] ∨ mark = ['v'] ∨ mark = ['V'])
    (hcs : ∀ c, cs.head? = some c → c.isDigit = true ∨ c = '.') : Unmarked (mark ++ cs) cs := by
  rcases hmark with rfl | rfl | rfl
  · refine .bare (fun h => ?_) (fun h => ?_)
    · exact absurd (hcs _ h) (by decide)
    · exact absurd (hcs _ h) (by decide)
  · exact .lower cs
  · exact .upper cs

/-- Dotted numbers may have a mark before them and anything but more of them behind. -/
theorem numbersOf_of_toList_eq {s : String} {mark numbers tail : List Char}
    (hs : s.toList = mark ++ numbers ++ tail) (hmark : mark = [] ∨ mark = ['v'] ∨ mark = ['V'])
    (hnonempty : numbers ≠ []) (hnumeric : ∀ c ∈ numbers, c.isDigit = true ∨ c = '.')
    (hlast : numbers.getLast? ≠ some '.')
    (htail : ∀ c, tail.head? = some c → ¬ (c.isDigit = true ∨ c = '.')) : NumbersOf s numbers := by
  have hblank : ∀ c ∈ mark ++ numbers, Text.isBlank c = false := by
    intro c hc
    rcases List.mem_append.mp hc with hc | hc
    · rcases hmark with rfl | rfl | rfl
      · cases hc
      · obtain rfl := List.mem_singleton.mp hc
        decide
      · obtain rfl := List.mem_singleton.mp hc
        decide
    · exact isBlank_of_isDigit_or_dot (hnumeric c hc)
  have htrimmed := Text.isTrimmed_append (List.append_ne_nil_of_right_ne_nil mark hnonempty)
    (fun c hc => hblank c (List.mem_of_head? hc))
    (fun c hc => hblank c (List.mem_of_getLast? hc)) tail
  have hbare : Unmarked (mark ++ numbers ++ Text.dropEnd Text.isBlank tail)
      (numbers ++ Text.dropEnd Text.isBlank tail) := by
    rw [List.append_assoc]
    apply unmarked_append hmark
    intro c hc
    rw [List.head?_append_of_ne_nil _ hnonempty] at hc
    exact hnumeric c (List.mem_of_head? hc)
  rw [← hs] at htrimmed
  refine ⟨_, _, htrimmed, hbare, ⟨[], Text.dropEnd Text.isBlank tail, by simp, nofun, ?_⟩,
    hnumeric, hlast⟩
  exact fun c hc => htail c (Text.head?_of_head?_dropEnd hc)

/-- A version that is written out is all numbers. -/
theorem numbersOf_text (v : Version) : NumbersOf v.text v.text.toList := by
  have hlast : v.text.toList.getLast? ≠ some '.' := by
    intro h
    have hcons := List.getLast?_cons_of_ne_nil (x := '.')
      (Nat.toDigits_ne_nil (n := v.minor.toNat) (b := 10))
    rw [toList_text, List.getLast?_append_of_ne_nil _ (List.cons_ne_nil _ _), hcons] at h
    exact dot_not_mem_toDigits _ (List.mem_of_getLast? h)
  have hwhole : v.text.toList = [] ++ v.text.toList ++ [] := by rw [List.nil_append, List.append_nil]
  have hnonempty : v.text.toList ≠ [] := by
    rw [toList_text]
    simp
  exact numbersOf_of_toList_eq hwhole (.inl rfl) hnonempty
    (fun _ hc => isDigit_or_dot_of_mem_text hc) hlast nofun

theorem spells_text (v : Version) : Spells v.text.toList v := by
  have hcomponents : components v.text.toList =
      [Nat.toDigits 10 v.major.toNat, Nat.toDigits 10 v.minor.toNat] := by
    rw [components, toList_text,
      List.splitOn_append_cons_self_of_not_mem (dot_not_mem_toDigits _),
      List.splitOn_eq_singleton (dot_not_mem_toDigits _)]
  refine ⟨?_, ?_, ?_, ?_⟩
  · rw [toList_text]
    simp
  · rw [hcomponents]
    simp [isPart_toDigits]
  · rw [hcomponents]
    exact Nat.ofDigitChars_ten_toDigits
  · rw [hcomponents]
    exact Nat.ofDigitChars_ten_toDigits

theorem parse_eq_ok_iff {s : String} {v : Version} :
    parse s = .ok v ↔ Spells (numericPart s) v := by
  have hnumeric := (startsWithNumbers_iff.mpr rfl :
    StartsWithNumbers (dropMark (Text.trimChars s.toList)) (numericPart s)).numeric
  rw [← readNumeric_eq_ok_iff hnumeric, parse]
  cases readNumeric (numericPart s) <;> simp

theorem exists_parse_eq_error_iff {s : String} :
    (∃ fault, parse s = .error ⟨s, fault⟩) ↔ ∀ v, parse s ≠ .ok v := by
  rw [parse]
  cases readNumeric (numericPart s) <;> simp

/--
Version texts are read by their grammar. A text has its dotted numbers in one
place; it is read as a version just if the numbers are those of it, and in all
other cases the error holds the text as it was given. Every version that is
written out is read as the same one.
-/
theorem parse_of_numbers (s : String) :
    ∃ numbers, (∀ numbers', NumbersOf s numbers' ↔ numbers' = numbers) ∧
      (∀ v, parse s = .ok v ↔ Spells numbers v) ∧
      ((∃ fault, parse s = .error ⟨s, fault⟩) ↔ ∀ v, ¬ Spells numbers v) ∧
      ∀ v : Version, parse v.text = .ok v := by
  refine ⟨numericPart s, fun _ => numbersOf_iff, fun _ => parse_eq_ok_iff, ?_, fun v => ?_⟩
  · rw [exists_parse_eq_error_iff]
    exact forall_congr' fun _ => not_congr parse_eq_ok_iff
  · rw [parse_eq_ok_iff, ← numbersOf_iff.mp (numbersOf_text v)]
    exact spells_text v

example : parse " v7.4.03,build2573 " = .error ⟨" v7.4.03,build2573 ", .leadingZero .patch⟩ := by
  decide

end FirewallExporter.Version
