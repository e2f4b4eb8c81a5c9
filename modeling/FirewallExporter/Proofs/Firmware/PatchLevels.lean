import FirewallExporter.Proofs.Firmware.Grammar

/-!
Version texts with a patch level. The patch level is not kept, but it is read: a
text with one is the version before it just if the patch level is a number that
could stand there, and otherwise the text is refused for its sake. What comes
after the numbers makes no difference at all.
-/

namespace FirewallExporter.Version

/-- A version that is written out, a patch level after it. -/
def patched (v : Version) (patch : List Char) : List Char := v.text.toList ++ '.' :: patch

section Patched

variable {v : Version} {patch : List Char}

theorem components_patched (hdigits : ∀ c ∈ patch, c.isDigit = true) :
    components (patched v patch) =
      [Nat.toDigits 10 v.major.toNat, Nat.toDigits 10 v.minor.toNat, patch] := by
  have hdot : '.' ∉ patch := fun h => absurd (hdigits '.' h) (by decide)
  rw [components, patched, toList_text, List.append_assoc, List.cons_append,
    List.splitOn_append_cons_self_of_not_mem (dot_not_mem_toDigits _),
    List.splitOn_append_cons_self_of_not_mem (dot_not_mem_toDigits _),
    List.splitOn_eq_singleton hdot]

theorem readPart_toDigits (part : Part) (x : UInt32) :
    readPart part false (Nat.toDigits 10 x.toNat) = .ok x.toNat := by
  rw [readPart_eq_ok_iff fun _ hc => isDigit_of_mem_toDigits hc]
  exact ⟨isPart_toDigits x, Nat.ofDigitChars_ten_toDigits⟩

theorem inRange_toNat (part : Part) (x : UInt32) : inRange part x.toNat = .ok x :=
  inRange_eq_ok_iff.mpr rfl

/-- The patch level can spoil the version before it, but it cannot change it. -/
theorem readNumeric_patched (hdigits : ∀ c ∈ patch, c.isDigit = true) :
    readNumeric (patched v patch) = (readPart .patch true patch).map fun _ => v := by
  have hnonempty : patched v patch ≠ [] := by simp [patched]
  rw [readNumeric_of_ne_nil hnonempty, components_patched hdigits]
  simp only [List.getElem?_cons_zero, List.getElem?_cons_succ, Option.getD_some,
    readPart_toDigits, bind, Except.bind, inRange_toNat]
  cases readPart .patch true patch <;> rfl

theorem readPart_of_leadingZero {part : Part} {last : Bool} (hzero : patch.head? = some '0')
    (hmore : patch ≠ ['0']) : readPart part last patch = .error (.leadingZero part) := by
  obtain ⟨rest, rfl⟩ := List.head?_eq_some_iff.mp hzero
  cases rest with
  | nil => exact absurd rfl hmore
  | cons c rest => rfl

theorem readPart_of_tooLarge {part : Part} {last : Bool} (hzero : patch.head? ≠ some '0')
    (hlarge : 2 ^ 64 - 1 < partValue patch) :
    readPart part last patch = .error (.tooLarge part) := by
  unfold readPart
  split
  · simp [partValue] at hlarge
  · exact absurd rfl hzero
  · have hmax : ¬ Nat.ofDigitChars 10 patch 0 ≤ Text.maxWord := Nat.not_le.mpr hlarge
    simp [hmax]

end Patched

theorem parse_of_toList_eq {s : String} {v : Version} {mark patch tail : List Char}
    (hs : s.toList = mark ++ patched v patch ++ tail)
    (hmark : mark = [] ∨ mark = ['v'] ∨ mark = ['V']) (hnonempty : patch ≠ [])
    (hdigits : ∀ c ∈ patch, c.isDigit = true)
    (htail : ∀ c, tail.head? = some c → ¬ (c.isDigit = true ∨ c = '.')) :
    parse s = ((readPart .patch true patch).map fun _ => v).mapError (Error.mk s) := by
  have hlast : (patched v patch).getLast? ≠ some '.' := by
    rw [patched, List.getLast?_append_of_ne_nil _ (List.cons_ne_nil _ _),
      List.getLast?_cons_of_ne_nil hnonempty]
    intro h
    exact absurd (hdigits '.' (List.mem_of_getLast? h)) (by decide)
  have hnumeric : ∀ c ∈ patched v patch, c.isDigit = true ∨ c = '.' := by
    intro c hc
    rcases List.mem_append.mp hc with hc | hc
    · exact isDigit_or_dot_of_mem_text hc
    · rcases List.mem_cons.mp hc with rfl | hc
      · exact .inr rfl
      · exact .inl (hdigits c hc)
  have hnumbers := numbersOf_of_toList_eq hs hmark (by simp [patched]) hnumeric hlast htail
  rw [parse, ← numbersOf_iff.mp hnumbers, readNumeric_patched hdigits]
  cases readPart .patch true patch <;> rfl

/--
The patch level of a version text is dropped, if it can be read. A text of a
version with a patch level, with or without a mark before it and with any text
behind it that does not go on with the numbers, is read as the version just if
the patch level has no superfluous zero before it and fits 64 bits. If it has
such a zero, or else does not fit, the error says so of it.
-/
theorem parse_withPatch (v : Version) {mark patch tail : String} (hmark : mark ∈ ["", "v", "V"])
    (hpatch : Text.isNumeral patch.toList = true)
    (htail : ∀ c, tail.toList.head? = some c → ¬ (c.isDigit = true ∨ c = '.')) :
    (parse (mark ++ v.text ++ "." ++ patch ++ tail) = .ok v ↔ IsPart patch.toList) ∧
      (patch.toList.head? = some '0' → patch ≠ "0" →
        parse (mark ++ v.text ++ "." ++ patch ++ tail) =
          .error ⟨mark ++ v.text ++ "." ++ patch ++ tail, .leadingZero .patch⟩) ∧
      (patch.toList.head? ≠ some '0' → 2 ^ 64 - 1 < partValue patch.toList →
        parse (mark ++ v.text ++ "." ++ patch ++ tail) =
          .error ⟨mark ++ v.text ++ "." ++ patch ++ tail, .tooLarge .patch⟩) := by
  obtain ⟨hnonempty, hdigits⟩ : patch.toList ≠ [] ∧ ∀ c ∈ patch.toList, c.isDigit = true := by
    simpa [Text.isNumeral] using hpatch
  have hmarkChars : mark.toList = [] ∨ mark.toList = ['v'] ∨ mark.toList = ['V'] := by
    simp only [List.mem_cons, List.not_mem_nil, or_false] at hmark
    rcases hmark with rfl | rfl | rfl <;> decide
  have hparse := parse_of_toList_eq (s := mark ++ v.text ++ "." ++ patch ++ tail) (v := v)
    (by simp [patched]) hmarkChars hnonempty hdigits htail
  rw [hparse]
  refine ⟨?_, fun hzero hmore => ?_, fun hzero hlarge => ?_⟩
  · cases hread : readPart .patch true patch.toList with
    | ok n =>
        exact iff_of_true rfl ((readPart_eq_ok_iff hdigits).mp hread).1
    | error fault =>
        refine iff_of_false nofun fun hpart => ?_
        rw [(readPart_eq_ok_iff hdigits).mpr ⟨hpart, rfl⟩] at hread
        cases hread
  · have hmoreChars : patch.toList ≠ ['0'] := fun h => hmore (String.toList_inj.mp h)
    rw [readPart_of_leadingZero hzero hmoreChars]
    rfl
  · rw [readPart_of_tooLarge hzero hlarge]
    rfl

/-- What comes after the patch level is passed over; the zero in the build number is not read. -/
theorem parse_withPatch_build :
    ("v" ∈ ["", "v", "V"]) ∧ Text.isNumeral "3".toList = true ∧
      (∀ c, ",build0573".toList.head? = some c → ¬ (c.isDigit = true ∨ c = '.')) ∧
      parse "v7.4.3,build0573" = .ok ⟨7, 4⟩ := by
  have hmark : "v" ∈ ["", "v", "V"] := by decide
  have hpatch : Text.isNumeral "3".toList = true := by decide
  have htail : ∀ c, ",build0573".toList.head? = some c → ¬ (c.isDigit = true ∨ c = '.') := by
    intro c hc
    obtain rfl : ',' = c := by simpa using hc
    decide
  have hpart : IsPart "3".toList := by
    refine ⟨by decide, fun c hc => ?_, by decide, by decide⟩
    obtain rfl : c = '3' := by simpa using hc
    rfl
  exact ⟨hmark, hpatch, htail, (parse_withPatch ⟨7, 4⟩ hmark hpatch htail).1.mpr hpart⟩

/-- Not every patch level is dropped: a zero before it is enough to spoil the text. -/
theorem exists_patch_not_dropped :
    ¬ ∀ (v : Version) (mark patch tail : String), mark ∈ ["", "v", "V"] →
      Text.isNumeral patch.toList = true →
      (∀ c, tail.toList.head? = some c → ¬ (c.isDigit = true ∨ c = '.')) →
        parse (mark ++ v.text ++ "." ++ patch ++ tail) = .ok v := by
  intro h
  have hparse : parse "v7.4.03" = .ok ⟨7, 4⟩ :=
    h ⟨7, 4⟩ "v" "03" "" (by decide) (by decide) (by simp)
  have hfault : parse "v7.4.03" = .error ⟨"v7.4.03", .leadingZero .patch⟩ := by decide
  rw [hfault] at hparse
  cases hparse

end FirewallExporter.Version
