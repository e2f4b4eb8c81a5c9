import Mathlib.Data.List.DropRight
import FirewallExporter.Text.Blank

/-!
Runs of characters at the ends of texts. What is dropped at an end satisfies the
predicate, and what is left neither begins nor ends with a character that does;
that much determines it. So a trimmed text is the only one that comes of leaving
out blank characters at both ends until none stands there.
-/

namespace FirewallExporter.Text

section Ends

variable {p : Char → Bool} {cs before after : List Char}

theorem dropEnd_eq_rdropWhile (p : Char → Bool) (cs : List Char) :
    dropEnd p cs = cs.rdropWhile p := rfl

/-- Nothing is dropped of a text whose last character is to stay. -/
theorem dropEnd_eq_self (h : ∀ c, cs.getLast? = some c → p c = false) : dropEnd p cs = cs := by
  rw [dropEnd_eq_rdropWhile, List.rdropWhile_eq_self_iff]
  intro hne
  simp [h _ (List.getLast?_eq_some_getLast hne)]

theorem dropEnd_append (hcs : ∀ c, cs.getLast? = some c → p c = false)
    (hafter : ∀ c ∈ after, p c = true) : dropEnd p (cs ++ after) = cs := by
  have hreverse : ∀ c ∈ after.reverse, p c = true := fun c hc => hafter c (List.mem_reverse.mp hc)
  rw [dropEnd, List.reverse_append, List.dropWhile_append_of_pos hreverse, ← dropEnd,
    dropEnd_eq_self hcs]

theorem getLast?_dropEnd {c : Char} (h : (dropEnd p cs).getLast? = some c) : p c = false := by
  rw [dropEnd_eq_rdropWhile] at h
  have hne : cs.rdropWhile p ≠ [] := by
    intro hnil
    rw [hnil] at h
    cases h
  have hlast := List.rdropWhile_last_not p cs hne
  rw [List.getLast?_eq_some_getLast hne, Option.some.injEq] at h
  rw [← h]
  simpa using hlast

theorem exists_dropEnd_append (p : Char → Bool) (cs : List Char) :
    ∃ after, dropEnd p cs ++ after = cs ∧ ∀ c ∈ after, p c = true :=
  ⟨cs.rtakeWhile p, List.rdropWhile_append_rtakeWhile, fun _ hc => List.mem_rtakeWhile_imp hc⟩

theorem head?_of_head?_dropEnd {c : Char} (h : (dropEnd p cs).head? = some c) :
    cs.head? = some c := by
  obtain ⟨after, hsplit, -⟩ := exists_dropEnd_append p cs
  rw [← hsplit, List.head?_append, h, Option.some_or]

theorem dropWhile_append (hbefore : ∀ c ∈ before, p c = true)
    (hcs : ∀ c, cs.head? = some c → p c = false) : (before ++ cs).dropWhile p = cs := by
  rw [List.dropWhile_append_of_pos hbefore]
  cases cs with
  | nil => rfl
  | cons c cs => exact List.dropWhile_cons_of_neg (by simp [hcs c rfl])

theorem takeWhile_append (hbefore : ∀ c ∈ before, p c = true)
    (hcs : ∀ c, cs.head? = some c → p c = false) : (before ++ cs).takeWhile p = before := by
  rw [List.takeWhile_append_of_pos hbefore]
  cases cs with
  | nil => exact List.append_nil _
  | cons c cs => rw [List.takeWhile_cons_of_neg (by simp [hcs c rfl]), List.append_nil]

theorem head?_dropWhile {c : Char} (h : (cs.dropWhile p).head? = some c) : p c = false := by
  have hhead := List.head?_dropWhile_not p cs
  rw [h] at hhead
  exact hhead

end Ends

/-- A text without the blank characters at its ends. -/
structure IsTrimmed (cs trimmed : List Char) : Prop where
  split : ∃ before after, cs = before ++ trimmed ++ after ∧
    (∀ c ∈ before, isBlank c = true) ∧ ∀ c ∈ after, isBlank c = true
  first : ∀ c, trimmed.head? = some c → isBlank c = false
  last : ∀ c, trimmed.getLast? = some c → isBlank c = false

theorem IsTrimmed.trimChars_eq {cs trimmed : List Char} (h : IsTrimmed cs trimmed) :
    trimChars cs = trimmed := by
  obtain ⟨⟨before, after, rfl, hbefore, hafter⟩, hfirst, hlast⟩ := h
  rw [trimChars, List.append_assoc]
  cases trimmed with
  | nil =>
      -- all of the text is blank
      have hblank : ∀ c ∈ before ++ ([] ++ after), isBlank c = true :=
        List.forall_mem_append.mpr ⟨hbefore, hafter⟩
      rw [List.dropWhile_eq_nil_iff.mpr hblank, dropEnd_nil]
  | cons c trimmed =>
      have hhead : ∀ d, (c :: trimmed ++ after).head? = some d → isBlank d = false := hfirst
      rw [dropWhile_append hbefore hhead, dropEnd_append hlast hafter]

theorem isTrimmed_trimChars (cs : List Char) : IsTrimmed cs (trimChars cs) := by
  obtain ⟨after, hsplit, hafter⟩ := exists_dropEnd_append isBlank (cs.dropWhile isBlank)
  refine ⟨⟨cs.takeWhile isBlank, after, ?_, fun _ hc => List.mem_takeWhile_imp hc, hafter⟩,
    fun c hc => ?_, fun c hc => getLast?_dropEnd hc⟩
  · rw [trimChars, List.append_assoc, hsplit, List.takeWhile_append_dropWhile]
  · have hhead : (cs.dropWhile isBlank).head? = some c := by
      rw [← hsplit, List.head?_append, ← trimChars, hc, Option.some_or]
    exact head?_dropWhile hhead

/-- Behind a text that neither begins nor ends with a blank, only the end can be trimmed. -/
theorem isTrimmed_append {cs : List Char} (hnonempty : cs ≠ [])
    (hfirst : ∀ c, cs.head? = some c → isBlank c = false)
    (hlast : ∀ c, cs.getLast? = some c → isBlank c = false) (tail : List Char) :
    IsTrimmed (cs ++ tail) (cs ++ dropEnd isBlank tail) := by
  obtain ⟨after, hsplit, hafter⟩ := exists_dropEnd_append isBlank tail
  refine ⟨⟨[], after, by simp [hsplit], nofun, hafter⟩, fun c hc => ?_, fun c hc => ?_⟩
  · rw [List.head?_append_of_ne_nil _ hnonempty] at hc
    exact hfirst c hc
  · rw [List.getLast?_append] at hc
    cases hend : (dropEnd isBlank tail).getLast? with
    | none =>
        rw [hend, Option.none_or] at hc
        exact hlast c hc
    | some d =>
        obtain rfl : d = c := by simpa [hend] using hc
        exact getLast?_dropEnd hend

theorem isTrimmed_iff {cs trimmed : List Char} :
    IsTrimmed cs trimmed ↔ trimmed = trimChars cs :=
  ⟨fun h => h.trimChars_eq.symm, fun h => h ▸ isTrimmed_trimChars cs⟩

/-- Nothing is left of a text just if all of it is blank. -/
theorem trimChars_eq_nil_iff {cs : List Char} : trimChars cs = [] ↔ ∀ c ∈ cs, isBlank c = true := by
  constructor
  · intro h
    obtain ⟨⟨before, after, hsplit, hbefore, hafter⟩, -, -⟩ := isTrimmed_trimChars cs
    rw [h, List.append_nil] at hsplit
    rw [hsplit]
    exact List.forall_mem_append.mpr ⟨hbefore, hafter⟩
  · intro h
    rw [trimChars, List.dropWhile_eq_nil_iff.mpr h, dropEnd_nil]

theorem isBlankText_iff {s : String} : isBlankText s = true ↔ trim s = "" := by
  rw [isBlankText, List.all_eq_true, ← trimChars_eq_nil_iff, ← toList_trim, String.toList_eq_nil_iff]

end FirewallExporter.Text
