import Mathlib.Data.List.TakeDrop
import Mathlib.Data.List.TakeWhile
import FirewallExporter.Http.Uri
import FirewallExporter.Proofs.Http.Authorities
import FirewallExporter.Proofs.Text.Trim

/-!
The parts of a URI. Each ends where the mark of a later one stands, so what comes after
the scheme falls into its parts in one way. The reader takes a URI whose parts consist
of the characters that may stand in them, and drops the fragment.
-/

namespace FirewallExporter

namespace Resource

def IsPathChar (c : Char) : Prop := '!' ≤ c ∧ c ≠ '\x7f' ∧ c ∉ "#<>?\x60".toList

def IsQueryChar (c : Char) : Prop := '!' ≤ c ∧ c ≠ '\x7f' ∧ c ∉ "#<>\"".toList

theorem isPathChar_iff {c : Char} : isPathChar c = true ↔ IsPathChar c := by
  simp only [isPathChar, IsPathChar, isVisible, Bool.and_eq_true, Bool.not_eq_true',
    String.contains_char_eq, decide_eq_true_eq, decide_eq_false_iff_not, bne_iff_ne, and_assoc]

theorem isQueryChar_iff {c : Char} : isQueryChar c = true ↔ IsQueryChar c := by
  simp only [isQueryChar, IsQueryChar, isVisible, Bool.and_eq_true, Bool.not_eq_true',
    String.contains_char_eq, decide_eq_true_eq, decide_eq_false_iff_not, bne_iff_ne, and_assoc]

theorem isHostChar_iff {c : Char} : isHostChar c = true ↔ c ≠ '/' ∧ c ≠ '?' ∧ c ≠ '#' := by
  simp [isHostChar]

theorem isHostChar_eq_false_iff {c : Char} :
    isHostChar c = false ↔ c = '/' ∨ c = '?' ∨ c = '#' := by
  rw [← Bool.not_eq_true, isHostChar_iff]
  simp only [ne_eq, not_and_or, not_not]

/-- The first slash ends a host in which neither of the other marks stands. -/
theorem head?_dropWhile_isHostChar {cs rest : List Char} (hquestion : '?' ∉ cs)
    (hsign : '#' ∉ cs) : ((cs ++ '/' :: rest).dropWhile isHostChar).head? = some '/' := by
  induction cs with
  | nil =>
      rw [List.nil_append, List.dropWhile_cons_of_neg (by simp [isHostChar_iff])]
      rfl
  | cons c cs ih =>
      rw [List.mem_cons, not_or] at hquestion hsign
      by_cases hslash : c = '/'
      · rw [hslash, List.cons_append, List.dropWhile_cons_of_neg (by simp [isHostChar_iff])]
        rfl
      · have hc : isHostChar c = true :=
          isHostChar_iff.mpr ⟨hslash, Ne.symm hquestion.1, Ne.symm hsign.1⟩
        rw [List.cons_append, List.dropWhile_cons_of_pos hc]
        exact ih hquestion.2 hsign.2

end Resource

namespace Uri

/-- A part that may be missing, behind the mark that shows that it is there. -/
def marked (mark : Char) : Option (List Char) → List Char
  | none => []
  | some cs => mark :: cs

section Marks

variable {mark : Char} {before : List Char} {part : Option (List Char)}

theorem head?_marked {c : Char} (h : (marked mark part).head? = some c) : c = mark := by
  cases part with
  | none => cases h
  | some cs => exact (Option.some.inj h).symm

theorem mem_marked {c : Char} :
    c ∈ marked mark part ↔ ∃ cs, part = some cs ∧ (c = mark ∨ c ∈ cs) := by
  cases part <;> simp [marked]

theorem takeWhile_marked (h : mark ∉ before) :
    (before ++ marked mark part).takeWhile (· != mark) = before :=
  Text.takeWhile_append (fun _ hc => bne_iff_ne.mpr fun heq => h (heq ▸ hc))
    fun _ hc => by simp [head?_marked hc]

theorem dropWhile_marked (h : mark ∉ before) :
    (before ++ marked mark part).dropWhile (· != mark) = marked mark part :=
  Text.dropWhile_append (fun _ hc => bne_iff_ne.mpr fun heq => h (heq ▸ hc))
    fun _ hc => by simp [head?_marked hc]

theorem exists_marked (mark : Char) (cs : List Char) :
    ∃ before part, before ++ marked mark part = cs ∧ mark ∉ before := by
  induction cs with
  | nil => exact ⟨[], none, rfl, List.not_mem_nil⟩
  | cons c cs ih =>
      by_cases h : c = mark
      · exact ⟨[], some cs, by rw [h]; rfl, List.not_mem_nil⟩
      · obtain ⟨before, part, rfl, hbefore⟩ := ih
        exact ⟨c :: before, part, rfl, by simp [hbefore, Ne.symm h]⟩

end Marks

structure Parts where
  authority : List Char
  path : List Char
  query : Option (List Char)
  fragment : Option (List Char)

namespace Parts

def text (p : Parts) : List Char :=
  p.authority ++ (p.path ++ marked '?' p.query ++ marked '#' p.fragment)

/-- Each part ends where the next one begins. -/
structure Delimited (p : Parts) : Prop where
  authority : ∀ c ∈ p.authority, c ≠ '/' ∧ c ≠ '?' ∧ c ≠ '#'
  slash : ∀ c, p.path.head? = some c → c = '/'
  path : '?' ∉ p.path
  sent : '#' ∉ p.path ++ marked '?' p.query

structure WellFormed (p : Parts) : Prop where
  authority : Authority.IsAuthority p.authority
  slash : ∀ c, p.path.head? = some c → c = '/'
  path : ∀ c ∈ p.path, Resource.IsPathChar c
  query : ∀ cs, p.query = some cs → ∀ c ∈ cs, Resource.IsQueryChar c

/-- An empty path stands for the root. -/
def sentPath (p : Parts) : List Char := if p.path = [] then ['/'] else p.path

def uri (p : Parts) : Uri where
  authority := String.ofList p.authority
  resource := ⟨String.ofList p.sentPath, p.query.map String.ofList⟩

end Parts

end Uri

theorem Resource.ofChars_eq {path : List Char} {query fragment : Option (List Char)}
    (hpath : '?' ∉ path) (hsent : '#' ∉ path ++ Uri.marked '?' query) :
    ofChars (path ++ Uri.marked '?' query ++ Uri.marked '#' fragment) =
      ⟨String.ofList path, query.map String.ofList⟩ := by
  rw [ofChars, Uri.takeWhile_marked hsent, List.span_eq_takeWhile_dropWhile,
    Uri.takeWhile_marked hpath, Uri.dropWhile_marked hpath]
  cases query <;> rfl

namespace Uri

variable {p : Parts} {u : Uri}

theorem Parts.WellFormed.delimited (h : p.WellFormed) : p.Delimited where
  authority c hc := by
    have hknown := h.authority.known hc
    refine ⟨?_, ?_, ?_⟩ <;> rintro rfl <;> revert hknown <;> decide
  slash := h.slash
  path hmem := absurd (by decide) (h.path _ hmem).2.2
  sent hmem := by
    rcases List.mem_append.mp hmem with hmem | hmem
    · exact absurd (by decide) (h.path _ hmem).2.2
    · obtain ⟨cs, hquery, hmark | hcs⟩ := mem_marked.mp hmem
      · exact absurd hmark (by decide)
      · exact absurd (by decide) (h.query cs hquery _ hcs).2.2

theorem exists_delimited (cs : List Char) : ∃ p : Parts, p.Delimited ∧ p.text = cs := by
  obtain ⟨sent, fragment, hrest, hsent⟩ := exists_marked '#' (cs.dropWhile Resource.isHostChar)
  obtain ⟨path, query, rfl, hpath⟩ := exists_marked '?' sent
  refine ⟨⟨cs.takeWhile Resource.isHostChar, path, query, fragment⟩, ?_, ?_⟩
  · refine ⟨fun c hc => Resource.isHostChar_iff.mp (List.mem_takeWhile_imp hc), fun c hc => ?_,
      hpath, hsent⟩
    -- The path begins where the authority ends.
    have hmem := List.mem_of_head? hc
    have hmark : Resource.isHostChar c = false := by
      apply Text.head?_dropWhile
      rw [← hrest, List.append_assoc, List.head?_append, hc, Option.some_or]
    rcases Resource.isHostChar_eq_false_iff.mp hmark with hslash | rfl | rfl
    · exact hslash
    · exact absurd hmem hpath
    · exact absurd (List.mem_append_left _ hmem) hsent
  · rw [Parts.text, hrest, List.takeWhile_append_dropWhile]

/-- What comes after the authority begins with a mark. -/
theorem Parts.Delimited.isHostChar_eq_false (h : p.Delimited) {c : Char}
    (hc : (p.path ++ marked '?' p.query ++ marked '#' p.fragment).head? = some c) :
    Resource.isHostChar c = false := by
  rw [Resource.isHostChar_eq_false_iff]
  rw [List.head?_append, List.head?_append, Option.or_eq_some_iff, Option.or_eq_some_iff] at hc
  rcases hc with (hc | ⟨-, hc⟩) | ⟨-, hc⟩
  · exact .inl (h.slash c hc)
  · exact .inr (.inl (head?_marked hc))
  · exact .inr (.inr (head?_marked hc))

theorem Parts.Delimited.takeWhile_text (h : p.Delimited) :
    p.text.takeWhile Resource.isHostChar = p.authority :=
  Text.takeWhile_append (fun c hc => Resource.isHostChar_iff.mpr (h.authority c hc))
    fun _ => h.isHostChar_eq_false

theorem Parts.Delimited.dropWhile_text (h : p.Delimited) :
    p.text.dropWhile Resource.isHostChar =
      p.path ++ marked '?' p.query ++ marked '#' p.fragment :=
  Text.dropWhile_append (fun c hc => Resource.isHostChar_iff.mpr (h.authority c hc))
    fun _ => h.isHostChar_eq_false

theorem Parts.Delimited.afterHost_text (h : p.Delimited) :
    Resource.afterHost p.text = p.uri.resource := by
  rw [Resource.afterHost, h.dropWhile_text, Resource.ofChars_eq h.path h.sent]
  by_cases hpath : p.path = []
  · simp [hpath, Parts.uri, Parts.sentPath]
  · simp [hpath, Parts.uri, Parts.sentPath]

theorem Parts.isValid_resource : p.uri.resource.isValid = true ↔
    (∀ c ∈ p.path, Resource.IsPathChar c) ∧
      ∀ cs, p.query = some cs → ∀ c ∈ cs, Resource.IsQueryChar c := by
  have hpath : (∀ c ∈ p.sentPath, Resource.IsPathChar c) ↔
      ∀ c ∈ p.path, Resource.IsPathChar c := by
    unfold sentPath
    split
    · rename_i hnil
      simp [hnil, Resource.IsPathChar]
    · rfl
  rw [← hpath]
  cases hquery : p.query with
  | none => simp [uri, Resource.isValid, Resource.isPathChar_iff, hquery]
  | some cs =>
      simp [uri, Resource.isValid, Resource.isPathChar_iff, Resource.isQueryChar_iff, hquery]

theorem ofRest?_text (h : p.Delimited) : ofRest? p.text = some u ↔ p.WellFormed ∧ p.uri = u := by
  have hwell : p.WellFormed ↔ Authority.isValid p.authority = true ∧
      p.uri.resource.isValid = true := by
    rw [Authority.isValid_iff, Parts.isValid_resource]
    exact ⟨fun hp => ⟨hp.authority, hp.path, hp.query⟩,
      fun ⟨hauthority, hpath, hquery⟩ => ⟨hauthority, h.slash, hpath, hquery⟩⟩
  simp only [ofRest?, h.takeWhile_text, h.afterHost_text, hwell, ← Bool.and_eq_true,
    Option.ite_none_right_eq_some, Option.some.injEq]
  rfl

theorem ofRest?_eq_some_iff {cs : List Char} : ofRest? cs = some u ↔
    ∃ p : Parts, p.WellFormed ∧ p.text = cs ∧ p.uri = u := by
  constructor
  · intro h
    obtain ⟨p, hp, rfl⟩ := exists_delimited cs
    obtain ⟨hwell, rfl⟩ := (ofRest?_text hp).mp h
    exact ⟨p, hwell, rfl, rfl⟩
  · rintro ⟨p, hp, rfl, rfl⟩
    exact (ofRest?_text hp.delimited).mpr ⟨hp, rfl⟩

end Uri

end FirewallExporter
