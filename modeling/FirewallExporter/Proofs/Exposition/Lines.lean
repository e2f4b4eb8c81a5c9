import Mathlib.Data.List.Basic
import FirewallExporter.Proofs.Exposition.Reader

/-!
The lines of exposition text read back. Whatever a label value or a help text
holds, its escaped form has no line feed, and a quote in it comes after a
backslash, so the reader stops exactly at the closing quote.
-/

namespace FirewallExporter

open Text (Reader)

namespace Decimal

/-- The characters of decimal texts and of the names of what is no number. -/
def isValueChar (c : Char) : Bool := c.isAlphanum || c == '.' || c == '+' || c == '-'

theorem isValueChar_of_isDigit {c : Char} (h : c.isDigit = true) : isValueChar c = true := by
  simp [isValueChar, Char.isAlphanum, h]

theorem isValueChar_of_mem_toDigits {c : Char} {n : Nat} (h : c ∈ Nat.toDigits 10 n) :
    isValueChar c = true :=
  isValueChar_of_isDigit (Nat.isDigit_of_mem_toDigits (by omega) (by omega) h)

theorem isValueChar_of_mem_positional {x : Scaled} {c : Char} (h : c ∈ x.positional) :
    isValueChar c = true := by
  have hzero : isValueChar '0' = true := by decide
  have hpoint : isValueChar '.' = true := by decide
  simp only [Scaled.positional] at h
  split at h
  · rcases List.mem_append.mp h with h | h
    · exact isValueChar_of_mem_toDigits h
    · rw [List.eq_of_mem_replicate h]
      exact hzero
  · split at h
    · rcases List.mem_append.mp h with h | h
      · exact isValueChar_of_mem_toDigits (List.mem_of_mem_take h)
      · rcases List.mem_cons.mp h with rfl | h
        · exact hpoint
        · exact isValueChar_of_mem_toDigits (List.mem_of_mem_drop h)
    · simp only [List.cons_append, List.mem_cons, List.mem_append] at h
      rcases h with rfl | rfl | h | h
      · exact hzero
      · exact hpoint
      · rw [List.eq_of_mem_replicate h]
        exact hzero
      · exact isValueChar_of_mem_toDigits h

theorem positional_ne_nil (x : Scaled) : x.positional ≠ [] := by
  simp only [Scaled.positional]
  split
  · simp [Nat.toDigits_ne_nil]
  · split <;> simp

end Decimal

namespace Exposition

open Decimal (isValueChar)

/-! ### Values -/

theorem toList_valueText_ne_nil (x : Float) : (valueText x).toList ≠ [] := by
  unfold valueText Decimal.shortestText Decimal.textWith
  split <;> simp [Decimal.positional_ne_nil]

theorem isValueChar_of_mem_valueText {x : Float} {c : Char} (h : c ∈ (valueText x).toList) :
    isValueChar c = true := by
  have hsign : ∀ s, ∀ c ∈ Decimal.signChars s, isValueChar c = true := by
    intro s
    cases s <;> simp [Decimal.signChars, isValueChar]
  have hnames : ∀ c ∈ "NaN".toList ++ "+Inf".toList ++ "-Inf".toList, isValueChar c = true :=
    List.all_eq_true.mp (by decide)
  unfold valueText Decimal.shortestText Decimal.textWith at h
  split at h
  · exact hnames c (by simp only [List.mem_append]; exact .inl (.inl h))
  · exact hnames c (by simp only [List.mem_append]; exact .inl (.inr h))
  · exact hnames c (by simp only [List.mem_append]; exact .inr h)
  · rw [String.toList_ofList] at h
    rcases List.mem_append.mp h with h | h
    · exact hsign _ c h
    · rw [List.mem_singleton.mp h]
      decide
  · rw [String.toList_ofList] at h
    rcases List.mem_append.mp h with h | h
    · exact hsign _ c h
    · exact Decimal.isValueChar_of_mem_positional h

theorem not_mem_valueText {c : Char} (hc : isValueChar c = false) (x : Float) :
    c ∉ (valueText x).toList := by
  intro h
  rw [isValueChar_of_mem_valueText h] at hc
  cases hc

theorem readValue_valueText (x : Float) : readValue (valueText x).toList = some (valueText x) := by
  have hspace : ' ' ∉ (valueText x).toList := not_mem_valueText (by decide) x
  have hne : (valueText x).toList.isEmpty = false :=
    List.isEmpty_eq_false_iff.mpr (toList_valueText_ne_nil x)
  rw [readValue, hne, Bool.false_or, if_neg (by simpa using hspace), String.ofList_toList]

/-! ### Names -/

theorem isName_iff {s : String} :
    isName s = true ↔ s.toList ≠ [] ∧ ∀ c ∈ s.toList, isNameChar c = true := by
  simp [isName]

theorem not_mem_of_isName {s : String} (hs : isName s = true) {c : Char}
    (hc : isNameChar c = false) : c ∉ s.toList := by
  intro h
  rw [(isName_iff.mp hs).2 c h] at hc
  cases hc

theorem readName_append {name : String} (hname : isName name = true) {c : Char}
    (hc : isNameChar c = false) (rest : List Char) :
    readName (name.toList ++ c :: rest) = some (name, c :: rest) := by
  obtain ⟨hne, hall⟩ := isName_iff.mp hname
  have htake : (name.toList ++ c :: rest).takeWhile isNameChar = name.toList := by
    rw [List.takeWhile_append_of_pos hall, List.takeWhile_cons_of_neg (by simp [hc]),
      List.append_nil]
  have hdrop : (name.toList ++ c :: rest).dropWhile isNameChar = c :: rest := by
    rw [List.dropWhile_append_of_pos hall, List.dropWhile_cons_of_neg (by simp [hc])]
  simp [readName, htake, hdrop, hne]

/-! ### Escapes -/

/-- What stands for a character in a label value is read as that character. -/
theorem readQuoted_escapeLabelChar {c : Char} {cs value rest : List Char}
    (h : readQuoted cs = some (value, rest)) :
    readQuoted (escapeLabelChar c ++ cs) = some (c :: value, rest) := by
  unfold escapeLabelChar
  split
  · next hc => subst hc; simp [readQuoted, labelEscape?, h]
  · next hslash =>
      split
      · next hc => subst hc; simp [readQuoted, labelEscape?, h]
      · next hquote =>
          split
          · next hc => subst hc; simp [readQuoted, labelEscape?, h]
          · -- any other character stands for itself, as it neither closes nor escapes
            rw [List.singleton_append, readQuoted, h]
            · exact hquote
            · intro hc; exact absurd hc hslash
            · intro _ _ hc; exact absurd hc hslash

theorem readQuoted_escape (s rest : List Char) :
    readQuoted (s.flatMap escapeLabelChar ++ '"' :: rest) = some (s, rest) := by
  induction s with
  | nil => rfl
  | cons c s ih =>
      rw [List.flatMap_cons, List.append_assoc]
      exact readQuoted_escapeLabelChar ih

/-- Each character of a help text, escaped by itself. -/
def escapeHelpChar (c : Char) : List Char :=
  if c = '\\' then ['\\', '\\']
  else if c = '\n' then ['\\', 'n']
  else [c]

/-- What is written for a backslash holds no line feed, so the two replacements do not meet. -/
theorem replaced_replaced (cs : List Char) :
    replaced '\n' ['\\', 'n'] (replaced '\\' ['\\', '\\'] cs) = cs.flatMap escapeHelpChar := by
  rw [replaced, replaced, List.flatMap_assoc]
  refine List.flatMap_congr fun c _ => ?_
  unfold escapeHelpChar
  split
  · rfl
  · rw [List.flatMap_singleton]

theorem toList_escapeHelp (s : String) :
    (escapeHelp s).toList = s.toList.flatMap escapeHelpChar := by
  rw [escapeHelp, replaced_replaced, String.toList_ofList]

theorem readHelpText_escapeHelpChar {c : Char} {cs text : List Char}
    (h : readHelpText cs = some text) :
    readHelpText (escapeHelpChar c ++ cs) = some (c :: text) := by
  unfold escapeHelpChar
  split
  · next hc => subst hc; simp [readHelpText, helpEscape?, h]
  · next hslash =>
      split
      · next hc => subst hc; simp [readHelpText, helpEscape?, h]
      · rw [List.singleton_append, readHelpText, h, Option.map_some]
        · intro hc; exact absurd hc hslash
        · intro _ _ hc; exact absurd hc hslash

theorem readHelpText_escape (s : List Char) :
    readHelpText (s.flatMap escapeHelpChar) = some s := by
  induction s with
  | nil => rfl
  | cons c s ih =>
      rw [List.flatMap_cons]
      exact readHelpText_escapeHelpChar ih

theorem lineFeed_not_mem_escapeLabelChar (c : Char) : '\n' ∉ escapeLabelChar c := by
  unfold escapeLabelChar
  grind

theorem lineFeed_not_mem_escapeHelpChar (c : Char) : '\n' ∉ escapeHelpChar c := by
  unfold escapeHelpChar
  grind

/-! ### Labels -/

theorem toList_labelText (name value : String) :
    (labelText (name, value)).toList =
      name.toList ++ '=' :: '"' :: (value.toList.flatMap escapeLabelChar ++ ['"']) := by
  simp [labelText, escapeLabel]

theorem readLabel_labelText {label : String × String} (hname : isName label.1 = true)
    (rest : List Char) :
    readLabel ((labelText label).toList ++ rest) = some (label, rest) := by
  obtain ⟨name, value⟩ := label
  rw [toList_labelText, List.append_assoc, List.cons_append, List.cons_append, List.append_assoc,
    List.singleton_append, readLabel, readName_append hname (by decide)]
  simp [readQuoted_escape]

/-- The labels of a block, with what follows the opening brace. -/
def labelChars (labels : List (String × String)) : List Char :=
  (",".intercalate (labels.map labelText)).toList

theorem labelChars_cons_cons (l₁ l₂ : String × String) (labels : List (String × String)) :
    labelChars (l₁ :: l₂ :: labels) =
      (labelText l₁).toList ++ ',' :: labelChars (l₂ :: labels) := by
  simp only [labelChars, List.map_cons, String.intercalate_cons_cons, String.toList_append,
    List.append_assoc]
  rfl

/-- The reader stops exactly at the closing brace, whatever the values hold. -/
theorem readLabels_labelChars {labels : List (String × String)} (hne : labels ≠ [])
    (hnames : ∀ label ∈ labels, isName label.1 = true) (rest : List Char) :
    readLabels (labelChars labels ++ '\x7d' :: rest) = some (labels, rest) := by
  induction labels with
  | nil => exact absurd rfl hne
  | cons l₁ labels ih =>
      have hl₁ : isName l₁.1 = true := hnames l₁ List.mem_cons_self
      -- a comma follows a label if there is another one, and else the brace
      cases labels with
      | nil =>
          have hread := readLabel_labelText hl₁ ('\x7d' :: rest)
          rw [show labelChars [l₁] = (labelText l₁).toList by simp [labelChars], readLabels]
          split <;> simp_all
      | cons l₂ labels =>
          have hread :=
            readLabel_labelText hl₁ (',' :: (labelChars (l₂ :: labels) ++ '\x7d' :: rest))
          have hrest := ih (by simp) fun label h => hnames label (List.mem_cons_of_mem _ h)
          rw [labelChars_cons_cons, List.append_assoc, List.cons_append, readLabels]
          split <;> simp_all

theorem toList_labelBlock {labels : List (String × String)} (hne : labels ≠ []) :
    (labelBlock labels).toList = '\x7b' :: (labelChars labels ++ ['\x7d']) := by
  cases labels with
  | nil => exact absurd rfl hne
  | cons l labels => simp [labelBlock, labelChars]

theorem readBlock_labelBlock {labels : List (String × String)}
    (hnames : ∀ label ∈ labels, isName label.1 = true) (rest : List Char) :
    readBlock ((labelBlock labels).toList ++ ' ' :: rest) = some (labels, ' ' :: rest) := by
  by_cases hne : labels = []
  · subst hne
    rfl
  · rw [toList_labelBlock hne, List.cons_append, List.append_assoc, List.singleton_append,
      readBlock]
    exact readLabels_labelChars hne hnames (' ' :: rest)

/-! ### Lines -/

def Entry.ofSample (s : Sample) : Entry := .sample s.name s.labels (valueText s.value)

theorem isName_of_mem_labels {s : Sample} (hs : s.family.WellNamed) {label : String × String}
    (h : label ∈ s.labels) : isName label.1 = true := by
  obtain ⟨name, value⟩ := label
  exact List.all_eq_true.mp hs.labels name (List.of_mem_zip h).1

theorem toList_line (s : Sample) :
    (line s).toList =
      s.name.toList ++ ((labelBlock s.labels).toList ++ ' ' :: (valueText s.value).toList) := by
  simp [line]

theorem readSample_line {s : Sample} (hs : s.family.WellNamed) :
    readSample (line s).toList = some (Entry.ofSample s) := by
  have hblock := readBlock_labelBlock (fun _ h => isName_of_mem_labels hs h)
    (valueText s.value).toList
  have hname : readName (line s).toList =
      some (s.name, (labelBlock s.labels).toList ++ ' ' :: (valueText s.value).toList) := by
    rw [toList_line]
    by_cases hne : s.labels = []
    · rw [hne]
      exact readName_append hs.name (by decide) _
    · rw [toList_labelBlock hne]
      exact readName_append hs.name (by decide) _
  simp only [readSample, hname, hblock, readValue_valueText, Option.map_some, Entry.ofSample]

/-- A sample is not taken for a help or a type: no name starts with a number sign. -/
theorem readLine_line {s : Sample} (hs : s.family.WellNamed) :
    readLine (line s).toList = some (Entry.ofSample s) := by
  obtain ⟨hne, hall⟩ := isName_iff.mp hs.name
  have hhead : ∀ cs, (line s).toList ≠ '#' :: cs := by
    intro cs h
    rw [toList_line] at h
    cases hname : s.name.toList with
    | nil => exact hne hname
    | cons c cs =>
        have hmem : c ∈ s.name.toList := by
          rw [hname]
          exact List.mem_cons_self
        have hc : isNameChar c = true := hall c hmem
        rw [hname, List.cons_append, List.cons.injEq] at h
        rw [h.1] at hc
        exact absurd hc (by decide)
  rw [readLine]
  · exact readSample_line hs
  · intro cs h; exact hhead _ h
  · intro cs h; exact hhead _ h

theorem readLine_helpLine {f : Family} (hf : f.WellNamed) :
    readLine (helpLine f).toList = some (.help f.name f.help) := by
  have htext : (helpLine f).toList = '#' :: ' ' :: 'H' :: 'E' :: 'L' :: 'P' :: ' ' ::
      (f.name.toList ++ ' ' :: f.help.toList.flatMap escapeHelpChar) := by
    simp [helpLine, toList_escapeHelp]
  rw [htext, readLine, readHelp, readName_append hf.name (by decide)]
  simp [readHelpText_escape]

theorem readLine_typeLine {f : Family} (hf : f.WellNamed) :
    readLine (typeLine f).toList = some (.type f.name f.kind) := by
  have htext : (typeLine f).toList = '#' :: ' ' :: 'T' :: 'Y' :: 'P' :: 'E' :: ' ' ::
      (f.name.toList ++ ' ' :: f.kind.name.toList) := by
    simp [typeLine]
  rw [htext, readLine, readType, readName_append hf.name (by decide)]
  cases f.kind <;> simp [Kind.name, Kind.ofName?]

/-! ### No line holds a line feed -/

theorem lineFeed_not_mem_labelText {label : String × String} (h : isName label.1 = true) :
    '\n' ∉ (labelText label).toList := by
  obtain ⟨name, value⟩ := label
  have hname : '\n' ∉ name.toList := not_mem_of_isName h (by decide)
  rw [toList_labelText]
  simp [hname, lineFeed_not_mem_escapeLabelChar]

theorem lineFeed_not_mem_labelChars {labels : List (String × String)}
    (hnames : ∀ label ∈ labels, isName label.1 = true) : '\n' ∉ labelChars labels := by
  induction labels with
  | nil => simp [labelChars]
  | cons l₁ labels ih =>
      have hl₁ := lineFeed_not_mem_labelText (hnames l₁ List.mem_cons_self)
      cases labels with
      | nil => simpa [labelChars] using hl₁
      | cons l₂ labels =>
          have hrest := ih fun label h => hnames label (List.mem_cons_of_mem _ h)
          rw [labelChars_cons_cons]
          simp [hl₁, hrest]

theorem lineFeed_not_mem_line {s : Sample} (hs : s.family.WellNamed) :
    '\n' ∉ (line s).toList := by
  have hname : '\n' ∉ s.name.toList := not_mem_of_isName hs.name (by decide)
  have hvalue : '\n' ∉ (valueText s.value).toList := not_mem_valueText (by decide) _
  have hblock : '\n' ∉ (labelBlock s.labels).toList := by
    by_cases hne : s.labels = []
    · rw [hne]
      decide
    · rw [toList_labelBlock hne]
      simp [lineFeed_not_mem_labelChars fun _ h => isName_of_mem_labels hs h]
  rw [toList_line]
  simp [hname, hvalue, hblock]

theorem lineFeed_not_mem_helpLine {f : Family} (hf : f.WellNamed) :
    '\n' ∉ (helpLine f).toList := by
  have hname : '\n' ∉ f.name.toList := not_mem_of_isName hf.name (by decide)
  simp [helpLine, toList_escapeHelp, hname, lineFeed_not_mem_escapeHelpChar]

theorem lineFeed_not_mem_typeLine {f : Family} (hf : f.WellNamed) :
    '\n' ∉ (typeLine f).toList := by
  have hname : '\n' ∉ f.name.toList := not_mem_of_isName hf.name (by decide)
  cases hkind : f.kind <;> simp [typeLine, Kind.name, hname, hkind]

end Exposition

end FirewallExporter
