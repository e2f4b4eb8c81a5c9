import FirewallExporter.Proofs.Exposition.Groups
import FirewallExporter.Proofs.Probe.Families

/-!
Exposition text read back as a whole. The reader accepts every text of samples
whose families are well named, whatever their label values and help texts hold,
and gives the help and the type of each family and the samples below them. So
no string from a device adds, splits, hides or merges a line or a label.
-/

namespace FirewallExporter.Exposition

/-- What the samples of one family say, under its help and its type. -/
def Entry.ofFamily : List Sample → List Entry
  | [] => []
  | s :: rest =>
    .help s.name s.family.help :: .type s.name s.kind :: (s :: rest).map Entry.ofSample

/-- What a list of samples says, family by family. -/
def entries (samples : List Sample) : List Entry :=
  (familyNames samples).flatMap fun name => Entry.ofFamily (samplesNamed name samples)

/-! ### Lines -/

def textLines (samples : List Sample) : List (List Char) :=
  ((groups samples).flatMap Group.lines).map String.toList

theorem toList_render (samples : List Sample) :
    (render samples).toList = (textLines samples).flatMap (· ++ ['\n']) := by
  simp [render, textLines, String.toList_join, List.flatMap_map]

theorem splitOn_flatMap_lineFeed {lines : List (List Char)} (h : ∀ l ∈ lines, '\n' ∉ l) :
    (lines.flatMap (· ++ ['\n'])).splitOn '\n' = lines ++ [[]] := by
  induction lines with
  | nil => rfl
  | cons l lines ih =>
      have hl : '\n' ∉ l := h l List.mem_cons_self
      have hlines : ∀ l' ∈ lines, '\n' ∉ l' := fun l' hl' => h l' (List.mem_cons_of_mem _ hl')
      rw [List.flatMap_cons, List.append_assoc, List.singleton_append,
        List.splitOn_append_cons_self_of_not_mem hl, ih hlines]
      rfl

theorem count_flatMap_lineFeed {lines : List (List Char)} (h : ∀ l ∈ lines, '\n' ∉ l) :
    (lines.flatMap (· ++ ['\n'])).count '\n' = lines.length := by
  induction lines with
  | nil => rfl
  | cons l lines ih =>
      have hl : l.count '\n' = 0 := List.count_eq_zero.mpr (h l List.mem_cons_self)
      have hlines : ∀ l' ∈ lines, '\n' ∉ l' := fun l' hl' => h l' (List.mem_cons_of_mem _ hl')
      rw [List.flatMap_cons, List.count_append, List.count_append, ih hlines, hl]
      simp
      omega

/-- All samples are of families that can stand in exposition text. -/
def AllWellNamed (samples : List Sample) : Prop := ∀ s ∈ samples, s.family.WellNamed

theorem wellNamed_of_mem_groups {samples : List Sample} (h : AllWellNamed samples) {g : Group}
    (hg : g ∈ groups samples) : g.family.WellNamed ∧ AllWellNamed g.members := by
  rw [groups_eq] at hg
  obtain ⟨name, -, hg⟩ := List.mem_flatMap.mp hg
  have hnamed : AllWellNamed (samplesNamed name samples) :=
    fun s hs => h s (List.mem_of_mem_filter hs)
  cases hcase : samplesNamed name samples with
  | nil => rw [hcase] at hg; cases hg
  | cons s rest =>
      rw [hcase] at hg hnamed
      rw [List.mem_singleton.mp hg]
      exact ⟨hnamed s List.mem_cons_self, hnamed⟩

theorem lineFeed_not_mem_textLines {samples : List Sample} (h : AllWellNamed samples) :
    ∀ l ∈ textLines samples, '\n' ∉ l := by
  intro l hl
  obtain ⟨text, htext, rfl⟩ := List.mem_map.mp hl
  obtain ⟨g, hg, htext⟩ := List.mem_flatMap.mp htext
  obtain ⟨hfamily, hmembers⟩ := wellNamed_of_mem_groups h hg
  rcases List.mem_cons.mp htext with rfl | htext
  · exact lineFeed_not_mem_helpLine hfamily
  · rcases List.mem_cons.mp htext with rfl | htext
    · exact lineFeed_not_mem_typeLine hfamily
    · obtain ⟨s, hs, rfl⟩ := List.mem_map.mp htext
      exact lineFeed_not_mem_line (hmembers s hs)

/-! ### Reading them -/

theorem mapM_readLine_map_line {samples : List Sample} (h : AllWellNamed samples) :
    ((samples.map line).map String.toList).mapM readLine =
      some (samples.map Entry.ofSample) := by
  induction samples with
  | nil => rfl
  | cons s rest ih =>
      have hs := readLine_line (h s List.mem_cons_self)
      have hrest := ih fun t ht => h t (List.mem_cons_of_mem _ ht)
      rw [List.map_cons, List.map_cons, List.mapM_cons, hs, hrest]
      rfl

theorem mapM_readLine_ofSamples {samples : List Sample} (h : AllWellNamed samples) :
    (((Group.ofSamples samples).flatMap Group.lines).map String.toList).mapM readLine =
      some (Entry.ofFamily samples) := by
  cases samples with
  | nil => rfl
  | cons s rest =>
      have hfamily : s.family.WellNamed := h s List.mem_cons_self
      have hlines := mapM_readLine_map_line h
      rw [Group.ofSamples, List.flatMap_singleton, Group.lines, List.map_cons, List.map_cons,
        List.mapM_cons, List.mapM_cons, readLine_helpLine hfamily, readLine_typeLine hfamily,
        hlines]
      rfl

/-- Lines that come in blocks are read block by block. -/
theorem mapM_readLine_flatMap {names : List String} {block : String → List (List Char)}
    {said : String → List Entry}
    (h : ∀ name ∈ names, (block name).mapM readLine = some (said name)) :
    (names.flatMap block).mapM readLine = some (names.flatMap said) := by
  induction names with
  | nil => rfl
  | cons name names ih =>
      have hname := h name List.mem_cons_self
      have hnames := ih fun n hn => h n (List.mem_cons_of_mem _ hn)
      rw [List.flatMap_cons, List.flatMap_cons, List.mapM_append, hname, hnames]
      rfl

theorem mapM_readLine_textLines {samples : List Sample} (h : AllWellNamed samples) :
    (textLines samples).mapM readLine = some (entries samples) := by
  rw [textLines, groups_eq, List.flatMap_assoc, List.map_flatMap]
  refine mapM_readLine_flatMap fun name _ => ?_
  exact mapM_readLine_ofSamples fun s hs => h s (List.mem_of_mem_filter hs)

theorem read_of_textLines {samples : List Sample} (h : AllWellNamed samples) :
    read (render samples) = some (entries samples) := by
  have hlast : (textLines samples ++ [[]]).getLast? = some [] := List.getLast?_concat
  rw [read, toList_render, splitOn_flatMap_lineFeed (lineFeed_not_mem_textLines h), if_pos hlast,
    List.dropLast_concat]
  exact mapM_readLine_textLines h

/-- Each line ends the text of one entry. -/
theorem count_lineFeed_render {samples : List Sample} (h : AllWellNamed samples) :
    (render samples).toList.count '\n' = 2 * (familyNames samples).length + samples.length := by
  rw [toList_render, count_flatMap_lineFeed (lineFeed_not_mem_textLines h), textLines,
    List.length_map, length_flatMap_groups]

/-- A line tells the name, the labels and the value of its sample. -/
theorem line_injective {s t : Sample} (hs : s.family.WellNamed) (ht : t.family.WellNamed)
    (h : line s = line t) :
    s.name = t.name ∧ s.labels = t.labels ∧ valueText s.value = valueText t.value := by
  have hentry : some (Entry.ofSample s) = some (Entry.ofSample t) := by
    rw [← readLine_line hs, ← readLine_line ht, h]
  simpa [Entry.ofSample] using hentry

/--
Exposition text can be decoded and nothing can be injected into it: the reader
takes the whole text and gives, for each family name once, its help and its
type, and below them the name, the labels and the value of each sample. There
is one line for each of these and none besides, and samples that differ in any
of the three have different lines. The families the exporter knows are among
those this holds of.
-/
theorem read_render {samples : List Sample} (h : ∀ s ∈ samples, s.family.WellNamed) :
    read (render samples) = some (entries samples) ∧
      (familyNames samples).Nodup ∧
      (∀ name, name ∈ familyNames samples ↔ ∃ s ∈ samples, s.name = name) ∧
      ((familyNames samples).flatMap fun name => samplesNamed name samples).Perm samples ∧
      (render samples).toList.count '\n' =
        2 * (familyNames samples).length + samples.length ∧
      (∀ s ∈ samples, ∀ t ∈ samples, line s = line t →
        s.name = t.name ∧ s.labels = t.labels ∧ valueText s.value = valueText t.value) ∧
      ∀ f ∈ Family.all, f.WellNamed := by
  refine ⟨read_of_textLines h, nodup_familyNames samples, fun _ => mem_familyNames,
    flatMap_samplesNamed_perm samples, count_lineFeed_render h, ?_, Family.wellNamed_of_mem_all⟩
  intro s hs t ht hline
  exact line_injective (h s hs) (h t ht) hline

/-- Quotes, backslashes, line feeds and braces in labels and help, and a name used twice. -/
def awkwardSamples : List Sample :=
  [(Family.gauge "up" "a\\n\nb\" # TYPE up counter" ["x", "y"]).sample 1.0
     ["q\"b\\", "\\\"\x7d 1\n\n"],
   (Family.counter "n_total" "# HELP" []).sample 2.0 [] List.length_nil,
   (Family.counter "up" "another help" ["x"]).sample 0.5 ["\x7b,=\n\\n"]]

theorem read_render_awkwardSamples :
    (∀ s ∈ awkwardSamples, s.family.WellNamed) ∧
      read (render awkwardSamples) = some (entries awkwardSamples) := by
  have h : ∀ s ∈ awkwardSamples, s.family.WellNamed := by decide
  exact ⟨h, (read_render h).1⟩

end FirewallExporter.Exposition
