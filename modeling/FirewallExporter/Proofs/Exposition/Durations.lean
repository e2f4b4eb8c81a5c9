import FirewallExporter.Proofs.Exposition.RoundTrip
import FirewallExporter.Proofs.Scrape.Reports

/-!
Exposition text without the time that probes took. Only the lines of that one
family are cut, each after its last space; a text that is cut in this way is the
same whatever the clock says.
-/

namespace FirewallExporter

/-- A sample of a duration counts as zero. -/
def Sample.untimed (s : Sample) : Sample :=
  if s.family = ProbeReport.durationFamily then { s with value := 0.0 } else s

theorem Sample.untimed_of_duration {s : Sample} (h : s.family = ProbeReport.durationFamily) :
    s.untimed = { s with value := 0.0 } := if_pos h

theorem Sample.untimed_family (s : Sample) : s.untimed.family = s.family := by
  unfold untimed
  split <;> rfl

theorem ProbeReport.untimed_elapsed (r : ProbeReport) :
    r.elapsed.untimed = durationFamily.sample 0.0 [r.name] := by
  have hfamily : r.elapsed.family = durationFamily := rfl
  rw [Sample.untimed_of_duration hfamily]
  rfl

/-- The samples of a report tell the time in nothing but the durations. -/
theorem ScrapeReport.untimed_samples (r : ScrapeReport) :
    r.samples.map Sample.untimed =
      (ScrapeReport.samples (r.map ProbeReport.undated)).map Sample.untimed := by
  simp only [samples, List.map_append, List.map_flatMap, List.flatMap_map, List.map_map,
    Function.comp_def, ProbeReport.untimed_elapsed]
  rfl

namespace Exposition

/-! ### Lines -/

/-- How the lines about durations begin. -/
def durationStart : List Char := ProbeReport.durationFamily.name.toList ++ ['\x7b']

/-- A line about a duration ends before its value. -/
def untimedLine (cs : List Char) : List Char :=
  if durationStart.isPrefixOf cs then (cs.reverse.dropWhile (· != ' ')).reverse else cs

/-- The lines of a text without the values of durations. -/
def untimed (text : String) : List (List Char) := (text.toList.splitOn '\n').map untimedLine

theorem dropWhile_reverse_last {cs value : List Char} (h : ' ' ∉ value) :
    ((cs ++ ' ' :: value).reverse.dropWhile (· != ' ')).reverse = cs ++ [' '] := by
  have hvalue : ∀ c ∈ value.reverse, (c != ' ') = true := by
    intro c hc
    rw [bne_iff_ne]
    rintro rfl
    exact h (List.mem_reverse.mp hc)
  rw [List.reverse_append, List.reverse_cons, List.append_assoc,
    List.dropWhile_append_of_pos hvalue, List.singleton_append,
    List.dropWhile_cons_of_neg (by simp), List.reverse_cons, List.reverse_reverse]

/-- What is left of the line of a duration. -/
theorem untimedLine_line_duration {s : Sample} (h : s.family = ProbeReport.durationFamily) :
    untimedLine (line s).toList = s.name.toList ++ (labelBlock s.labels).toList ++ [' '] := by
  -- the family has a label, so a brace follows the name
  have hlabels : s.labels ≠ [] := by
    obtain ⟨family, value, labelValues, arity⟩ := s
    cases h
    cases labelValues with
    | nil => cases arity
    | cons v vs => exact List.cons_ne_nil _ _
  have hname : s.name = ProbeReport.durationFamily.name := congrArg Family.name h
  have hstart : durationStart <+: (line s).toList := by
    rw [toList_line, toList_labelBlock hlabels, hname]
    refine ⟨labelChars s.labels ++ ['\x7d'] ++ ' ' :: (valueText s.value).toList, ?_⟩
    simp [durationStart]
  rw [untimedLine, if_pos (List.isPrefixOf_iff_prefix.mpr hstart), toList_line,
    ← List.append_assoc]
  exact dropWhile_reverse_last (not_mem_valueText (by decide) s.value)

theorem untimedLine_line (s : Sample) :
    untimedLine (line s.untimed).toList = untimedLine (line s).toList := by
  by_cases h : s.family = ProbeReport.durationFamily
  · have hfamily : s.untimed.family = ProbeReport.durationFamily := s.untimed_family.trans h
    rw [untimedLine_line_duration hfamily, untimedLine_line_duration h,
      Sample.untimed_of_duration h]
    rfl
  · rw [show s.untimed = s from if_neg h]

/-! ### Texts -/

section Map

variable {u : Sample → Sample} (hu : ∀ s, (u s).family = s.family)
include hu

theorem addSample_map (s : Sample) (gs : List Group) :
    addSample (u s) (gs.map fun g => { g with members := g.members.map u }) =
      (addSample s gs).map fun g => { g with members := g.members.map u } := by
  induction gs with
  | nil => simp [addSample, hu]
  | cons g gs ih =>
      have hname : (u s).name = s.name := congrArg Family.name (hu s)
      rw [List.map_cons, addSample, addSample, hname]
      split
      · simp [Group.push]
      · rw [ih, List.map_cons]

/-- Samples stay in their groups as long as they keep their families. -/
theorem groups_map (samples : List Sample) :
    groups (samples.map u) =
      (groups samples).map fun g => { g with members := g.members.map u } := by
  -- the groups so far are left open, since the fold goes on from any of them
  have hfold : ∀ gs : List Group,
      (samples.map u).foldl (fun gs s => addSample s gs)
          (gs.map fun g => { g with members := g.members.map u }) =
        (samples.foldl (fun gs s => addSample s gs) gs).map fun g =>
          { g with members := g.members.map u } := by
    induction samples with
    | nil => exact fun gs => rfl
    | cons s samples ih =>
        intro gs
        rw [List.map_cons, List.foldl_cons, List.foldl_cons, addSample_map hu, ih]
  rw [groups_eq_foldl, groups_eq_foldl]
  exact hfold []

end Map

theorem untimedLine_textLines (samples : List Sample) :
    (textLines (samples.map Sample.untimed)).map untimedLine =
      (textLines samples).map untimedLine := by
  rw [textLines, textLines, groups_map Sample.untimed_family, List.flatMap_map,
    List.map_map, List.map_map, List.map_flatMap, List.map_flatMap]
  refine List.flatMap_congr fun g _ => ?_
  have hmembers : g.members.map (fun s => untimedLine (line s.untimed).toList) =
      g.members.map fun s => untimedLine (line s).toList :=
    List.map_congr_left fun s _ => untimedLine_line s
  simp only [Group.lines, List.map_cons, List.map_map, Function.comp_def, hmembers]

theorem untimed_render {samples : List Sample} (h : AllWellNamed samples) :
    untimed (render samples) = (textLines samples).map untimedLine ++ [[]] := by
  rw [untimed, toList_render, splitOn_flatMap_lineFeed (lineFeed_not_mem_textLines h),
    List.map_append]
  rfl

theorem AllWellNamed.of_untimed {xs ys : List Sample} (hy : AllWellNamed ys)
    (h : xs.map Sample.untimed = ys.map Sample.untimed) : AllWellNamed xs := by
  intro x hx
  have hmem : x.untimed ∈ ys.map Sample.untimed := h ▸ List.mem_map_of_mem hx
  obtain ⟨y, hymem, huntimed⟩ := List.mem_map.mp hmem
  have hfamily : y.family = x.family := by
    rw [← y.untimed_family, huntimed, x.untimed_family]
  exact hfamily ▸ hy y hymem

/-- Texts of samples that differ in nothing but the time are the same without it. -/
theorem untimed_render_congr {xs ys : List Sample} (hx : AllWellNamed xs) (hy : AllWellNamed ys)
    (h : xs.map Sample.untimed = ys.map Sample.untimed) :
    untimed (render xs) = untimed (render ys) := by
  rw [untimed_render hx, untimed_render hy, ← untimedLine_textLines xs, h, untimedLine_textLines]

end Exposition

end FirewallExporter
