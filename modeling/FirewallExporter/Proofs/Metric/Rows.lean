import FirewallExporter.Metric.Sample
import FirewallExporter.Proofs.Lists

/-!
What samples show. Each label name of the family goes with the label value at its
place, and none of either is left over. A row is what a reader sees of a sample;
the help text of the family is not part of it. Samples that agree in the name of
their family and in their label values belong to one series.
-/

namespace FirewallExporter

namespace Sample

theorem map_fst_labels (s : Sample) : s.labels.map Prod.fst = s.family.labelNames :=
  List.map_fst_zip (Nat.le_of_eq s.arity.symm)

theorem map_snd_labels (s : Sample) : s.labels.map Prod.snd = s.labelValues :=
  List.map_snd_zip (Nat.le_of_eq s.arity)

theorem label?_eq (s : Sample) (name : String) :
    s.label? name = s.labelValues[s.family.labelNames.idxOf name]? :=
  lookup_zip s.arity name

theorem label?_eq_none_iff (s : Sample) (name : String) :
    s.label? name = none ↔ name ∉ s.family.labelNames := by
  rw [label?_eq, List.getElem?_eq_none_iff, s.arity, ← Nat.not_lt, List.idxOf_lt_length_iff]

end Sample

/-- What a sample shows. -/
structure Row where
  family : String
  kind : Kind
  labels : List (String × String)
  value : Float

def Sample.row (s : Sample) : Row :=
  { family := s.name, kind := s.kind, labels := s.labels, value := s.value }

/-- What tells a sample from others. -/
def Sample.series (s : Sample) : String × List String := (s.name, s.labelValues)

def Row.series (r : Row) : String × List String := (r.family, r.labels.map Prod.snd)

@[simp] theorem Sample.series_row (s : Sample) : s.row.series = s.series := by
  show (s.name, s.labels.map Prod.snd) = (s.name, s.labelValues)
  rw [s.map_snd_labels]

theorem Sample.map_series {samples : List Sample} {rows : List Row}
    (h : samples.map Sample.row = rows) : samples.map Sample.series = rows.map Row.series := by
  rw [← h, List.map_map]
  exact List.map_congr_left fun s _ => s.series_row.symm

theorem Sample.map_row_filter (p : String → Bool) (samples : List Sample) :
    (samples.filter fun s => p s.name).map Sample.row =
      (samples.map Sample.row).filter fun r => p r.family := by
  rw [List.filter_map]
  rfl

end FirewallExporter
