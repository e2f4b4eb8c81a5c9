import FirewallExporter.Metric.Sample

/-!
Samples as an emitter takes them. It takes just those with as many label values
as their family has labels, and gives them back in the order of their emission.
-/

namespace FirewallExporter.Emitter

theorem emit_eq_ok_iff {e e' : Emitter} {f : Family} {value : Float} {labelValues : List String} :
    e.emit f value labelValues = .ok e' ↔
      ∃ arity : labelValues.length = f.labelNames.length,
        e' = ⟨e.samples.push ⟨f, value, labelValues, arity⟩⟩ := by
  rw [emit, Family.sample?]
  split
  · next arity => simp [Except.map, arity, eq_comm]
  · next arity => simp [Except.map, arity]

theorem emit_eq_error_iff {e : Emitter} {f : Family} {value : Float} {labelValues : List String}
    {error : ArityError} :
    e.emit f value labelValues = .error error ↔
      labelValues.length ≠ f.labelNames.length ∧
        error = ⟨f.name, f.labelNames.length, labelValues.length⟩ := by
  rw [emit, Family.sample?]
  split
  · next arity => simp [Except.map, arity]
  · next arity => simp [Except.map, arity, eq_comm]

theorem emit_sample (e : Emitter) (s : Sample) :
    e.emit s.family s.value s.labelValues = .ok ⟨e.samples.push s⟩ :=
  emit_eq_ok_iff.mpr ⟨s.arity, rfl⟩

/-- Emits the family, the value and the label values of one sample after another. -/
def emitEach {α : Type} (sample : α → Sample) (e : Emitter) (xs : List α) :
    Except ArityError Emitter :=
  xs.foldlM (fun e x => e.emit (sample x).family (sample x).value (sample x).labelValues) e

theorem emitEach_eq {α : Type} (sample : α → Sample) (e : Emitter) (xs : List α) :
    e.emitEach sample xs = .ok ⟨e.samples ++ (xs.map sample).toArray⟩ := by
  rw [emitEach]
  induction xs generalizing e with
  | nil =>
      rw [List.foldlM_nil]
      simp [pure, Except.pure]
  | cons x xs ih =>
      rw [List.foldlM_cons, emit_sample]
      simp only [bind, Except.bind]
      rw [ih]
      simp

/-- Emits samples anew. -/
def collect (samples : List Sample) : Except ArityError (List Sample) :=
  (emitEach id {} samples).map toList

/-- Nothing that is a sample is refused. -/
theorem collect_eq (samples : List Sample) : collect samples = .ok samples := by
  rw [collect, emitEach_eq]
  simp [Except.map, toList]

end FirewallExporter.Emitter
