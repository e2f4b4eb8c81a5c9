import FirewallExporter.Metric.Offer
import FirewallExporter.Proofs.Metric.Emission
import FirewallExporter.Proofs.Metric.Rows

/-!
What an emitter makes of offers. At each moment it holds those it has accepted, in
the order of their calls, each as a sample that shows it. An offer is accepted
just if it has as many label values as its family has labels, and one that is
refused leaves the emitter as it was.
-/

namespace FirewallExporter

/-- A sample has what an offer gave, each label value under the name of its place. -/
structure Sample.Shows (s : Sample) (o : Offer) : Prop where
  family_eq : s.family = o.family
  value_eq : s.value = o.value
  names_eq : s.labels.map Prod.fst = o.family.labelNames
  values_eq : s.labels.map Prod.snd = o.labelValues
  label_eq : ∀ name, s.label? name = o.labelValues[o.family.labelNames.idxOf name]?
  label_eq_none_iff : ∀ name, s.label? name = none ↔ name ∉ o.family.labelNames

theorem Sample.shows_offer (o : Offer)
    (arity : o.labelValues.length = o.family.labelNames.length) :
    Shows ⟨o.family, o.value, o.labelValues, arity⟩ o :=
  { family_eq := rfl
    value_eq := rfl
    names_eq := map_fst_labels _
    values_eq := map_snd_labels _
    label_eq := label?_eq _
    label_eq_none_iff := label?_eq_none_iff _ }

namespace Emitter

/-- To offer is to emit, where a failure leaves nothing but the emitter that there was. -/
theorem run_offer (o : Offer) (e : Emitter) :
    (offer o).run.run e =
      match e.emit o.family o.value o.labelValues with
      | .ok e' => (.ok (), e')
      | .error error => (.error error, e) := by
  show (ExceptT.run (liftM (e.emit o.family o.value o.labelValues) >>= set) :
    StateM Emitter _) e = _
  cases e.emit o.family o.value o.labelValues <;> rfl

theorem run_call {o : Offer} {e e' : Emitter} {answer : Except ArityError Unit}
    (h : (offer o).run.run e = (answer, e')) :
    (call o).run e = ({ offer := o, before := e, answer, after := e' }, e') := by
  have hcall : (call o).run e =
      let (answer, after) := (offer o).run.run e
      ({ offer := o, before := e, answer, after }, after) := rfl
  rw [hcall, h]

theorem run_calls_cons {o : Offer} {offers : List Offer} {e e' e'' : Emitter} {c : Call}
    {cs : List Call} (hc : (call o).run e = (c, e')) (hcs : (calls offers).run e' = (cs, e'')) :
    (calls (o :: offers)).run e = (c :: cs, e'') := by
  rw [calls, List.mapM_cons, StateT.run_bind, hc]
  change (calls offers >>= fun cs => pure (c :: cs)).run e' = _
  rw [StateT.run_bind, hcs]
  rfl

/-- What was offered by the calls that were not refused. -/
def accepted (calls : List Call) : List Offer :=
  (calls.filter fun c => c.answer.isOk).map Call.offer

theorem accepted_append_of_ok {c : Call} (h : c.answer = .ok ()) (calls : List Call) :
    accepted (calls ++ [c]) = accepted calls ++ [c.offer] := by
  simp [accepted, h, Except.isOk, Except.toBool]

theorem accepted_append_of_error {c : Call} {error : ArityError} (h : c.answer = .error error)
    (calls : List Call) : accepted (calls ++ [c]) = accepted calls := by
  simp [accepted, h, Except.isOk, Except.toBool]

/-- An emitter has one sample for each of the offers, in their order, and no other. -/
structure Holds (e : Emitter) (offers : List Offer) : Prop where
  shows : List.Forall₂ Sample.Shows e.toList offers
  size_eq : e.size = offers.length

theorem Holds.push {e : Emitter} {offers : List Offer} (h : e.Holds offers) (o : Offer)
    (arity : o.labelValues.length = o.family.labelNames.length) :
    Holds ⟨e.samples.push ⟨o.family, o.value, o.labelValues, arity⟩⟩ (offers ++ [o]) := by
  refine ⟨?_, ?_⟩
  · rw [toList, Array.toList_push]
    exact List.rel_append h.shows (.cons (Sample.shows_offer o arity) .nil)
  · rw [size, Array.size_push, List.length_append, ← h.size_eq]
    rfl

/-- A call adds its offer to what the calls before it have left, or it adds nothing. -/
structure Call.Sound (earlier : List Call) (c : Call) : Prop where
  before : c.before.Holds (accepted earlier)
  after : c.after.Holds (accepted (earlier ++ [c]))
  answer_eq_ok_iff :
    c.answer = .ok () ↔ c.offer.labelValues.length = c.offer.family.labelNames.length
  refused : ∀ error, c.answer = .error error →
    error = { family := c.offer.family.name, expected := c.offer.family.labelNames.length,
              got := c.offer.labelValues.length } ∧
      c.after.toList = c.before.toList ∧ c.after.size = c.before.size

theorem exists_run_call {e : Emitter} {earlier : List Call} (h : e.Holds (accepted earlier))
    (o : Offer) :
    ∃ c, (call o).run e = (c, c.after) ∧ c.offer = o ∧ c.Sound earlier := by
  have hoffer := run_offer o e
  cases hemit : e.emit o.family o.value o.labelValues with
  | ok e' =>
      obtain ⟨arity, rfl⟩ := emit_eq_ok_iff.mp hemit
      rw [hemit] at hoffer
      refine ⟨_, run_call hoffer, rfl, h, ?_, iff_of_true rfl arity, nofun⟩
      rw [accepted_append_of_ok rfl]
      exact h.push o arity
  | error error =>
      obtain ⟨arity, rfl⟩ := emit_eq_error_iff.mp hemit
      rw [hemit] at hoffer
      refine ⟨_, run_call hoffer, rfl, h, ?_, iff_of_false nofun arity, ?_⟩
      · rw [accepted_append_of_error rfl]
        exact h
      · rintro _ ⟨⟩
        exact ⟨rfl, rfl, rfl⟩

/-- What holds of the calls before a run goes on to hold of all calls of the run. -/
theorem exists_run_calls {e : Emitter} {earlier : List Call} (h : e.Holds (accepted earlier))
    (offers : List Offer) :
    ∃ cs e', (calls offers).run e = (cs, e') ∧ cs.map Call.offer = offers ∧
      (∀ before c after, cs = before ++ c :: after → c.Sound (earlier ++ before)) ∧
      e'.Holds (accepted (earlier ++ cs)) := by
  -- each call joins the earlier ones, so that the rest of the run starts from what it has left
  induction offers generalizing e earlier with
  | nil => exact ⟨[], e, rfl, rfl, by simp, by simpa using h⟩
  | cons o offers ih =>
      obtain ⟨c, hc, rfl, hsound⟩ := exists_run_call h o
      obtain ⟨cs, e', hcs, rfl, hsounds, hholds⟩ := ih hsound.after
      refine ⟨c :: cs, e', run_calls_cons hc hcs, rfl, ?_, ?_⟩
      · intro before d after hsplit
        cases before with
        | nil =>
            obtain ⟨rfl, -⟩ := List.cons.inj hsplit
            rwa [List.append_nil]
        | cons first before =>
            obtain ⟨rfl, hrest⟩ := List.cons.inj hsplit
            rw [List.append_cons]
            exact hsounds before d after hrest
      · rwa [List.append_cons]

/--
An emitter is offered samples one after another. It accepts those with as many
label values as labels, and refuses the others with both numbers and stays as it
was. At each moment it holds what it has accepted so far in the order of the
calls, and a sample shows what was offered: every label has the value that was
given at its place, with none missing and none left over, and the label that a
name asks for is the first of that name.
-/
theorem calls_collected (offers : List Offer) :
    ∃ cs e, (calls offers).run {} = (cs, e) ∧ cs.map Call.offer = offers ∧
      (∀ before c after, cs = before ++ c :: after → c.Sound before) ∧
      e.Holds (accepted cs) := by
  have hempty : Holds {} (accepted []) := ⟨.nil, rfl⟩
  obtain ⟨cs, e, hrun, hoffers, hsound, hholds⟩ := exists_run_calls hempty offers
  exact ⟨cs, e, hrun, hoffers, hsound, hholds⟩

/-- One offer has a label value too few, and two labels go by one name. -/
def fanOffers : List Offer :=
  [⟨.gauge "fan_speed" "Speed of both fans" ["fan", "fan"], 1.0, ["left"]⟩,
    ⟨.gauge "fan_speed" "Speed of both fans" ["fan", "fan"], 2.0, ["left", "right"]⟩]

theorem calls_collected_fanOffers :
    ∃ refused taken e, (calls fanOffers).run {} = ([refused, taken], e) ∧
      refused.answer = .error { family := "fan_speed", expected := 2, got := 1 } ∧
      refused.after.size = 0 ∧ taken.answer = .ok () ∧
      ∃ s, e.toList = [s] ∧ s.labels.map Prod.snd = ["left", "right"] ∧
        s.label? "fan" = some "left" ∧ s.label? "pump" = none := by
  obtain ⟨cs, e, hrun, hoffers, hsound, hholds⟩ := calls_collected fanOffers
  obtain ⟨refused, rest, rfl, hrefused, hrest⟩ := List.map_eq_cons_iff.mp hoffers
  obtain ⟨taken, rest, rfl, htaken, hnone⟩ := List.map_eq_cons_iff.mp hrest
  obtain rfl := List.map_eq_nil_iff.mp hnone
  have hfirst := hsound [] refused [taken] rfl
  have hsecond := hsound [refused] taken [] rfl
  have htaken_ok : taken.answer = .ok () := hsecond.answer_eq_ok_iff.mpr (by rw [htaken]; rfl)
  have hrefused_ne : refused.answer ≠ .ok () := by
    rw [Ne, hfirst.answer_eq_ok_iff, hrefused]
    decide
  cases hanswer : refused.answer with
  | ok => exact absurd hanswer hrefused_ne
  | error error =>
      obtain ⟨rfl, -, hsize⟩ := hfirst.refused error hanswer
      have haccepted : accepted [refused, taken] = [taken.offer] :=
        calc accepted ([refused] ++ [taken])
            = accepted ([] ++ [refused]) ++ [taken.offer] := accepted_append_of_ok htaken_ok _
          _ = [taken.offer] := by rw [accepted_append_of_error hanswer]; rfl
      obtain ⟨s, _, hs, hnil, hlist⟩ :=
        List.forall₂_cons_right_iff.mp (haccepted ▸ hholds.shows)
      obtain rfl := List.forall₂_nil_right_iff.mp hnil
      rw [htaken] at hs
      exact ⟨refused, taken, e, hrun, by rw [hanswer, hrefused]; rfl,
        hsize.trans hfirst.before.size_eq, htaken_ok, s, hlist, hs.values_eq,
        hs.label_eq "fan", hs.label_eq "pump"⟩

end Emitter

end FirewallExporter
