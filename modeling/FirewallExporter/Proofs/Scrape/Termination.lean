import Mathlib.Logic.Hydra
import Mathlib.Tactic.Abel
import FirewallExporter.Proofs.Scrape.Interleaving

/-!
Scrapes end whatever the service does. What is left of a dialogue gets smaller
with every answer, but by how much is up to the answer, so that no number can
bound the steps. What gets smaller is the multiset of all that is left to do: a
step takes one thing out of it and puts smaller ones in its place.
-/

namespace FirewallExporter.Scrape

/-- What is left to do: a probe without a task, or what a task is at. -/
inductive Work where
  | unstarted (p : Probe)
  | task (activity : Activity)

/-- What is left of a piece of work after one step of it. -/
inductive Work.Leaves (v : Version) : Work → Work → Prop where
  | started (p : Probe) : Leaves v (.task (.active (p.invoke v))) (.unstarted p)
  | waits (endpoint : Endpoint) (next : Answer → Dialogue Outcome) :
      Leaves v (.task (.waiting endpoint next)) (.task (.active (.ask endpoint next)))
  | answered (endpoint : Endpoint) (next : Answer → Dialogue Outcome) (answer : Answer) :
      Leaves v (.task (.active (next answer))) (.task (.waiting endpoint next))
  | crashed (endpoint : Endpoint) (next : Answer → Dialogue Outcome) :
      Leaves v (.task (.active .crash)) (.task (.waiting endpoint next))
  | noted (event : Event) (rest : Dialogue Outcome) :
      Leaves v (.task (.active rest)) (.task (.active (.note event rest)))

theorem Work.acc_active (v : Version) (d : Dialogue Outcome) :
    Acc (Leaves v) (.task (.active d)) := by
  have hcrash : Acc (Leaves v) (.task (.active .crash)) := .intro _ fun _ h => nomatch h
  induction d with
  | done outcome => exact .intro _ fun _ h => nomatch h
  | fail error => exact .intro _ fun _ h => nomatch h
  | crash => exact hcrash
  | ask endpoint next ih =>
      refine .intro _ fun w hw => ?_
      cases hw with
      | waits =>
          refine .intro _ fun w' hw' => ?_
          cases hw' with
          | answered _ _ answer => exact ih answer
          | crashed => exact hcrash
  | note event rest ih =>
      refine .intro _ fun w hw => ?_
      cases hw with
      | noted => exact ih

theorem Work.wellFounded_leaves (v : Version) : WellFounded (Leaves v) := by
  have hactive := acc_active v
  refine ⟨fun w => .intro _ fun w' hw => ?_⟩
  cases hw with
  | started p => exact hactive _
  | waits endpoint next => exact (hactive (.ask endpoint next)).inv (.waits endpoint next)
  | answered endpoint next answer => exact hactive _
  | crashed endpoint next => exact hactive _
  | noted event rest => exact hactive _

variable {σ : Type} {service : Service σ} {v : Version} {c c' : Progress σ}

theorem Activity.Moves.leaves {a a' : Activity} {state state' : σ} {calls : List Endpoint}
    (h : a.Moves service state calls a' state') : Work.Leaves v (.task a') (.task a) := by
  cases h with
  | call endpoint next => exact .waits endpoint next
  | answered next _ => exact .answered _ next _
  | crashed next _ => exact .crashed _ next
  | noted event rest => exact .noted event rest

/-- All that is left to do in a scrape. -/
def Progress.work (c : Progress σ) : Multiset Work :=
  (c.unstarted : Multiset Probe).map .unstarted +
    (c.tasks : Multiset Task).map fun t => .task t.activity

open Relation in
/-- Each step takes one thing from the work and puts back what is left of it. -/
theorem Step.cutExpand (h : Step service v c c') :
    CutExpand (Work.Leaves v) c'.work c.work := by
  unfold Progress.work
  cases h with
  | @spawn p rest hunstarted =>
      refine ⟨{.task (.active (p.invoke v))}, .unstarted p, ?_, ?_⟩
      · simpa using Work.Leaves.started p
      · simp only [hunstarted, ← Multiset.coe_add, ← Multiset.cons_coe, Multiset.coe_nil,
          Multiset.map_add, Multiset.map_cons, Multiset.map_zero, Task.ofProbe]
        simp only [← Multiset.singleton_add]
        abel
  | @move before after t calls activity state htasks hmoves =>
      refine ⟨{.task activity}, .task t.activity, ?_, ?_⟩
      · simpa using hmoves.leaves
      · simp only [htasks, ← Multiset.coe_add, ← Multiset.cons_coe, Multiset.map_add,
          Multiset.map_cons]
        simp only [← Multiset.singleton_add]
        abel
  | @collect t rest ending duration hunstarted htasks hending =>
      -- a task that is collected leaves nothing to do
      refine ⟨0, .task t.activity, by simp, ?_⟩
      simp only [htasks, ← Multiset.cons_coe, Multiset.map_cons]
      simp only [← Multiset.singleton_add]
      abel

/-- No scrape goes on forever, however its tasks take turns. -/
theorem wellFounded_step (service : Service σ) (v : Version) :
    WellFounded fun c' c : Progress σ => Step service v c c' :=
  Subrelation.wf (fun h => Step.cutExpand h)
    (InvImage.wf Progress.work (Work.wellFounded_leaves v).cutExpand)

/-- From wherever a scrape has come to, it can be finished. -/
theorem exists_finished (service : Service σ) (v : Version) (c : Progress σ) :
    ∃ c', Reaches service v c c' ∧ c'.Finished := by
  induction c using (wellFounded_step service v).induction with
  | _ c ih =>
      rcases finished_or_step service v c with hfinished | ⟨c', hstep⟩
      · exact ⟨c, .refl, hfinished⟩
      · obtain ⟨c'', hreaches, hfinished⟩ := ih c' hstep
        exact ⟨c'', .head hstep hreaches, hfinished⟩

end FirewallExporter.Scrape
