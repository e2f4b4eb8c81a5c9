import FirewallExporter.Probe.Discovery
import FirewallExporter.Proofs.Json.Nulls
import FirewallExporter.Proofs.Probe.Outcomes

/-!
Null members in what a device answers. Two devices whose bodies are the same but
for null members are the same to every probe and to the discovery of the
version: what is asked of them, what is noted and what comes of it do not differ.
-/

namespace FirewallExporter

/-- Replies that differ in nothing but null members of their bodies. -/
inductive Reply.NullEquiv : Reply → Reply → Prop where
  | crash : NullEquiv .crash .crash
  | error (e : FetchError) : NullEquiv (.answer (.error e)) (.answer (.error e))
  | body {a b : Json} (h : a.NullEquiv b) : NullEquiv (.answer (.ok a)) (.answer (.ok b))

theorem Reply.NullEquiv.sameFor {a b : Reply} (h : a.NullEquiv b) (shape : Shape) :
    a.SameFor shape b := by
  cases h with
  | crash => exact .crash
  | error e => exact .error e
  | body h => exact .body (congrArg shape.decode h.settled_eq)

namespace Dialogue

variable {α : Type} {f g : Fetcher}

theorem run_get_of_nullEquiv (h : ∀ e, (f e).NullEquiv (g e)) (shape : Shape)
    (endpoint : Endpoint) :
    (get shape endpoint).run g = (get shape endpoint).run f :=
  run_get_of_sameFor ((h endpoint).sameFor shape)

theorem Reads.run_eq_of_nullEquiv {queries : List Query} {d : Dialogue α} (hd : Reads queries d)
    (h : ∀ e, (f e).NullEquiv (g e)) : d.run g = d.run f :=
  hd.run_eq_of_sameFor fun q _ => (h q.endpoint).sameFor q.shape

end Dialogue

namespace Probe

/--
Null members make no difference: to every probe and to the discovery of the
version, devices are the same if their replies differ in nothing else. This is so
as members that are null are dropped from a body before anything is read from it;
that leaves none of them, at whatever depth, and all the rest where it was, be it
null or not. Doing it again changes nothing.
-/
theorem run_of_nullEquiv {f g : Fetcher} (h : ∀ e, (f e).NullEquiv (g e)) :
    (∀ p ∈ catalogue, ∀ v, (p.run v).run g = (p.run v).run f ∧
        (p.invoke v).run g = (p.invoke v).run f) ∧
      Discovery.discover.run g = Discovery.discover.run f ∧
      ∀ body : Json, body.dropNulls.dropNulls = body.dropNulls ∧
        (∀ path part, Json.At path body.dropNulls part → Json.EndsAtMember path →
          part.isNull = false) ∧
        ∀ path part, Json.At path body.dropNulls part ↔
          ∃ original, Json.At path body original ∧ original.dropNulls = part ∧
            (Json.EndsAtMember path → original.isNull = false) := by
  refine ⟨fun p hp v => ?_, ?_, fun body => ?_⟩
  · have hrun := (run_reads hp v).run_eq_of_nullEquiv h
    refine ⟨hrun, Dialogue.run_bind_congr (Dialogue.run_attempt_congr hrun) fun result => ?_⟩
    cases result <;> rfl
  · refine Dialogue.run_bind_congr (Dialogue.run_get_of_nullEquiv h _ _) fun status => ?_
    rw [Discovery.readVersion]
    split <;> rfl
  · exact ⟨body.dropNulls_dropNulls, fun path part => Json.isNull_of_at_dropNulls,
      fun path part => Json.at_dropNulls_iff⟩

/-- The load of one record, given some members of its processor and some beside it. -/
def loadBody (cpu beside : List (String × Json)) : Json :=
  .array [.object [("vdom", .string "root"),
    ("results", .array [.object (("cpu", .object (("user", .int 7) :: cpu)) :: beside)])]]

/-- A device that has no cores to tell of says so with null, or it has no memory and does. -/
def withNull (cpu beside : List (String × Json)) : Fetcher :=
  fun _ => .answer (.ok (loadBody cpu beside))

theorem run_of_nullEquiv_loadBody :
    (∀ e, (withNull [("cores", .null)] [] e).NullEquiv (withNull [] [("mem", .null)] e)) ∧
      (Performance.probe ⟨7, 4⟩).run (withNull [] [("mem", .null)]) =
        (Performance.probe ⟨7, 4⟩).run (withNull [("cores", .null)] []) := by
  have hcores : Json.NullStep (loadBody [] []) (loadBody [("cores", .null)] []) := by
    refine .item [] [] (.member "results" [("vdom", .string "root")] [] (.item [] [] ?_))
    exact .member "cpu" [] [] (@Json.NullStep.insert "cores" [("user", .int 7)] [] (by simp))
  have hmem : Json.NullStep (loadBody [] []) (loadBody [] [("mem", .null)]) := by
    refine .item [] [] (.member "results" [("vdom", .string "root")] [] (.item [] [] ?_))
    exact @Json.NullStep.insert "mem" [("cpu", .object [("user", .int 7)])] [] (by simp)
  have hreplies : ∀ e, (withNull [("cores", .null)] [] e).NullEquiv
      (withNull [] [("mem", .null)] e) :=
    fun e => .body (.trans _ _ _ (.symm _ _ (.rel _ _ hcores)) (.rel _ _ hmem))
  have hp : performance ∈ catalogue := by
    simp [catalogue]
  exact ⟨hreplies, ((run_of_nullEquiv hreplies).1 _ hp ⟨7, 4⟩).1⟩

end Probe

end FirewallExporter
