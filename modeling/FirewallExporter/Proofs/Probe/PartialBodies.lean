import FirewallExporter.Proofs.Json.Extensions
import FirewallExporter.Proofs.Probe.NullMembers

/-!
Devices that report less than a probe reads, or more. A probe succeeds as long as
whatever is there has its declared shape, and goes on as if all that is missing were
there with its zero value. What it knows nothing of, it passes over.
-/

namespace FirewallExporter

/-- Replies that differ in nothing but how much their bodies say, for one who wants the shape. -/
inductive Reply.Alike (s : Shape) : Reply → Reply → Prop where
  | crash : Alike s .crash .crash
  | error (e : FetchError) : Alike s (.answer (.error e)) (.answer (.error e))
  | body {a b : Json} (h : s.Alike a b) : Alike s (.answer (.ok a)) (.answer (.ok b))

theorem Reply.Alike.sameFor {s : Shape} {a b : Reply} (h : Alike s a b)
    (hs : s.distinct = true) : a.SameFor s b := by
  cases h with
  | crash => exact .crash
  | error e => exact .error e
  | body h => exact .body (h.decode_eq hs)

namespace Probe

theorem distinct_of_mem_needs : ∀ p ∈ catalogue, ∀ need ∈ needs p.name, need.2.distinct = true := by
  decide

theorem distinct_of_mem_queries {p : Probe} (hp : p ∈ catalogue) {v : Version} {q : Query}
    (hq : q ∈ p.queries v) : q.shape.distinct = true := by
  obtain ⟨need, hneed, hq⟩ := List.mem_flatMap.mp hq
  obtain ⟨endpoint, -, rfl⟩ := Option.map_eq_some_iff.mp (Option.mem_toList.mp hq)
  exact distinct_of_mem_needs p hp need hneed

theorem run_invoke_congr {p : Probe} {v : Version} {f g : Fetcher}
    (h : (p.run v).run g = (p.run v).run f) : (p.invoke v).run g = (p.invoke v).run f := by
  refine Dialogue.run_bind_congr (Dialogue.run_attempt_congr h) fun result => ?_
  cases result <;> rfl

/--
A probe whose queries get bodies of the declared shapes succeeds, whichever of the
declared members are missing from their records. What is missing might as well be
there with what is written for zero, and members that are not declared might as
well not be there: what the probe asks, what it notes and what comes of it are the
same. No record declares a key twice, so it is clear what stands under it.
-/
theorem run_of_conforming {p : Probe} (hp : p ∈ catalogue) (v : Version) :
    (∀ q ∈ p.queries v, q.shape.distinct = true) ∧
      (∀ s : Shape, s.decode s.zeroBody = .ok s.zero) ∧
      (∀ f : Fetcher,
        (∀ q ∈ p.queries v, ∃ body, f q.endpoint = .answer (.ok body) ∧
          q.shape.Conforms body.settled) →
        ∃ samples, ((p.run v).run f).ending = .done samples ∧
          ((p.run v).run f).calls = (p.queries v).map Query.endpoint ∧
          ((p.invoke v).run f).ending = .done { samples, ok := true }) ∧
      ∀ f g : Fetcher,
        (∀ q ∈ p.queries v, (f q.endpoint).Alike q.shape (g q.endpoint)) →
          (p.run v).run g = (p.run v).run f ∧ (p.invoke v).run g = (p.invoke v).run f := by
  refine ⟨fun q hq => distinct_of_mem_queries hp hq, Shape.decode_zeroBody, fun f hbodies => ?_,
    fun f g h => ?_⟩
  · have hvalues : ∀ q ∈ p.queries v, ∃ body value, f q.endpoint = .answer (.ok body) ∧
        q.shape.decode body.settled = .ok value := by
      intro q hq
      obtain ⟨body, hreply, hconforms⟩ := hbodies q hq
      have hvalue := Shape.decode_eq_ok_iff.mpr ⟨hconforms.fault?_eq_none, rfl⟩
      exact ⟨body, _, hreply, hvalue⟩
    obtain ⟨samples, events, hrun⟩ := (run_reads hp v).exists_run_eq hvalues
    have hending : ((p.run v).run f).ending = .done samples := by rw [hrun]
    refine ⟨samples, hending, by rw [hrun], ?_⟩
    rw [run_invoke_of_done hending]
    rfl
  · have hrun := (run_reads hp v).run_eq_of_sameFor fun q hq =>
      (h q hq).sameFor (distinct_of_mem_queries hp hq)
    exact ⟨hrun, run_invoke_congr hrun⟩

/-- A device that reports the load of one processor, given what it says besides. -/
def reportsLoad (cpu : List (String × Json)) : Fetcher :=
  fun _ => .answer (.ok (loadBody cpu []))

theorem conforms_loadBody : Performance.shape.Conforms (loadBody [] []) := by
  have hcpu : Performance.Cpu.shape.Conforms (.object [("user", .int 7)]) := by
    refine .record fun m hm shape hshape => ?_
    obtain rfl := List.mem_singleton.mp hm
    obtain rfl : shape = .number := by
      simpa [Performance.Times.fields, Fields.ofList, Fields.toList] using hshape
    exact .int 7
  have hrecord : Performance.Record.shape.Conforms
      (.object [("cpu", .object [("user", .int 7)])]) := by
    refine .record fun m hm shape hshape => ?_
    obtain rfl := List.mem_singleton.mp hm
    obtain rfl : shape = Performance.Cpu.shape := by
      simpa [Fields.ofList, Fields.toList] using hshape
    exact hcpu
  refine .list fun j hj => ?_
  obtain rfl := List.mem_singleton.mp hj
  refine .record fun m hm shape hshape => ?_
  rcases List.mem_pair.mp hm with rfl | rfl
  · obtain rfl : shape = .text := by simpa [Fields.ofList, Fields.toList] using hshape
    exact .text "root"
  · obtain rfl : shape = .list Performance.Record.shape := by
      simpa [Fields.ofList, Fields.toList] using hshape
    exact .list fun j hj => List.mem_singleton.mp hj ▸ hrecord

/-- What extends the totals and cores of the one processor extends the body. -/
theorem extends_loadBody {cpu cpu' : List (String × Json)}
    (h : Performance.Cpu.shape.Extends (.object (("user", .int 7) :: cpu))
      (.object (("user", .int 7) :: cpu'))) :
    Performance.shape.Extends (loadBody cpu []) (loadBody cpu' []) := by
  have hcpu : ("cpu", Performance.Cpu.shape) ∈
      (Fields.ofList [("cpu", Performance.Cpu.shape), ("mem", Performance.Memory.shape)]).toList :=
    List.mem_cons_self
  have hresults : ("results", .list Performance.Record.shape) ∈
      (Fields.ofList [("results", .list Performance.Record.shape), ("vdom", .text)]).toList :=
    List.mem_cons_self
  have hrecord : Performance.Record.shape.Extends
      (.object [("cpu", .object (("user", .int 7) :: cpu))])
      (.object [("cpu", .object (("user", .int 7) :: cpu'))]) := .member hcpu h [] []
  exact .item (.member hresults (.item hrecord [] []) [("vdom", .string "root")] []) [] []

theorem alike_loadBody :
    Performance.shape.Alike (loadBody [] [])
      (loadBody [("turbo", .array [.null]), ("cores", .array [])] []) := by
  have hturbo : Performance.shape.Extends (loadBody [] [])
      (loadBody [("turbo", .array [.null])] []) := by
    refine extends_loadBody ?_
    exact .undeclared (by decide) (.array [.null]) [("user", .int 7)] []
  have hcores : Performance.shape.Extends (loadBody [("turbo", .array [.null])] [])
      (loadBody [("turbo", .array [.null]), ("cores", .array [])] []) := by
    have hfield : ("cores", .list Performance.Times.shape) ∈ (Fields.ofList
        (("cores", .list Performance.Times.shape) :: Performance.Times.fields)).toList :=
      List.mem_cons_self
    refine extends_loadBody ?_
    exact .missing hfield [("user", .int 7), ("turbo", .array [.null])] [] (by simp)
  exact .trans _ _ _ (.rel _ _ hturbo) (.rel _ _ hcores)

/-- A device may be silent on its cores, and it may tell of what no probe knows. -/
theorem run_of_conforming_loadBody :
    (∀ e, ∃ body, reportsLoad [] e = .answer (.ok body) ∧
        Performance.shape.Conforms body.settled) ∧
      (∀ e, (reportsLoad [] e).Alike Performance.shape
        (reportsLoad [("turbo", .array [.null]), ("cores", .array [])] e)) ∧
      (∃ samples, ((Performance.probe ⟨7, 4⟩).run (reportsLoad [])).ending = .done samples) ∧
      (Performance.probe ⟨7, 4⟩).run
          (reportsLoad [("turbo", .array [.null]), ("cores", .array [])]) =
        (Performance.probe ⟨7, 4⟩).run (reportsLoad []) := by
  have hbodies : ∀ e, ∃ body, reportsLoad [] e = .answer (.ok body) ∧
      Performance.shape.Conforms body.settled := fun _ => ⟨_, rfl, conforms_loadBody.settled⟩
  have halike : ∀ e, (reportsLoad [] e).Alike Performance.shape
      (reportsLoad [("turbo", .array [.null]), ("cores", .array [])] e) :=
    fun _ => .body alike_loadBody
  have hp : performance ∈ catalogue := by
    simp [catalogue]
  have hqueries : ∀ q ∈ performance.queries ⟨7, 4⟩,
      q.shape = Performance.shape := by
    intro q hq
    obtain rfl := List.mem_singleton.mp hq
    rfl
  obtain ⟨-, -, hsucceeds, hsame⟩ := run_of_conforming hp ⟨7, 4⟩
  obtain ⟨samples, hending, -⟩ :=
    hsucceeds (reportsLoad []) fun q hq => hqueries q hq ▸ hbodies q.endpoint
  have hrun := (hsame _ _ fun q hq => hqueries q hq ▸ halike q.endpoint).1
  exact ⟨hbodies, halike, ⟨samples, hending⟩, hrun⟩

end Probe

end FirewallExporter
