import FirewallExporter.Proofs.Device.Runs
import FirewallExporter.Proofs.Json.Ordered

/-!
Dialogues that go from one body to the next. Such a dialogue has a list of
queries, each for a body of some shape at some endpoint. It makes them in order,
goes on from the value of each body, and fails with the first answer that is an
error or does not fit its shape; on nothing else does it fail. Replies that come to
the same for the shapes wanted make no difference to it.
-/

namespace FirewallExporter

/-- A body of a shape is wanted from an endpoint. -/
structure Query where
  endpoint : Endpoint
  shape : Shape

/-- Replies that come to the same for one who wants a body of the shape. -/
inductive Reply.SameFor (s : Shape) : Reply → Reply → Prop where
  | crash : SameFor s .crash .crash
  | error (e : FetchError) : SameFor s (.answer (.error e)) (.answer (.error e))
  | body {a b : Json} (h : s.decode a.settled = s.decode b.settled) :
      SameFor s (.answer (.ok a)) (.answer (.ok b))

/-- A fetcher that never crashes. -/
def Fetcher.ofAnswers (answers : Endpoint → Answer) : Fetcher := fun e => .answer (answers e)

namespace Query

variable (answers : Endpoint → Answer)

/-- The error that comes of a query, be it from the device or from its body. -/
def failure? (q : Query) : Option FetchError :=
  match answers q.endpoint with
  | .error error => some error
  | .ok body =>
    match q.shape.decode body.settled with
    | .ok _ => none
    | .error fault => some (.decode q.endpoint.path (.misshapen fault))

def fails (q : Query) : Bool := (q.failure? answers).isSome

/-- The endpoints asked when queries are made in order up to the first that fails. -/
def asked (queries : List Query) : List Endpoint :=
  (queries.take (queries.findIdx (fails answers) + 1)).map endpoint

/-- The first error that comes of the queries. -/
def firstFailure? (queries : List Query) : Option FetchError :=
  queries.findSome? (failure? answers)

variable {answers}

theorem asked_cons_of_failure {q : Query} {error : FetchError}
    (h : q.failure? answers = some error) (queries : List Query) :
    asked answers (q :: queries) = [q.endpoint] := by
  have hfails : q.fails answers = true := by rw [fails, h, Option.isSome_some]
  rw [asked, List.findIdx_cons, hfails]
  simp

theorem asked_cons_of_value {q : Query} (h : q.failure? answers = none) (queries : List Query) :
    asked answers (q :: queries) = q.endpoint :: asked answers queries := by
  have hfails : q.fails answers = false := by rw [fails, h, Option.isSome_none]
  rw [asked, List.findIdx_cons, hfails]
  simp [asked]

theorem firstFailure?_cons_of_failure {q : Query} {error : FetchError}
    (h : q.failure? answers = some error) (queries : List Query) :
    firstFailure? answers (q :: queries) = some error := by
  rw [firstFailure?, List.findSome?_cons, h]

theorem firstFailure?_cons_of_value {q : Query} (h : q.failure? answers = none)
    (queries : List Query) :
    firstFailure? answers (q :: queries) = firstFailure? answers queries := by
  rw [firstFailure?, List.findSome?_cons, h, firstFailure?]

theorem failure?_eq_none_iff {q : Query} :
    q.failure? answers = none ↔
      ∃ body value, answers q.endpoint = .ok body ∧ q.shape.decode body.settled = .ok value := by
  unfold failure?
  cases answers q.endpoint with
  | error error => simp
  | ok body => cases hdecode : q.shape.decode body.settled <;> simp [hdecode]

/-- No query fails just if each of them gets a body that fits. -/
theorem firstFailure?_eq_none_iff {queries : List Query} :
    firstFailure? answers queries = none ↔
      ∀ q ∈ queries, ∃ body value, answers q.endpoint = .ok body ∧
        q.shape.decode body.settled = .ok value := by
  rw [firstFailure?, List.findSome?_eq_none_iff]
  exact forall₂_congr fun q _ => failure?_eq_none_iff

end Query

namespace Dialogue

variable {α β : Type} {answers : Endpoint → Answer}

/-- The dialogue makes the queries in order and goes on from their values. -/
inductive Reads : List Query → Dialogue α → Prop where
  | done (a : α) : Reads [] (.done a)
  | note (event : Event) {queries : List Query} {d : Dialogue α} (h : Reads queries d) :
      Reads queries (.note event d)
  | get (q : Query) {queries : List Query} {f : q.shape.Value → Dialogue α}
      (h : ∀ value, Reads queries (f value)) :
      Reads (q :: queries) ((Dialogue.get q.shape q.endpoint).bind f)

theorem Reads.bind {queries queries' : List Query} {d : Dialogue α} {f : α → Dialogue β}
    (hd : Reads queries d) (hf : ∀ a, Reads queries' (f a)) :
    Reads (queries ++ queries') (d.bind f) := by
  induction hd with
  | done a => exact hf a
  | note event _ ih => exact .note event ih
  | get q _ ih =>
      rw [bind_assoc]
      exact .get q ih

theorem Reads.noteAll (events : List Event) : Reads [] (noteAll events) := by
  induction events with
  | nil => exact .done ()
  | cons event events ih => exact .note event ih

theorem run_get_of_failure {q : Query} {error : FetchError}
    (h : q.failure? answers = some error) :
    (get q.shape q.endpoint).run (.ofAnswers answers) =
      ⟨.failed (.fetch error), [q.endpoint], []⟩ := by
  rw [get, fetch, run, Fetcher.ofAnswers]
  unfold Query.failure? Json.settled at h
  cases hanswer : answers q.endpoint with
  | error error' =>
      rw [hanswer] at h
      cases h
      rfl
  | ok body =>
      rw [hanswer] at h
      dsimp only at h ⊢
      cases hbody : q.shape.decode body.canonical.dropNulls with
      | ok value => rw [hbody] at h; cases h
      | error fault => rw [hbody] at h; cases h; rfl

theorem exists_run_get_of_value {q : Query} (h : q.failure? answers = none) :
    ∃ value, (get q.shape q.endpoint).run (.ofAnswers answers) =
      ⟨.done value, [q.endpoint], []⟩ := by
  obtain ⟨body, value, hanswer, hvalue⟩ := Query.failure?_eq_none_iff.mp h
  have hreply : Fetcher.ofAnswers answers q.endpoint = .answer (.ok body) := by
    rw [Fetcher.ofAnswers, hanswer]
  exact ⟨value, run_get_of_decode hreply hvalue⟩

/-- The calls are those of the queries up to the first that fails. -/
theorem Reads.calls {queries : List Query} {d : Dialogue α} (h : Reads queries d) :
    (d.run (.ofAnswers answers)).calls = Query.asked answers queries := by
  induction h with
  | done a => rfl
  | note event _ ih => exact ih
  | get q _ ih =>
      rw [run_bind]
      cases hfailure : q.failure? answers with
      | some error =>
          rw [run_get_of_failure hfailure, Query.asked_cons_of_failure hfailure]
          rfl
      | none =>
          obtain ⟨value, hrun⟩ := exists_run_get_of_value hfailure
          rw [hrun, Query.asked_cons_of_value hfailure, ← ih value]
          rfl

theorem Reads.ending_of_failure {queries : List Query} {d : Dialogue α} (h : Reads queries d)
    {error : FetchError} (herror : Query.firstFailure? answers queries = some error) :
    (d.run (.ofAnswers answers)).ending = .failed (.fetch error) := by
  induction h with
  | done a => cases herror
  | note event _ ih => exact ih herror
  | get q _ ih =>
      rw [run_bind]
      cases hfailure : q.failure? answers with
      | some error' =>
          rw [Query.firstFailure?_cons_of_failure hfailure] at herror
          cases herror
          rw [run_get_of_failure hfailure]
          rfl
      | none =>
          rw [Query.firstFailure?_cons_of_value hfailure] at herror
          obtain ⟨value, hrun⟩ := exists_run_get_of_value hfailure
          rw [hrun]
          exact ih value herror

theorem Reads.ending_of_values {queries : List Query} {d : Dialogue α} (h : Reads queries d)
    (hvalues : Query.firstFailure? answers queries = none) :
    ∃ a, (d.run (.ofAnswers answers)).ending = .done a := by
  induction h with
  | done a => exact ⟨a, rfl⟩
  | note event _ ih => exact ih hvalues
  | get q _ ih =>
      rw [run_bind]
      cases hfailure : q.failure? answers with
      | some error =>
          rw [Query.firstFailure?_cons_of_failure hfailure] at hvalues
          cases hvalues
      | none =>
          rw [Query.firstFailure?_cons_of_value hfailure] at hvalues
          obtain ⟨value, hrun⟩ := exists_run_get_of_value hfailure
          rw [hrun]
          exact ih value hvalues

/-- A dialogue whose queries all get bodies that fit makes all of them and is done. -/
theorem Reads.exists_run_eq {queries : List Query} {d : Dialogue α} (h : Reads queries d)
    {f : Fetcher} (hbodies : ∀ q ∈ queries, ∃ body value,
      f q.endpoint = .answer (.ok body) ∧ q.shape.decode body.settled = .ok value) :
    ∃ a events, d.run f = ⟨.done a, queries.map Query.endpoint, events⟩ := by
  induction h with
  | done a => exact ⟨a, [], rfl⟩
  | note event _ ih =>
      obtain ⟨a, events, hrun⟩ := ih hbodies
      exact ⟨a, event :: events, by rw [run, hrun]; rfl⟩
  | get q _ ih =>
      obtain ⟨⟨body, value, hreply, hvalue⟩, hrest⟩ := List.forall_mem_cons.mp hbodies
      obtain ⟨a, events, hrun⟩ := ih value hrest
      have hget := run_get_of_decode hreply hvalue
      refine ⟨a, events, ?_⟩
      rw [run_bind_of_done (congrArg Transcript.ending hget), hget, hrun]
      rfl

/-! ### Replies that come to the same -/

theorem run_get_of_sameFor {f g : Fetcher} {shape : Shape} {endpoint : Endpoint}
    (h : (f endpoint).SameFor shape (g endpoint)) :
    (get shape endpoint).run g = (get shape endpoint).run f := by
  rw [get, fetch, run, run]
  generalize f endpoint = reply at h
  generalize g endpoint = reply' at h
  cases h with
  | crash => rfl
  | error e => rfl
  | body h =>
      unfold Json.settled at h
      dsimp only
      rw [h]
      cases shape.decode _ <;> rfl

theorem Reads.run_eq_of_sameFor {f g : Fetcher} {queries : List Query} {d : Dialogue α}
    (hd : Reads queries d) (h : ∀ q ∈ queries, (f q.endpoint).SameFor q.shape (g q.endpoint)) :
    d.run g = d.run f := by
  induction hd with
  | done a => rfl
  | note event _ ih => rw [run, run, ih h]
  | get q _ ih =>
      obtain ⟨hq, hrest⟩ := List.forall_mem_cons.mp h
      exact run_bind_congr (run_get_of_sameFor hq) fun value => ih value hrest

end Dialogue

end FirewallExporter
