import FirewallExporter.Probe.Catalogue

/-!
What the run of a dialogue comes to: how it goes through the parts the dialogue
is made of, what holds of its result and of its calls whatever the device
answers, and that it depends on nothing but the answers to its own calls.
-/

namespace FirewallExporter

namespace Transcript

variable {α β : Type}

/-- A transcript with its ending replaced. -/
def withEnding (t : Transcript α) (ending : Ending β) : Transcript β :=
  { ending, calls := t.calls, events := t.events }

/-- What went on before `t`, and then `t`. -/
def after (t : Transcript β) (calls : List Endpoint) (events : List Event) : Transcript β :=
  { ending := t.ending, calls := calls ++ t.calls, events := events ++ t.events }

@[simp] theorem addCall_ending (e : Endpoint) (t : Transcript α) :
    (t.addCall e).ending = t.ending := rfl

@[simp] theorem addCall_calls (e : Endpoint) (t : Transcript α) :
    (t.addCall e).calls = e :: t.calls := rfl

@[simp] theorem addEvent_ending (e : Event) (t : Transcript α) :
    (t.addEvent e).ending = t.ending := rfl

@[simp] theorem addEvent_calls (e : Event) (t : Transcript α) :
    (t.addEvent e).calls = t.calls := rfl

@[simp] theorem after_ending (t : Transcript α) (calls : List Endpoint) (events : List Event) :
    (t.after calls events).ending = t.ending := rfl

@[simp] theorem after_calls (t : Transcript α) (calls : List Endpoint) (events : List Event) :
    (t.after calls events).calls = calls ++ t.calls := rfl

end Transcript

namespace Dialogue

variable {α β : Type} {fetcher : Fetcher}

/-! ### Runs of composed dialogues -/

theorem run_ask_answer {endpoint : Endpoint} {answer : Answer} (next : Answer → Dialogue α)
    (h : fetcher endpoint = .answer answer) :
    (ask endpoint next).run fetcher = ((next answer).run fetcher).addCall endpoint := by
  rw [run, h]

theorem run_ask_crash {endpoint : Endpoint} (next : Answer → Dialogue α)
    (h : fetcher endpoint = .crash) :
    (ask endpoint next).run fetcher = ⟨.crashed, [endpoint], []⟩ := by
  rw [run, h]

/-- What comes after a dialogue is carried out just if the dialogue is done. -/
theorem run_bind (d : Dialogue α) (f : α → Dialogue β) :
    (d.bind f).run fetcher =
      match (d.run fetcher).ending with
      | .done a => ((f a).run fetcher).after (d.run fetcher).calls (d.run fetcher).events
      | .failed error => (d.run fetcher).withEnding (.failed error)
      | .crashed => (d.run fetcher).withEnding .crashed := by
  induction d with
  | done a => rfl
  | fail error => rfl
  | crash => rfl
  | ask e next ih =>
      cases hreply : fetcher e with
      | crash =>
          rw [bind, run_ask_crash _ hreply, run_ask_crash _ hreply]
          rfl
      | answer answer =>
          rw [bind, run_ask_answer _ hreply, run_ask_answer _ hreply, ih answer,
            Transcript.addCall_ending]
          split <;> rfl
  | note e next ih =>
      rw [bind, run, run, ih, Transcript.addEvent_ending]
      split <;> rfl

theorem run_bind_of_done {d : Dialogue α} {a : α}
    (h : (d.run fetcher).ending = .done a) (f : α → Dialogue β) :
    (d.bind f).run fetcher =
      ((f a).run fetcher).after (d.run fetcher).calls (d.run fetcher).events := by
  rw [run_bind, h]

theorem run_bind_of_not_done {d : Dialogue α} (h : ∀ a, (d.run fetcher).ending ≠ .done a)
    (f : α → Dialogue β) :
    ((d.bind f).run fetcher).calls = (d.run fetcher).calls ∧
      ∀ b, ((d.bind f).run fetcher).ending ≠ .done b := by
  rw [run_bind]
  cases hending : (d.run fetcher).ending with
  | done a => exact absurd hending (h a)
  | failed error => exact ⟨rfl, nofun⟩
  | crashed => exact ⟨rfl, nofun⟩

theorem ending_run_bind_iff {d : Dialogue α} {f : α → Dialogue β} {b : β} :
    ((d.bind f).run fetcher).ending = .done b ↔
      ∃ a, (d.run fetcher).ending = .done a ∧ ((f a).run fetcher).ending = .done b := by
  rw [run_bind]
  cases (d.run fetcher).ending <;> simp [Transcript.withEnding]

/-- What is made of the result takes no calls. -/
theorem calls_run_bind_done (d : Dialogue α) (f : α → β) :
    ((d.bind fun a => done (f a)).run fetcher).calls = (d.run fetcher).calls := by
  rw [run_bind]
  cases (d.run fetcher).ending with
  | done a => exact List.append_nil _
  | failed error => rfl
  | crashed => rfl

/-- A failure becomes a result; nothing else changes. -/
theorem run_attempt (d : Dialogue α) :
    d.attempt.run fetcher = (d.run fetcher).withEnding
      (match (d.run fetcher).ending with
        | .done a => .done (.ok a)
        | .failed e => .done (.error e)
        | .crashed => .crashed) := by
  induction d with
  | done a => rfl
  | fail e => rfl
  | crash => rfl
  | ask e next ih =>
      cases hreply : fetcher e with
      | crash =>
          rw [attempt, run_ask_crash _ hreply, run_ask_crash _ hreply]
          rfl
      | answer answer =>
          rw [attempt, run_ask_answer _ hreply, run_ask_answer _ hreply, ih answer]
          rfl
  | note e next ih =>
      rw [attempt, run, run, ih]
      rfl

theorem run_noteAll_bind (events : List Event) (d : Dialogue α) :
    ((noteAll events).bind fun _ => d).run fetcher = (d.run fetcher).after [] events := by
  induction events with
  | nil => rfl
  | cons event events ih =>
      rw [noteAll, bind, run, ih]
      rfl

theorem calls_run_get (fetcher : Fetcher) (shape : Shape) (endpoint : Endpoint) :
    ((get shape endpoint).run fetcher).calls = [endpoint] := by
  rw [get, fetch]
  cases hreply : fetcher endpoint with
  | crash => rw [run_ask_crash _ hreply]
  | answer answer =>
      rw [run_ask_answer _ hreply]
      cases answer with
      | error error => rfl
      | ok body => dsimp only; split <;> rfl

theorem run_get_of_decode {shape : Shape} {endpoint : Endpoint} {body : Json}
    {value : shape.Value} (hreply : fetcher endpoint = .answer (.ok body))
    (hvalue : shape.decode body.canonical.dropNulls = .ok value) :
    (get shape endpoint).run fetcher = ⟨.done value, [endpoint], []⟩ := by
  simp only [get, fetch, run, hreply, hvalue]
  rfl

theorem ending_run_get_iff {shape : Shape} {endpoint : Endpoint} {value : shape.Value} :
    ((get shape endpoint).run fetcher).ending = .done value ↔
      ∃ body, fetcher endpoint = .answer (.ok body) ∧
        shape.decode body.canonical.dropNulls = .ok value := by
  constructor
  · intro h
    rw [get, fetch] at h
    cases hreply : fetcher endpoint with
    | crash => rw [run_ask_crash _ hreply] at h; cases h
    | answer answer =>
        rw [run_ask_answer _ hreply] at h
        cases answer with
        | error error => cases h
        | ok body =>
            refine ⟨body, rfl, ?_⟩
            dsimp only at h
            cases hvalue : shape.decode body.canonical.dropNulls with
            | error fault => rw [hvalue] at h; cases h
            | ok value' => rw [hvalue] at h; cases h; rfl
  · rintro ⟨body, hreply, hvalue⟩
    rw [run_get_of_decode hreply hvalue]

/-! ### Dependence on the answers -/

/-- A run sees no answer but those to its own calls. -/
theorem run_congr {d : Dialogue α} {f g : Fetcher}
    (h : ∀ e ∈ (d.run f).calls, f e = g e) : d.run g = d.run f := by
  induction d with
  | done a => rfl
  | fail e => rfl
  | crash => rfl
  | ask e next ih =>
      cases hreply : f e with
      | crash =>
          rw [run_ask_crash _ hreply] at h ⊢
          -- `e` is among the calls, so `g` gives the same reply
          exact run_ask_crash next (by rw [← h e (by simp), hreply])
      | answer answer =>
          rw [run_ask_answer _ hreply] at h ⊢
          rw [run_ask_answer next (by rw [← h e (by simp), hreply])]
          rw [ih answer fun e' he' => h e' (List.mem_cons_of_mem _ he')]
  | note e next ih => rw [run, run, ih h]

section Congruence

variable {f g : Fetcher}

theorem run_bind_congr {d : Dialogue α} {k : α → Dialogue β} (hd : d.run g = d.run f)
    (hk : ∀ a, (k a).run g = (k a).run f) : (d.bind k).run g = (d.bind k).run f := by
  rw [run_bind, run_bind, hd]
  cases (d.run f).ending with
  | done a => dsimp only; rw [hk a]
  | failed error => rfl
  | crashed => rfl

theorem run_attempt_congr {d : Dialogue α} (hd : d.run g = d.run f) :
    d.attempt.run g = d.attempt.run f := by
  rw [run_attempt, run_attempt, hd]

end Congruence

/-! ### What holds whatever the device answers -/

/-- Every value the dialogue can end with has the property. -/
def Yields (P : α → Prop) : Dialogue α → Prop
  | done a => P a
  | fail _ => True
  | crash => True
  | ask _ next => ∀ answer, (next answer).Yields P
  | note _ next => next.Yields P

/-- Every endpoint the dialogue can ask has the property. -/
def Asks (P : Endpoint → Prop) : Dialogue α → Prop
  | done _ => True
  | fail _ => True
  | crash => True
  | ask endpoint next => P endpoint ∧ ∀ answer, (next answer).Asks P
  | note _ next => next.Asks P

theorem Yields.bind {P : α → Prop} {Q : β → Prop} {d : Dialogue α} {f : α → Dialogue β}
    (hd : d.Yields P) (hf : ∀ a, P a → (f a).Yields Q) : (d.bind f).Yields Q := by
  induction d with
  | done a => exact hf a hd
  | fail e => trivial
  | crash => trivial
  | ask e next ih => exact fun answer => ih answer (hd answer)
  | note e next ih => exact ih hd

theorem Yields.of_forall {P : α → Prop} (h : ∀ a, P a) (d : Dialogue α) : d.Yields P := by
  induction d with
  | done a => exact h a
  | fail e => trivial
  | crash => trivial
  | ask e next ih => exact ih
  | note e next ih => exact ih

theorem Yields.mono {P Q : α → Prop} {d : Dialogue α} (hd : d.Yields P)
    (h : ∀ a, P a → Q a) : d.Yields Q := by
  induction d with
  | done a => exact h a hd
  | fail e => trivial
  | crash => trivial
  | ask e next ih => exact fun answer => ih answer (hd answer)
  | note e next ih => exact ih hd

/-- After a body is read, only its value counts. -/
theorem Yields.of_get {shape : Shape} {endpoint : Endpoint} {P : α → Prop}
    {f : shape.Value → Dialogue α} (hf : ∀ value, (f value).Yields P) :
    ((get shape endpoint).bind f).Yields P :=
  Yields.bind (P := fun _ => True) (Yields.of_forall (fun _ => trivial) _) fun value _ => hf value

theorem Yields.attempt {P : α → Prop} {d : Dialogue α} (hd : d.Yields P) :
    d.attempt.Yields fun result => ∀ a, result = .ok a → P a := by
  induction d with
  | done a => exact fun b hb => Except.ok.inj hb ▸ hd
  | fail e => exact nofun
  | crash => trivial
  | ask e next ih => exact fun answer => ih answer (hd answer)
  | note e next ih => exact ih hd

theorem Yields.ending {P : α → Prop} {d : Dialogue α} (hd : d.Yields P) {a : α}
    (h : (d.run fetcher).ending = .done a) : P a := by
  induction d with
  | done b => cases h; exact hd
  | fail e => cases h
  | crash => cases h
  | ask e next ih =>
      cases hreply : fetcher e with
      | crash => rw [run_ask_crash _ hreply] at h; cases h
      | answer answer =>
          rw [run_ask_answer _ hreply] at h
          exact ih answer (hd answer) h
  | note e next ih => exact ih hd h

theorem Asks.bind {P : Endpoint → Prop} {d : Dialogue α} {f : α → Dialogue β}
    (hd : d.Asks P) (hf : ∀ a, (f a).Asks P) : (d.bind f).Asks P := by
  induction d with
  | done a => exact hf a
  | fail e => trivial
  | crash => trivial
  | ask e next ih => exact ⟨hd.1, fun answer => ih answer (hd.2 answer)⟩
  | note e next ih => exact ih hd

theorem Asks.get {P : Endpoint → Prop} {shape : Shape} {endpoint : Endpoint} (h : P endpoint) :
    (Dialogue.get shape endpoint).Asks P := by
  refine ⟨h, fun answer => ?_⟩
  cases answer with
  | error e => trivial
  | ok body => dsimp only; split <;> trivial

theorem Asks.attempt {P : Endpoint → Prop} {d : Dialogue α} (hd : d.Asks P) :
    d.attempt.Asks P := by
  induction d with
  | done a => trivial
  | fail e => trivial
  | crash => trivial
  | ask e next ih => exact ⟨hd.1, fun answer => ih answer (hd.2 answer)⟩
  | note e next ih => exact ih hd

theorem Asks.noteAll {P : Endpoint → Prop} (events : List Event) : (noteAll events).Asks P := by
  induction events with
  | nil => trivial
  | cons e events ih => exact ih

theorem Asks.calls {P : Endpoint → Prop} {d : Dialogue α} (hd : d.Asks P) :
    ∀ e ∈ (d.run fetcher).calls, P e := by
  induction d with
  | done a => exact nofun
  | fail e => exact nofun
  | crash => exact nofun
  | ask e next ih =>
      cases hreply : fetcher e with
      | crash =>
          rw [run_ask_crash _ hreply]
          intro e' he'
          rw [List.mem_singleton.mp he']
          exact hd.1
      | answer answer =>
          rw [run_ask_answer _ hreply]
          intro e' he'
          rcases List.mem_cons.mp he' with rfl | he'
          · exact hd.1
          · exact ih answer (hd.2 answer) e' he'
  | note e next ih => exact ih hd

/-! ### Dialogues about one capability -/

section Resolved

variable {c : Capability} {v : Version} {shape : Shape} {f : shape.Value → α} {other : Dialogue α}

/-- A dialogue that asks where a capability is served, and then ends. -/
theorem yields_resolved {P : α → Prop} (hother : other.Yields P) (hf : ∀ value, P (f value)) :
    (match c.resolve v with
      | none => other
      | some endpoint => (get shape endpoint).bind fun value => .done (f value)).Yields P := by
  split
  · exact hother
  · exact .of_get hf

theorem run_resolved {endpoint : Endpoint} {body : Json} {value : shape.Value}
    (hendpoint : c.resolve v = some endpoint) (hreply : fetcher endpoint = .answer (.ok body))
    (hvalue : shape.decode body.canonical.dropNulls = .ok value) :
    (match c.resolve v with
      | none => other
      | some endpoint => (get shape endpoint).bind fun value => .done (f value)).run fetcher =
        ⟨.done (f value), [endpoint], []⟩ := by
  have hrun := run_get_of_decode hreply hvalue
  rw [hendpoint]
  dsimp only
  rw [run_bind_of_done (by rw [hrun]), hrun]
  rfl

theorem asks_resolved {P : Endpoint → Prop} (hother : other.Asks P)
    (hP : ∀ e, c.resolve v = some e → P e) :
    (match c.resolve v with
      | none => other
      | some endpoint => (get shape endpoint).bind fun value => .done (f value)).Asks P := by
  split
  · exact hother
  · next h => exact .bind (.get (hP _ h)) fun _ => trivial

end Resolved

end Dialogue

end FirewallExporter
