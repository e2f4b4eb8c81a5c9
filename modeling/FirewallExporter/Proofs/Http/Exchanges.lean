import FirewallExporter.Proofs.Http.Requests

/-!
How a call comes out. An exchange that is left all the time it needs ends in one of
a few ways and after a certain delay, or it does not end at all. The answer is that
of the end if it comes within the timeout, and else that the time is over.
-/

namespace FirewallExporter

namespace Eventually

variable {α : Type} {left delay : Nat} {x : α}

theorem within_after (h : delay ≤ left) : (after delay x).within left = some (x, left - delay) :=
  if_pos h

theorem within_eq_some {ev : Eventually α} {left' : Nat} (h : ev.within left = some (x, left')) :
    ∃ delay ≤ left, ev = .after delay x ∧ left' = left - delay := by
  cases ev with
  | never => cases h
  | after delay y =>
      by_cases hdelay : delay ≤ left
      · rw [within_after hdelay] at h
        cases h
        exact ⟨delay, hdelay, rfl, rfl⟩
      · rw [within, if_neg hdelay] at h
        cases h

end Eventually

namespace Client

variable {network : Network} {c : Client} {e : Endpoint}

/-! ### How exchanges end -/

/-- How an exchange ends. -/
inductive Finish where
  | refused
  | unwritable
  | broken
  | rejected (status : Nat)
  | cutOff
  | unreadable
  | read (body : Json)

namespace Finish

def answer (path : String) : Finish → Answer
  | refused => .error (.transport path "connection refused")
  | unwritable => .error (.transport path "invalid request")
  | broken => .error (.transport path "connection error")
  | rejected status => .error (.status path status)
  | cutOff => .error (.transport path "error reading a body from connection")
  | unreadable => .error (.decode path .notJson)
  | read body => .ok body

/-- The connection, the request or the transfer of the body fails. -/
def InTransport (f : Finish) : Prop := f = refused ∨ f = unwritable ∨ f = broken ∨ f = cutOff

variable {path : String} {f : Finish}

theorem answer_eq_ok_iff {body : Json} : f.answer path = .ok body ↔ f = read body := by
  cases f <;> simp [answer]

theorem answer_eq_status_iff {code : Nat} :
    f.answer path = .error (.status path code) ↔ f = rejected code := by
  cases f <;> simp [answer]

theorem exists_answer_eq_decode_iff :
    (∃ fault, f.answer path = .error (.decode path fault)) ↔ f = unreadable := by
  cases f <;> simp [answer]

theorem exists_answer_eq_transport_iff :
    (∃ reason, f.answer path = .error (.transport path reason)) ↔ f.InTransport := by
  cases f <;> simp [answer, InTransport]

theorem path_of_answer {error : FetchError} (h : f.answer path = .error error) :
    error.path = path := by
  cases f <;> cases h <;> rfl

end Finish

def IsSuccessful (status : Nat) : Prop := 200 ≤ status ∧ status ≤ 299

/-- The bytes are those of a JSON text with this value. -/
def Spells (bytes : ByteArray) (body : Json) : Prop :=
  ∃ text : String, text.toUTF8 = bytes ∧ Json.parse? text = some body

theorem fromUTF8?_eq_some_iff {bytes : ByteArray} {text : String} :
    String.fromUTF8? bytes = some text ↔ text.toUTF8 = bytes := by
  constructor
  · intro h
    unfold String.fromUTF8? at h
    split at h
    · cases h
      rfl
    · cases h
  · rintro rfl
    exact dif_pos text.isValidUTF8

theorem parseBody?_eq_some_iff {bytes : ByteArray} {body : Json} :
    parseBody? bytes = some body ↔ Spells bytes body := by
  simp only [parseBody?, Option.bind_eq_some_iff, fromUTF8?_eq_some_iff, Spells]

theorem parseBody?_eq_none_iff {bytes : ByteArray} :
    parseBody? bytes = none ↔ ∀ body, ¬Spells bytes body := by
  simp only [Option.eq_none_iff_forall_ne_some, ne_eq, parseBody?_eq_some_iff]

theorem Spells.unique {bytes : ByteArray} {body body' : Json} (h : Spells bytes body)
    (h' : Spells bytes body') : body = body' :=
  Option.some.inj ((parseBody?_eq_some_iff.mpr h).symm.trans (parseBody?_eq_some_iff.mpr h'))

/-- How an exchange ends after a response, so much time later. -/
inductive Ends : Reaction → Nat → Finish → Prop where
  | broken : Ends .broken 0 .broken
  /-- The body is not waited for. -/
  | rejected {status : Nat} {body : Eventually BodyEnd} (h : ¬IsSuccessful status) :
      Ends (.head status body) 0 (.rejected status)
  | cutOff {status reading : Nat} (h : IsSuccessful status) :
      Ends (.head status (.after reading .cutOff)) reading .cutOff
  | unreadable {status reading : Nat} {bytes : ByteArray} (h : IsSuccessful status)
      (hbytes : ∀ body, ¬Spells bytes body) :
      Ends (.head status (.after reading (.complete bytes))) reading .unreadable
  | read {status reading : Nat} {bytes : ByteArray} {body : Json} (h : IsSuccessful status)
      (hbytes : Spells bytes body) :
      Ends (.head status (.after reading (.complete bytes))) reading (.read body)

/-- The exchange ends so much time after its start, as long as it is not given up before. -/
inductive Finishes (network : Network) (c : Client) (e : Endpoint) : Nat → Finish → Prop where
  | refused {delay : Nat} (h : network c.address = .after delay .refused) :
      Finishes network c e delay .refused
  | unwritable {delay : Nat} {react : Request → Eventually Reaction}
      (h : network c.address = .after delay (.established react))
      (hrequest : ∀ request, ¬Written c e request) : Finishes network c e delay .unwritable
  | answered {connecting reacting reading : Nat} {react : Request → Eventually Reaction}
      {request : Request} {reaction : Reaction} {finish : Finish}
      (h : network c.address = .after connecting (.established react))
      (hrequest : Written c e request) (hreact : react request = .after reacting reaction)
      (hends : Ends reaction reading finish) :
      Finishes network c e (connecting + reacting + reading) finish

theorem isSuccess_iff {status : Nat} : isSuccess status = true ↔ IsSuccessful status := by
  simp [isSuccess, IsSuccessful]

section Responses

variable {reaction : Reaction} {reading left : Nat} {finish : Finish} {path : String}

theorem Ends.unique {reading' : Nat} {finish' : Finish} (h : Ends reaction reading finish)
    (h' : Ends reaction reading' finish') : reading = reading' ∧ finish = finish' := by
  cases h with
  | broken => cases h'; exact ⟨rfl, rfl⟩
  | rejected hstatus =>
      cases h' with
      | rejected _ => exact ⟨rfl, rfl⟩
      | cutOff h | unreadable h _ | read h _ => exact absurd h hstatus
  | cutOff hstatus =>
      cases h' with
      | rejected h => exact absurd hstatus h
      | cutOff _ => exact ⟨rfl, rfl⟩
  | unreadable hstatus hbytes =>
      cases h' with
      | rejected h => exact absurd hstatus h
      | unreadable _ _ => exact ⟨rfl, rfl⟩
      | read _ h => exact absurd h (hbytes _)
  | read hstatus hbytes =>
      cases h' with
      | rejected h => exact absurd hstatus h
      | unreadable _ h => exact absurd hbytes (h _)
      | read _ h =>
          cases hbytes.unique h
          exact ⟨rfl, rfl⟩

theorem readReaction_of_successful {status : Nat} {body : Eventually BodyEnd}
    (h : IsSuccessful status) : readReaction path left (.head status body) =
      match body.within left with
      | none => .error (.timeout path)
      | some (bodyEnd, _) => readBody path bodyEnd := by
  rw [readReaction, isSuccess_iff.mpr h]
  rfl

theorem readReaction_of_ends (h : Ends reaction reading finish) (hreading : reading ≤ left) :
    readReaction path left reaction = finish.answer path := by
  cases h with
  | broken => rfl
  | rejected h =>
      rw [readReaction, if_pos (by simpa [← isSuccess_iff] using h)]
      rfl
  | cutOff h =>
      rw [readReaction_of_successful h, Eventually.within_after hreading]
      rfl
  | unreadable h hbytes =>
      simp only [readReaction_of_successful h, Eventually.within_after hreading, readBody,
        parseBody?_eq_none_iff.mpr hbytes]
      rfl
  | read h hbytes =>
      simp only [readReaction_of_successful h, Eventually.within_after hreading, readBody,
        parseBody?_eq_some_iff.mpr hbytes]
      rfl

theorem readReaction_timeout_or_ends (path : String) (left : Nat) (reaction : Reaction) :
    readReaction path left reaction = .error (.timeout path) ∨
      ∃ reading ≤ left, ∃ finish, Ends reaction reading finish := by
  cases reaction with
  | broken => exact .inr ⟨0, left.zero_le, _, .broken⟩
  | head status body =>
      by_cases h : IsSuccessful status
      · cases hbody : body.within left with
        | none =>
            rw [readReaction_of_successful h, hbody]
            exact .inl rfl
        | some found =>
            obtain ⟨bodyEnd, rest⟩ := found
            obtain ⟨reading, hreading, rfl, -⟩ := Eventually.within_eq_some hbody
            cases bodyEnd with
            | cutOff => exact .inr ⟨reading, hreading, _, .cutOff h⟩
            | complete bytes =>
                cases hbytes : parseBody? bytes with
                | none =>
                    have hnone := parseBody?_eq_none_iff.mp hbytes
                    exact .inr ⟨reading, hreading, _, .unreadable h hnone⟩
                | some body =>
                    have hspells := parseBody?_eq_some_iff.mp hbytes
                    exact .inr ⟨reading, hreading, _, .read h hspells⟩
      · exact .inr ⟨0, left.zero_le, _, .rejected h⟩

end Responses

section Answers

variable {delay : Nat} {react : Request → Eventually Reaction} {request : Request}

theorem exchange_of_connected {connection : Connection}
    (h : network c.address = .after delay connection) (hdelay : delay ≤ c.timeout.inNanoseconds) :
    c.exchange network e = c.converse e (c.timeout.inNanoseconds - delay) connection := by
  rw [exchange, h, Eventually.within_after hdelay]

theorem converse_of_written (hrequest : Written c e request) (left : Nat) :
    c.converse e left (.established react) = answered request
      (match (react request).within left with
      | none => .error (.timeout e.path)
      | some (reaction, left) => readReaction e.path left reaction) := by
  rw [converse, request?_eq_some_iff.mpr hrequest]
  dsimp only
  cases (react request).within left <;> rfl

theorem converse_of_not_written (hrequest : ∀ request, ¬Written c e request) (left : Nat) :
    c.converse e left (.established react) = unsent (.transport e.path "invalid request") := by
  rw [converse, request?_eq_none_iff.mpr hrequest]

/-- Exchanges end in one way at most. -/
theorem Finishes.unique {delay' : Nat} {finish finish' : Finish}
    (h : Finishes network c e delay finish) (h' : Finishes network c e delay' finish') :
    delay = delay' ∧ finish = finish' := by
  cases h with
  | refused h =>
      cases h' with
      | refused h' =>
          cases h.symm.trans h'
          exact ⟨rfl, rfl⟩
      | unwritable h' _ | answered h' _ _ _ => cases h.symm.trans h'
  | unwritable h hrequest =>
      cases h' with
      | refused h' => cases h.symm.trans h'
      | unwritable h' _ =>
          cases h.symm.trans h'
          exact ⟨rfl, rfl⟩
      | answered _ hrequest' _ _ => exact absurd hrequest' (hrequest _)
  | answered h hrequest hreact hends =>
      cases h' with
      | refused h' => cases h.symm.trans h'
      | unwritable _ hrequest' => exact absurd hrequest (hrequest' _)
      | answered h' hrequest' hreact' hends' =>
          cases h.symm.trans h'
          cases hrequest.unique hrequest'
          cases hreact.symm.trans hreact'
          obtain ⟨rfl, rfl⟩ := hends.unique hends'
          exact ⟨rfl, rfl⟩

/-- The answer to an exchange that ends in time is that of its end. -/
theorem Finishes.answer_eq {finish : Finish} (h : Finishes network c e delay finish)
    (hdelay : delay ≤ c.timeout.inNanoseconds) :
    (c.exchange network e).answer = finish.answer e.path := by
  cases h with
  | refused h =>
      rw [exchange_of_connected h hdelay]
      rfl
  | unwritable h hrequest =>
      rw [exchange_of_connected h hdelay, converse_of_not_written hrequest]
      rfl
  | @answered connecting reacting reading _ _ _ _ h hrequest hreact hends =>
      have hreacting : reacting ≤ c.timeout.inNanoseconds - connecting := by omega
      have hreading : reading ≤ c.timeout.inNanoseconds - connecting - reacting := by omega
      rw [exchange_of_connected h (by omega), converse_of_written hrequest, hreact,
        Eventually.within_after hreacting]
      exact readReaction_of_ends hends hreading

/-- An exchange that does not end in time is given up. -/
theorem timeout_or_finishes (network : Network) (c : Client) (e : Endpoint) :
    (c.exchange network e).answer = .error (.timeout e.path) ∨
      ∃ delay ≤ c.timeout.inNanoseconds, ∃ finish, Finishes network c e delay finish := by
  -- At each step of the call the time is over, the exchange ends, or the next step begins.
  cases hconnect : (network c.address).within c.timeout.inNanoseconds with
  | none =>
      rw [exchange, hconnect]
      exact .inl rfl
  | some found =>
      obtain ⟨connection, left⟩ := found
      obtain ⟨connecting, hconnecting, h, -⟩ := Eventually.within_eq_some hconnect
      rw [exchange_of_connected h hconnecting]
      cases connection with
      | refused => exact .inr ⟨connecting, hconnecting, _, .refused h⟩
      | established react =>
          cases hrequest : c.request? e with
          | none =>
              have hnone := request?_eq_none_iff.mp hrequest
              exact .inr ⟨connecting, hconnecting, _, .unwritable h hnone⟩
          | some request =>
              have hwritten := request?_eq_some_iff.mp hrequest
              rw [converse_of_written hwritten]
              cases hreact : (react request).within (c.timeout.inNanoseconds - connecting) with
              | none => exact .inl rfl
              | some found =>
                  obtain ⟨reaction, left⟩ := found
                  obtain ⟨reacting, hreacting, hreaction, rfl⟩ := Eventually.within_eq_some hreact
                  rcases readReaction_timeout_or_ends e.path _ reaction with
                    htimeout | ⟨reading, hreading, finish, hends⟩
                  · exact .inl htimeout
                  · have hall : connecting + reacting + reading ≤ c.timeout.inNanoseconds := by
                      omega
                    exact .inr ⟨_, hall, finish, .answered h hwritten hreaction hends⟩

/-- Any property of answers is that of an end in time, unless it is one of being late. -/
theorem answer_iff {p : Answer → Prop} (hp : ¬p (.error (.timeout e.path))) :
    p (c.exchange network e).answer ↔ ∃ delay ≤ c.timeout.inNanoseconds,
      ∃ finish : Finish, p (finish.answer e.path) ∧ Finishes network c e delay finish := by
  constructor
  · intro h
    rcases timeout_or_finishes network c e with htimeout | ⟨delay, hdelay, finish, hfinish⟩
    · exact absurd (htimeout ▸ h) hp
    · exact ⟨delay, hdelay, finish, hfinish.answer_eq hdelay ▸ h, hfinish⟩
  · rintro ⟨delay, hdelay, finish, hanswer, hfinish⟩
    rwa [hfinish.answer_eq hdelay]

theorem answer_eq_timeout_iff :
    (c.exchange network e).answer = .error (.timeout e.path) ↔
      ∀ delay ≤ c.timeout.inNanoseconds, ∀ finish, ¬Finishes network c e delay finish := by
  constructor
  · intro h delay hdelay finish hfinish
    rw [hfinish.answer_eq hdelay] at h
    cases finish <;> cases h
  · intro h
    rcases timeout_or_finishes network c e with htimeout | ⟨delay, hdelay, finish, hfinish⟩
    · exact htimeout
    · exact absurd hfinish (h delay hdelay finish)

end Answers

theorem fetcher_eq_iff {answer : Answer} :
    c.fetcher network e = .answer answer ↔ (c.exchange network e).answer = answer := by
  rw [fetcher, Reply.answer.injEq]

/-- Each answer is given for one kind of end, as far as that comes in time. -/
structure Classified (network : Network) (c : Client) (e : Endpoint) : Prop where
  once : ∀ delay delay' finish finish', Finishes network c e delay finish →
    Finishes network c e delay' finish' → delay = delay' ∧ finish = finish'
  ok_iff : ∀ body, c.fetcher network e = .answer (.ok body) ↔
    ∃ delay ≤ c.timeout.inNanoseconds, Finishes network c e delay (.read body)
  timeout_iff : c.fetcher network e = .answer (.error (.timeout e.path)) ↔
    ∀ delay ≤ c.timeout.inNanoseconds, ∀ finish, ¬Finishes network c e delay finish
  transport_iff : (∃ reason, c.fetcher network e = .answer (.error (.transport e.path reason))) ↔
    ∃ delay ≤ c.timeout.inNanoseconds,
      ∃ finish : Finish, finish.InTransport ∧ Finishes network c e delay finish
  status_iff : ∀ code, c.fetcher network e = .answer (.error (.status e.path code)) ↔
    ∃ delay ≤ c.timeout.inNanoseconds, Finishes network c e delay (.rejected code)
  decode_iff : (∃ fault, c.fetcher network e = .answer (.error (.decode e.path fault))) ↔
    ∃ delay ≤ c.timeout.inNanoseconds, Finishes network c e delay .unreadable
  /-- There is an answer to every call, and an error has the path that was given. -/
  path : ∃ answer, c.fetcher network e = .answer answer ∧
    ∀ error, answer = .error error → error.path = e.path

theorem sent_converse {left : Nat} {react : Request → Eventually Reaction} :
    (c.converse e left (.established react)).sent = c.request? e := by
  unfold converse
  cases c.request? e with
  | none => rfl
  | some request =>
      dsimp only
      cases (react request).within left <;> rfl

/-- A request is sent over a connection that comes about in time, if it can be written. -/
structure Sends (network : Network) (c : Client) (e : Endpoint) : Prop where
  written_iff : (∃ request, Written c e request) ↔ Writable c e
  sent_iff : ∀ request, c.sent? network e = some request ↔
    (∃ delay ≤ c.timeout.inNanoseconds, ∃ react,
      network c.address = .after delay (.established react)) ∧ Written c e request
  uri : requestUri c.address e.path e.query =
    "http://" ++ c.address ++ joined (withoutSlashes e.path) e.query
  slashes : ∃ slashes, e.path.toList = slashes ++ (withoutSlashes e.path).toList ∧
    (∀ x ∈ slashes, x = '/') ∧ (withoutSlashes e.path).toList.head? ≠ some '/'
  line : ∀ request, c.sent? network e = some request → ∃ p, HasParts c e p ∧
    requestLine request = "GET http://" ++
      String.ofList (p.authority ++ p.sentPath ++ Uri.marked '?' p.query) ++ " HTTP/1.1"
  /-- The URI is sent up to its first number sign, unless the address itself leaves the path
  empty. -/
  sentPart : '?' ∉ c.address.toList → '#' ∉ c.address.toList → ∀ request,
    c.sent? network e = some request → requestLine request =
      "GET " ++ Resource.sentPart (requestUri c.address e.path e.query) ++ " HTTP/1.1"
  /-- The whole URI is sent if there is no number sign in it. -/
  whole : '?' ∉ c.address.toList → '#' ∉ c.address.toList → '#' ∉ e.path.toList →
    '#' ∉ e.query.toList → ∀ request, c.sent? network e = some request →
      requestLine request = "GET " ++ requestUri c.address e.path e.query ++ " HTTP/1.1"
  authorization : ∀ request, c.sent? network e = some request → ∀ value,
    ("authorization", value) ∈ request.headers ↔
      ∃ token, c.token = some token ∧ value = "Bearer " ++ token

theorem classified (network : Network) (c : Client) (e : Endpoint) : Classified network c e where
  once _ _ _ _ := Finishes.unique
  ok_iff body := by
    rw [fetcher_eq_iff, answer_iff (p := (· = .ok body)) nofun]
    simp only [Finish.answer_eq_ok_iff, exists_eq_left]
  timeout_iff := by rw [fetcher_eq_iff, answer_eq_timeout_iff]
  transport_iff := by
    simp only [fetcher_eq_iff]
    rw [answer_iff (p := fun answer => ∃ reason, answer = .error (.transport e.path reason)) nofun]
    simp only [Finish.exists_answer_eq_transport_iff]
  status_iff code := by
    rw [fetcher_eq_iff, answer_iff (p := (· = .error (.status e.path code))) nofun]
    simp only [Finish.answer_eq_status_iff, exists_eq_left]
  decode_iff := by
    simp only [fetcher_eq_iff]
    rw [answer_iff (p := fun answer => ∃ fault, answer = .error (.decode e.path fault)) nofun]
    simp only [Finish.exists_answer_eq_decode_iff, exists_eq_left]
  path := by
    refine ⟨_, rfl, fun error herror => ?_⟩
    rcases timeout_or_finishes network c e with htimeout | ⟨delay, hdelay, finish, hfinish⟩
    · rw [htimeout] at herror
      cases herror
      rfl
    · rw [hfinish.answer_eq hdelay] at herror
      exact Finish.path_of_answer herror

theorem sent?_eq_some_iff {request : Request} : c.sent? network e = some request ↔
    (∃ delay ≤ c.timeout.inNanoseconds, ∃ react,
      network c.address = .after delay (.established react)) ∧ Written c e request := by
  rw [← request?_eq_some_iff]
  constructor
  · intro h
    unfold sent? exchange at h
    cases hconnect : (network c.address).within c.timeout.inNanoseconds with
    | none =>
        rw [hconnect] at h
        cases h
    | some found =>
        obtain ⟨connection, left⟩ := found
        obtain ⟨delay, hdelay, hnetwork, -⟩ := Eventually.within_eq_some hconnect
        rw [hconnect] at h
        cases connection with
        | refused => cases h
        | established react => exact ⟨⟨delay, hdelay, react, hnetwork⟩, sent_converse ▸ h⟩
  · rintro ⟨⟨delay, hdelay, react, hconnect⟩, hrequest⟩
    rw [sent?, exchange_of_connected hconnect hdelay, sent_converse, hrequest]

theorem sends (network : Network) (c : Client) (e : Endpoint) : Sends network c e where
  written_iff := exists_written_iff
  sent_iff _ := sent?_eq_some_iff
  uri := by rw [requestUri_eq, String.append_assoc]
  slashes := exists_slashes e.path
  line _ h := (sent?_eq_some_iff.mp h).2.exists_line
  sentPart hquestion hsign _ h := (sent?_eq_some_iff.mp h).2.requestLine_eq hquestion hsign
  whole hquestion hsign hpath hquery _ h := by
    rw [(sent?_eq_some_iff.mp h).2.requestLine_eq hquestion hsign,
      Resource.sentPart_of_not_mem (not_mem_requestUri hsign hpath hquery)]
  authorization _ h _ := by
    rw [(sent?_eq_some_iff.mp h).2.headers]
    exact mem_headers_iff

/-- A call is settled by how its exchange ends, and by what of that comes in time. -/
theorem call_settled (network : Network) (c : Client) (e : Endpoint) :
    Classified network c e ∧ Sends network c e := ⟨classified network c e, sends network c e⟩

/-- A server that refuses every request, with a body that never comes. -/
def refusingNetwork : Network := fun _ =>
  .after 1 (.established fun _ => .after 1 (.head 403 .never))

def tokenClient : Client where
  address := "192.0.2.1:80"
  token := some "secret"
  timeout := .ofSeconds 1

theorem isAuthority_tokenClient : Authority.IsAuthority "192.0.2.1:80".toList :=
  Authority.isValid_iff.mp <| by
    simp [Authority.isValid, Authority.Scan.step?, Authority.isPlain, Authority.maxColons,
      Authority.Scan.isComplete]

theorem fields_tokenClient : ∀ h ∈ tokenClient.headers, ∀ x ∈ h.2.toList, Wire.IsFieldChar x := by
  simp [tokenClient, headers, product, Wire.IsFieldChar]

theorem written_status : Written tokenClient ⟨"//api/status", "a=b"⟩
    { uri := ⟨"192.0.2.1:80", "/api/status", some "a=b"⟩, headers := tokenClient.headers } where
  size := by decide
  uri := by
    refine ⟨⟨"192.0.2.1:80".toList, "/api/status".toList, some "a=b".toList, none⟩,
      ⟨⟨isAuthority_tokenClient, by simp, ?path, ?query⟩, by decide⟩, by decide⟩
    case path => simp [Resource.IsPathChar]
    case query => simp [Resource.IsQueryChar]
  headers := rfl
  fields := fields_tokenClient

/-- The colons of an IPv6 address need brackets around them. -/
theorem not_written_of_bare_colons (request : Request) :
    ¬Written { tokenClient with address := "::1:80" } ⟨"a", ""⟩ request := by
  rintro ⟨-, ⟨p, ⟨hp, htext⟩, -⟩, -, -⟩
  have hjoined : ("::1:80" ++ joined (withoutSlashes "a") "").toList = "::1:80/a".toList := by
    decide
  have hauthority : p.authority = "::1:80".toList := by
    rw [← hp.delimited.takeWhile_text, htext, hjoined]
    simp [Resource.isHostChar]
  have hcolons := hp.authority.colons
  rw [hauthority] at hcolons
  exact absurd hcolons (by decide)

theorem call_settled_refused :
    tokenClient.fetcher refusingNetwork ⟨"//api/status", "a=b"⟩ =
        .answer (.error (.status "//api/status" 403)) ∧
      (∃ request, tokenClient.sent? refusingNetwork ⟨"//api/status", "a=b"⟩ = some request ∧
        requestLine request = "GET http://192.0.2.1:80/api/status?a=b HTTP/1.1" ∧
        ("authorization", "Bearer secret") ∈ request.headers) ∧
      ∃ reason, fetcher refusingNetwork { tokenClient with address := "::1:80" } ⟨"a", ""⟩ =
        .answer (.error (.transport "a" reason)) := by
  obtain ⟨hclassified, hsends⟩ :=
    call_settled refusingNetwork tokenClient ⟨"//api/status", "a=b"⟩
  have hsent := (hsends.sent_iff _).mpr ⟨⟨1, by decide, _, rfl⟩, written_status⟩
  refine ⟨?_, ⟨_, hsent, ?_, ?_⟩, ?_⟩
  · have hstatus : ¬IsSuccessful 403 := fun h => absurd h.2 (by decide)
    exact (hclassified.status_iff 403).mpr
      ⟨1 + 1 + 0, by decide, .answered rfl written_status rfl (.rejected hstatus)⟩
  · rw [hsends.whole (by decide) (by decide) (by decide) (by decide) _ hsent]
    decide
  · exact (hsends.authorization _ hsent _).mpr ⟨"secret", rfl, rfl⟩
  · obtain ⟨hclassified, -⟩ :=
      call_settled refusingNetwork { tokenClient with address := "::1:80" } ⟨"a", ""⟩
    exact hclassified.transport_iff.mpr
      ⟨1, by decide, .unwritable, .inr (.inl rfl), .unwritable rfl not_written_of_bare_colons⟩

/-- What follows a number sign is not sent, not even the query. -/
theorem exists_part_not_sent :
    ∃ request, tokenClient.sent? refusingNetwork ⟨"a#frag", "q"⟩ = some request ∧
      requestLine request ≠
        "GET " ++ requestUri tokenClient.address "a#frag" "q" ++ " HTTP/1.1" := by
  have hwritten : Written tokenClient ⟨"a#frag", "q"⟩
      { uri := ⟨"192.0.2.1:80", "/a", none⟩, headers := tokenClient.headers } := by
    refine ⟨by decide, ?_, rfl, fields_tokenClient⟩
    refine ⟨⟨"192.0.2.1:80".toList, "/a".toList, none, some "frag?q".toList⟩,
      ⟨⟨isAuthority_tokenClient, by simp, ?path, nofun⟩, by decide⟩, by decide⟩
    simp [Resource.IsPathChar]
  refine ⟨_, sent?_eq_some_iff.mpr ⟨⟨1, by decide, _, rfl⟩, hwritten⟩, ?_⟩
  decide

end Client

end FirewallExporter
