import FirewallExporter.Http.Client
import FirewallExporter.Proofs.Http.Uris

/-!
Which request a client writes for an endpoint, if one can be written at all, and how
much of the URI that is put together for it stands in its first line.
-/

namespace FirewallExporter

def Wire.IsFieldChar (c : Char) : Prop := c = '\t' ∨ (' ' ≤ c ∧ c ≠ '\x7f')

theorem Wire.isFieldChar_iff {c : Char} : isFieldChar c = true ↔ IsFieldChar c := by
  simp [isFieldChar, IsFieldChar]

/-- What stands before the first number sign. -/
def Resource.sentPart (s : String) : String := String.ofList (s.toList.takeWhile (· != '#'))

theorem Resource.sentPart_of_not_mem {s : String} (h : '#' ∉ s.toList) : sentPart s = s := by
  have hall : ∀ x ∈ s.toList, (x != '#') = true := fun x hx =>
    bne_iff_ne.mpr fun heq => h (heq ▸ hx)
  rw [sentPart, List.takeWhile_eq_self_iff.mpr hall, String.ofList_toList]

namespace Client

variable {c : Client} {e : Endpoint} {request : Request}

/-- The path and the query as they are put together after the address. -/
def joined (path query : String) : String :=
  "/" ++ path ++ (if query = "" then "" else "?" ++ query)

theorem pathAndQuery_eq (path query : String) :
    pathAndQuery path query = joined (withoutSlashes path) query := by
  unfold pathAndQuery joined
  by_cases h : query = ""
  · simp [h]
  · simp [h, String.append_assoc]

/-- Slashes are taken off the front of a path as long as there are any. -/
theorem exists_slashes (path : String) :
    ∃ slashes, path.toList = slashes ++ (withoutSlashes path).toList ∧
      (∀ x ∈ slashes, x = '/') ∧ (withoutSlashes path).toList.head? ≠ some '/' := by
  refine ⟨path.toList.takeWhile (· == '/'), ?_, ?_, ?_⟩
  · simp [withoutSlashes]
  · intro x hx
    simpa using List.mem_takeWhile_imp hx
  · intro h
    have hhead := List.head?_dropWhile_not (· == '/') path.toList
    rw [withoutSlashes, String.toList_ofList] at h
    simp [h] at hhead

theorem mem_headers_iff {value : String} : ("authorization", value) ∈ c.headers ↔
    ∃ token, c.token = some token ∧ value = "Bearer " ++ token := by
  unfold headers
  cases c.token with
  | none => simp
  | some token => simp [eq_comm]

/-- These are the parts of the URI that is put together for an endpoint. -/
structure HasParts (c : Client) (e : Endpoint) (p : Uri.Parts) : Prop where
  wellFormed : p.WellFormed
  text : p.text = (c.address ++ joined (withoutSlashes e.path) e.query).toList

/-- The URI is short enough, each of its parts is well-formed, and no control character
stands in what goes into the headers. -/
structure Writable (c : Client) (e : Endpoint) : Prop where
  size : (requestUri c.address e.path e.query).utf8ByteSize ≤ 65534
  parts : ∃ p, HasParts c e p
  address : ∀ x ∈ c.address.toList, Wire.IsFieldChar x
  token : ∀ token, c.token = some token → ∀ x ∈ token.toList, Wire.IsFieldChar x

/-- The request is the one that is written for the endpoint. -/
structure Written (c : Client) (e : Endpoint) (request : Request) : Prop where
  size : (requestUri c.address e.path e.query).utf8ByteSize ≤ 65534
  uri : ∃ p, HasParts c e p ∧ request.uri = p.uri
  headers : request.headers =
    ("host", c.address) :: ("user-agent", "fortid/0.1.0") :: ("accept", "application/json") ::
      (c.token.map fun token => ("authorization", "Bearer " ++ token)).toList
  fields : ∀ h ∈ request.headers, ∀ x ∈ h.2.toList, Wire.IsFieldChar x

theorem requestUri_eq (address path query : String) : requestUri address path query =
    "http://" ++ (address ++ joined (withoutSlashes path) query) := by
  rw [requestUri, pathAndQuery_eq, String.append_assoc]

theorem parse?_requestUri {uri : Uri} :
    Uri.parse? (requestUri c.address e.path e.query) = some uri ↔
      (requestUri c.address e.path e.query).utf8ByteSize ≤ 65534 ∧
        ∃ p, HasParts c e p ∧ uri = p.uri := by
  have hlist : (requestUri c.address e.path e.query).toList =
      'h' :: 't' :: 't' :: 'p' :: ':' :: '/' :: '/' ::
        (c.address ++ joined (withoutSlashes e.path) e.query).toList := by
    rw [requestUri_eq, String.toList_append]
    rfl
  rw [Uri.parse?, hlist, Option.ite_none_right_eq_some]
  change _ ∧ Uri.ofRest? _ = some uri ↔ _
  rw [Uri.ofRest?_eq_some_iff]
  refine and_congr Iff.rfl (exists_congr fun p => ?_)
  exact ⟨fun ⟨hp, htext, huri⟩ => ⟨⟨hp, htext⟩, huri.symm⟩,
    fun ⟨hp, huri⟩ => ⟨hp.wellFormed, hp.text, huri.symm⟩⟩

theorem request?_eq_some_iff : c.request? e = some request ↔ Written c e request := by
  have hfields : (c.headers.all fun h => h.2.all Wire.isFieldChar) = true ↔
      ∀ h ∈ c.headers, ∀ x ∈ h.2.toList, Wire.IsFieldChar x := by
    simp [Wire.isFieldChar_iff]
  rw [request?, Option.ite_none_right_eq_some, hfields, Option.map_eq_some_iff]
  constructor
  · rintro ⟨hfields, uri, hparse, rfl⟩
    obtain ⟨hsize, huri⟩ := parse?_requestUri.mp hparse
    exact ⟨hsize, huri, rfl, hfields⟩
  · rintro ⟨hsize, huri, hheaders, hfields⟩
    rw [hheaders] at hfields
    refine ⟨hfields, request.uri, parse?_requestUri.mpr ⟨hsize, huri⟩, ?_⟩
    cases request
    exact congrArg _ hheaders.symm

theorem request?_eq_none_iff : c.request? e = none ↔ ∀ request, ¬Written c e request := by
  simp only [Option.eq_none_iff_forall_ne_some, ne_eq, request?_eq_some_iff]

theorem Written.unique {request' : Request} (h : Written c e request) (h' : Written c e request') :
    request = request' :=
  Option.some.inj ((request?_eq_some_iff.mpr h).symm.trans (request?_eq_some_iff.mpr h'))

/-- A request is written just where one can be. -/
theorem exists_written_iff : (∃ request, Written c e request) ↔ Writable c e := by
  have hfields : (∀ h ∈ c.headers, ∀ x ∈ h.2.toList, Wire.IsFieldChar x) ↔
      (∀ x ∈ c.address.toList, Wire.IsFieldChar x) ∧
        ∀ token, c.token = some token → ∀ x ∈ token.toList, Wire.IsFieldChar x := by
    unfold headers
    cases c.token with
    | none => simp [product, Wire.IsFieldChar]
    | some token => simp [product, Wire.IsFieldChar]
  constructor
  · rintro ⟨request, hsize, ⟨p, hp, -⟩, hheaders, hall⟩
    rw [hheaders] at hall
    obtain ⟨haddress, htoken⟩ := hfields.mp hall
    exact ⟨hsize, ⟨p, hp⟩, haddress, htoken⟩
  · rintro ⟨hsize, ⟨p, hp⟩, haddress, htoken⟩
    exact ⟨⟨p.uri, c.headers⟩, hsize, ⟨p, hp, rfl⟩, rfl, hfields.mpr ⟨haddress, htoken⟩⟩

/-! ### The first line -/

theorem requestLine_of_uri {p : Uri.Parts} (huri : request.uri = p.uri) :
    requestLine request = "GET http://" ++
      String.ofList (p.authority ++ p.sentPath ++ Uri.marked '?' p.query) ++ " HTTP/1.1" := by
  rw [requestLine, huri, Uri.text, Uri.Parts.uri, Resource.text]
  cases p.query with
  | none =>
      apply String.toList_inj.mp
      simp [Uri.marked]
  | some query =>
      apply String.toList_inj.mp
      simp [Uri.marked]

theorem HasParts.sentPart_requestUri {p : Uri.Parts} (h : HasParts c e p) :
    Resource.sentPart (requestUri c.address e.path e.query) = "http://" ++
      String.ofList (p.authority ++ p.path ++ Uri.marked '?' p.query) := by
  have hp := h.wellFormed.delimited
  have hsign : '#' ∉ "http://".toList ++ p.authority ++ (p.path ++ Uri.marked '?' p.query) := by
    intro hmem
    rcases List.mem_append.mp hmem with hmem | hmem
    · rcases List.mem_append.mp hmem with hmem | hmem
      · exact absurd hmem (by decide)
      · exact (hp.authority _ hmem).2.2 rfl
    · exact hp.sent hmem
  have htext : (requestUri c.address e.path e.query).toList =
      "http://".toList ++ p.authority ++ (p.path ++ Uri.marked '?' p.query) ++
        Uri.marked '#' p.fragment := by
    rw [requestUri_eq, String.toList_append, ← h.text, Uri.Parts.text]
    simp only [List.append_assoc]
  rw [Resource.sentPart, htext, Uri.takeWhile_marked hsign]
  simp only [String.ofList_append, String.ofList_toList, String.append_assoc]

/-- Only a question mark or a number sign in the address keeps the path from its place. -/
theorem HasParts.path_ne_nil {p : Uri.Parts} (h : HasParts c e p)
    (hquestion : '?' ∉ c.address.toList) (hsign : '#' ∉ c.address.toList) : p.path ≠ [] := by
  intro hpath
  have htext : ∃ rest, p.text = c.address.toList ++ '/' :: rest := by
    rw [h.text, joined]
    exact ⟨(withoutSlashes e.path ++ if e.query = "" then "" else "?" ++ e.query).toList, by simp⟩
  obtain ⟨rest, htext⟩ := htext
  have hhead : (p.text.dropWhile Resource.isHostChar).head? = some '/' := by
    rw [htext]
    exact Resource.head?_dropWhile_isHostChar hquestion hsign
  rw [h.wellFormed.delimited.dropWhile_text, hpath, List.nil_append, List.head?_append,
    Option.or_eq_some_iff] at hhead
  rcases hhead with hhead | ⟨-, hhead⟩
  · exact absurd (Uri.head?_marked hhead) (by decide)
  · exact absurd (Uri.head?_marked hhead) (by decide)

theorem Written.exists_line (h : Written c e request) : ∃ p, HasParts c e p ∧
    requestLine request = "GET http://" ++
      String.ofList (p.authority ++ p.sentPath ++ Uri.marked '?' p.query) ++ " HTTP/1.1" := by
  obtain ⟨p, hp, huri⟩ := h.uri
  exact ⟨p, hp, requestLine_of_uri huri⟩

theorem Written.requestLine_eq (h : Written c e request) (hquestion : '?' ∉ c.address.toList)
    (hsign : '#' ∉ c.address.toList) : requestLine request =
      "GET " ++ Resource.sentPart (requestUri c.address e.path e.query) ++ " HTTP/1.1" := by
  obtain ⟨p, hp, hline⟩ := h.exists_line
  have hpath : p.sentPath = p.path := if_neg (hp.path_ne_nil hquestion hsign)
  rw [hline, hpath, hp.sentPart_requestUri]
  simp only [String.append_assoc]
  rfl

theorem not_mem_requestUri {address path query : String} (haddress : '#' ∉ address.toList)
    (hpath : '#' ∉ path.toList) (hquery : '#' ∉ query.toList) :
    '#' ∉ (requestUri address path query).toList := by
  have hstripped : '#' ∉ path.toList.dropWhile (· == '/') := fun h =>
    hpath ((List.dropWhile_sublist _).subset h)
  rw [requestUri_eq, joined, withoutSlashes]
  split <;> simp [haddress, hstripped, hquery]

end Client

end FirewallExporter
