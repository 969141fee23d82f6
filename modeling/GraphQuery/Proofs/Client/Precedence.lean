import GraphQuery.Client
import GraphQuery.Proofs.Keyed
import Mathlib.Data.List.Nodup

/-
This file says which of the values that are given for the name of a header are sent.
-/

namespace GraphQuery

namespace Http.Headers

open Header

/-- The values that are given for a name in any letter case. -/
def valuesOf (headers : Headers) (name : String) : List String :=
  values (headers.map canonical) (canonicalName name)

/-- The ways in which a name is written, in the order of their first use. -/
def spellings (headers : Headers) (name : String) : List String :=
  (headers.map Prod.fst).eraseDups.filter (canonicalName · == canonicalName name)

/-- Of the spellings of a name the one that comes up last counts, with its last value. -/
def settled? (headers : Headers) (name : String) : Option String := do
  let spelling ← (spellings headers name).getLast?
  (values headers spelling).getLast?

theorem values_append (headers others : Headers) (name : String) :
    values (headers ++ others) name = values headers name ++ values others name := by
  rw [values, List.filter_append, List.map_append]
  rfl

theorem contains_eq_true (headers : Headers) (name : String) :
    contains headers name = true ↔ values headers name ≠ [] := by
  simp [contains, values]

/-- No default is left for a name that is given. -/
theorem values_filter_not_contains (headers defaults : Headers) (name : String) :
    values (defaults.filter fun header => !contains headers header.1) name =
      if values headers name = [] then values defaults name else [] := by
  rw [values, List.filter_filter]
  split
  · next missing =>
    have absent : contains headers name = false := by
      rw [← Bool.not_eq_true, contains_eq_true]
      exact fun given => given missing
    rw [values]
    refine congrArg _ (List.filter_congr fun header _ => ?_)
    by_cases same : header.1 = name <;> simp [same, absent]
  · next given =>
    have present := (contains_eq_true headers name).2 given
    rw [List.map_eq_nil_iff, List.filter_eq_nil_iff]
    intro header _
    by_cases same : header.1 = name <;> simp [same, present]

theorem values_withDefaults (headers defaults : Headers) (name : String) :
    values (withDefaults headers defaults) name =
      if values headers name = [] then values defaults name else values headers name := by
  rw [withDefaults, values_append, values_filter_not_contains]
  split
  · next missing => rw [missing, List.nil_append]
  · rw [List.append_nil]

/-- Where each name occurs once, it has one value at most. -/
theorem values_of_nodup (entries : Keyed String) (distinct : entries.keys.Nodup) (name : String) :
    values entries name = (Keyed.valueAt? entries name).toList := by
  have once : entries.keys.count name ≤ 1 := List.nodup_iff_count_le_one.1 distinct name
  rw [Keyed.valueAt?_eq_head?, values]
  rcases Keyed.filter_eq_nil_or_singleton entries name once with nothing | ⟨entry, only⟩
  · rw [nothing]
    rfl
  · rw [only]
    rfl

/-- Names are made canonical once their spellings have been put together.
So a spelling keeps the place of its first use among the others, whenever its value changes. -/
theorem settled?_eq (headers : Headers) (name : String) :
    settled? headers name =
      Keyed.valueAt? (Keyed.ofPairs ((Keyed.ofPairs headers).map canonical))
        (canonicalName name) := by
  have spelled : spellings headers name =
      ((Keyed.ofPairs headers).filter (canonicalName ·.1 == canonicalName name)).map Prod.fst := by
    rw [spellings, ← Keyed.keys_ofPairs, Keyed.keys, List.filter_map]
    rfl
  have named : ((Keyed.ofPairs headers).map canonical).filter (·.1 == canonicalName name) =
      ((Keyed.ofPairs headers).filter (canonicalName ·.1 == canonicalName name)).map canonical := by
    rw [List.filter_map]
    rfl
  rw [settled?, spelled, Keyed.valueAt?_ofPairs_eq_getLast?, named, List.getLast?_map,
    List.getLast?_map]
  cases last : ((Keyed.ofPairs headers).filter
      (canonicalName ·.1 == canonicalName name)).getLast? with
  | none => rfl
  | some entry =>
    obtain ⟨spelling, value⟩ := entry
    have inside := (List.mem_filter.1 (List.mem_of_getLast? last)).1
    have kept := Keyed.valueAt?_of_mem _ (Keyed.nodup_keys_ofPairs headers) spelling value inside
    rw [Keyed.valueAt?_ofPairs_eq_getLast?] at kept
    change (values headers spelling).getLast? = some value
    rw [values, List.getLast?_map]
    exact kept

/-- The value that is given last counts, unless it is given to an earlier spelling. -/
theorem settled?_of_getLast? (headers : Headers) (name spelling value : String)
    (last : (headers.filter (canonicalName ·.1 == canonicalName name)).getLast? =
      some (spelling, value))
    (newest : (spellings headers name).getLast? = some spelling) :
    settled? headers name = some value := by
  have same : canonicalName spelling = canonicalName name := by
    simpa using (List.mem_filter.1 (List.mem_of_getLast? last)).2
  have narrowed : headers.filter (·.1 == spelling) =
      (headers.filter (canonicalName ·.1 == canonicalName name)).filter (·.1 == spelling) := by
    rw [List.filter_filter]
    refine List.filter_congr fun header _ => ?_
    by_cases spelled : header.1 = spelling <;> simp [spelled, same]
  obtain ⟨earlier, split⟩ := List.getLast?_eq_some_iff.1 last
  rw [settled?, newest]
  change (values headers spelling).getLast? = some value
  rw [values, narrowed, split, List.filter_append]
  simp

end Http.Headers

namespace ClientBuilder

open Http

/-- Default headers are set one after another. -/
def withHeaders (builder : ClientBuilder) (given : Headers) : ClientBuilder :=
  given.foldl (fun builder header => builder.header header.1 header.2) builder

theorem withHeaders_eq (userAgent : String) (timeout : Option Nat) (given : Headers) :
    withHeaders { userAgent, timeout } given =
      { headers := Keyed.ofPairs given, userAgent, timeout } := by
  induction given using List.reverseRecOn with
  | nil => rfl
  | append_singleton given header inductionHypothesis =>
    rw [withHeaders, List.foldl_append, Keyed.ofPairs_concat]
    exact congrArg (fun builder => ClientBuilder.header builder header.1 header.2)
      inductionHypothesis

theorem firstProblem?_eq_none (headers : Headers)
    (valid : ∀ header ∈ headers, Header.isValid header = true) : firstProblem? headers = none := by
  induction headers with
  | nil => rfl
  | cons header rest inductionHypothesis =>
    obtain ⟨first, later⟩ := List.forall_mem_cons.1 valid
    obtain ⟨name, value⟩ := Bool.and_eq_true_iff.1 first
    simp [firstProblem?, name, value, inductionHypothesis later]

/-- Valid headers and a valid user agent make a client. -/
theorem build_eq_ok (userAgent : String) (timeout : Option Nat) (given : Headers)
    (valid : ∀ header ∈ given, Header.isValid header = true)
    (validAgent : Header.isValidValue userAgent = true) :
    (withHeaders { userAgent, timeout } given).build =
      .ok ⟨(withHeaders { userAgent, timeout } given).defaults, timeout⟩ := by
  have plain : firstProblem? (Keyed.ofPairs given) = none :=
    firstProblem?_eq_none _ (Keyed.forall_mem_ofPairs given valid)
  rw [withHeaders_eq, build]
  simp only [plain, if_pos validAgent]

/-- A client keeps its user agent and of each other name the settled value. -/
theorem values_defaults (userAgent : String) (timeout : Option Nat) (given : Headers)
    (name : String) :
    Headers.values (withHeaders { userAgent, timeout } given).defaults
        (Header.canonicalName name) =
      if Header.canonicalName name = "user-agent" then [userAgent]
      else (Headers.settled? given name).toList := by
  have distinct := Keyed.nodup_keys_ofPairs ((Keyed.ofPairs given).map Header.canonical)
  rw [withHeaders_eq, defaults, Headers.values_of_nodup _ (Keyed.nodup_keys_put _ _ _ distinct),
    Keyed.valueAt?_put, Headers.settled?_eq]
  by_cases agent : Header.canonicalName name = "user-agent"
  · rw [if_pos agent.symm, if_pos agent]
    rfl
  · rw [if_neg (Ne.symm agent), if_neg agent]

end ClientBuilder

namespace Client

open Http

variable {count : Nat}

/-- These headers say that JSON is sent and asked for. -/
def IsOwn (name : String) : Prop :=
  Header.canonicalName name = "accept" ∨ Header.canonicalName name = "content-type"

instance (name : String) : Decidable (IsOwn name) := inferInstanceAs (Decidable (_ ∨ _))

theorem values_ownHeaders (name : String) :
    Headers.values ownHeaders (Header.canonicalName name) =
      if IsOwn name then ["application/json"] else [] := by
  by_cases own : IsOwn name
  · rw [if_pos own]
    rcases own with same | same <;> rw [same] <;> decide
  · rw [if_neg own]
    obtain ⟨notAccept, notContent⟩ := not_or.1 own
    simp [Headers.values, ownHeaders, Ne.symm notAccept, Ne.symm notContent]

/-- The values of a request come after those of the client's own headers. -/
theorem values_requestHeaders (request : Request count) (name : String) :
    Headers.values (requestHeaders request) (Header.canonicalName name) =
      (if IsOwn name then ["application/json"] else []) ++
        Headers.valuesOf request.headers name := by
  rw [← values_ownHeaders]
  exact Headers.values_append ownHeaders _ _

/-- What is sent under each name, given the defaults of a client, its user agent and the headers of
a request. The client's own headers are always sent, and its user agent replaces a default. -/
structure Merges (defaults asked : Headers) (userAgent : String) (sent : Headers) : Prop where
  own : ∀ name, IsOwn name →
    Headers.values sent (Header.canonicalName name) =
      "application/json" :: Headers.valuesOf asked name
  request : ∀ name, ¬IsOwn name → Headers.valuesOf asked name ≠ [] →
    Headers.values sent (Header.canonicalName name) = Headers.valuesOf asked name
  agent : ∀ name, Header.canonicalName name = "user-agent" → Headers.valuesOf asked name = [] →
    Headers.values sent (Header.canonicalName name) = [userAgent]
  settled : ∀ name, ¬IsOwn name → Header.canonicalName name ≠ "user-agent" →
    Headers.valuesOf asked name = [] →
    Headers.values sent (Header.canonicalName name) = (Headers.settled? defaults name).toList
  last : ∀ name spelling value, ¬IsOwn name → Header.canonicalName name ≠ "user-agent" →
    Headers.valuesOf asked name = [] →
    (defaults.filter (Header.canonicalName ·.1 == Header.canonicalName name)).getLast? =
      some (spelling, value) →
    (Headers.spellings defaults name).getLast? = some spelling →
    Headers.values sent (Header.canonicalName name) = [value]

/-- What is given for a name by the client itself, by the request and by default, in this order. -/
theorem values_sent (request : Request count) (userAgent : String) (timeout : Option Nat)
    (given : Headers) (name : String) :
    Headers.values (Headers.withDefaults (requestHeaders request)
        (ClientBuilder.withHeaders { userAgent, timeout } given).defaults)
        (Header.canonicalName name) =
      if IsOwn name then "application/json" :: Headers.valuesOf request.headers name
      else if Headers.valuesOf request.headers name ≠ [] then Headers.valuesOf request.headers name
      else if Header.canonicalName name = "user-agent" then [userAgent]
      else (Headers.settled? given name).toList := by
  rw [Headers.values_withDefaults, values_requestHeaders, ClientBuilder.values_defaults]
  by_cases own : IsOwn name
  · simp [own]
  · by_cases asked : Headers.valuesOf request.headers name = [] <;> simp [own, asked]

theorem merges_withDefaults (request : Request count) (userAgent : String) (timeout : Option Nat)
    (given : Headers) :
    Merges given request.headers userAgent (Headers.withDefaults (requestHeaders request)
      (ClientBuilder.withHeaders { userAgent, timeout } given).defaults) where
  own name own := by rw [values_sent, if_pos own]
  request name foreign asked := by rw [values_sent, if_neg foreign, if_pos asked]
  agent name agent unasked := by
    have foreign : ¬IsOwn name := by
      rw [IsOwn, agent]
      decide
    rw [values_sent, if_neg foreign, if_neg (not_not.2 unasked), if_pos agent]
  settled name foreign other unasked := by
    rw [values_sent, if_neg foreign, if_neg (not_not.2 unasked), if_neg other]
  last name spelling value foreign other unasked last newest := by
    rw [values_sent, if_neg foreign, if_neg (not_not.2 unasked), if_neg other,
      Headers.settled?_of_getLast? given name spelling value last newest]
    rfl

theorem message_eq_ok (client : Client) (request : Request count) (call : Call) (body : Json)
    (rendered : request.body (call.method request) = .ok body)
    (valid : request.headers.all Header.isValid = true) :
    client.message request call = .ok {
      url := request.url
      headers := Headers.withDefaults (requestHeaders request) client.headers
      body := body.render
      timeout := client.timeout } := by
  rw [message, rendered]
  simp only [bind, Except.bind, valid]
  rfl

/-- A client with valid defaults sends every request with valid headers. Values of the request win
over defaults, but they come after the client's own headers. Without them the default that was given
last is sent, unless it is a user agent or it was given to an earlier spelling. -/
theorem message_merges (userAgent : String) (timeout : Option Nat) (given : Headers)
    (request : Request count) (call : Call) (body : Json)
    (valid : ∀ header ∈ given, Header.isValid header = true)
    (validAgent : Header.isValidValue userAgent = true)
    (validRequest : request.headers.all Header.isValid = true)
    (rendered : request.body (call.method request) = .ok body) :
    ∃ client message,
      (ClientBuilder.withHeaders { userAgent, timeout } given).build = .ok client ∧
        client.message request call = .ok message ∧
        Merges given request.headers userAgent message.headers :=
  ⟨_, _, ClientBuilder.build_eq_ok userAgent timeout given valid validAgent,
    message_eq_ok _ request call body rendered validRequest,
    merges_withDefaults request userAgent timeout given⟩

/-- The first header has two spellings, and the first of them is used again. -/
def toolHeaders : Headers :=
  [("X-Team", "a"), ("x-team", "b"), ("X-Team", "c"), ("Accept", "text/x"), ("User-Agent", "tool"),
    ("X-Trace", "1")]

/-- A raw document with headers of its own. -/
def toolRequest (headers : Keyed String) : Request 0 where
  url := default
  headers
  variableValues := []
  scalars := .empty
  document := .raw "\x7b a \x7d"

/-- The request's trace goes out in place of the default one. -/
theorem message_merges_tool :
    (∀ header ∈ toolHeaders, Header.isValid header = true) ∧
      Header.isValidValue "gqlnodes/0.1.0" = true ∧
      (toolRequest [("X-TRACE", "2")]).headers.all Header.isValid = true ∧
      (∃ body, (toolRequest [("X-TRACE", "2")]).body none = .ok body) ∧
      ∃ client message,
        (ClientBuilder.withHeaders {} toolHeaders).build = .ok client ∧
          client.message (toolRequest [("X-TRACE", "2")]) .execute = .ok message ∧
          Merges toolHeaders [("X-TRACE", "2")] "gqlnodes/0.1.0" message.headers ∧
          Headers.values message.headers "x-trace" = ["2"] := by
  have valid : ∀ header ∈ toolHeaders, Header.isValid header = true := by decide
  obtain ⟨client, message, built, sent, merges⟩ :=
    message_merges "gqlnodes/0.1.0" none toolHeaders (toolRequest [("X-TRACE", "2")]) .execute _
      valid (by decide) (by decide) rfl
  exact ⟨valid, by decide, by decide, ⟨_, rfl⟩, client, message, built, sent, merges,
    merges.request "x-trace" (by decide) (by decide)⟩

/-- Without a value in the request these three names do not get what was set for them last. -/
theorem message_drops_defaults :
    ∃ client message,
      (ClientBuilder.withHeaders {} toolHeaders).build = .ok client ∧
        client.message (toolRequest []) .execute = .ok message ∧
        Headers.values message.headers "accept" ≠ ["text/x"] ∧
        Headers.values message.headers "user-agent" ≠ ["tool"] ∧
        Headers.values message.headers "x-team" ≠ ["c"] :=
  ⟨_, _, ClientBuilder.build_eq_ok _ none toolHeaders (by decide) (by decide),
    message_eq_ok _ (toolRequest []) .execute _ rfl (by decide), by decide, by decide, by decide⟩

end Client

end GraphQuery
