import GraphQuery.Proofs.Keyed
import GraphQuery.Proofs.Outcome
import GraphQuery.Request

/-
This file says what a row of settings builds, whatever the order in which settings of different
kinds come.
-/

namespace GraphQuery

namespace RequestSetting

variable {count : Nat}

/-- Settings of different kinds do not touch one another. -/
inductive Kind where
  | url
  | headers
  | root
  | document
  | arguments
  | variableValues
  | scalar
  | method
deriving DecidableEq, Repr

/-- What a setting of a kind says. -/
abbrev Kind.Content (count : Nat) : Kind → Type
  | .url => String
  | .headers => List (String × String)
  | .root => Fin count
  | .document => String
  | .arguments => String × List Argument
  | .variableValues => List (String × Json)
  | .scalar => Schema.Element count
  | .method => Method

def content? : (kind : Kind) → RequestSetting count → Option (kind.Content count)
  | .url, .url text => some text
  | .headers, .headers bindings => some bindings
  | .root, .root type => some type
  | .document, .document text => some text
  | .arguments, .arguments path given => some (path, given)
  | .variableValues, .variableValues values => some values
  | .scalar, .scalar element => some element
  | .method, .method verb => some verb
  | _, _ => none

/-- What the settings of one kind say, in their order. -/
def contents (kind : Kind) (settings : List (RequestSetting count)) :
    List (kind.Content count) :=
  settings.filterMap (content? kind)

theorem contents_concat (kind : Kind) (settings : List (RequestSetting count))
    (setting : RequestSetting count) :
    contents kind (settings ++ [setting]) =
      contents kind settings ++ (content? kind setting).toList := by
  rw [contents, List.filterMap_append]
  cases content : content? kind setting <;> simp [contents, content]

end RequestSetting

open RequestSetting (contents)

/-- What a row of settings comes to. -/
structure RequestSummary (count : Nat) where
  url : Option String
  document : Option String
  root : Option (Fin count)
  method : Option Method
  scalars : Schema.Scalars count
  arguments : List (String × List Argument)
  headers : Keyed String
  variableValues : Keyed Json

namespace RequestSummary

variable {count : Nat}

/-- The last url, document, root and method count, scalars are listed in the order of their first
registration, and of bindings with one name the last value stands in the first place. -/
def ofSettings (settings : List (RequestSetting count)) : RequestSummary count where
  url := (contents .url settings).getLast?
  document := (contents .document settings).getLast?
  root := (contents .root settings).getLast?
  method := (contents .method settings).getLast?
  scalars := ⟨(contents .scalar settings).eraseDups⟩
  arguments := contents .arguments settings
  headers := Keyed.ofPairs (contents .headers settings).flatten
  variableValues := Keyed.ofPairs (contents .variableValues settings).flatten

/-- The request before its arguments are assigned. -/
def start (summary : RequestSummary count) (url : Url) (document : Document) : Request count where
  url
  headers := summary.headers
  variableValues := summary.variableValues
  scalars := summary.scalars
  document

def HasUrl (summary : RequestSummary count) (url : Url) : Prop :=
  ∃ text, summary.url = some text ∧ Url.parse text = .ok url

/-- A document that is given as text is taken as it is. Without one the root is compiled under all
scalars, and a method that is set replaces the one of its operation. -/
inductive HasDocument (schema : Schema count) (summary : RequestSummary count) : Document → Prop
  | raw (text : String) (given : summary.document = some text) :
    HasDocument schema summary (.raw text)
  | compiled (root : Fin count) (compiled : Compiled) (absent : summary.document = none)
      (typed : summary.root = some root)
      (succeeded : schema.compile summary.scalars root = .ok compiled) :
    HasDocument schema summary (.compiled { compiled with
      operation := { compiled.operation with
        method := summary.method <|> compiled.operation.method } })

end RequestSummary

/-- A row of calls that all succeed leads from one request to another. -/
inductive Request.Assigns {count : Nat} :
    Request count → List (String × List Argument) → Request count → Prop
  | nil (request : Request count) : Assigns request [] request
  | cons (request next final : Request count) (path : String) (given : List Argument)
      (rest : List (String × List Argument))
      (now : request.setArguments path given = (next, none)) (later : Assigns next rest final) :
    Assigns request ((path, given) :: rest) final

namespace RequestSummary

variable {count : Nat}

/-- The first of these reasons for which a request cannot be built is reported. -/
inductive Yields (schema : Schema count) (summary : RequestSummary count) :
    Except Failure (Request count) → Prop
  | urlMissing (absent : summary.url = none) : Yields schema summary (.error (.build .urlMissing))
  | invalidUrl (text : String) (problem : UrlProblem) (given : summary.url = some text)
      (refused : Url.parse text = .error problem) :
    Yields schema summary (.error (.invalidUrl text problem))
  | requestMissing (url : Url) (parsed : summary.HasUrl url) (absent : summary.document = none)
      (untyped : summary.root = none) : Yields schema summary (.error (.build .requestMissing))
  | notCompiled (url : Url) (root : Fin count) (failure : Failure) (parsed : summary.HasUrl url)
      (absent : summary.document = none) (typed : summary.root = some root)
      (failed : schema.compile summary.scalars root = .error failure) :
    Yields schema summary (.error failure)
  | notAssigned (url : Url) (document : Document) (before after : List (String × List Argument))
      (path : String) (given : List Argument) (reached next : Request count) (failure : Failure)
      (parsed : summary.HasUrl url) (made : HasDocument schema summary document)
      (split : summary.arguments = before ++ (path, given) :: after)
      (earlier : (summary.start url document).Assigns before reached)
      (failed : reached.setArguments path given = (next, some failure)) :
    Yields schema summary (.error failure)
  | built (url : Url) (document : Document) (final : Request count)
      (parsed : summary.HasUrl url) (made : HasDocument schema summary document)
      (assigned : (summary.start url document).Assigns summary.arguments final) :
    Yields schema summary (.ok final)

end RequestSummary

namespace RequestBuilder

variable {count : Nat}

/-- A scalar that is registered again keeps its place. -/
theorem insert_eraseDups (elements : List (Schema.Element count))
    (element : Schema.Element count) :
    Schema.Scalars.insert ⟨elements.eraseDups⟩ element = ⟨(elements ++ [element]).eraseDups⟩ := by
  rw [Schema.Scalars.insert, Schema.Scalars.contains, List.eraseDups_append]
  by_cases registered : element ∈ elements
  · rw [if_pos (by simpa using registered)]
    have known : elements.contains element = true := List.contains_iff_mem.2 registered
    simp only [List.cons_removeAll, known]
    simp
  · rw [if_neg (by simpa using registered)]
    have unknown : elements.contains element = false := by
      rw [← Bool.not_eq_true, List.contains_iff_mem]
      exact registered
    simp only [List.cons_removeAll, unknown]
    simp [List.eraseDups_cons]

/-- Each setting changes the part of its own kind and leaves the others as they are. -/
theorem ofSettings_eq (settings : List (RequestSetting count)) :
    let summary := RequestSummary.ofSettings settings
    ofSettings settings =
      { url := summary.url
        headers := summary.headers
        root := summary.root
        document := summary.document
        arguments := summary.arguments
        variableValues := (contents .variableValues settings).flatten
        scalars := summary.scalars
        method := summary.method } := by
  dsimp only
  induction settings using List.reverseRecOn with
  | nil => rfl
  | append_singleton settings setting inductionHypothesis =>
    rw [ofSettings, List.foldl_append, ← ofSettings, inductionHypothesis]
    simp only [RequestSummary.ofSettings, RequestSetting.contents_concat]
    cases setting with
    | scalar element => simp [apply, RequestSetting.content?, insert_eraseDups]
    | headers bindings => simp [apply, RequestSetting.content?, Keyed.ofPairs]
    | _ => simp [apply, RequestSetting.content?]

theorem assignAll_eq_ok (request final : Request count)
    (calls : List (String × List Argument)) :
    assignAll request calls = .ok final ↔ request.Assigns calls final := by
  induction calls generalizing request with
  | nil =>
    rw [assignAll]
    constructor
    · intro equal
      cases equal
      exact .nil _
    · intro assigned
      cases assigned
      rfl
  | cons call rest inductionHypothesis =>
    obtain ⟨path, given⟩ := call
    rw [assignAll]
    constructor
    · intro succeeded
      split at succeeded
      · cases succeeded
      · next next now =>
        exact .cons request next final path given rest now ((inductionHypothesis next).1 succeeded)
    · intro assigned
      cases assigned with
      | cons _ next _ _ _ _ now later =>
        rw [now]
        exact (inductionHypothesis next).2 later

/-- Assignments fail with the first call that fails after the earlier ones. -/
theorem assignAll_eq_error (request : Request count) (calls : List (String × List Argument))
    (failure : Failure) :
    assignAll request calls = .error failure ↔
      ∃ before path given after reached next, calls = before ++ (path, given) :: after ∧
        request.Assigns before reached ∧
        reached.setArguments path given = (next, some failure) := by
  induction calls generalizing request with
  | nil => simp [assignAll]
  | cons call rest inductionHypothesis =>
    obtain ⟨path, given⟩ := call
    rw [assignAll]
    constructor
    · intro failed
      split at failed
      · next reached other now =>
        cases failed
        exact ⟨[], path, given, rest, request, reached, rfl, .nil request, now⟩
      · next next now =>
        obtain ⟨before, later, list, after, reached, last, rfl, earlier, refused⟩ :=
          (inductionHypothesis next).1 failed
        exact ⟨(path, given) :: before, later, list, after, reached, last, rfl,
          .cons request next reached path given before now earlier, refused⟩
    · rintro ⟨before, later, list, after, reached, last, split, earlier, refused⟩
      cases earlier with
      | nil =>
        cases split
        rw [refused]
      | cons _ next _ _ _ before now others =>
        cases split
        rw [now]
        exact (inductionHypothesis next).2
          ⟨before, later, list, after, reached, last, rfl, others, refused⟩

variable (schema : Schema count) (settings : List (RequestSetting count))

theorem buildDocument_ofSettings (document : Document) :
    (ofSettings settings).buildDocument schema = .ok document ↔
      (RequestSummary.ofSettings settings).HasDocument schema document := by
  rw [ofSettings_eq, buildDocument]
  constructor
  · intro made
    cases given : (RequestSummary.ofSettings settings).document with
    | some text =>
      simp only [given] at made
      cases made
      exact .raw text given
    | none =>
      cases typed : (RequestSummary.ofSettings settings).root with
      | none =>
        simp only [given, typed] at made
        cases made
      | some root =>
        simp only [given, typed] at made
        obtain ⟨compiled, succeeded, equal⟩ := (Outcome.bind_eq_ok _ _ _).1 made
        cases equal
        exact .compiled root compiled given typed succeeded
  · intro made
    cases made with
    | raw text given =>
      rw [given]
    | compiled root compiled absent typed succeeded =>
      rw [absent, typed]
      exact (Outcome.bind_eq_ok _ _ _).2 ⟨compiled, succeeded, rfl⟩

/-- With an address, the document is made next and the arguments are assigned last. -/
theorem build_of_hasUrl (url : Url) (parsed : (RequestSummary.ofSettings settings).HasUrl url) :
    (ofSettings settings).build schema =
      (ofSettings settings).buildDocument schema >>= fun document =>
        assignAll ((RequestSummary.ofSettings settings).start url document)
          (RequestSummary.ofSettings settings).arguments := by
  obtain ⟨text, given, parsed⟩ := parsed
  rw [build, ofSettings_eq]
  simp only [given, parsed]
  rfl

/-- The summary decides what is built. -/
theorem build_of_yields (result : Except Failure (Request count))
    (yields : (RequestSummary.ofSettings settings).Yields schema result) :
    (ofSettings settings).build schema = result := by
  cases yields with
  | urlMissing absent =>
    rw [build, ofSettings_eq]
    simp only [absent]
    rfl
  | invalidUrl text problem given refused =>
    rw [build, ofSettings_eq]
    simp only [given, refused]
    rfl
  | requestMissing url parsed absent untyped =>
    rw [build_of_hasUrl schema settings url parsed, ofSettings_eq, buildDocument]
    simp only [absent, untyped]
    rfl
  | notCompiled url root failure parsed absent typed failed =>
    rw [build_of_hasUrl schema settings url parsed, ofSettings_eq, buildDocument]
    simp only [absent, typed]
    rw [failed]
    rfl
  | notAssigned url document before after path list reached next failure parsed made split earlier
      failed =>
    rw [build_of_hasUrl schema settings url parsed,
      (buildDocument_ofSettings schema settings document).2 made]
    exact (assignAll_eq_error _ _ _).2
      ⟨before, path, list, after, reached, next, split, earlier, failed⟩
  | built url document final parsed made assigned =>
    rw [build_of_hasUrl schema settings url parsed,
      (buildDocument_ofSettings schema settings document).2 made]
    exact (assignAll_eq_ok _ _ _).2 assigned

/-- Nothing else can happen: each part of the summary is there or missing, good or bad. -/
theorem exists_yields (summary : RequestSummary count) :
    ∃ result, summary.Yields schema result := by
  have assigned : ∀ url document, summary.HasUrl url → summary.HasDocument schema document →
      ∃ result, summary.Yields schema result := by
    intro url document parsed made
    cases outcome : assignAll (summary.start url document) summary.arguments with
    | error failure =>
      obtain ⟨before, path, list, after, reached, next, split, earlier, failed⟩ :=
        (assignAll_eq_error _ _ _).1 outcome
      exact ⟨_, .notAssigned url document before after path list reached next failure parsed made
        split earlier failed⟩
    | ok final =>
      exact ⟨_, .built url document final parsed made ((assignAll_eq_ok _ _ _).1 outcome)⟩
  cases given : summary.url with
  | none => exact ⟨_, .urlMissing given⟩
  | some text =>
    cases parsed : Url.parse text with
    | error problem => exact ⟨_, .invalidUrl text problem given parsed⟩
    | ok url =>
      have hasUrl : summary.HasUrl url := ⟨text, given, parsed⟩
      cases document : summary.document with
      | some text => exact assigned url _ hasUrl (.raw text document)
      | none =>
        cases typed : summary.root with
        | none => exact ⟨_, .requestMissing url hasUrl document typed⟩
        | some root =>
          cases compiled : schema.compile summary.scalars root with
          | error failure => exact ⟨_, .notCompiled url root failure hasUrl document typed compiled⟩
          | ok unfolded =>
            exact assigned url _ hasUrl (.compiled root unfolded document typed compiled)

/-- Only what the settings of each kind say counts, and the first reason against a request in a
fixed order is reported. A text takes the place of a type, which is then not compiled, and no
arguments can be assigned in it. -/
theorem build_ofSettings :
    (∀ result, (ofSettings settings).build schema = result ↔
      (RequestSummary.ofSettings settings).Yields schema result) ∧
    (∀ other, RequestSummary.ofSettings other = RequestSummary.ofSettings settings →
      (ofSettings other).build schema = (ofSettings settings).build schema) ∧
    (∀ other, (∀ kind, contents kind other = contents kind settings) →
      (ofSettings other).build schema = (ofSettings settings).build schema) ∧
    ∀ text url, (RequestSummary.ofSettings settings).document = some text →
      (RequestSummary.ofSettings settings).HasUrl url →
      (ofSettings settings).build schema =
        match (RequestSummary.ofSettings settings).arguments with
        | [] => .ok ((RequestSummary.ofSettings settings).start url (.raw text))
        | (path, _) :: _ => .error (.invalidPath path) := by
  have yields : (RequestSummary.ofSettings settings).Yields schema
      ((ofSettings settings).build schema) := by
    obtain ⟨result, yields⟩ := exists_yields schema (RequestSummary.ofSettings settings)
    rw [build_of_yields schema settings result yields]
    exact yields
  have bySummary : ∀ other, RequestSummary.ofSettings other = RequestSummary.ofSettings settings →
      (ofSettings other).build schema = (ofSettings settings).build schema := by
    intro other same
    apply build_of_yields
    rw [same]
    exact yields
  refine ⟨?_, bySummary, ?_, ?_⟩
  · intro result
    constructor
    · rintro rfl
      exact yields
    · exact build_of_yields schema settings result
  · intro other same
    apply bySummary
    simp only [RequestSummary.ofSettings, same]
  · intro text url given parsed
    have raw : (RequestSummary.ofSettings settings).HasDocument schema (.raw text) :=
      .raw text given
    cases calls : (RequestSummary.ofSettings settings).arguments with
    | nil =>
      apply build_of_yields
      apply RequestSummary.Yields.built url _ _ parsed raw
      rw [calls]
      exact .nil _
    | cons call rest =>
      obtain ⟨path, list⟩ := call
      apply build_of_yields
      exact .notAssigned url _ [] rest path list _ _ _ parsed raw calls (.nil _) rfl

end RequestBuilder

end GraphQuery
