import GraphQuery.Proofs.Operation.Place
import GraphQuery.Proofs.Outcome
import GraphQuery.Request
import GraphQuery.Response

/-
This file shows that a request keeps its shape from its construction on, whatever is assigned.
-/

namespace GraphQuery

/-- What a verb puts in front of a document. -/
def Method.opening : Option Method → String
  | none => ""
  | some method => method.keyword ++ " "

theorem Method.opening_eq (method : Option Method) :
    opening method = String.ofList (Property.wordChars (method.map keyword)) := by
  cases method with
  | none => rfl
  | some method => simp [opening, Property.wordChars]

/-- A plain property writes nothing but its key in front of its arguments. -/
structure Property.Plain (property : Property) : Prop where
  aliasName : property.aliasName = none
  method : property.method = none
  variableTypes : property.variableTypes = none

theorem Property.Plain.headChars {property : Property} (plain : property.Plain) (key : String) :
    Property.headChars (some key) property = key.toList ++ [' '] := by
  simp [Property.headChars, plain.aliasName, plain.method, plain.variableTypes, wordChars,
    aliasChars, declarationsChars]

theorem Property.Plain.below {property : Property} (plain : property.Plain) (entry : Nat × Value)
    (keys : List String) : (Selection.below (Property.fill entry) keys property).Plain := by
  cases keys <;> exact ⟨plain.aliasName, plain.method, plain.variableTypes⟩

namespace Operation

/-- A rooted operation has a selection, and a resource key is the key of its only property. -/
structure Rooted (resourceKey : Option String) (operation : Operation) : Prop where
  present : ∃ children, operation.children = some children
  named : ∀ key, resourceKey = some key →
    ∃ node : Property, node.Plain ∧ operation.children = some [(key, node)]

variable {resourceKey : Option String} {operation : Operation}

/-- A value that is filled in keeps the selection and the key of its only property. -/
theorem Rooted.write (rooted : operation.Rooted resourceKey) (entry : Place × Value) :
    (operation.write entry).Rooted resourceKey where
  present := by
    obtain ⟨children, present⟩ := rooted.present
    exact ⟨_, congrArg (Option.map _) present⟩
  named := by
    intro key named
    obtain ⟨node, plain, only⟩ := rooted.named key named
    cases keys : entry.1.keys with
    | nil => exact ⟨node, plain, by simp [Operation.write, only, keys, Selection.adjustAt]⟩
    | cons first rest =>
      by_cases same : key = first
      · refine ⟨_, plain.below (entry.1.position, entry.2) rest, ?_⟩
        simp [Operation.write, only, keys, Selection.adjustAt_cons, Keyed.adjust, same]
      · refine ⟨node, plain, ?_⟩
        simp [Operation.write, only, keys, Selection.adjustAt_cons, Keyed.adjust, same]

theorem Rooted.setArguments (rooted : operation.Rooted resourceKey) (path : String)
    (given : List Argument) : (operation.setArguments path given).1.Rooted resourceKey := by
  rw [setArguments_eq]
  dsimp only
  generalize operation.writes (path, given) = entries
  induction entries generalizing operation with
  | nil => exact rooted
  | cons entry rest inductionHypothesis => exact inductionHypothesis (rooted.write entry)

/-- The verb is all that changes in the document of a rooted operation. -/
theorem Rooted.exists_renderAs (rooted : operation.Rooted resourceKey) :
    ∃ rest : String, ∀ method, operation.renderAs method = .ok (Method.opening method ++ rest) := by
  obtain ⟨children, present⟩ := rooted.present
  refine ⟨String.ofList (operation.headChars ++ selectionChars children), ?_⟩
  intro method
  simp only [renderAs, present, charsAs]
  rw [Method.opening_eq, ← String.ofList_append, List.append_assoc]

/-- An operation is headed by a property if this is all that it selects, without another name, and
paths of one dot and of the key alone lead to it. -/
structure IsHeadedBy (operation : Operation) (key : String) (node : Property) : Prop where
  only : operation.children = some [(key, node)]
  aliasName : node.aliasName = none
  dot : operation.target "." = .ok ([key], node) ∧ operation.property "." = .ok node
  named : key ≠ "" → '.' ∉ key.toList →
    operation.target key = .ok ([key], node) ∧ operation.property key = .ok node

theorem target_of_locate (path key : String) (node : Property)
    (only : operation.children = some [(key, node)]) (located : operation.locate path = .ok [key]) :
    operation.target path = .ok ([key], node) := by
  simp [target, located, only, Selection.follow?, Keyed.valueAt?]

/-- The key of the only property is what a dot stands for, and a path of its own. -/
theorem isHeadedBy_of_only (key : String) (node : Property) (plain : node.Plain)
    (only : operation.children = some [(key, node)]) : operation.IsHeadedBy key node := by
  refine ⟨only, plain.aliasName, ?_, ?_⟩
  · have dots : namesTopLevel ".".toList = true := by decide
    refine ⟨target_of_locate _ _ _ only ?_, ?_⟩
    · simp only [locate, only, dots, if_true]
    · simp only [property, only, dots, if_true, onlyProperty]
  · intro present undotted
    have letters : namesTopLevel key.toList = false := by
      cases chars : key.toList with
      | nil => exact absurd (String.toList_eq_nil_iff.1 chars) present
      | cons first rest =>
        rw [chars, List.mem_cons, not_or] at undotted
        simp [namesTopLevel, Ne.symm undotted.1]
    have whole := Text.pieces_of_not_mem '.' key.toList undotted
    refine ⟨target_of_locate _ _ _ only ?_, ?_⟩
    · simp [locate, only, letters, whole, Selection.follow?, Keyed.valueAt?]
    · simp [property, only, letters, whole, Keyed.valueAt?, Property.descend?]

/-- This document asks for one property, by its key, with its arguments and its selection. -/
def headedText (operation : Operation) (key : String) (node : Property) (method : Option Method) :
    String :=
  Method.opening method ++ String.ofList operation.headChars ++ "\x7b " ++ key ++ " " ++
    String.ofList (Property.argumentsChars (node.arguments.getD []) ++
      Property.blockChars node.children) ++ "\x7d "

theorem renderAs_of_only (key : String) (node : Property) (plain : node.Plain)
    (only : operation.children = some [(key, node)]) (method : Option Method) :
    operation.renderAs method = .ok (operation.headedText key node method) := by
  simp only [headedText, renderAs, only, charsAs, selectionChars, Property.selectionChars, Property.chars_eq,
    plain.headChars]
  apply congrArg Except.ok
  apply String.toList_inj.1
  simp [Method.opening_eq]

end Operation

namespace Request

variable {count : Nat}

/-- The request after a row of calls, and what went wrong in each of them. -/
def injectAll (request : Request count) (calls : List Operation.Injection) :
    Request count × List (Option Failure) :=
  Replay.runAll (fun request call => request.setArguments call.1 call.2) request calls

/-- A coherent request has a document of which only the start depends on the verb. A resource key
heads its operation, the document asks for it alone, and the data are read under it. -/
structure Coherent (request : Request count) : Prop where
  document : ∃ rest : String, ∀ method,
    request.documentAs method = .ok (Method.opening method ++ rest)
  resource : ∀ key, request.resourceKey? = some key →
    ∃ (operation : Operation) (node : Property),
      request.operation? = some operation ∧ operation.IsHeadedBy key node ∧
      (∀ method, request.documentAs method = .ok (operation.headedText key node method)) ∧
      ∀ data, Response.payload data request.resourceKey? =
        (data.bind (·.member? key)).filter (!·.isNull)

/-- A request is rooted if it was compiled and its operation is rooted in its resource key. -/
def Rooted (request : Request count) : Prop :=
  ∃ compiled, request.document = .compiled compiled ∧
    compiled.operation.Rooted compiled.resourceKey

theorem Rooted.coherent {request : Request count} (rooted : request.Rooted) :
    request.Coherent := by
  obtain ⟨compiled, document, rooted⟩ := rooted
  refine ⟨?_, ?_⟩
  · simp only [documentAs, document]
    exact rooted.exists_renderAs
  · intro key resource
    have named : compiled.resourceKey = some key := by
      simpa only [resourceKey?, document] using resource
    obtain ⟨node, plain, only⟩ := rooted.named key named
    refine ⟨compiled.operation, node, by rw [operation?, document],
      Operation.isHeadedBy_of_only key node plain only, ?_, ?_⟩
    · intro method
      rw [documentAs, document]
      exact Operation.renderAs_of_only key node plain only method
    · intro data
      rw [resource, Response.payload]

theorem Rooted.setArguments {request : Request count} (rooted : request.Rooted) (path : String)
    (given : List Argument) : (request.setArguments path given).1.Rooted := by
  obtain ⟨compiled, document, rooted⟩ := rooted
  simp only [Request.setArguments, document]
  exact ⟨_, rfl, rooted.setArguments path given⟩

theorem Rooted.injectAll {request : Request count} (rooted : request.Rooted)
    (calls : List Operation.Injection) : (request.injectAll calls).1.Rooted := by
  have kept : ∀ (state : Request count) (call : Operation.Injection),
      state.Rooted → (state.setArguments call.1 call.2).1.Rooted :=
    fun _ call rooted => rooted.setArguments call.1 call.2
  exact Replay.runAll_keeps kept request calls rooted

/-- A raw document has no paths, and its text stays. -/
theorem injectAll_raw {request : Request count} {text : String}
    (raw : request.document = .raw text) (calls : List Operation.Injection) :
    (request.injectAll calls).1.document = .raw text ∧
      (request.injectAll calls).2 = calls.map fun call => some (.invalidPath call.1) := by
  have kept : ∀ (state : Request count) (call : Operation.Injection),
      state.document = .raw text → (state.setArguments call.1 call.2).1.document = .raw text := by
    intro state call raw
    simp only [setArguments, raw]
  refine ⟨Replay.runAll_keeps kept request calls raw, ?_⟩
  apply Replay.runAll_outcomes kept _ _ request calls raw
  intro state call raw
  simp only [setArguments, raw]

end Request

/-- A compiled operation selects its wrapper alone, or has no resource key. -/
theorem Schema.rooted_of_compile {count : Nat} (schema : Schema count)
    (scalars : Schema.Scalars count) (root : Fin count) (compiled : Compiled)
    (succeeded : schema.compile scalars root = .ok compiled) :
    compiled.operation.Rooted compiled.resourceKey := by
  rw [compile, Outcome.bind_eq_ok] at succeeded
  obtain ⟨draft, -, finished⟩ := succeeded
  dsimp only at finished
  cases wrapped : (schema.typeAt root).topProperty? with
  | none =>
    rw [wrapped] at finished
    cases finished
    exact ⟨⟨_, rfl⟩, by simp⟩
  | some wrapper =>
    rw [wrapped] at finished
    obtain ⟨arguments, -, equal⟩ := (Outcome.bind_eq_ok _ _ _).1 finished
    cases equal
    refine ⟨⟨_, rfl⟩, ?_⟩
    rintro key ⟨rfl⟩
    exact ⟨_, ⟨rfl, rfl, rfl⟩, rfl⟩

namespace RequestBuilder

variable {count : Nat}

/-- Assignments that all succeed end like the row of their calls. -/
theorem injectAll_of_assignAll (request after : Request count)
    (calls : List Operation.Injection) (succeeded : assignAll request calls = .ok after) :
    (request.injectAll calls).1 = after := by
  induction calls generalizing request with
  | nil =>
    cases succeeded
    rfl
  | cons call rest inductionHypothesis =>
    obtain ⟨path, given⟩ := call
    rw [assignAll] at succeeded
    split at succeeded
    · cases succeeded
    · next next assigned =>
      have later := inductionHypothesis next succeeded
      rw [Request.injectAll, Replay.runAll_cons, assigned]
      exact later

/-- A request that is built holds the document of its builder, with the arguments assigned. -/
theorem build_eq_ok (schema : Schema count) (builder : RequestBuilder count)
    (request : Request count) (built : builder.build schema = .ok request) :
    ∃ start : Request count, builder.buildDocument schema = .ok start.document ∧
      (start.injectAll builder.arguments).1 = request := by
  rw [build] at built
  cases named : builder.url with
  | none =>
    rw [named] at built
    cases built
  | some text =>
    rw [named] at built
    cases parsed : Url.parse text with
    | error problem =>
      simp only [parsed] at built
      cases built
    | ok url =>
      simp only [parsed] at built
      obtain ⟨_, -, continued⟩ := (Outcome.bind_eq_ok _ _ _).1 built
      obtain ⟨document, made, assigned⟩ := (Outcome.bind_eq_ok _ _ _).1 continued
      exact ⟨_, made, injectAll_of_assignAll _ _ _ assigned⟩

/-- The document of a builder is its text, or else it is compiled and rooted. -/
theorem buildDocument_eq_ok (schema : Schema count) (builder : RequestBuilder count)
    (document : Document) (made : builder.buildDocument schema = .ok document) :
    match builder.document with
    | some text => document = .raw text
    | none => ∃ compiled, document = .compiled compiled ∧
        compiled.operation.Rooted compiled.resourceKey := by
  cases given : builder.document with
  | some text =>
    simp only [buildDocument, given] at made
    exact (Except.ok.inj made).symm
  | none =>
    cases typed : builder.root with
    | none =>
      simp only [buildDocument, given, typed] at made
      cases made
    | some root =>
      simp only [buildDocument, given, typed] at made
      obtain ⟨compiled, succeeded, equal⟩ := (Outcome.bind_eq_ok _ _ _).1 made
      have rooted := schema.rooted_of_compile builder.scalars root compiled succeeded
      cases equal
      exact ⟨_, rfl, rooted.present, rooted.named⟩

/-- A request that is built from a root stays coherent whatever is assigned later, even if some of
the assignments fail. With a text given, all later assignments fail and the text is the document. -/
theorem build_coherent (schema : Schema count) (builder : RequestBuilder count)
    (request : Request count) (built : builder.build schema = .ok request)
    (calls : List Operation.Injection) :
    match builder.document with
    | none => (request.injectAll calls).1.Coherent
    | some text =>
      (request.injectAll calls).2 = calls.map (fun call => some (.invalidPath call.1)) ∧
        ∀ method, (request.injectAll calls).1.documentAs method = .ok text := by
  obtain ⟨start, made, rfl⟩ := build_eq_ok schema builder request built
  have shape := buildDocument_eq_ok schema builder start.document made
  cases given : builder.document with
  | none =>
    rw [given] at shape
    exact ((Request.Rooted.injectAll shape _).injectAll calls).coherent
  | some text =>
    rw [given] at shape
    have raw := (Request.injectAll_raw shape builder.arguments).1
    obtain ⟨later, failures⟩ := Request.injectAll_raw raw calls
    refine ⟨failures, ?_⟩
    intro method
    rw [Request.documentAs, later]

/-- A viewer with an id and a name to log in with. -/
def viewerSchema : Schema 1 where
  types := #v[
    { name := "Viewer"
      property := some ⟨"viewer", [{ name := "id" }]⟩
      fields := [{ name := "login", type := ⟨false, .builtin "str"⟩ }] }]

def viewerBuilder : RequestBuilder 1 where
  url := some "http://[::1]:8080/graphql"
  root := some 0

theorem build_coherent_viewer :
    ∃ request, viewerBuilder.build viewerSchema = .ok request ∧
      request.resourceKey? = some "viewer" ∧
      (request.injectAll [(".", [⟨"ID", .integer 7, false⟩]), ("posts", [])]).1.Coherent := by
  have present : ((viewerBuilder.build viewerSchema).toOption.bind Request.resourceKey?) =
      some "viewer" := by
    decide +kernel
  obtain ⟨request, succeeded, key⟩ := Option.bind_eq_some_iff.1 present
  have built := (Outcome.toOption_eq_some _ _).1 succeeded
  have coherent := build_coherent viewerSchema viewerBuilder request built
    [(".", [⟨"ID", .integer 7, false⟩]), ("posts", [])]
  exact ⟨request, built, key, coherent⟩

end RequestBuilder

end GraphQuery
