import GraphQuery.CommandLine.Run
import GraphQuery.Proofs.Json.Shape.Encoding
import GraphQuery.Proofs.Response.Classification

/-
This file shows that a printed response holds the data and the errors that were received.
-/

namespace GraphQuery

open Json

namespace ServerError

/-- The numbers of a location, as they are written. -/
def place (location : Location) : (Shape.record "Location" locationFields).Carrier :=
  ((location.line : Int), (location.column : Int), ())

theorem map_location_place (locations : List Location) :
    (locations.map place).map location = locations := by
  rw [List.map_map]
  exact List.map_id locations

theorem ofData_toData (error : ServerError) : ofData error.toData = error := by
  obtain ⟨message, locations, path, extensions⟩ := error
  exact congrArg (ServerError.mk message · path extensions) (map_location_place locations)

theorem place_location (data : (Shape.record "Location" locationFields).Carrier)
    (sound : (Shape.record "Location" locationFields).Sound data) :
    place (location data) = data := by
  obtain ⟨line, column, ⟨⟩⟩ := data
  obtain ⟨first, second, -⟩ := sound
  have line_eq := Int.toNat_of_nonneg ((contains_unsigned32 line).1 first).1
  have column_eq := Int.toNat_of_nonneg ((contains_unsigned32 column).1 second).1
  exact Prod.ext line_eq (Prod.ext column_eq rfl)

theorem sound_place (data : (Shape.record "Location" locationFields).Carrier)
    (sound : (Shape.record "Location" locationFields).Sound data) :
    (Shape.record "Location" locationFields).Sound (place (location data)) := by
  rw [place_location data sound]
  exact sound

/-- Locations that were null are written as an empty list. -/
theorem sound_toData (data : shape.Carrier) (sound : shape.Sound data) :
    shape.Sound (ofData data).toData := by
  obtain ⟨message, locations, path, extensions, ⟨⟩⟩ := data
  obtain ⟨-, listed, steps, extra, -⟩ := sound
  refine ⟨trivial, ⟨?_, nofun⟩, steps, extra, trivial⟩
  cases locations with
  | none => exact List.forall_mem_nil _
  | some places =>
    intro entry inside
    obtain ⟨known, among, rfl⟩ := List.mem_map.1 inside
    obtain ⟨found, member, rfl⟩ := List.mem_map.1 among
    exact sound_place found (listed.1 found member)

end ServerError

namespace Envelope

def toData (envelope : Envelope) : shape.Carrier :=
  (envelope.data, envelope.errors.map (List.map ServerError.toData), ())

theorem ofData_toData (envelope : Envelope) : ofData envelope.toData = envelope := by
  obtain ⟨data, errors⟩ := envelope
  cases errors with
  | none => rfl
  | some errors =>
    have same : (errors.map ServerError.toData).map ServerError.ofData = errors := by
      rw [List.map_map]
      exact List.map_id'' ServerError.ofData_toData errors
    exact congrArg (fun listed => Envelope.mk data (some listed)) same

/-- Every envelope that is read can be written. -/
theorem sound_of_parse (body : List UInt8) (envelope : Envelope)
    (parsed : parse body = .ok envelope) : shape.Sound envelope.toData := by
  obtain ⟨data, read, rfl⟩ := (Outcome.map_eq_ok _ _ _).1 parsed
  obtain ⟨⟨⟨data, errors, ⟨⟩⟩, stop⟩, begun, ended⟩ := (Outcome.bind_eq_ok _ _ _).1 read
  obtain ⟨_, finished, equal⟩ := (Outcome.bind_eq_ok _ _ _).1 ended
  cases equal
  obtain ⟨first, second, -⟩ := shape.sound_of_read _ _ _ _ begun
  refine ⟨first, ?_, trivial⟩
  cases errors with
  | none => exact trivial
  | some errors =>
    refine ⟨fun entry inside => ?_, nofun⟩
    obtain ⟨error, among, rfl⟩ := List.mem_map.1 inside
    obtain ⟨data, member, rfl⟩ := List.mem_map.1 among
    exact ServerError.sound_toData data (second.1 data member)

end Envelope

namespace CommandLine

/-- A response is printed as the envelope of its data and its errors. -/
theorem printed_eq (response : Response Json) :
    printed response =
      Envelope.shape.encode (Envelope.toData ⟨response.data, response.errors⟩) := by
  obtain ⟨data, errors, status, headers⟩ := response
  have listed : errors.elim Json.null (fun errors => .array (errors.map ServerError.toJson)) =
      (Shape.optional (.list ServerError.shape)).encode
        (errors.map (List.map ServerError.toData)) := by
    cases errors with
    | none => rfl
    | some errors => exact congrArg Json.array List.map_map.symm
  rw [printed, listed]
  cases data <;> rfl

/-- What a response holds can be written as an envelope, since null data is left out of it. -/
theorem sound_of_unwrap (status : Nat) (reason : Option String) (headers : Keyed String)
    (body : List UInt8) (key : Option String) (response : Response Json)
    (succeeded : Response.unwrap .ok status reason headers body key = .ok response) :
    Envelope.shape.Sound (Envelope.toData ⟨response.data, response.errors⟩) := by
  obtain ⟨-, envelope, parsed, holds, errors⟩ :=
    Response.holds_of_unwrap .ok status reason headers body key response succeeded
  obtain ⟨-, listed, -⟩ := Envelope.sound_of_parse body envelope parsed
  rw [errors]
  refine ⟨?_, listed, trivial⟩
  generalize response.data = data at holds ⊢
  cases holds with
  | absent => exact trivial
  | present json data selected decoded =>
    cases decoded
    exact ⟨trivial, Response.payload_ne_null _ _ _ selected⟩

/-- All data of an envelope is the payload of a response without a key. -/
theorem holds_whole (envelope : Envelope) (sound : Envelope.shape.Sound envelope.toData) :
    Response.Holds .ok envelope none envelope.data := by
  obtain ⟨data, errors⟩ := envelope
  cases data with
  | none => exact .absent rfl
  | some json =>
    have notNull : json ≠ .null := sound.1.2
    refine .present json json ?_ rfl
    cases json with
    | null => exact absurd rfl notNull
    | boolean _ | integer _ | real _ | string _ | array _ | object _ => rfl

/-- The text of a body is well-formed and has the given value, and no name is repeated in the places
that an envelope looks at. -/
def IsBodyOf (json : Json) (body : List UInt8) : Prop :=
  ∃ tree, Tree.parse body = .ok tree ∧ Envelope.shape.Distinct tree ∧ tree.toJson = json

/-- What is printed for a response decodes to its data and its errors. A body that holds what is
printed is answered by the same data and the same errors. -/
theorem unwrap_printed (status : Nat) (reason : Option String) (headers : Keyed String)
    (body : List UInt8) (key : Option String) (response : Response Json)
    (succeeded : Response.unwrap .ok status reason headers body key = .ok response) :
    (Envelope.shape.decode (printed response)).map Envelope.ofData =
        .ok ⟨response.data, response.errors⟩ ∧
      ∀ printedBody, IsBodyOf (printed response) printedBody → ∀ reason headers,
        Response.unwrap .ok 200 reason headers printedBody none =
          .ok ⟨response.data, response.errors, 200, headers⟩ := by
  have sound := sound_of_unwrap status reason headers body key response succeeded
  have decoded : Envelope.shape.decode (printed response) =
      .ok (Envelope.toData ⟨response.data, response.errors⟩) := by
    rw [printed_eq]
    exact Envelope.shape.decode_encode Envelope.isProper_fields _ sound
  constructor
  · rw [decoded]
    exact congrArg Except.ok (Envelope.ofData_toData _)
  · rintro printedBody ⟨tree, parsed, distinct, value⟩ reason headers
    have read := Envelope.shape.toOption_parse Envelope.isProper_fields printedBody tree parsed
      (distinct.unrepeated _ tree)
    rw [value, decoded] at read
    have envelope : Envelope.parse printedBody = .ok ⟨response.data, response.errors⟩ := by
      rw [Envelope.parse, (Outcome.toOption_eq_some _ _).1 read]
      exact congrArg Except.ok (Envelope.ofData_toData _)
    exact Response.unwrap_of_holds .ok 200 reason headers printedBody none (by decide) _ envelope _
      (holds_whole _ sound)

/-- The locations of the error are null, and a member of another name comes with it. -/
def mixedBody : List UInt8 :=
  Text.Utf8.bytes
    "\x7b\"data\":\x7b\"x\":1\x7d,
      \"errors\":[\x7b\"hint\":true,\"message\":\"one\",\"locations\":null\x7d]\x7d"

def mixedResponse : Response Json where
  data := some (.object [("x", .integer 1)])
  errors := some [⟨"one", [], none, none⟩]
  status := 201
  headers := []

deriving instance DecidableEq for ServerError, Response

/-- The printed text of the mixed response is a body of what is printed, and is answered alike. -/
theorem unwrap_printed_mixedBody :
    Response.unwrap .ok 201 none [] mixedBody none = .ok mixedResponse ∧
      (Envelope.shape.decode (printed mixedResponse)).map Envelope.ofData =
        .ok ⟨mixedResponse.data, mixedResponse.errors⟩ ∧
      IsBodyOf (printed mixedResponse) (Text.Utf8.bytes (printed mixedResponse).pretty) ∧
      Response.unwrap .ok 200 none [] (Text.Utf8.bytes (printed mixedResponse).pretty) none =
        .ok { mixedResponse with status := 200 } := by
  have received : Response.unwrap .ok 201 none [] mixedBody none = .ok mixedResponse :=
    (Outcome.toOption_eq_some _ _).1 (by decide +kernel)
  have read : (Tree.parse (Text.Utf8.bytes (printed mixedResponse).pretty)).toOption.map
      (fun tree => decide (Envelope.shape.Distinct tree)) = some true := by decide +kernel
  have value : Json.parse (Text.Utf8.bytes (printed mixedResponse).pretty) =
      .ok (printed mixedResponse) := (Outcome.toOption_eq_some _ _).1 (by decide +kernel)
  obtain ⟨tree, found, distinct⟩ := Option.map_eq_some_iff.1 read
  have parsed := (Outcome.toOption_eq_some _ _).1 found
  rw [parse_eq, parsed] at value
  have body : IsBodyOf (printed mixedResponse) (Text.Utf8.bytes (printed mixedResponse).pretty) :=
    ⟨tree, parsed, of_decide_eq_true distinct, Except.ok.inj value⟩
  obtain ⟨decoded, again⟩ := unwrap_printed 201 none [] mixedBody none mixedResponse received
  exact ⟨received, decoded, body, again _ body none []⟩

end CommandLine

end GraphQuery
