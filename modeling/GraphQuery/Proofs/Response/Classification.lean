import GraphQuery.Proofs.Response.Envelope
import GraphQuery.Proofs.Response.Errors

/-
This file says what a response comes to, given the tree of its body.
-/

namespace GraphQuery

open Json

/-- The bodies that are accepted are the envelopes, whatever stands in members of other names. -/
theorem Envelope.parse_eq_ok (body : List UInt8) (tree : Tree)
    (parsed : Tree.parse body = .ok tree) (distinct : shape.Distinct tree) (envelope : Envelope) :
    parse body = .ok envelope ↔ Is tree envelope := by
  have proper : shape.IsProper := by
    rw [shape, Shape.IsProper]
    exact isProper_fields
  have same := shape.toOption_parse proper body tree parsed (distinct.unrepeated shape tree)
  rw [← means_shape tree distinct envelope, ← same, Option.map_eq_some_iff, parse,
    Outcome.map_eq_ok]
  simp only [Outcome.toOption_eq_some]

namespace Response

variable {Payload : Type}

/-- Missing data has no content, and other data has the one that its target takes from it. -/
inductive Holds (decode : Json → Except Mismatch Payload) (envelope : Envelope)
    (key : Option String) : Option Payload → Prop
  | absent (nothing : payload envelope.data key = none) : Holds decode envelope key none
  | present (json : Json) (data : Payload) (selected : payload envelope.data key = some json)
      (decoded : decode json = .ok data) : Holds decode envelope key (some data)

/-- The status and the tree of the body tell which of the outcomes it is. -/
structure Classified (decode : Json → Except Mismatch Payload) (status : Nat)
    (reason : Option String) (headers : Keyed String) (key : Option String) (tree : Tree)
    (parsed : Except Fault Envelope) (result : Except Failure (Response Payload)) : Prop where
  accepted : ∀ envelope, parsed = .ok envelope ↔ Envelope.Is tree envelope
  failed : leastFailureStatus ≤ status → ∃ description errors,
    result = .error (.http status reason description errors) ∧
      (description.isSome = true ↔ ¬∃ envelope, Envelope.Is tree envelope) ∧
      (∀ envelope, Envelope.Is tree envelope → errors = envelope.errors) ∧
      (errors.isSome = true → ∃ envelope, Envelope.Is tree envelope)
  refused : status < leastFailureStatus →
    ((∃ description, result = .error (.protocol (some status) description)) ↔
      (¬∃ envelope, Envelope.Is tree envelope) ∨
        ∃ envelope, Envelope.Is tree envelope ∧ Misfits decode status envelope.data key)
  answered : status < leastFailureStatus → ∀ envelope content, Envelope.Is tree envelope →
    Holds decode envelope key content → result = .ok ⟨content, envelope.errors, status, headers⟩

theorem unwrap_of_unread (decode : Json → Except Mismatch Payload) (status : Nat)
    (reason : Option String) (headers : Keyed String) (body : List UInt8) (key : Option String)
    (below : status < leastFailureStatus) (fault : Fault)
    (unread : Envelope.parse body = .error fault) :
    unwrap decode status reason headers body key =
      .error (.protocol (some status) fault.message) := by
  rw [unwrap, if_neg (Nat.not_le_of_lt below), unread]

theorem unwrap_of_misfits (decode : Json → Except Mismatch Payload) (status : Nat)
    (reason : Option String) (headers : Keyed String) (body : List UInt8) (key : Option String)
    (envelope : Envelope) (read : Envelope.parse body = .ok envelope)
    (misfits : Misfits decode status envelope.data key) :
    ∃ description, unwrap decode status reason headers body key =
      .error (.protocol (some status) description) := by
  obtain ⟨below, json, mismatch, selected, refused⟩ := misfits
  rw [unwrap, if_neg (Nat.not_le_of_lt below), read]
  simp only [selected, refused]
  exact ⟨_, rfl⟩

theorem unwrap_of_holds (decode : Json → Except Mismatch Payload) (status : Nat)
    (reason : Option String) (headers : Keyed String) (body : List UInt8) (key : Option String)
    (below : status < leastFailureStatus) (envelope : Envelope)
    (read : Envelope.parse body = .ok envelope) (content : Option Payload)
    (holds : Holds decode envelope key content) :
    unwrap decode status reason headers body key =
      .ok ⟨content, envelope.errors, status, headers⟩ := by
  rw [unwrap, if_neg (Nat.not_le_of_lt below), read]
  cases holds with
  | absent nothing => simp only [nothing]
  | present json data selected decoded => simp only [selected, decoded]

/-- The target of the data takes it unless it misfits. -/
theorem exists_holds (decode : Json → Except Mismatch Payload) (status : Nat)
    (key : Option String) (below : status < leastFailureStatus) (envelope : Envelope)
    (fits : ¬Misfits decode status envelope.data key) :
    ∃ content, Holds decode envelope key content := by
  cases selected : payload envelope.data key with
  | none => exact ⟨none, .absent selected⟩
  | some json =>
    cases decoded : decode json with
    | ok data => exact ⟨some data, .present json data selected decoded⟩
    | error mismatch => exact absurd ⟨below, json, mismatch, selected, decoded⟩ fits

/-- A successful response comes from an envelope whose data its target takes. -/
theorem holds_of_unwrap (decode : Json → Except Mismatch Payload) (status : Nat)
    (reason : Option String) (headers : Keyed String) (body : List UInt8) (key : Option String)
    (response : Response Payload)
    (succeeded : unwrap decode status reason headers body key = .ok response) :
    status < leastFailureStatus ∧ ∃ envelope, Envelope.parse body = .ok envelope ∧
      Holds decode envelope key response.data ∧ response.errors = envelope.errors := by
  by_cases below : status < leastFailureStatus
  · refine ⟨below, ?_⟩
    cases read : Envelope.parse body with
    | error fault =>
      rw [unwrap_of_unread _ _ _ _ _ _ below fault read] at succeeded
      cases succeeded
    | ok envelope =>
      by_cases fits : Misfits decode status envelope.data key
      · obtain ⟨description, failed⟩ :=
          unwrap_of_misfits decode status reason headers body key envelope read fits
        rw [failed] at succeeded
        cases succeeded
      · obtain ⟨content, holds⟩ := exists_holds decode status key below envelope fits
        rw [unwrap_of_holds _ _ _ _ _ _ below envelope read content holds] at succeeded
        cases succeeded
        exact ⟨envelope, rfl, holds, rfl⟩
  · rw [unwrap, if_pos (Nat.le_of_not_lt below)] at succeeded
    cases read : Envelope.parse body <;> rw [read] at succeeded <;> cases succeeded

theorem payload_ne_null (data : Option Json) (key : Option String) (json : Json)
    (selected : payload data key = some json) : json ≠ .null := by
  rintro rfl
  obtain ⟨-, notNull⟩ := Option.filter_eq_some_iff.1 selected
  cases notNull

/-- Every response to a well-formed body is classified by its status and by what the body is. -/
theorem unwrap_classified (decode : Json → Except Mismatch Payload) (status : Nat)
    (reason : Option String) (headers : Keyed String) (body : List UInt8) (key : Option String)
    (tree : Tree) (parsed : Tree.parse body = .ok tree) (distinct : Envelope.shape.Distinct tree) :
    Classified decode status reason headers key tree (Envelope.parse body)
      (unwrap decode status reason headers body key) := by
  have accepted := Envelope.parse_eq_ok body tree parsed distinct
  refine ⟨accepted, fun failed => ?_, fun below => ⟨?_, ?_⟩, fun below envelope content is => ?_⟩
  · rw [unwrap, if_pos failed]
    simp only [← accepted]
    cases Envelope.parse body with
    | ok envelope => exact ⟨none, envelope.errors, rfl, by simp, by simp, fun _ => ⟨envelope, rfl⟩⟩
    | error fault => exact ⟨some fault.message, none, rfl, by simp, by simp, by simp⟩
  · rintro ⟨description, protocol⟩
    cases read : Envelope.parse body with
    | error fault =>
      refine .inl ?_
      rintro ⟨envelope, is⟩
      rw [← accepted, read] at is
      cases is
    | ok envelope =>
      refine .inr ⟨envelope, (accepted envelope).1 read, ?_⟩
      by_contra fits
      obtain ⟨content, holds⟩ := exists_holds decode status key below envelope fits
      rw [unwrap_of_holds _ _ _ _ _ _ below envelope read content holds] at protocol
      cases protocol
  · rintro (unread | ⟨envelope, is, misfits⟩)
    · cases read : Envelope.parse body with
      | error fault => exact ⟨_, unwrap_of_unread _ _ _ _ _ _ below fault read⟩
      | ok envelope => exact absurd ⟨envelope, (accepted envelope).1 read⟩ unread
    · exact unwrap_of_misfits _ _ _ _ _ _ envelope ((accepted envelope).2 is) misfits
  · exact unwrap_of_holds _ _ _ _ _ _ below envelope ((accepted envelope).2 is) content

/-- One error of this envelope is an object with null locations, and the other one is a list whose
second location is a list too. -/
def mixedBody : List UInt8 :=
  Text.Utf8.bytes
    "\x7b\"data\":\x7b\"x\":7\x7d,\"errors\":[\x7b\"message\":\"one\",\"locations\":null,
      \"hint\":[]\x7d,[\"two\",[\x7b\"column\":2,\"line\":1\x7d,[3,4]]]],\"more\":true\x7d"

/-- The mixed envelope is accepted, and its response is classified. -/
theorem unwrap_classified_mixedBody :
    ∃ tree, Tree.parse mixedBody = .ok tree ∧ Envelope.shape.Distinct tree ∧
      (∃ envelope, Envelope.Is tree envelope) ∧
      Classified (Shape.integer .signed32).decode 200 none [] (some "x") tree
        (Envelope.parse mixedBody)
        (unwrap (Shape.integer .signed32).decode 200 none [] mixedBody (some "x")) := by
  have distinctTree : ((Tree.parse mixedBody).toOption.map fun tree =>
      decide (Envelope.shape.Distinct tree)) = some true := by decide +kernel
  have isRead : (Envelope.parse mixedBody).toOption.isSome = true := by decide +kernel
  obtain ⟨tree, found, distinct⟩ := Option.map_eq_some_iff.1 distinctTree
  have parsed := (Outcome.toOption_eq_some _ _).1 found
  obtain ⟨envelope, read⟩ := (Outcome.isSome_toOption _).1 isRead
  have classified := unwrap_classified (Shape.integer .signed32).decode 200 none [] mixedBody
    (some "x") tree parsed (of_decide_eq_true distinct)
  exact ⟨tree, parsed, of_decide_eq_true distinct, ⟨envelope, (classified.accepted _).1 read⟩,
    classified⟩

end Response

end GraphQuery
