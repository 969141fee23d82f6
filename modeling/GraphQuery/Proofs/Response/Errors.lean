import GraphQuery.Proofs.Outcome
import GraphQuery.Response

/-
This file says which errors of a server can be read once its response has been taken apart.
-/

namespace GraphQuery.Response

variable {Payload : Type}

/-- The errors of the server that a result holds, be it a response or a failure. -/
def readableErrors : Except Failure (Response Payload) → Option (List ServerError)
  | .ok response => response.errors
  | .error failure => failure.errors?

/-- A response that reports no failure may hold data that its target refuses. -/
def Misfits (decode : Json → Except Json.Mismatch Payload) (status : Nat) (data : Option Json)
    (key : Option String) : Prop :=
  status < leastFailureStatus ∧
    ∃ json mismatch, payload data key = some json ∧ decode json = .error mismatch

/-- The errors of an envelope can be read from the result unless the data does not fit its target:
then none of them can. -/
theorem readableErrors_unwrap (decode : Json → Except Json.Mismatch Payload) (status : Nat)
    (reason : Option String) (headers : Keyed String) (body : List UInt8) (key : Option String)
    (envelope : Envelope) (parsed : Envelope.parse body = .ok envelope) :
    (¬Misfits decode status envelope.data key →
      readableErrors (unwrap decode status reason headers body key) = envelope.errors) ∧
    (Misfits decode status envelope.data key →
      readableErrors (unwrap decode status reason headers body key) = none) := by
  constructor
  · intro fits
    rw [unwrap, parsed]
    split
    · rfl
    · next below =>
      dsimp only
      split
      · rfl
      · next json selected =>
        split
        · rfl
        · next mismatch refused =>
          exact absurd ⟨Nat.lt_of_not_le below, json, mismatch, selected, refused⟩ fits
  · rintro ⟨below, json, mismatch, selected, refused⟩
    rw [unwrap, parsed, if_neg (Nat.not_le_of_lt below)]
    simp only [selected, refused]
    rfl

/-- This target has one field, which is an integer of 32 bits. -/
def resourceShape : Json.Shape :=
  .record "Resource" (.field "x" false (.integer .signed32) .empty)

/-- This partial result has a text in place of the integer and reports one error. -/
def partialBody : List UInt8 :=
  Text.Utf8.bytes
    "\x7b\"data\":\x7b\"x\":\"one\"\x7d,\"errors\":[\x7b\"message\":\"partial\"\x7d]\x7d"

/-- Under status 400 the reported error of the partial result is kept, and under status 200 it is
lost. -/
theorem readableErrors_unwrap_partialBody :
    ∃ envelope, Envelope.parse partialBody = .ok envelope ∧
      ¬Misfits resourceShape.decode 400 envelope.data none ∧
      readableErrors (unwrap resourceShape.decode 400 none [] partialBody none) = envelope.errors ∧
      Misfits resourceShape.decode 200 envelope.data none ∧
      readableErrors (unwrap resourceShape.decode 200 none [] partialBody none) = none := by
  have refused : ((Envelope.parse partialBody).toOption.bind fun envelope =>
      (payload envelope.data none).bind fun json =>
        match resourceShape.decode json with
        | .ok _ => none
        | .error mismatch => some mismatch).isSome = true := by decide +kernel
  obtain ⟨mismatch, found⟩ := Option.isSome_iff_exists.1 refused
  obtain ⟨envelope, first, later⟩ := Option.bind_eq_some_iff.1 found
  obtain ⟨json, selected, last⟩ := Option.bind_eq_some_iff.1 later
  have parsed := (Outcome.toOption_eq_some _ _).1 first
  have fits : ¬Misfits resourceShape.decode 400 envelope.data none := fun misfits =>
    absurd misfits.1 (by decide)
  have misfits : Misfits resourceShape.decode 200 envelope.data none := by
    refine ⟨by decide, json, ?_⟩
    split at last
    · cases last
    · next other decoded => exact ⟨other, selected, decoded⟩
  have kept := readableErrors_unwrap resourceShape.decode 400 none [] partialBody none envelope
    parsed
  have lost := readableErrors_unwrap resourceShape.decode 200 none [] partialBody none envelope
    parsed
  exact ⟨envelope, parsed, fits, kept.1 fits, misfits, lost.2 misfits⟩

/-- The reported error of the partial result is not in the failure that its data leads to. -/
theorem readableErrors_partialBody :
    (∃ envelope errors, Envelope.parse partialBody = .ok envelope ∧
      envelope.errors = some errors ∧ errors.map ServerError.message = ["partial"]) ∧
    readableErrors (unwrap resourceShape.decode 200 none [] partialBody none) = none := by
  constructor
  · have reported : ((Envelope.parse partialBody).toOption.bind Envelope.errors).map
        (·.map ServerError.message) = some ["partial"] := by decide +kernel
    obtain ⟨errors, found, messages⟩ := Option.map_eq_some_iff.1 reported
    obtain ⟨envelope, parsed, listed⟩ := Option.bind_eq_some_iff.1 found
    exact ⟨envelope, errors, (Outcome.toOption_eq_some _ _).1 parsed, listed, messages⟩
  · rw [← Option.isNone_iff_eq_none]
    decide +kernel

end GraphQuery.Response
