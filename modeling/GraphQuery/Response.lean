import GraphQuery.Failure
import GraphQuery.Json.Shape.Reader

/-
This file takes responses apart.
-/

namespace GraphQuery

/-- The body of every response holds data, errors or both. -/
structure Envelope where
  data : Option Json
  errors : Option (List ServerError)
deriving Inhabited

namespace Envelope

open Json

def fields : Fields :=
  .field "data" true (.optional .any)
    (.field "errors" true (.optional (.list ServerError.shape)) .empty)

def shape : Shape := .record "Envelope" fields

def ofData : shape.Carrier → Envelope
  | (data, errors, ()) =>
    { data
      errors := (show Option (List ServerError.shape.Carrier) from errors).map
        (List.map ServerError.ofData) }

def parse (body : List UInt8) : Except Fault Envelope := (shape.parse body).map ofData

end Envelope

/-- A successful response; absent data and a list of errors may come together. -/
structure Response (Payload : Type) where
  data : Option Payload
  errors : Option (List ServerError)
  status : Nat
  headers : Keyed String

namespace Response

variable {Payload : Type}

def hasErrors (response : Response Payload) : Bool := !(response.errors.getD []).isEmpty

/-- Statuses from here on report a failure. -/
def leastFailureStatus : Nat := 400

/-- The data under the resource key, or all data without a key; null counts as absent. -/
def payload (data : Option Json) (key : Option String) : Option Json :=
  let selected := match key with
    | some key => data.bind (·.member? key)
    | none => data
  selected.filter (!·.isNull)

/-- The response of a server, with its data decoded into a payload. -/
def unwrap (decode : Json → Except Json.Mismatch Payload) (status : Nat) (reason : Option String)
    (headers : Keyed String) (body : List UInt8) (key : Option String) :
    Except Failure (Response Payload) :=
  let envelope := Envelope.parse body
  if leastFailureStatus ≤ status then
    match envelope with
    | .ok envelope => .error (.http status reason none envelope.errors)
    | .error fault => .error (.http status reason (some fault.message) none)
  else
    match envelope with
    | .error fault => .error (.protocol (some status) fault.message)
    | .ok envelope =>
      match payload envelope.data key with
      | none => .ok ⟨none, envelope.errors, status, headers⟩
      | some json =>
        match decode json with
        | .ok data => .ok ⟨some data, envelope.errors, status, headers⟩
        | .error mismatch =>
          .error (.protocol (some status)
            ("Failed to deserialize '" ++ key.getD "data" ++ "': " ++ mismatch.message))

end Response

end GraphQuery
