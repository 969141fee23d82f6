import GraphQuery.Json.Shape

/-
This file holds the errors that a server reports.
-/

namespace GraphQuery

/-- A place in the document that was sent. -/
structure Location where
  line : Nat
  column : Nat
deriving DecidableEq, Repr, Inhabited

structure ServerError where
  message : String
  locations : List Location
  /-- The keys and indices that lead to the field in the data. -/
  path : Option (List Json)
  extensions : Option Json
deriving Inhabited

namespace ServerError

open Json

def locationFields : Fields :=
  .field "line" false (.integer .unsigned32)
    (.field "column" false (.integer .unsigned32) .empty)

def fields : Fields :=
  .field "message" false .text
    (.field "locations" true (.optional (.list (.record "Location" locationFields)))
      (.field "path" true (.optional (.list .any))
        (.field "extensions" true (.optional .any) .empty)))

/-- Everything but the message may be absent. -/
def shape : Shape := .record "GraphQLError" fields

/-- A null list of locations is empty. -/
def ofData : shape.Carrier → ServerError
  | (message, locations, path, extensions, ()) =>
    { message
      locations := (show Option (List (Int × Int × Unit)) from locations).getD [] |>.map
        fun (line, column, ()) => ⟨line.toNat, column.toNat⟩
      path
      extensions }

def toData (error : ServerError) : shape.Carrier :=
  (error.message,
    some (error.locations.map fun location => ((location.line : Int), (location.column : Int), ())),
    error.path, error.extensions, ())

def toJson (error : ServerError) : Json := shape.encode error.toData

/-- The member `code` counts only where `classification` is absent. -/
def classification? (error : ServerError) : Option String := do
  let extensions ← error.extensions
  let value ← extensions.member? "classification" <|> extensions.member? "code"
  value.string?

end ServerError

end GraphQuery
