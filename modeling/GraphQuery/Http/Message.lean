import GraphQuery.Http.Header
import GraphQuery.Http.Status
import GraphQuery.Url

/-
This file holds what is sent to a server and what comes back.
-/

namespace GraphQuery.Http

/-- A message posts a JSON text to a URL. -/
structure Message where
  url : Url
  headers : Headers
  body : String
  /-- The time for the whole exchange in milliseconds, if it is limited. -/
  timeout : Option Nat
deriving Inhabited

structure Reply where
  status : Nat
  headers : Headers
  body : List UInt8
deriving Inhabited

/-- The bytes that are read as the body of a reply. -/
def Reply.content (reply : Reply) : List UInt8 := if isBodiless reply.status then [] else reply.body

/-- A message is answered, or its delivery fails for a described reason. -/
inductive Delivery where
  | answered (reply : Reply)
  | failed (description : String)

end GraphQuery.Http
