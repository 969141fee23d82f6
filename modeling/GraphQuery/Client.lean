import GraphQuery.Http.Message
import GraphQuery.Request
import GraphQuery.Response

/-
This file sends requests and reads their responses.
-/

namespace GraphQuery

/-- A client under construction; headers are kept by name as it is written. -/
structure ClientBuilder where
  headers : Keyed String := []
  userAgent : String := "gqlnodes/0.1.0"
  timeout : Option Nat := none
deriving Inhabited

/-- A client adds its default headers to the requests that it sends. -/
structure Client where
  headers : Http.Headers
  timeout : Option Nat
deriving Inhabited

namespace ClientBuilder

open Http

/-- One more default header; a name that is written as before keeps its place. -/
def header (builder : ClientBuilder) (name value : String) : ClientBuilder :=
  { builder with headers := Keyed.put builder.headers name value }

/-- The first header with an invalid name or value. -/
def firstProblem? : Headers → Option BuildProblem
  | [] => none
  | (name, value) :: rest =>
    if !Header.isValidName name then some (.invalidHeaderName name)
    else if !Header.isValidValue value then some (.invalidHeaderValue name)
    else firstProblem? rest

/-- Of headers whose names differ in case only the last one counts, and the user agent is set
after all of them. -/
def defaults (builder : ClientBuilder) : Headers :=
  Keyed.put (Keyed.ofPairs (builder.headers.map Header.canonical)) "user-agent" builder.userAgent

def build (builder : ClientBuilder) : Except Failure Client :=
  match firstProblem? builder.headers with
  | some problem => .error (.build problem)
  | none =>
    if Header.isValidValue builder.userAgent then .ok ⟨builder.defaults, builder.timeout⟩
    else .error (.transport "builder error")

end ClientBuilder

/-- The verb of a call; executing a request uses the verb of its own. -/
inductive Call where
  | query
  | mutate
  | execute
deriving DecidableEq, Repr

def Call.method {count : Nat} (request : Request count) : Call → Option Method
  | query => some .query
  | mutate => some .mutation
  | execute => request.method?

namespace Client

open Http

variable {count : Nat}

/-- The message is in JSON, and the headers of the request are added to these. -/
def ownHeaders : Headers :=
  [("accept", "application/json"), ("content-type", "application/json")]

def requestHeaders (request : Request count) : Headers :=
  ownHeaders ++ request.headers.map Header.canonical

/-- The message of a request, with the client's headers where the request gives none. -/
def message (client : Client) (request : Request count) (call : Call) : Except Failure Message := do
  let body ← request.body (call.method request)
  if !request.headers.all Header.isValid then throw (.transport "builder error")
  return {
    url := request.url
    headers := Headers.withDefaults (requestHeaders request) client.headers
    body := body.render
    timeout := client.timeout }

/-- The response that a delivery brings. -/
def receive {Payload : Type} (decode : Json → Except Json.Mismatch Payload)
    (key : Option String) : Delivery → Except Failure (Response Payload)
  | .failed description => .error (.transport description)
  | .answered reply =>
    Response.unwrap decode reply.status (reason? reply.status) reply.headers.received
      reply.content key

/-- A request is sent, and its response is decoded; `send` delivers a message. -/
def exchange {Payload : Type} {M : Type → Type} [Monad M] (send : Message → M Delivery)
    (decode : Json → Except Json.Mismatch Payload) (client : Client) (request : Request count)
    (call : Call) : M (Except Failure (Response Payload)) :=
  match client.message request call with
  | .error failure => pure (.error failure)
  | .ok message => do return receive decode request.resourceKey? (← send message)

end Client

end GraphQuery
