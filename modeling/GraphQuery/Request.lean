import GraphQuery.Json.Printer
import GraphQuery.Operation.Path
import GraphQuery.Schema.Compilation
import GraphQuery.Url.Reader

/-
This file holds requests and how they are put together.
-/

namespace GraphQuery

/-- A document is given as text or compiled from a type. -/
inductive Document where
  | raw (text : String)
  | compiled (compiled : Compiled)
deriving Inhabited

/-- A request is ready to be sent, and its arguments can still be set. -/
structure Request (count : Nat) where
  url : Url
  headers : Keyed String
  variableValues : Keyed Json
  scalars : Schema.Scalars count
  document : Document

namespace Request

variable {count : Nat}

/-- A raw document has no operation. -/
def operation? (request : Request count) : Option Operation :=
  match request.document with
  | .raw _ => none
  | .compiled compiled => some compiled.operation

/-- The data of the response is read under this key. -/
def resourceKey? (request : Request count) : Option String :=
  match request.document with
  | .raw _ => none
  | .compiled compiled => compiled.resourceKey

def method? (request : Request count) : Option Method := request.operation?.bind Operation.method

/-- The text of the document under a given verb; a raw text stays as it is. -/
def documentAs (request : Request count) (method : Option Method) : Except Failure String :=
  match request.document with
  | .raw text => .ok text
  | .compiled compiled => compiled.operation.renderAs method

def documentText (request : Request count) : Except Failure String :=
  request.documentAs request.method?

/-- The request after an assignment, and what went wrong; a raw document has no paths. -/
def setArguments (request : Request count) (path : String) (given : List Argument) :
    Request count × Option Failure :=
  match request.document with
  | .raw _ => (request, some (.invalidPath path))
  | .compiled compiled =>
    let (operation, problem) := compiled.operation.setArguments path given
    ({ request with document := .compiled { compiled with operation } }, problem)

/-- The body holds the document and the values of its variables. -/
def body (request : Request count) (method : Option Method) : Except Failure Json := do
  let query ← request.documentAs method
  return .ofMembers [("query", .string query), ("variables", .ofMembers request.variableValues)]

/-- The request as a message shows it. -/
def display (request : Request count) : String :=
  let content := match request.documentText with
    | .ok text => "request='" ++ text
    | .error failure => "error='" ++ failure.message
  "GraphQLRequest\x7b" ++ content ++ "', url='" ++ request.url.render ++ "'\x7d"

end Request

/-- One call in the construction of a request. -/
inductive RequestSetting (count : Nat) where
  | url (text : String)
  | headers (headers : List (String × String))
  | root (type : Fin count)
  | document (text : String)
  | arguments (path : String) (given : List Argument)
  | variableValues (values : List (String × Json))
  | scalar (element : Schema.Element count)
  | method (method : Method)

/-- A request under construction. -/
structure RequestBuilder (count : Nat) where
  url : Option String := none
  headers : Keyed String := []
  root : Option (Fin count) := none
  document : Option String := none
  arguments : List (String × List Argument) := []
  variableValues : List (String × Json) := []
  scalars : Schema.Scalars count := .empty
  method : Option Method := none

namespace RequestBuilder

variable {count : Nat}

/-- The last url, root, document and method count; headers are put by name, and all else is
collected. -/
def apply (builder : RequestBuilder count) : RequestSetting count → RequestBuilder count
  | .url text => { builder with url := some text }
  | .headers headers =>
    let put := fun known (header : String × String) => Keyed.put known header.1 header.2
    { builder with headers := headers.foldl put builder.headers }
  | .root type => { builder with root := some type }
  | .document text => { builder with document := some text }
  | .arguments path given => { builder with arguments := builder.arguments ++ [(path, given)] }
  | .variableValues values => { builder with variableValues := builder.variableValues ++ values }
  | .scalar element => { builder with scalars := builder.scalars.insert element }
  | .method method => { builder with method := some method }

def ofSettings (settings : List (RequestSetting count)) : RequestBuilder count :=
  settings.foldl apply {}

/-- A given document takes precedence over a root type, which is then not compiled. -/
def buildDocument (schema : Schema count) (builder : RequestBuilder count) :
    Except Failure Document :=
  match builder.document, builder.root with
  | some text, _ => .ok (.raw text)
  | none, some root => do
    let compiled ← schema.compile builder.scalars root
    let method := builder.method <|> compiled.operation.method
    return .compiled { compiled with operation := { compiled.operation with method } }
  | none, none => .error (.build .requestMissing)

/-- The assignments are made in the order of their calls, up to the first that fails. -/
def assignAll (request : Request count) :
    List (String × List Argument) → Except Failure (Request count)
  | [] => .ok request
  | (path, given) :: rest =>
    match request.setArguments path given with
    | (_, some failure) => .error failure
    | (next, none) => assignAll next rest

/-- The url is checked first, then the document is made, and then the arguments are assigned. -/
def build (schema : Schema count) (builder : RequestBuilder count) :
    Except Failure (Request count) := do
  let some text := builder.url | throw (.build .urlMissing)
  let url ← match Url.parse text with
    | .ok url => pure url
    | .error problem => throw (.invalidUrl text problem)
  let document ← builder.buildDocument schema
  assignAll
    { url, headers := builder.headers, variableValues := Keyed.ofPairs builder.variableValues
      scalars := builder.scalars, document }
    builder.arguments

end RequestBuilder

end GraphQuery
