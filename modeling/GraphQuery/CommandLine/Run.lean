import GraphQuery.Client
import GraphQuery.CommandLine.Help

/-
This file runs commands.
-/

namespace GraphQuery.CommandLine

/-- A command needs documents to be read and messages to be delivered. -/
structure Surroundings (M : Type → Type) where
  /-- The text of a document, or why it cannot be read. -/
  read : DocumentSource → M (Except String String)
  send : Http.Message → M Http.Delivery

/-- These are the ways in which a run can fail. -/
inductive CommandFailure where
  | documentMissing
  | unreadable (source : DocumentSource) (reason : String)
  | invalidVariables (fault : Json.Fault)
  | variablesNotObject
  | request (failure : Failure)

def DocumentSource.display : DocumentSource → String
  | standardInput => "stdin"
  | file path => path

/-- The message of a failure and those of its causes. -/
def CommandFailure.messages : CommandFailure → List String
  | documentMissing => ["one of --query or --file is required"]
  | unreadable source reason => ["failed to read document from " ++ source.display, reason]
  | invalidVariables fault => ["--variables is not valid JSON", fault.message]
  | variablesNotObject => ["--variables must be a JSON object"]
  | request (.invalidUrl url problem) => [(Failure.invalidUrl url problem).message, problem.message]
  | request failure => [failure.message]

/-- What a run writes, and why it failed if it did. -/
structure Report where
  output : String
  diagnostics : String
  failure : Option CommandFailure

namespace Report

def failed (failure : CommandFailure) : Report := ⟨"", "", some failure⟩

end Report

def numberText (number : Nat) : String := String.ofList (Decimal.digitChars number)

def placeText (location : Location) : String :=
  numberText location.line ++ ":" ++ numberText location.column

/-- An error of the server and the places that it names. -/
def errorLine (error : ServerError) : String :=
  let places := Text.joinedStrings ", " (error.locations.map placeText)
  "  - " ++ error.message ++ (if error.locations.isEmpty then "" else " (at " ++ places ++ ")")

/-- What is known of a failed exchange beyond its message. -/
def failureLines (failure : Failure) : List String :=
  (failure.status?.map fun status => "  status: " ++ numberText status).toList ++
    (failure.description?.map ("  description: " ++ ·)).toList ++
    (failure.errors?.getD []).map errorLine

/-- People are told of errors that come with a response. -/
def warningLines (format : OutputFormat) (errors : List ServerError) : List String :=
  if format = .human ∧ !errors.isEmpty then
    ("warning: response carries " ++ numberText errors.length ++ " GraphQL error(s)") ::
      errors.map errorLine
  else []

/-- The data and the errors of a response as one object. -/
def printed (response : Response Json) : Json :=
  .ofMembers [("data", response.data.getD .null),
    ("errors", response.errors.elim .null fun errors => .array (errors.map ServerError.toJson))]

def responseReport (format : OutputFormat) (response : Response Json) : Report :=
  ⟨(printed response).pretty ++ "\n", lines (warningLines format (response.errors.getD [])), none⟩

/-- The variables of an object, in the order of their names. -/
def readVariables : Option String → Except CommandFailure (List (String × Json))
  | none => .ok []
  | some text =>
    match Json.parse (Text.Utf8.bytes text) with
    | .error fault => .error (.invalidVariables fault)
    | .ok (.object members) => .ok members
    | .ok _ => .error .variablesNotObject

/-- A raw document needs no types. -/
def noTypes : Schema 0 := ⟨#v[]⟩

/-- The client and the request of a command whose document is known. -/
def prepare (command : RunCommand) (document : String) :
    Except CommandFailure (Client × Request 0) := do
  let values ← readVariables command.variablesText
  let settings : List (RequestSetting 0) :=
    [.url command.url, .headers command.headers, .document document, .variableValues values]
  let request ← ((RequestBuilder.ofSettings settings).build noTypes).mapError .request
  let builder : ClientBuilder := { timeout := command.timeout.map (1000 * ·) }
  let client ← builder.build.mapError .request
  return (client, request)

variable {M : Type → Type} [Monad M]

/-- The document of a command; a given text takes precedence over a file. -/
def readDocument (surroundings : Surroundings M) (command : RunCommand) :
    M (Except CommandFailure String) :=
  match command.query, command.file with
  | some query, _ => pure (.ok query)
  | none, some path => do
    let source := DocumentSource.ofPath path
    return (← surroundings.read source).mapError (.unreadable source)
  | none, none => pure (.error .documentMissing)

/-- The document is read, the request is prepared and sent, and the response is printed. -/
def run (surroundings : Surroundings M) (command : RunCommand) (format : OutputFormat) :
    M Report := do
  match ← readDocument surroundings command with
  | .error failure => return .failed failure
  | .ok document =>
    match prepare command document with
    | .error failure => return .failed failure
    | .ok (client, request) =>
      match ← client.exchange surroundings.send .ok request .execute with
      | .error failure => return ⟨"", lines (failureLines failure), some (.request failure)⟩
      | .ok response => return responseReport format response

/-- What the program leaves behind. -/
structure Outcome where
  code : Nat
  output : String
  diagnostics : String

/-- The failure of a run stands on the last line. -/
def Report.outcome (report : Report) : Outcome :=
  match report.failure with
  | none => ⟨0, report.output, report.diagnostics⟩
  | some failure =>
    ⟨1, report.output,
      report.diagnostics ++ "Error: " ++ Text.joinedStrings ": " failure.messages ++ "\n"⟩

/-- The whole program: its arguments are read and what they ask for is done. -/
def perform (surroundings : Surroundings M) (urlFromEnvironment : Option String) (terminal : Bool)
    (arguments : List String) : M Outcome := do
  match Invocation.read urlFromEnvironment arguments with
  | .error problem => return ⟨2, "", problem.report⟩
  | .ok .noArguments => return ⟨2, "", Level.program.help⟩
  | .ok .version => return ⟨0, versionText, ""⟩
  | .ok (.help level) => return ⟨0, level.help, ""⟩
  | .ok (.run command format _) =>
    return (← run surroundings command (OutputFormat.resolve format terminal)).outcome

end GraphQuery.CommandLine
