import GraphQuery.CommandLine.Run
import GraphQuery.Proofs.Client.Precedence
import GraphQuery.Proofs.Json.Tree
import GraphQuery.Proofs.Request.Construction
import GraphQuery.Proofs.Response.Classification

/-
This file says what a run sends and when it succeeds, from its arguments to what it prints.
-/

namespace GraphQuery.CommandLine

/-- Sources are read and every message is answered in the given way. The messages are recorded. -/
def recording (read : DocumentSource → Except String String) (reply : Http.Reply) :
    Surroundings (StateM (List Http.Message)) where
  read source := return read source
  send message := do
    modify (· ++ [message])
    return .answered reply

/-- The document of a command is its text or what its source holds. -/
def RunCommand.HasDocument (command : RunCommand)
    (read : DocumentSource → Except String String) (document : String) : Prop :=
  match command.query, command.file with
  | some query, _ => query = document
  | none, some path => read (.ofPath path) = .ok document
  | none, none => False

/-- Variables are the members of an object; without a text there are none. -/
def HasVariables (variablesText : Option String) (members : List (String × Json)) : Prop :=
  match variablesText with
  | none => members = []
  | some text => Json.parse (Text.Utf8.bytes text) = .ok (.object members)

/-- A command is ready if its variables and its address can be read. -/
def RunCommand.Ready (command : RunCommand) : Prop :=
  (∃ members, HasVariables command.variablesText members) ∧
    ∃ url, Url.parse command.url = .ok url

theorem readVariables_eq_ok (variablesText : Option String) (members : List (String × Json)) :
    readVariables variablesText = .ok members ↔ HasVariables variablesText members := by
  cases variablesText with
  | none =>
    rw [readVariables, HasVariables, Except.ok.injEq]
    exact eq_comm
  | some text =>
    rw [readVariables, HasVariables]
    cases parsed : Json.parse (Text.Utf8.bytes text) with
    | error fault => simp
    | ok json => cases json <;> simp

theorem HasVariables.isSorted {variablesText : Option String} {members : List (String × Json)}
    (values : HasVariables variablesText members) : Json.IsSorted members := by
  cases variablesText with
  | none =>
    rw [show members = [] from values]
    exact List.Pairwise.nil
  | some text => exact Json.isSorted_of_parse _ _ values

/-- The request of a command sends its document as it is. -/
def RunCommand.request (command : RunCommand) (url : Url) (document : String)
    (members : List (String × Json)) : Request 0 where
  url
  headers := Keyed.ofPairs command.headers
  variableValues := members
  scalars := .empty
  document := .raw document

/-- Only the time of a client is chosen by a command. -/
def RunCommand.clientBuilder (command : RunCommand) : ClientBuilder where
  timeout := command.timeout.map (1000 * ·)

def RunCommand.client (command : RunCommand) : Client :=
  ⟨command.clientBuilder.defaults, command.clientBuilder.timeout⟩

theorem build_clientBuilder (command : RunCommand) :
    command.clientBuilder.build = .ok command.client := by
  have valid : Http.Header.isValidValue command.clientBuilder.userAgent = true := by
    change Http.Header.isValidValue "gqlnodes/0.1.0" = true
    decide
  have plain : ClientBuilder.firstProblem? command.clientBuilder.headers = none := rfl
  rw [ClientBuilder.build, plain, if_pos valid]
  rfl

theorem build_settings (command : RunCommand) (document : String)
    (members : List (String × Json)) (sorted : Json.IsSorted members) (url : Url)
    (parsed : Url.parse command.url = .ok url) :
    (RequestBuilder.ofSettings [.url command.url, .headers command.headers, .document document,
      .variableValues members]).build noTypes = .ok (command.request url document members) := by
  have started : (RequestSummary.ofSettings [.url command.url, .headers command.headers,
      .document document, .variableValues members]).start url (.raw document) =
      command.request url document members := by
    have headers := congrArg Keyed.ofPairs (List.append_nil command.headers)
    have values := (congrArg Keyed.ofPairs (List.append_nil members)).trans
      (Keyed.ofPairs_of_nodup members sorted.nodup)
    rw [RequestSummary.start, RunCommand.request, Request.mk.injEq]
    exact ⟨rfl, headers, values, rfl, rfl⟩
  apply RequestBuilder.build_of_yields
  rw [← started]
  exact .built url (.raw document) _ ⟨command.url, rfl, parsed⟩ (.raw document rfl) (.nil _)

theorem prepare_eq_ok (command : RunCommand) (document : String) (members : List (String × Json))
    (url : Url) (values : HasVariables command.variablesText members)
    (parsed : Url.parse command.url = .ok url) :
    prepare command document = .ok (command.client, command.request url document members) := by
  rw [prepare, (readVariables_eq_ok _ _).2 values]
  have client := build_clientBuilder command
  rw [RunCommand.clientBuilder] at client
  simp only [bind, Except.bind, build_settings command document members values.isSorted url parsed,
    Except.mapError, client]
  rfl

/-- Without variables or without an address nothing is prepared. -/
theorem prepare_eq_error (command : RunCommand) (document : String) (unready : ¬command.Ready) :
    ∃ failure, prepare command document = .error failure := by
  cases values : readVariables command.variablesText with
  | error failure =>
    refine ⟨failure, ?_⟩
    rw [prepare, values]
    rfl
  | ok members =>
    cases parsed : Url.parse command.url with
    | ok url => exact absurd ⟨⟨members, (readVariables_eq_ok _ _).1 values⟩, url, parsed⟩ unready
    | error problem =>
      refine ⟨.request (.invalidUrl command.url problem), ?_⟩
      have refused : (RequestBuilder.ofSettings [.url command.url, .headers command.headers,
          .document document, .variableValues members]).build noTypes =
          .error (.invalidUrl command.url problem) :=
        RequestBuilder.build_of_yields noTypes _ _ (.invalidUrl command.url problem rfl parsed)
      rw [prepare, values]
      simp only [bind, Except.bind, refused, Except.mapError]

variable (read : DocumentSource → Except String String) (reply : Http.Reply)

theorem readDocument_recording (command : RunCommand) (document : String)
    (readable : command.HasDocument read document) :
    readDocument (recording read reply) command = return .ok document := by
  rw [RunCommand.HasDocument] at readable
  rw [readDocument]
  cases query : command.query with
  | some text =>
    simp only [query] at readable
    rw [readable]
  | none =>
    cases file : command.file with
    | none => simp [query, file] at readable
    | some path =>
      simp only [query, file] at readable
      simp only [recording, pure_bind, readable]
      rfl

/-- What a run reports once its message is answered. -/
def answerReport (format : OutputFormat) : Except Failure (Response Json) → Report
  | .error failure => ⟨"", lines (failureLines failure), some (.request failure)⟩
  | .ok response => responseReport format response

/-- A run sends the message of its request, and nothing if it fails before. -/
theorem run_recording (command : RunCommand) (format : OutputFormat) (document : String)
    (readable : command.HasDocument read document) :
    (run (recording read reply) command format).run [] =
      match prepare command document with
      | .error failure => (.failed failure, [])
      | .ok (client, request) =>
        match client.message request .execute with
        | .error failure => (answerReport format (.error failure), [])
        | .ok message =>
          (answerReport format (Client.receive .ok request.resourceKey? (.answered reply)),
            [message]) := by
  rw [run, readDocument_recording read reply command document readable, pure_bind]
  simp only
  cases prepare command document with
  | error failure => rfl
  | ok prepared =>
    obtain ⟨client, request⟩ := prepared
    simp only [Client.exchange]
    cases client.message request .execute with
    | error failure => rfl
    | ok message =>
      simp only [recording, bind_pure_comp, Functor.map_map, bind_map_left, StateT.run_bind,
        StateT.run_modify, List.nil_append, pure_bind]
      cases @Client.receive Json .ok request.resourceKey? (.answered reply) <;> rfl

/-- The body of the message holds the document and the variables. -/
theorem message_eq_ok (command : RunCommand) (url : Url) (document : String)
    (members : List (String × Json)) (sorted : Json.IsSorted members)
    (valid : command.headers.all Http.Header.isValid = true) :
    ∃ message, command.client.message (command.request url document members) .execute =
        .ok message ∧ message.url = url ∧
      message.body =
        (Json.object [("query", .string document), ("variables", .object members)]).render := by
  have headers : (Keyed.ofPairs command.headers).all Http.Header.isValid = true := by
    rw [List.all_eq_true] at valid ⊢
    exact Keyed.forall_mem_ofPairs command.headers valid
  have outer := (Json.isSorted_pair (by decide : "query" < "variables")
    (Json.string document) (Json.object members)).sortMembers
  have body : (command.request url document members).body none =
      .ok (.object [("query", .string document), ("variables", .object members)]) := by
    simp only [Request.body, Request.documentAs, RunCommand.request, bind, Except.bind,
      Json.ofMembers, sorted.sortMembers, outer]
    rfl
  exact ⟨_, command.client.message_eq_ok _ .execute _ body headers, rfl, rfl⟩

/-- A reply is printed if its status reports no failure and its body is an envelope. -/
def Accepts (reply : Http.Reply) (envelope : Envelope) : Prop :=
  reply.status < 400 ∧ Envelope.parse reply.content = .ok envelope

/-- The data and the errors of an envelope, as they are printed. -/
def printedEnvelope (envelope : Envelope) : Json :=
  .object [("data", envelope.data.getD .null),
    ("errors", envelope.errors.elim .null fun errors => .array (errors.map ServerError.toJson))]

theorem answerReport_of_accepts (format : OutputFormat) (envelope : Envelope)
    (accepts : Accepts reply envelope) :
    (answerReport format (Client.receive .ok none (.answered reply))).failure = none ∧
      (answerReport format (Client.receive .ok none (.answered reply))).output =
        (printedEnvelope envelope).pretty ++ "\n" := by
  obtain ⟨success, parsed⟩ := accepts
  have holds : Response.Holds .ok envelope none (envelope.data.filter (!·.isNull)) := by
    cases selected : envelope.data.filter (!·.isNull) with
    | none => exact .absent selected
    | some json => exact .present json json selected rfl
  rw [Client.receive, Response.unwrap_of_holds _ _ _ _ _ _ success envelope parsed _ holds,
    answerReport]
  refine ⟨rfl, ?_⟩
  have data : (envelope.data.filter (!·.isNull)).getD .null = envelope.data.getD .null := by
    cases envelope.data with
    | none => rfl
    | some json => cases json <;> rfl
  have sorted := (Json.isSorted_pair (by decide : "data" < "errors")
    (envelope.data.getD .null)
    (envelope.errors.elim .null fun errors => .array (errors.map ServerError.toJson))).sortMembers
  simp only [responseReport, printed, data, Json.ofMembers, sorted, printedEnvelope]

theorem answerReport_of_refused (format : OutputFormat)
    (refused : ∀ envelope, ¬Accepts reply envelope) :
    (answerReport format (Client.receive .ok none (.answered reply))).failure ≠ none ∧
      (answerReport format (Client.receive .ok none (.answered reply))).output = "" := by
  have failed : ∃ failure, @Client.receive Json .ok none (.answered reply) =
      .error failure := by
    rw [Client.receive]
    by_cases below : reply.status < Response.leastFailureStatus
    · cases parsed : Envelope.parse reply.content with
      | error fault => exact ⟨_, Response.unwrap_of_unread _ _ _ _ _ _ below fault parsed⟩
      | ok envelope => exact absurd ⟨below, parsed⟩ (refused envelope)
    · rw [Response.unwrap, if_pos (Nat.le_of_not_lt below)]
      cases Envelope.parse reply.content <;> exact ⟨_, rfl⟩
  obtain ⟨failure, failed⟩ := failed
  rw [failed]
  exact ⟨by simp [answerReport], rfl⟩

theorem outcome_code_eq_zero (report : Report) :
    report.outcome.code = 0 ↔ report.failure = none := by
  cases failure : report.failure <;> simp [Report.outcome, failure]

theorem outcome_output (report : Report) : report.outcome.output = report.output := by
  cases failure : report.failure <;> simp [Report.outcome, failure]

/-- A command with variables and a header of its own. -/
def viewerArguments : List String :=
  ["run", "--url", "http://[::1]:8080/graphql", "--query", "\x7b viewer \x7b login \x7d \x7d",
    "--variables", "\x7b\"login\":\"octocat\"\x7d", "-H", "X-Trace: a:b"]

def viewerReply : Http.Reply :=
  ⟨200, [], Text.Utf8.bytes
    "\x7b\"data\":\x7b\"viewer\":null\x7d,\"errors\":[\x7b\"message\":\"gone\"\x7d]\x7d"⟩

def viewerCommand : RunCommand where
  url := "http://[::1]:8080/graphql"
  query := some "\x7b viewer \x7b login \x7d \x7d"
  variablesText := some "\x7b\"login\":\"octocat\"\x7d"
  headers := [("X-Trace", "a:b")]

theorem viewerCommand_ready : viewerCommand.Ready := by
  constructor
  · obtain ⟨members, values⟩ := (Outcome.isSome_toOption
      (readVariables viewerCommand.variablesText)).1 (by decide +kernel)
    exact ⟨members, (readVariables_eq_ok viewerCommand.variablesText members).1 values⟩
  · exact (Outcome.isSome_toOption (Url.parse viewerCommand.url)).1 (by decide +kernel)

end GraphQuery.CommandLine
