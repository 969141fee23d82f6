import GraphQuery.Keyed

/-
This file holds what the command line can ask for.
-/

namespace GraphQuery.CommandLine

inductive OutputFormat where
  | human
  | json
deriving DecidableEq, Repr, Inhabited

namespace OutputFormat

def ofName? : String → Option OutputFormat
  | "human" => some human
  | "json" => some json
  | _ => none

/-- Without a choice, only a terminal is written to for people. -/
def resolve (choice : Option OutputFormat) (terminal : Bool) : OutputFormat :=
  choice.getD (if terminal then human else json)

end OutputFormat

/-- A document is sent to an endpoint, and the response is printed. -/
structure RunCommand where
  url : String
  query : Option String := none
  file : Option String := none
  variablesText : Option String := none
  headers : List (String × String) := []
  /-- The time for the exchange in seconds. -/
  timeout : Option Nat := none
deriving Repr, Inhabited

/-- A document that is not given in the command is read from one of these. -/
inductive DocumentSource where
  | standardInput
  | file (path : String)
deriving DecidableEq, Repr

/-- A dash stands for the standard input. -/
def DocumentSource.ofPath (path : String) : DocumentSource :=
  if path = "-" then standardInput else file path

end GraphQuery.CommandLine
