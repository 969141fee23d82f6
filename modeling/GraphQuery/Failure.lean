import GraphQuery.Argument.Kind
import GraphQuery.Decimal.Layout
import GraphQuery.ServerError
import GraphQuery.Text.Joined
import GraphQuery.Url.Problem

/-
This file holds the ways in which a request can fail.
-/

namespace GraphQuery

/-- These problems lie in how a request, a document or a client was put together. -/
inductive BuildProblem where
  | urlMissing
  | requestMissing
  | noProperties
  | severalProperties
  | flattenedLeaf (field type : String)
  | invalidHeaderName (name : String)
  | invalidHeaderValue (name : String)
deriving DecidableEq, Repr

def BuildProblem.message : BuildProblem → String
  | urlMissing => "url must be set"
  | requestMissing => "request must be set"
  | noProperties => "Operation must specify one or more properties"
  | severalProperties =>
    "Operation contains more than one property, dot path must specify a top level property"
  | flattenedLeaf field type =>
    "field '" ++ field ++ "' of " ++ type ++ " is marked flatten but its type is not an object"
  | invalidHeaderName name => "invalid header name '" ++ name ++ "'"
  | invalidHeaderValue name => "invalid value for header '" ++ name ++ "'"

/-- Every step from the schema to the decoded response fails in one of these ways. -/
inductive Failure where
  | build (problem : BuildProblem)
  | invalidUrl (url : String) (problem : UrlProblem)
  | invalidPath (path : String)
  | argumentsNotSupported (path : String)
  | unknownArgument (argument path : String)
  | notCoercible (argument text : String) (kind : ArgumentKind)
  /-- The names run from the repeated type back to itself. -/
  | cyclicSchema (names : List String)
  | transport (description : String)
  | http (status : Nat) (reason description : Option String) (errors : Option (List ServerError))
  | protocol (status : Option Nat) (description : String)

namespace Failure

def message : Failure → String
  | build problem => problem.message
  | invalidUrl url problem => "invalid url '" ++ url ++ "': " ++ problem.message
  | invalidPath path => "'" ++ path ++ "' is an invalid property path"
  | argumentsNotSupported path =>
    "Path '" ++ path ++ "' is not expecting any arguments, please declare an argument, " ++
      "arguments or property attribute on the field you are expecting arguments for"
  | unknownArgument argument path =>
    "Argument '" ++ argument ++ "' doesn't exist on path '" ++ path ++ "'"
  | notCoercible argument text kind =>
    "Argument '" ++ argument ++ "' has value '" ++ text ++ "' which is not a valid " ++ kind.name
  | cyclicSchema names =>
    "Cyclic schema: " ++ Text.joinedStrings " -> " names ++
      "; mark the back reference with `ignore` or `scalar`"
  | transport description => "Network error: " ++ description
  | http status reason _ _ =>
    "HTTP error " ++ String.ofList (Decimal.digitChars status) ++ ": " ++
      reason.getD "no status message"
  | protocol _ description => "Protocol error: " ++ description

def status? : Failure → Option Nat
  | http status _ _ _ => some status
  | protocol status _ => status
  | _ => none

def description? : Failure → Option String
  | http _ _ description _ => description
  | protocol _ description => some description
  | transport description => some description
  | invalidUrl _ problem => some problem.message
  | _ => none

/-- Only a response can carry errors of the server. -/
def errors? : Failure → Option (List ServerError)
  | http _ _ _ errors => errors
  | _ => none

end Failure

end GraphQuery
