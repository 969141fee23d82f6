import GraphQuery.Decimal.Layout
import GraphQuery.Text.Joined

/-
This file holds URLs.
-/

namespace GraphQuery

namespace Url

/-- Who is asked at which host; the texts are percent-encoded already. -/
structure Authority where
  username : String
  password : String
  host : String
  /-- The default port of a scheme is left out. -/
  port : Option Nat
deriving DecidableEq, Repr, Inhabited

/-- A path is a list of segments or, without a hierarchy, a text. -/
inductive Path where
  | segments (names : List String)
  | text (content : String)
deriving DecidableEq, Repr, Inhabited

end Url

structure Url where
  scheme : String
  authority : Option Url.Authority
  path : Url.Path
  query : Option String
  fragment : Option String
deriving DecidableEq, Repr, Inhabited

namespace Url

/-- Each segment follows a slash. -/
def Path.render : Path → String
  | .segments names => String.join (names.map ("/" ++ ·))
  | .text content => content

def Authority.credentials (authority : Authority) : String :=
  if authority.username.isEmpty && authority.password.isEmpty then ""
  else
    authority.username ++
      (if authority.password.isEmpty then "" else ":" ++ authority.password) ++ "@"

def portText (port : Nat) : String := ":" ++ String.ofList (Decimal.digitChars port)

def Authority.render (authority : Authority) : String :=
  "//" ++ authority.credentials ++ authority.host ++ authority.port.elim "" portText

/-- A path that would read as an authority is set apart by a dot. -/
def Path.guard : Path → String
  | .segments ("" :: _ :: _) => "/."
  | _ => ""

/-- The path and the query, as a server is asked for them. -/
def target (url : Url) : String := url.path.render ++ url.query.elim "" ("?" ++ ·)

def render (url : Url) : String :=
  url.scheme ++ ":" ++ url.authority.elim url.path.guard Authority.render ++ url.target ++
    url.fragment.elim "" ("#" ++ ·)

/-- These schemes address a host and a path. -/
def defaultPort? : String → Option Nat
  | "http" | "ws" => some 80
  | "https" | "wss" => some 443
  | "ftp" => some 21
  | _ => none

def isSpecial (scheme : String) : Bool := (defaultPort? scheme).isSome || scheme == "file"

end Url

end GraphQuery
