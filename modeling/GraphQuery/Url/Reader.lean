import GraphQuery.Url
import GraphQuery.Url.Host

/-
This file reads URLs.
-/

namespace GraphQuery.Url

/-- The first part of a text up to a separator and, if there is one, the part behind it. -/
def splitAt (isSeparator : Char → Bool) (text : List Char) : List Char × Option (List Char) :=
  match text.dropWhile (!isSeparator ·) with
  | [] => (text, none)
  | _ :: rest => (text.takeWhile (!isSeparator ·), some rest)

/-- Blanks and controls around a URL are dropped, and so are line breaks within it. -/
def clean (text : List Char) : List Char :=
  let isOuter (char : Char) : Bool := char.toNat ≤ 0x20
  let trimmed := ((text.dropWhile isOuter).reverse.dropWhile isOuter).reverse
  trimmed.filter fun char => char ≠ '\t' ∧ char ≠ '\n' ∧ char ≠ '\r'

/-- A scheme starts with a letter and ends at a colon. -/
def splitScheme? (text : List Char) : Option (String × List Char) :=
  match splitAt (· == ':') text with
  | (first :: rest, some after) =>
    if first.isAlpha ∧ rest.all (fun char => char.isAlphanum || char ∈ ['+', '-', '.']) then
      some (String.ofList ((first :: rest).map Char.toLower), after)
    else none
  | _ => none

def isSlash (special : Bool) (char : Char) : Bool := char == '/' || (special && char == '\\')

/-- The pieces of a path between its slashes. -/
def pathPieces (special : Bool) (path : List Char) : List (List Char) :=
  Text.pieces '/' (path.map fun char => if isSlash special char then '/' else char)

/-- A dot may be written as its percent-encoded byte. -/
def plainDots (piece : List Char) : List Char :=
  match piece with
  | '%' :: '2' :: mark :: rest =>
    if mark = 'e' ∨ mark = 'E' then '.' :: plainDots rest else piece
  | '.' :: rest => '.' :: plainDots rest
  | _ => piece

/-- A letter and a mark name a drive. -/
def isDrive (segment : List Char) : Bool :=
  match segment with
  | [letter, mark] => letter.isAlpha && (mark == ':' || mark == '|')
  | _ => false

/-- A drive is not left by going back. -/
def isAnchor (segment : String) : Bool :=
  let chars := segment.toList
  isDrive (chars.take 2) && (chars.length = 2 || chars[2]? == some '\\')

def goBack : List String → List String
  | [] => []
  | last :: before => if isAnchor last then last :: before else before

/-- The text of a segment; a drive at the start of the path of a file is written with a colon. -/
def segmentText (file : Bool) (before : List String) (piece : List Char) : String :=
  if file ∧ before.isEmpty ∧ isDrive piece then String.ofList (piece.take 1 ++ [':'])
  else percentEncode pathReserved piece

/-- One dot stays at its place and two dots go back; the segments run backwards. -/
def resolve (file : Bool) : List String → List (List Char) → List String
  | before, [] => before.reverse
  | before, piece :: rest =>
    let close (segments : List String) : List String :=
      if rest.isEmpty then "" :: segments else segments
    if plainDots piece = ['.', '.'] then resolve file (close (goBack before)) rest
    else if plainDots piece = ['.'] then resolve file (close before) rest
    else resolve file (segmentText file before piece :: before) rest

/-- The path behind a host; special schemes have at least one segment. -/
def readPath (special : Bool) (path : List Char) : Path :=
  match path with
  | [] => .segments (if special then [""] else [])
  | first :: rest =>
    let content := if isSlash special first then rest else first :: rest
    .segments (resolve false [] (pathPieces special content))

/-- A port is a number of sixteen bits, and a backslash may end it. -/
def readPort (scheme : String) (text : List Char) :
    Except UrlProblem (Option Nat × List Char) :=
  let digits := text.takeWhile Char.isDigit
  let rest := text.dropWhile Char.isDigit
  let port := Decimal.digitsValue digits
  if 65536 ≤ port ∨ (rest.head?.getD '\\') ≠ '\\' then .error .invalidPort
  else .ok (if digits.isEmpty ∨ defaultPort? scheme = some port then none else some port, rest)

/-- The credentials end at the last at sign. -/
def splitCredentials (text : List Char) : Option (List Char) × List Char :=
  match splitAt (· == '@') text.reverse with
  | (host, some credentials) => (some credentials.reverse, host.reverse)
  | (_, none) => (none, text)

/-- The host ends at the first colon outside brackets. -/
def splitPort : (inside : Bool) → List Char → List Char × Option (List Char)
  | _, [] => ([], none)
  | inside, char :: rest =>
    if char = ':' ∧ !inside then ([], some rest)
    else
      let bracketed := if inside then char != ']' else char == '['
      let (host, port) := splitPort bracketed rest
      (char :: host, port)

/-- The authority and what stands between it and the query; `final` says that no query and no
fragment follows. An at sign alone is no fault at the very end. -/
def readAuthority (scheme : String) (final : Bool) (text : List Char) :
    Except UrlProblem (Authority × List Char) := do
  let special := isSpecial scheme
  let path := text.dropWhile (!isSlash special ·)
  let (credentials, rest) := splitCredentials (text.takeWhile (!isSlash special ·))
  if credentials = some [] ∧ rest.isEmpty ∧ !(final ∧ path.isEmpty) then throw .emptyHost
  let (username, password) := splitAt (· == ':') (credentials.getD [])
  let (host, port) := splitPort false rest
  if host.isEmpty ∧ (special ∨ port.isSome) then throw .emptyHost
  let written ← if special then Host.read host else Host.readOpen host
  let (port, afterPort) ← readPort scheme (port.getD [])
  let authority : Authority := {
    username := percentEncode credentialReserved username
    password := percentEncode credentialReserved (password.getD [])
    host := String.ofList written
    port }
  if host.isEmpty ∧ authority.credentials ≠ "" then throw .emptyHost
  return (authority, afterPort ++ path)

/-- The authority goes up to the first slash. -/
def readHierarchy (scheme : String) (final : Bool) (text : List Char) :
    Except UrlProblem (Authority × Path) := do
  let (authority, path) ← readAuthority scheme final text
  return (authority, readPath (isSpecial scheme) path)

/-- The host of a file and its path behind the first slash.
A host may be named after two slashes, but a drive there belongs to the path. -/
def splitFile (text : List Char) : List Char × List Char :=
  let isSeparator := isSlash true
  match text with
  | first :: second :: rest =>
    if isSeparator first && isSeparator second then
      let host := rest.takeWhile (!isSeparator ·)
      if isDrive host then ([], rest) else (host, (rest.dropWhile (!isSeparator ·)).drop 1)
    else if isSeparator first then ([], second :: rest)
    else ([], text)
  | [first] => ([], if isSeparator first then [] else text)
  | [] => ([], [])

/-- A drive at the start of the path takes the place of the host.
Segments without a name are left out at the start. -/
def readFile (text : List Char) : Except UrlProblem (Authority × Path) := do
  let (host, path) := splitFile text
  let written ← if host.isEmpty then pure [] else Host.read host
  let segments := resolve true [] (pathPieces true path)
  let isLocal := written = "localhost".toList ∨ segments.head?.any (isDrive ·.toList)
  let named := segments.dropWhile String.isEmpty
  return (⟨"", "", if isLocal then "" else String.ofList written, none⟩,
    .segments (if named.isEmpty then [""] else named))

/-- The authority and the path of a URL, from what stands between its scheme and its query. -/
def readPlace (scheme : String) (final : Bool) (text : List Char) :
    Except UrlProblem (Option Authority × Path) := do
  if scheme = "file" then
    let (authority, path) ← readFile text
    return (some authority, path)
  else if isSpecial scheme then
    let (authority, path) ← readHierarchy scheme final (text.dropWhile (isSlash true))
    return (some authority, path)
  else match text with
    | '/' :: '/' :: rest =>
      let (authority, path) ← readHierarchy scheme final rest
      return (some authority, path)
    | '/' :: rest => return (none, .segments (resolve false [] (pathPieces false rest)))
    | _ => return (none, .text (percentEncode [] text))

/-- The URL that a text spells. -/
def parse (text : String) : Except UrlProblem Url := do
  match splitScheme? (clean text.toList) with
  | none => throw .relativeWithoutBase
  | some (scheme, rest) =>
    let (main, fragment) := splitAt (· == '#') rest
    let (place, query) := splitAt (· == '?') main
    let final := query.isNone && fragment.isNone
    let (authority, path) ← readPlace scheme final place
    return {
      scheme
      authority
      path
      query := query.map (percentEncode (queryReserved (isSpecial scheme)))
      fragment := fragment.map (percentEncode fragmentReserved) }

end GraphQuery.Url
