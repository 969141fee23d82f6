import GraphQuery.Decimal.Numeral
import GraphQuery.Http.Message
import GraphQuery.Text.Hexadecimal
import GraphQuery.Text.Joined
import GraphQuery.Text.Utf8

/-
This file writes messages as bytes and reads replies from them.
-/

namespace GraphQuery.Http

def lineEnd : List UInt8 := [0x0D, 0x0A]

def lineBytes (line : String) : List UInt8 := Text.Utf8.bytes line ++ lineEnd

def headerBytes (header : String × String) : List UInt8 := lineBytes (header.1 ++ ": " ++ header.2)

/-- The host and the port as a server is addressed. -/
def hostText (url : Url) : String :=
  url.authority.elim "" fun authority => authority.host ++ authority.port.elim "" Url.portText

/-- The connection ends with the reply. -/
def Message.bytes (message : Message) : List UInt8 :=
  let body := Text.Utf8.bytes message.body
  lineBytes ("POST " ++ message.url.target ++ " HTTP/1.1") ++
    headerBytes ("host", hostText message.url) ++ message.headers.flatMap headerBytes ++
    headerBytes ("content-length", String.ofList (Decimal.digitChars body.length)) ++
    headerBytes ("connection", "close") ++ lineEnd ++ body

/-- The head of a reply whose body has the given length; the connection ends with the reply. -/
def replyHead (status : String) (reason : String) (headers : Headers) (length : Nat) :
    List UInt8 :=
  lineBytes ("HTTP/1.1 " ++ status ++ " " ++ reason) ++ headers.flatMap headerBytes ++
    headerBytes ("content-length", String.ofList (Decimal.digitChars length)) ++
    headerBytes ("connection", "close") ++ lineEnd

/-- The bytes before the first line feed and those behind it. -/
def cutAtLineFeed : List UInt8 → Option (List UInt8 × List UInt8)
  | [] => none
  | byte :: rest =>
    if byte = 0x0A then some ([], rest)
    else (cutAtLineFeed rest).map fun (line, after) => (byte :: line, after)

/-- Each byte is taken for a character. -/
def lineText (line : List UInt8) : List Char := line.map fun byte => Char.ofNat byte.toNat

/-- A carriage return before a line feed does not belong to the line. -/
def splitLine (bytes : List UInt8) : Option (List Char × List UInt8) := do
  let (line, rest) ← cutAtLineFeed bytes
  return (lineText (if line.getLast? = some 0x0D then line.dropLast else line), rest)

/-- The lines up to an empty one; `budget` exceeds the number of lines. -/
def splitHead : (budget : Nat) → List UInt8 → Option (List (List Char) × List UInt8)
  | 0, _ => none
  | budget + 1, bytes => do
    let (line, rest) ← splitLine bytes
    if line.isEmpty then return ([], rest)
    else
      let (lines, body) ← splitHead budget rest
      return (line :: lines, body)

/-- The versions of the protocol that are understood. -/
def versions : List (List Char) := ["HTTP/1.1".toList, "HTTP/1.0".toList]

/-- A line with the version, the status and perhaps a phrase for it. -/
def statusOf? (line : List Char) : Option Nat := do
  let digits := (line.drop 9).take 3
  if versions.any (·.isPrefixOf line) ∧ (line.drop 8).head? = some ' ' ∧ digits.length = 3 ∧
      digits.all Char.isDigit ∧ (line.drop 12).head?.getD ' ' = ' ' ∧
      (line.drop 12).all Header.isValueChar ∧ 100 ≤ Decimal.digitsValue digits then
    return Decimal.digitsValue digits
  else none

/-- No blank may stand before the colon. -/
def headerOf? (line : List Char) : Option (String × String) :=
  match line.dropWhile (· != ':') with
  | [] => none
  | _ :: value =>
    let header := (String.ofList (line.takeWhile (· != ':')), String.ofList value)
    if Header.isValid header then some (Header.canonicalName header.1, Header.trimValue header.2)
    else none

/-- So many headers may come with a reply. -/
def headerLimit : Nat := 100

def headersOf? (lines : List (List Char)) : Option Headers :=
  if headerLimit < lines.length then none else lines.mapM headerOf?

/-- The size of a piece may have an extension behind a semicolon. -/
def chunkSize? (line : List UInt8) : Option Nat := do
  let digits := line.takeWhile fun byte => (Text.Hexadecimal.value? byte).isSome
  let rest := (line.dropWhile fun byte => (Text.Hexadecimal.value? byte).isSome).dropWhile
    fun byte => byte == 0x20 || byte == 0x09
  let isClosed := rest = [0x0D] ∨
    rest.head? = some 0x3B ∧ rest.getLast? = some 0x0D ∧ 0x0D ∉ rest.dropLast
  if digits.isEmpty ∨ !isClosed then none else Text.Hexadecimal.number? digits

/-- The pieces of a body that comes in pieces; headers may follow the piece without bytes that
ends it. -/
def joinChunks : (budget : Nat) → List UInt8 → Option (List UInt8)
  | 0, _ => none
  | budget + 1, bytes => do
    let (line, rest) ← cutAtLineFeed bytes
    let size ← chunkSize? line
    if size = 0 then
      let (lines, _) ← splitHead (rest.length + 1) rest
      let _ ← headersOf? lines
      return []
    else if lineEnd.isPrefixOf (rest.drop size) then
      return rest.take size ++ (← joinChunks budget (rest.drop (size + lineEnd.length)))
    else none

/-- The last of the transformations that a body has gone through. -/
def lastCoding? (headers : Headers) : Option String := do
  let codings ← (headers.values "transfer-encoding").getLast?
  let last ← (Text.pieces ',' codings.toList).getLast?
  return Header.canonicalName (Header.trimValue (String.ofList last))

/-- The announced length of the body; all announcements have to agree. -/
def announcedLength? (headers : Headers) : Option (Option Nat) := do
  let texts := (headers.values "content-length").flatMap (Text.pieces ',' ·.toList)
  let lengths ← texts.mapM fun text =>
    let digits := (Header.trimValue (String.ofList text)).toList
    if digits.isEmpty ∨ !digits.all Char.isDigit then none else some (Decimal.digitsValue digits)
  match lengths with
  | [] => return none
  | first :: rest => if rest.all (· == first) then return some first else none

/-- The body as the headers announce it; a body that ends too early is refused. -/
def bodyOf? (headers : Headers) (bytes : List UInt8) : Option (List UInt8) :=
  match lastCoding? headers with
  | some coding => if coding = "chunked" then joinChunks (bytes.length + 1) bytes else some bytes
  | none => do
    match ← announcedLength? headers with
    | none => return bytes
    | some size => if bytes.length < size then none else return bytes.take size

/-- Lines without content may stand before a reply. -/
def skipEmptyLines : List UInt8 → List UInt8
  | 0x0A :: rest => skipEmptyLines rest
  | 0x0D :: 0x0A :: rest => skipEmptyLines rest
  | bytes => bytes

/-- A reply that only informs is followed by another one, but the switch to another protocol is
final. -/
def isInterim (status : Nat) : Bool := status < 200 && status != 101

/-- The first reply that is not interim; `budget` exceeds the number of replies. -/
def parseReplyWithin : (budget : Nat) → List UInt8 → Option Reply
  | 0, _ => none
  | budget + 1, bytes => do
    let (lines, rest) ← splitHead (bytes.length + 1) (skipEmptyLines bytes)
    match lines with
    | [] => none
    | first :: others =>
      let status ← statusOf? first
      let headers ← headersOf? others
      if isInterim status then parseReplyWithin budget rest
      else if isBodiless status then return ⟨status, headers, []⟩
      else return ⟨status, headers, ← bodyOf? headers rest⟩

def parseReply? (bytes : List UInt8) : Option Reply := parseReplyWithin (bytes.length + 1) bytes

end GraphQuery.Http
