import GraphQuery.Json.Fault
import GraphQuery.Text.Hexadecimal

/-
This file reads the strings of a JSON text.
-/

namespace GraphQuery.Json

namespace StringBody

/-- Four bytes are taken before any of them is looked at. -/
def readUnit (cursor : Cursor) : Except Fault (Nat × Cursor) :=
  let stop := cursor.skip 4
  if cursor.rest.length < 4 then .error (.ofFlaw .endInString stop.position)
  else match Text.Hexadecimal.number? (cursor.rest.take 4) with
    | some unit => .ok (unit, stop)
    | none => .error (.ofFlaw .invalidEscape stop.position)

/-- The byte that joins the two halves of a surrogate pair has to follow. -/
def readJoint (byte : UInt8) (cursor : Cursor) : Except Fault Cursor :=
  match cursor.peek? with
  | none => .error (.ofFlaw .endInString cursor.position)
  | some found =>
    if found = byte then .ok cursor.next
    else .error (.ofFlaw .brokenSurrogatePair cursor.ahead)

/-- One unit outside the surrogates or a pair of them makes a character. -/
def readCode (cursor : Cursor) : Except Fault (Char × Cursor) := do
  let (high, cursor) ← readUnit cursor
  if 0xDC00 ≤ high ∧ high ≤ 0xDFFF then throw (.ofFlaw .loneSurrogate cursor.position)
  else if 0xD800 ≤ high ∧ high ≤ 0xDBFF then
    let cursor ← readJoint 0x5C cursor
    let cursor ← readJoint 0x75 cursor
    let (low, cursor) ← readUnit cursor
    if 0xDC00 ≤ low ∧ low ≤ 0xDFFF then
      return (Char.ofNat (0x10000 + (high - 0xD800) * 0x400 + (low - 0xDC00)), cursor)
    else throw (.ofFlaw .loneSurrogate cursor.position)
  else return (Char.ofNat high, cursor)

/-- The characters that a single letter stands for after a backslash. -/
def shortEscape? (byte : UInt8) : Option Char :=
  if byte = 0x22 then some '"'
  else if byte = 0x5C then some '\\'
  else if byte = 0x2F then some '/'
  else if byte = 0x62 then some '\x08'
  else if byte = 0x66 then some '\x0c'
  else if byte = 0x6E then some '\n'
  else if byte = 0x72 then some '\r'
  else if byte = 0x74 then some '\t'
  else none

/-- The character of the escape whose backslash has been read. -/
def readEscape (cursor : Cursor) : Except Fault (Char × Cursor) :=
  match cursor.peek? with
  | none => .error (.ofFlaw .endInString cursor.position)
  | some byte =>
    if byte = 0x75 then readCode cursor.next
    else match shortEscape? byte with
      | some char => .ok (char, cursor.next)
      | none => .error (.ofFlaw .invalidEscape cursor.ahead)

/-- The bytes up to the closing quote; `budget` exceeds the number of bytes that are left. -/
def scan : (budget : Nat) → Cursor → Except Fault (List UInt8 × Cursor)
  | 0, cursor => .error (.ofFlaw .endInString cursor.position)
  | budget + 1, cursor =>
    match cursor.peek? with
    | none => .error (.ofFlaw .endInString cursor.position)
    | some byte =>
      if byte = 0x22 then .ok ([], cursor.next)
      else if byte = 0x5C then do
        let (char, stop) ← readEscape cursor.next
        let (rest, last) ← scan budget stop
        return (Text.Utf8.bytes (String.singleton char) ++ rest, last)
      else if byte < 0x20 then .error (.ofFlaw .controlCharacter cursor.ahead)
      else do
        let (rest, last) ← scan budget cursor.next
        return (byte :: rest, last)

/-- Only the form of an escape matters in a string that is skipped. -/
def skipEscape (cursor : Cursor) : Except Fault Cursor :=
  match cursor.peek? with
  | none => .error (.ofFlaw .endInString cursor.position)
  | some byte =>
    if byte = 0x75 then (readUnit cursor.next).map Prod.snd
    else if (shortEscape? byte).isSome then .ok cursor.next
    else .error (.ofFlaw .invalidEscape cursor.ahead)

def skip : (budget : Nat) → Cursor → Except Fault Cursor
  | 0, cursor => .error (.ofFlaw .endInString cursor.position)
  | budget + 1, cursor =>
    match cursor.peek? with
    | none => .error (.ofFlaw .endInString cursor.position)
    | some byte =>
      if byte = 0x22 then .ok cursor.next
      else if byte = 0x5C then do skip budget (← skipEscape cursor.next)
      else if byte < 0x20 then .error (.ofFlaw .controlCharacter cursor.position)
      else skip budget cursor.next

end StringBody

/-- The string whose opening quote has been read.
The form of the whole string is checked before its encoding, and the place of a wrong byte is
counted back from the closing quote, with an escape as long as the character it stands for. -/
def readString (cursor : Cursor) : Except Fault (String × Cursor) := do
  let (bytes, stop) ← StringBody.scan (cursor.rest.length + 1) cursor
  match Text.Utf8.characters bytes with
  | .ok chars => return (String.ofList chars, stop)
  | .error remaining => throw (.ofFlaw .invalidCharacter (stop.position.before remaining))

def skipString (cursor : Cursor) : Except Fault Cursor :=
  StringBody.skip (cursor.rest.length + 1) cursor

end GraphQuery.Json
