import GraphQuery.Json.Numeral
import GraphQuery.Json.Punctuation
import GraphQuery.Json.StringBody

/-
This file reads JSON values of any shape.
-/

namespace GraphQuery.Json

/-- A value without items or members; the cursor stands at its first byte. -/
def readScalar (byte : UInt8) (cursor : Cursor) : Except Fault (Json × Cursor) :=
  match Word.ofFirst? byte with
  | some word => (word.read cursor).map fun stop => (word.toJson, stop)
  | none =>
    if startsNumber byte then
      (readNumber cursor).map fun (number, stop) => (number.toJson, stop)
    else if byte = 0x22 then
      (readString cursor.next).map fun (content, stop) => (.string content, stop)
    else .error (.ofFlaw .expectedValue cursor.ahead)

/-- One member with its value. -/
def readMember (value : Cursor → Except Fault (Json × Cursor)) (members : List (String × Json))
    (cursor : Cursor) : Except Fault (List (String × Json) × Cursor) := do
  let (name, cursor) ← readString cursor
  let (json, cursor) ← value (← readColon cursor)
  return (insertMember name json members, cursor)

/-- At most `depth` containers lie around any point of the value. -/
def readValue : (depth : Nat) → Cursor → Except Fault (Json × Cursor)
  | 0, cursor => do
    let (byte, cursor) ← peekAfterBlanks .endInValue cursor
    if byte = 0x5B ∨ byte = 0x7B then throw (.ofFlaw .tooDeep cursor.ahead)
    else readScalar byte cursor
  | depth + 1, cursor => do
    let (byte, cursor) ← peekAfterBlanks .endInValue cursor
    if byte = 0x5B then
      let (items, cursor) ← readList (readValue depth) cursor
      return (.array items, cursor)
    else if byte = 0x7B then
      let (members, cursor) ← readObject (readMember (readValue depth)) [] cursor
      return (.object members, cursor.next)
    else readScalar byte cursor

/-- Reading stops at deeper nesting. -/
def depthLimit : Nat := 127

/-- The value of a whole text whose nesting is limited. -/
def parseWithin (depth : Nat) (text : List UInt8) : Except Fault Json := do
  let (json, cursor) ← readValue depth (.ofBytes text)
  readEnd cursor
  return json

def parse (text : List UInt8) : Except Fault Json := parseWithin depthLimit text

end GraphQuery.Json
