import GraphQuery.Json.Fault

/-
This file reads the words and the punctuation of a JSON text.
-/

namespace GraphQuery.Json

/-- The next byte that is not blank and the cursor at it.
A text without one has the flaw `atEnd`. -/
def peekAfterBlanks (atEnd : Flaw) (cursor : Cursor) : Except Fault (UInt8 × Cursor) :=
  let cursor := cursor.skipBlanks
  match cursor.peek? with
  | some byte => .ok (byte, cursor)
  | none => .error (.ofFlaw atEnd cursor.position)

/-- The three words differ in their first letters. -/
inductive Word where
  | null
  | true
  | false
deriving DecidableEq

namespace Word

def ofFirst? (byte : UInt8) : Option Word :=
  if byte = 0x6E then some null
  else if byte = 0x74 then some true
  else if byte = 0x66 then some false
  else none

/-- The letters after the first one. -/
def tail : Word → List UInt8
  | null => [0x75, 0x6C, 0x6C]
  | true => [0x72, 0x75, 0x65]
  | false => [0x61, 0x6C, 0x73, 0x65]

def toJson : Word → Json
  | null => .null
  | true => .boolean Bool.true
  | false => .boolean Bool.false

def found : Word → Found
  | null => .null
  | true => .boolean Bool.true
  | false => .boolean Bool.false

def readLetters : List UInt8 → Cursor → Except Fault Cursor
  | [], cursor => .ok cursor
  | letter :: letters, cursor =>
    match cursor.peek? with
    | none => .error (.ofFlaw .endInValue cursor.position)
    | some byte =>
      if byte = letter then readLetters letters cursor.next
      else .error (.ofFlaw .expectedWord cursor.ahead)

/-- The word whose first letter stands at the cursor. -/
def read (word : Word) (cursor : Cursor) : Except Fault Cursor :=
  readLetters word.tail cursor.next

end Word

/-- A number starts with a minus sign or a digit. -/
def startsNumber (byte : UInt8) : Bool := byte == 0x2D || (0x30 ≤ byte && byte ≤ 0x39)

/-- The colon after a name. -/
def readColon (cursor : Cursor) : Except Fault Cursor := do
  let (byte, cursor) ← peekAfterBlanks .endInObject cursor
  if byte = 0x3A then return cursor.next else throw (.ofFlaw .expectedColon cursor.ahead)

/-- Whether another item follows; the cursor then stands at it, and else at the closing bracket. -/
def nextItem (first : Bool) (cursor : Cursor) : Except Fault (Bool × Cursor) := do
  let (byte, cursor) ← peekAfterBlanks .endInList cursor
  if byte = 0x5D then return (false, cursor)
  else if first then return (true, cursor)
  else if byte = 0x2C then
    let (byte, cursor) ← peekAfterBlanks .endInValue cursor.next
    if byte = 0x5D then throw (.ofFlaw .trailingComma cursor.ahead) else return (true, cursor)
  else throw (.ofFlaw .expectedItemSeparator cursor.ahead)

/-- Whether another member follows; the cursor then stands behind the opening quote of its name,
and else at the closing brace. -/
def nextMember (first : Bool) (cursor : Cursor) : Except Fault (Bool × Cursor) := do
  let (byte, cursor) ← peekAfterBlanks .endInObject cursor
  if byte = 0x7D then return (false, cursor)
  else if first then
    if byte = 0x22 then return (true, cursor.next) else throw (.ofFlaw .keyNotString cursor.ahead)
  else if byte = 0x2C then
    let (byte, cursor) ← peekAfterBlanks .endInValue cursor.next
    if byte = 0x22 then return (true, cursor.next)
    else if byte = 0x7D then throw (.ofFlaw .trailingComma cursor.ahead)
    else throw (.ofFlaw .keyNotString cursor.ahead)
  else throw (.ofFlaw .expectedMemberSeparator cursor.ahead)

/-- The items up to the closing bracket, which stays; `budget` exceeds the number of items. -/
def readItems {Item : Type} (item : Cursor → Except Fault (Item × Cursor)) :
    (budget : Nat) → (first : Bool) → Cursor → Except Fault (List Item × Cursor)
  | 0, _, cursor => .error (.ofFlaw .endInList cursor.position)
  | budget + 1, first, cursor => do
    let (more, cursor) ← nextItem first cursor
    if more then
      let (head, cursor) ← item cursor
      let (rest, cursor) ← readItems item budget false cursor
      return (head :: rest, cursor)
    else return ([], cursor)

/-- The list whose opening bracket stands at the cursor. -/
def readList {Item : Type} (item : Cursor → Except Fault (Item × Cursor)) (cursor : Cursor) :
    Except Fault (List Item × Cursor) := do
  let (items, cursor) ← readItems item (cursor.rest.length + 1) true cursor.next
  return (items, cursor.next)

/-- The state after all members up to the closing brace, which stays.
A step gets the state and the cursor behind the opening quote of a name. -/
def readMembers {State : Type} (step : State → Cursor → Except Fault (State × Cursor)) :
    (budget : Nat) → (first : Bool) → State → Cursor → Except Fault (State × Cursor)
  | 0, _, _, cursor => .error (.ofFlaw .endInObject cursor.position)
  | budget + 1, first, state, cursor => do
    let (more, cursor) ← nextMember first cursor
    if more then
      let (state, cursor) ← step state cursor
      readMembers step budget false state cursor
    else return (state, cursor)

/-- The object whose opening brace stands at the cursor. -/
def readObject {State : Type} (step : State → Cursor → Except Fault (State × Cursor))
    (start : State) (cursor : Cursor) : Except Fault (State × Cursor) :=
  readMembers step (cursor.rest.length + 1) true start cursor.next

/-- Only blanks follow the value of a text. -/
def readEnd (cursor : Cursor) : Except Fault Unit :=
  let cursor := cursor.skipBlanks
  if cursor.rest.isEmpty then .ok () else .error (.ofFlaw .trailingCharacters cursor.ahead)

end GraphQuery.Json
