import GraphQuery.Json.Numeral
import GraphQuery.Json.Punctuation
import GraphQuery.Json.StringBody

/-
This file passes over the values of unknown members.
-/

namespace GraphQuery.Json

namespace Skip

/-- A value without items or members. -/
def scalar (byte : UInt8) (cursor : Cursor) : Except Fault Cursor :=
  match Word.ofFirst? byte with
  | some word => word.read cursor
  | none =>
    if startsNumber byte then
      (Numeral.scan .invalidNumber (if byte = 0x2D then cursor.next else cursor)).map Prod.snd
    else if byte = 0x22 then skipString cursor.next
    else .error (.ofFlaw .expectedValue cursor.ahead)

/-- The name of a member and its colon; the cursor stands before the opening quote. -/
def name (cursor : Cursor) : Except Fault Cursor := do
  let (byte, cursor) ← peekAfterBlanks .endInObject cursor
  if byte = 0x22 then readColon (← skipString cursor.next)
  else throw (.ofFlaw .keyNotString cursor.ahead)

mutual

/-- Nesting has no limit here; `budget` exceeds twice the number of bytes that are left. -/
def value : (budget : Nat) → Cursor → Except Fault Cursor
  | 0, cursor => .error (.ofFlaw .endInValue cursor.position)
  | budget + 1, cursor => do
    let (byte, cursor) ← peekAfterBlanks .endInValue cursor
    if byte = 0x5B then items budget true cursor.next
    else if byte = 0x7B then members budget true cursor.next
    else scalar byte cursor

/-- After a comma an item has to follow. -/
def items : (budget : Nat) → (first : Bool) → Cursor → Except Fault Cursor
  | 0, _, cursor => .error (.ofFlaw .endInList cursor.position)
  | budget + 1, first, cursor => do
    let (byte, cursor) ← peekAfterBlanks .endInList cursor
    if byte = 0x5D then return cursor.next
    else if first then items budget false (← value budget cursor)
    else if byte = 0x2C then items budget false (← value budget cursor.next)
    else throw (.ofFlaw .expectedItemSeparator cursor.ahead)

/-- After a comma a name has to follow. -/
def members : (budget : Nat) → (first : Bool) → Cursor → Except Fault Cursor
  | 0, _, cursor => .error (.ofFlaw .endInObject cursor.position)
  | budget + 1, first, cursor => do
    let (byte, cursor) ← peekAfterBlanks .endInObject cursor
    if byte = 0x7D then return cursor.next
    else if first then members budget false (← value budget (← name cursor))
    else if byte = 0x2C then members budget false (← value budget (← name cursor.next))
    else throw (.ofFlaw .expectedMemberSeparator cursor.ahead)

end

end Skip

def skipValue (cursor : Cursor) : Except Fault Cursor :=
  Skip.value (2 * cursor.rest.length + 2) cursor

end GraphQuery.Json
