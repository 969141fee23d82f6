import GraphQuery.Json.Reader
import GraphQuery.Json.Shape.Decoder
import GraphQuery.Json.Skip

/-
This file reads data of a shape from a JSON text.
-/

namespace GraphQuery.Json

/-- A value of the wrong kind is read before it is refused; a container is refused at its start. -/
def refuse (byte : UInt8) (expected : String) (cursor : Cursor) : Fault :=
  if byte = 0x5B then .ofMismatch (.wrongType .sequence expected) cursor.position
  else if byte = 0x7B then .ofMismatch (.wrongType .map expected) cursor.position
  else match readScalar byte cursor with
    | .error fault => fault
    | .ok (json, stop) => .ofMismatch (.wrongType (.ofJson json) expected) stop.position

/-- The position behind the closing brace, or before whatever stands in its place. -/
def afterBrace (cursor : Cursor) : Position :=
  let cursor := cursor.skipBlanks
  if cursor.peek? = some 0x7D then cursor.ahead else cursor.position

/-- The end of the list form of a record. -/
def closeRecord (cursor : Cursor) : Except Fault Cursor := do
  let (byte, cursor) ← peekAfterBlanks .endInList cursor
  if byte = 0x5D then return cursor.next
  else if byte = 0x2C then
    let after := cursor.next.skipBlanks
    if after.peek? = some 0x5D then throw (.ofFlaw .trailingComma after.ahead)
    else throw (.ofFlaw .trailingCharacters after.ahead)
  else throw (.ofFlaw .trailingCharacters cursor.ahead)

mutual

/-- At most `depth` containers lie around any point of the value. -/
def Shape.read : (shape : Shape) → (depth : Nat) → Cursor → Except Fault (shape.Carrier × Cursor)
  | .any, depth, cursor => readValue depth cursor
  | .text, _, cursor => do
    let (byte, cursor) ← peekAfterBlanks .endInValue cursor
    if byte = 0x22 then readString cursor.next else throw (refuse byte "a string" cursor)
  | .flag, _, cursor => do
    let (byte, cursor) ← peekAfterBlanks .endInValue cursor
    match Word.ofFirst? byte with
    | some .true => return (true, ← Word.true.read cursor)
    | some .false => return (false, ← Word.false.read cursor)
    | _ => throw (refuse byte "a boolean" cursor)
  | .integer range, _, cursor => do
    let (byte, cursor) ← peekAfterBlanks .endInValue cursor
    if startsNumber byte then
      let (number, stop) ← readNumber cursor
      match range.select number.toJson with
      | .ok value => return (value, stop)
      | .error mismatch => throw (.ofMismatch mismatch stop.position)
    else throw (refuse byte range.name cursor)
  | .optional shape, depth, cursor =>
    let cursor := cursor.skipBlanks
    if cursor.peek? = some 0x6E then do return (none, ← Word.null.read cursor)
    else do
      let (content, stop) ← shape.read depth cursor
      return (some content, stop)
  | .list item, depth, cursor => do
    let (byte, cursor) ← peekAfterBlanks .endInValue cursor
    if byte = 0x5B then
      match depth with
      | 0 => throw (.ofFlaw .tooDeep cursor.ahead)
      | inner + 1 => readList (item.read inner) cursor
    else throw (refuse byte "a sequence" cursor)
  | .record name fields, depth, cursor => do
    let (byte, cursor) ← peekAfterBlanks .endInValue cursor
    if byte = 0x5B ∨ byte = 0x7B then
      match depth with
      | 0 => throw (.ofFlaw .tooDeep cursor.ahead)
      | inner + 1 =>
        if byte = 0x5B then
          let (values, cursor) ←
            fields.readItems inner (recordLength name fields.size) 0 true cursor.next
          return (values, ← closeRecord cursor)
        else
          let step := fun (slots : fields.Partial) cursor => do
            let (key, cursor) ← readString cursor
            fields.readMember inner key slots cursor
          let (slots, cursor) ← readObject step fields.blank cursor
          match fields.finish slots with
          | .ok values => return (values, cursor.next)
          | .error mismatch => throw (.ofMismatch mismatch cursor.ahead)
    else throw (refuse byte (recordName name) cursor)

/-- The value of the member whose name has been read.
A second member of one name is refused, and one of unknown name is passed over. -/
def Fields.readMember (depth : Nat) (key : String) :
    (fields : Fields) → fields.Partial → Cursor → Except Fault (fields.Partial × Cursor)
  | .empty, slots, cursor => do return (slots, ← skipValue (← readColon cursor))
  | .field name _ shape rest, (slot, slots), cursor =>
    if name = key then
      if slot.isSome then .error (.ofMismatch (.duplicateField name) (afterBrace cursor))
      else do
        let (value, cursor) ← shape.read depth (← readColon cursor)
        return ((some value, slots), cursor)
    else do
      let (slots, cursor) ← rest.readMember depth key slots cursor
      return ((slot, slots), cursor)

/-- The items of the list form in the order of the fields. -/
def Fields.readItems (depth : Nat) (expected : String) :
    (fields : Fields) → (index : Nat) → (first : Bool) → Cursor →
      Except Fault (fields.Carrier × Cursor)
  | .empty, _, _, cursor => .ok ((), cursor)
  | .field _ omissible shape rest, index, first, cursor => do
    let (more, cursor) ← nextItem first cursor
    if more then
      let (value, cursor) ← shape.read depth cursor
      let (values, cursor) ← rest.readItems depth expected (index + 1) false cursor
      return ((value, values), cursor)
    else match if omissible then shape.absent? else none with
      | none => throw (.ofMismatch (.wrongLength index expected) cursor.ahead)
      | some value =>
        let (values, cursor) ← rest.readItems depth expected (index + 1) first cursor
        return ((value, values), cursor)

end

/-- The data of a whole text. -/
def Shape.parse (shape : Shape) (text : List UInt8) : Except Fault shape.Carrier := do
  let (data, cursor) ← shape.read depthLimit (.ofBytes text)
  readEnd cursor
  return data

end GraphQuery.Json
