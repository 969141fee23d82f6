import GraphQuery.Json.Shape
import GraphQuery.Json.Fault

/-
This file takes data of a shape from JSON values.
-/

namespace GraphQuery.Json

/-- The integer of a number, if it lies in the range. -/
def IntegerRange.select (range : IntegerRange) : Json → Except Mismatch Int
  | .integer value =>
    if range.contains value then .ok value
    else .error (.wrongValue (.integer value) range.name)
  | json => .error (.wrongType (.ofJson json) range.name)

/-- How messages name a record. -/
def recordName (name : String) : String := "struct " ++ name

/-- How messages describe the list form of a record. -/
def recordLength (name : String) (size : Nat) : String :=
  recordName name ++ " with " ++ String.ofList (Decimal.digitChars size) ++
    (if size = 1 then " element" else " elements")

/-- The first field without a value is reported. -/
def Fields.finish : (fields : Fields) → fields.Partial → Except Mismatch fields.Carrier
  | .empty, _ => .ok ()
  | .field name _ shape rest, (slot, slots) =>
    match slot <|> shape.absent? with
    | none => .error (.missingField name)
    | some value => do return (value, ← rest.finish slots)

mutual

/-- This function decodes a JSON value. -/
def Shape.decode : (shape : Shape) → Json → Except Mismatch shape.Carrier
  | .any, json => .ok json
  | .text, .string content => .ok content
  | .text, json => .error (.wrongType (.ofJson json) "a string")
  | .flag, .boolean value => .ok value
  | .flag, json => .error (.wrongType (.ofJson json) "a boolean")
  | .integer range, json => range.select json
  | .optional _, .null => .ok none
  | .optional shape, json => (shape.decode json).map some
  | .list item, .array items => items.mapM item.decode
  | .list _, json => .error (.wrongType (.ofJson json) "a sequence")
  | .record _ fields, .object members => do
    let slots ← members.foldlM (fun slots member => fields.decodeMember member slots) fields.blank
    fields.finish slots
  | .record name fields, .array items =>
    fields.decodeItems (recordLength name fields.size) items.length 0 items
  | .record name _, json => .error (.wrongType (.ofJson json) (recordName name))

/-- A member of unknown name is passed over. -/
def Fields.decodeMember : (fields : Fields) → String × Json → fields.Partial →
    Except Mismatch fields.Partial
  | .empty, _, slots => .ok slots
  | .field name _ shape rest, member, (slot, slots) =>
    if name = member.1 then do return (some (← shape.decode member.2), slots)
    else do return (slot, ← rest.decodeMember member slots)

/-- The items take the fields in order, and none may be left over. -/
def Fields.decodeItems (expected : String) (total : Nat) :
    (fields : Fields) → Nat → List Json → Except Mismatch fields.Carrier
  | .empty, _, [] => .ok ()
  | .empty, _, _ :: _ => .error (.wrongLength total "fewer elements in array")
  | .field _ omissible shape rest, index, [] =>
    match if omissible then shape.absent? else none with
    | none => .error (.wrongLength index expected)
    | some value => do return (value, ← rest.decodeItems expected total (index + 1) [])
  | .field _ _ shape rest, index, item :: items => do
    return (← shape.decode item, ← rest.decodeItems expected total (index + 1) items)

end

end GraphQuery.Json
