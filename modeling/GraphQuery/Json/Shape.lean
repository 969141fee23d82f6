import GraphQuery.Json

/-
This file holds descriptions of the data that a JSON text is asked for.
-/

namespace GraphQuery.Json

/-- These are the integers between two bounds. -/
structure IntegerRange where
  name : String
  least : Int
  greatest : Int
deriving DecidableEq

namespace IntegerRange

def unsigned32 : IntegerRange := ⟨"u32", 0, 4294967295⟩

def signed32 : IntegerRange := ⟨"i32", -2147483648, 2147483647⟩

def signed64 : IntegerRange := ⟨"i64", -9223372036854775808, 9223372036854775807⟩

def contains (range : IntegerRange) (value : Int) : Bool :=
  range.least ≤ value && value ≤ range.greatest

end IntegerRange

mutual

/-- A shape says which JSON values are accepted and what is kept of them. -/
inductive Shape where
  | any
  | text
  | flag
  | integer (range : IntegerRange)
  /-- The null value stands for an absent one. -/
  | optional (shape : Shape)
  | list (item : Shape)
  /-- A record is an object with the given fields or a list of them in their order. -/
  | record (name : String) (fields : Fields)

/-- The fields of a record have distinct names.
An omissible field may also be left out at the end of the list form. -/
inductive Fields where
  | empty
  | field (name : String) (omissible : Bool) (shape : Shape) (rest : Fields)

end

mutual

/-- The data of a shape. -/
def Shape.Carrier : Shape → Type
  | .any => Json
  | .text => String
  | .flag => Bool
  | .integer _ => Int
  | .optional shape => Option shape.Carrier
  | .list item => List item.Carrier
  | .record _ fields => fields.Carrier

def Fields.Carrier : Fields → Type
  | .empty => Unit
  | .field _ _ shape rest => shape.Carrier × rest.Carrier

end

/-- The fields of a record that have been read so far. -/
def Fields.Partial : Fields → Type
  | .empty => Unit
  | .field _ _ shape rest => Option shape.Carrier × rest.Partial

def Fields.blank : (fields : Fields) → fields.Partial
  | .empty => ()
  | .field _ _ _ rest => (none, rest.blank)

def Fields.size : Fields → Nat
  | .empty => 0
  | .field _ _ _ rest => rest.size + 1

/-- An optional field may be missing from an object. -/
def Shape.absent? : (shape : Shape) → Option shape.Carrier
  | .optional _ => some none
  | _ => none

mutual

/-- This function writes data as JSON. -/
def Shape.encode : (shape : Shape) → shape.Carrier → Json
  | .any, json => json
  | .text, content => .string content
  | .flag, value => .boolean value
  | .integer _, value => .integer value
  | .optional _, none => .null
  | .optional shape, some content => shape.encode content
  | .list item, items => .array (items.map item.encode)
  | .record _ fields, values => .ofMembers (fields.encode values)

/-- Every field is written, also an absent one. -/
def Fields.encode : (fields : Fields) → fields.Carrier → List (String × Json)
  | .empty, _ => []
  | .field name _ shape rest, (value, values) => (name, shape.encode value) :: rest.encode values

end

end GraphQuery.Json
