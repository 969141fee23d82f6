import GraphQuery.Value
import GraphQuery.Decimal.Layout
import GraphQuery.Text.Quoted

/-
This file writes values as literals of the query language.
-/

namespace GraphQuery

/-- Reals are positional from `1e-4` up to `1e16` and carry no sign in a positive exponent. -/
def realLayout : Decimal.Layout :=
  { tie := .away
    leastPositional := -4
    greatestPositional := 15
    plus := []
    infinity := "inf".toList
    notANumber := "NaN".toList }

namespace Value

/-- The language has no literal for a number that is not finite. -/
def realChars (value : Float) : List Char :=
  match Decimal.Reading.ofFloat value with
  | .finite _ _ => realLayout.chars value
  | _ => "null".toList

/-- A text that starts with a dollar sign is a reference already and goes out as it stands. -/
def textChars : List Char → List Char
  | '$' :: rest => '$' :: rest
  | content => Text.Quoted.encode content

mutual

/-- This function writes the literal of a value. -/
def chars : Value → List Char
  | null => "null".toList
  | text content => textChars content.toList
  | integer value => Decimal.integerChars value
  | real value => realChars value
  | boolean value => (if value then "true" else "false").toList
  | symbol name => name.toList
  | list items => '[' :: itemsChars items ++ [']']
  | object fields => '{' :: fieldsChars fields ++ ['}']
  | reference name => '$' :: name.toList

/-- Commas separate the items. -/
def itemsChars : List Value → List Char
  | [] => []
  | [item] => item.chars
  | item :: next :: rest => item.chars ++ ',' :: itemsChars (next :: rest)

/-- Commas separate the fields, and a colon follows each key. -/
def fieldsChars : List (String × Value) → List Char
  | [] => []
  | [(key, value)] => key.toList ++ ':' :: value.chars
  | (key, value) :: next :: rest =>
    key.toList ++ ':' :: value.chars ++ ',' :: fieldsChars (next :: rest)

end

def render (value : Value) : String := String.ofList value.chars

end Value

end GraphQuery
