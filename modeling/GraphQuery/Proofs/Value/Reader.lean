import GraphQuery.Decimal.Numeral
import GraphQuery.Proofs.Text.Name
import GraphQuery.Proofs.Text.Quoted
import GraphQuery.Value

/-
This file reads literals of the query language.
-/

namespace GraphQuery.Value

open Text

/-- A reader takes an item from the start of a text and leaves the rest. -/
abbrev Reader (Item : Type) := List Char → Option (Item × List Char)

/-- The words that are no names of symbols. -/
def words : List String := ["null", "true", "false"]

/-- A word stands for its value, and any other name is a symbol. -/
def ofWord (name : String) : Value :=
  if name = "null" then .null
  else if name = "true" then .boolean true
  else if name = "false" then .boolean false
  else .symbol name

namespace Reader

variable {Item : Type}

/-- A name takes all characters that can continue it. -/
def name : Reader String := fun source =>
  let word := String.ofList (source.takeWhile continuesName)
  if isName word then some (word, source.dropWhile continuesName) else none

/-- These characters can belong to a number, though not to every one. -/
def continuesNumber (char : Char) : Bool := continuesName char || char == '-' || char == '.'

/-- An integer with a fraction, an exponent or a letter behind it is refused. -/
def integer : Reader Int := fun source =>
  (Decimal.readInteger? (source.takeWhile continuesNumber)).map fun number =>
    (number, source.dropWhile continuesNumber)

/-- A value without items or fields. -/
def scalar : Reader Value
  | [] => none
  | first :: rest =>
    if first = '"' then
      (Quoted.decode? rest).map fun (content, rest) => (.text (String.ofList content), rest)
    else if first = '$' then (name rest).map fun (name, rest) => (.reference name, rest)
    else if startsName first then
      (name (first :: rest)).map fun (name, rest) => (ofWord name, rest)
    else (integer (first :: rest)).map fun (number, rest) => (.integer number, rest)

/-- A key, a colon and a value. -/
def field (value : Reader Value) : Reader (String × Value) := fun source =>
  match name source with
  | some (key, ':' :: rest) => (value rest).map fun (content, rest) => ((key, content), rest)
  | _ => none

/-- The items up to a closing bracket; `budget` is at least their number. -/
def entries (closing : Char) (item : Reader Item) : (budget : Nat) → Reader (List Item)
  | 0, _ => none
  | budget + 1, source =>
    match item source with
    | some (head, separator :: rest) =>
      if separator = closing then some ([head], rest)
      else if separator = ',' then
        (entries closing item budget rest).map fun (tail, rest) => (head :: tail, rest)
      else none
    | _ => none

/-- The items behind an opening bracket, of which there may be none. -/
def enclosed (closing : Char) (item : Reader Item) : Reader (List Item) := fun source =>
  if source.head? = some closing then some ([], source.tail)
  else entries closing item source.length source

/-- A value with fewer than `depth` brackets around any point of it. -/
def value : (depth : Nat) → Reader Value
  | 0, _ => none
  | depth + 1, '[' :: rest =>
    (enclosed ']' (value depth) rest).map fun (items, rest) => (.list items, rest)
  | depth + 1, '{' :: rest =>
    (enclosed '}' (field (value depth)) rest).map fun (fields, rest) => (.object fields, rest)
  | _ + 1, source => scalar source

end Reader

/-- The value at the start of a text and what follows it. -/
def read? (source : List Char) : Option (Value × List Char) := Reader.value source.length source

end GraphQuery.Value
