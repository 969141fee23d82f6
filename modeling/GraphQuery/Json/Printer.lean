import GraphQuery.Json
import GraphQuery.Decimal.Layout
import GraphQuery.Text.Joined

/-
This file writes JSON values as text.
-/

namespace GraphQuery.Json

/-- Reals are positional from `1e-5` up to `1e16`, and an exponent always carries its sign. -/
def realLayout : Decimal.Layout :=
  { tie := .even
    leastPositional := -5
    greatestPositional := 15
    plus := ['+']
    infinity := "null".toList
    notANumber := "null".toList }

/-- JSON has no number that is not finite. -/
def realChars (value : Float) : List Char :=
  if value.isFinite then realLayout.chars value else "null".toList

/-- The two digits of a control character, in small letters. -/
def hexPair (code : Nat) : List Char :=
  [Nat.digitChar (code / 16), Nat.digitChar (code % 16)]

/-- Quotes, backslashes and the characters below the space are escaped. -/
def escape (char : Char) : List Char :=
  if char = '"' then ['\\', '"']
  else if char = '\\' then ['\\', '\\']
  else if char = '\x08' then ['\\', 'b']
  else if char = '\x0c' then ['\\', 'f']
  else if char = '\n' then ['\\', 'n']
  else if char = '\r' then ['\\', 'r']
  else if char = '\t' then ['\\', 't']
  else if char.toNat < 0x20 then '\\' :: 'u' :: '0' :: '0' :: hexPair char.toNat
  else [char]

def quoted (content : String) : List Char :=
  '"' :: content.toList.flatMap escape ++ ['"']

/-- The spacing between the tokens of a container. -/
structure Spacing where
  /-- What stands before each item and before the closing bracket, by depth. -/
  lineBreak : Nat → List Char
  afterColon : List Char

def compact : Spacing := ⟨fun _ => [], []⟩

/-- Each level is indented by two blanks on lines of its own. -/
def indented : Spacing := ⟨fun depth => '\n' :: List.replicate (2 * depth) ' ', [' ']⟩

mutual

/-- An empty container has nothing between its brackets. -/
def charsWith (spacing : Spacing) (depth : Nat) : Json → List Char
  | null => "null".toList
  | boolean value => (if value then "true" else "false").toList
  | integer value => Decimal.integerChars value
  | real value => realChars value
  | string content => quoted content
  | array [] => ['[', ']']
  | array (item :: rest) =>
    '[' :: itemsChars spacing (depth + 1) (item :: rest) ++ spacing.lineBreak depth ++ [']']
  | object [] => ['{', '}']
  | object (member :: rest) =>
    '{' :: membersChars spacing (depth + 1) (member :: rest) ++ spacing.lineBreak depth ++ ['}']

def itemsChars (spacing : Spacing) (depth : Nat) : List Json → List Char
  | [] => []
  | [item] => spacing.lineBreak depth ++ charsWith spacing depth item
  | item :: next :: rest =>
    spacing.lineBreak depth ++ charsWith spacing depth item ++
      ',' :: itemsChars spacing depth (next :: rest)

def membersChars (spacing : Spacing) (depth : Nat) : List (String × Json) → List Char
  | [] => []
  | [(name, value)] =>
    spacing.lineBreak depth ++ quoted name ++ ':' :: spacing.afterColon ++
      charsWith spacing depth value
  | (name, value) :: next :: rest =>
    spacing.lineBreak depth ++ quoted name ++ ':' :: spacing.afterColon ++
      charsWith spacing depth value ++ ',' :: membersChars spacing depth (next :: rest)

end

def render (json : Json) : String := String.ofList (charsWith compact 0 json)

def pretty (json : Json) : String := String.ofList (charsWith indented 0 json)

end GraphQuery.Json
