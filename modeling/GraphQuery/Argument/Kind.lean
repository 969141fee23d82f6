import GraphQuery.Value
import GraphQuery.Text.Blank

/-
This file reads declared argument values.
-/

namespace GraphQuery

/-- The kind of an argument says how its declared text is read. -/
inductive ArgumentKind where
  | boolean
  | integer
  | float
  | string
deriving DecidableEq, Repr, Inhabited

namespace ArgumentKind

/-- An argument without a declared kind is a string. -/
def default : ArgumentKind := string

def name : ArgumentKind → String
  | boolean => "Boolean"
  | integer => "Integer"
  | float => "Float"
  | string => "String"

/-- Letters match in either case and no blank is removed. -/
def readBoolean? (text : List Char) : Option Bool :=
  let lower := text.map Char.toLower
  if lower = "true".toList then some true
  else if lower = "false".toList then some false
  else none

/-- The 64-bit signed integers. -/
def inRange (value : Int) : Bool :=
  -9223372036854775808 ≤ value && value ≤ 9223372036854775807

def readInteger? (text : List Char) : Option Int :=
  (Decimal.readInteger? (Text.trim text)).filter inRange

/-- Only a finite number is accepted. -/
def readFloat? (text : List Char) : Option Float :=
  (Decimal.readFloat? (Text.trim text)).filter Float.isFinite

/-- The value of a declared text, if the text is of the kind. -/
def read? (kind : ArgumentKind) (text : String) : Option Value :=
  match kind with
  | boolean => (readBoolean? text.toList).map Value.boolean
  | integer => (readInteger? text.toList).map Value.integer
  | float => (readFloat? text.toList).map Value.real
  | string => some (Value.text text)

end ArgumentKind

end GraphQuery
