import GraphQuery.Keyed
import GraphQuery.Decimal.Numeral

/-
This file holds the values that arguments take.
-/

namespace GraphQuery

/-- An object keeps its fields in the order in which they were first put. -/
inductive Value where
  | null
  | text (content : String)
  | integer (value : Int)
  | real (value : Float)
  | boolean (value : Bool)
  | symbol (name : String)
  | list (items : List Value)
  | object (fields : List (String × Value))
  /-- The reference names a declared variable, without its dollar sign. -/
  | reference (name : String)
deriving Inhabited

namespace Value

def isNull : Value → Bool
  | null => true
  | _ => false

end Value

end GraphQuery
