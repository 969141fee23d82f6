import GraphQuery.Failure
import GraphQuery.Property

/-
This file holds the roots of documents.
-/

namespace GraphQuery

/-- An operation selects its properties under a verb, a name and declared variables.
Without children there is nothing to render. -/
structure Operation where
  method : Option Method := some .query
  name : Option String := none
  variableTypes : Keyed String := []
  children : Option Selection := none
deriving Inhabited

namespace Operation

/-- What stands between the verb and the selection. -/
def headChars (operation : Operation) : List Char :=
  Property.wordChars operation.name ++ Property.declarationsChars operation.variableTypes

/-- An empty selection keeps its braces. -/
def selectionChars (children : Selection) : List Char :=
  '{' :: ' ' :: Property.selectionChars children ++ ['}', ' ']

/-- The document under a given verb. -/
def charsAs (method : Option Method) (operation : Operation) (children : Selection) : List Char :=
  Property.wordChars (method.map Method.keyword) ++ operation.headChars ++ selectionChars children

/-- The document under the given verb in place of the operation's own. -/
def renderAs (operation : Operation) (method : Option Method) : Except Failure String :=
  match operation.children with
  | none => .error (.build .noProperties)
  | some children => .ok (String.ofList (operation.charsAs method children))

def render (operation : Operation) : Except Failure String := operation.renderAs operation.method

end Operation

end GraphQuery
