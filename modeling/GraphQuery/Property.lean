import GraphQuery.Argument
import GraphQuery.Method
import GraphQuery.Text.Joined

/-
This file holds the fields of a document.
-/

namespace GraphQuery

/-- A property is one field with what is selected below it.
An absent list of arguments takes no arguments, and absent children make a leaf. -/
structure Property where
  aliasName : Option String
  method : Option Method
  arguments : Option (List Argument)
  variableTypes : Option (Keyed String)
  children : Option (List (String × Property))
deriving Inhabited

/-- The properties below one node, by their keys. -/
abbrev Selection := Keyed Property

namespace Property

def leaf : Property := ⟨none, none, none, none, none⟩

def isLeaf (property : Property) : Bool := property.children.isNone

/-- A word is followed by one blank, and an absent one leaves no trace. -/
def wordChars : Option String → List Char
  | none => []
  | some word => word.toList ++ [' ']

def declarationChars (declaration : String × String) : List Char :=
  '$' :: declaration.1.toList ++ ':' :: declaration.2.toList

/-- Declared variables with their types; nothing is written for an empty list. -/
def declarationsChars (types : Keyed String) : List Char :=
  if types.isEmpty then []
  else '(' :: Text.joined [','] (types.map declarationChars) ++ [')']

/-- The rendered arguments in their order; nothing is written without any. -/
def argumentsChars (arguments : List Argument) : List Char :=
  let rendered := arguments.filter Argument.isRendered
  if rendered.isEmpty then []
  else '(' :: Text.joined [','] (rendered.map Argument.chars) ++ [')', ' ']

/-- A colon stands before an alias. -/
def aliasChars : Option String → List Char
  | none => []
  | some aliasName => ':' :: ' ' :: aliasName.toList ++ [' ']

/-- What stands before the arguments of a property. -/
def headChars (key : Option String) (property : Property) : List Char :=
  wordChars (property.method.map Method.keyword) ++ wordChars key ++
    aliasChars property.aliasName ++ declarationsChars (property.variableTypes.getD [])

mutual

/-- This function writes a property under an optional key. -/
def chars (key : Option String) : Property → List Char
  | ⟨aliasName, method, arguments, variableTypes, children⟩ =>
    headChars key ⟨aliasName, method, arguments, variableTypes, children⟩ ++
      argumentsChars (arguments.getD []) ++
      match children with
      | none => []
      | some [] => []
      | some (child :: rest) => '{' :: ' ' :: selectionChars (child :: rest) ++ ['}', ' ']

/-- The properties follow one another. -/
def selectionChars : List (String × Property) → List Char
  | [] => []
  | (key, child) :: rest => chars (some key) child ++ selectionChars rest

end

/-- A selection stands in braces; an absent or an empty one leaves no trace. -/
def blockChars : Option (List (String × Property)) → List Char
  | none => []
  | some [] => []
  | some (child :: rest) => '{' :: ' ' :: selectionChars (child :: rest) ++ ['}', ' ']

theorem blockChars_some (selection : List (String × Property)) (present : selection ≠ []) :
    blockChars (some selection) = '{' :: ' ' :: selectionChars selection ++ ['}', ' '] := by
  cases selection with
  | nil => exact absurd rfl present
  | cons child rest => rfl

/-- A property has a head, its arguments and its selection, in this order. -/
theorem chars_eq (key : Option String) (property : Property) :
    property.chars key = headChars key property ++ argumentsChars (property.arguments.getD []) ++
      blockChars property.children := by
  obtain ⟨aliasName, method, arguments, variableTypes, children⟩ := property
  match children with
  | none => rw [chars, blockChars]
  | some [] => rw [chars, blockChars]
  | some (child :: rest) => rw [chars, blockChars]

theorem selectionChars_append (first second : List (String × Property)) :
    selectionChars (first ++ second) = selectionChars first ++ selectionChars second := by
  induction first with
  | nil => rfl
  | cons entry rest inductionHypothesis =>
    simp [selectionChars, inductionHypothesis]

def render (key : Option String) (property : Property) : String :=
  String.ofList (property.chars key)

end Property

end GraphQuery
