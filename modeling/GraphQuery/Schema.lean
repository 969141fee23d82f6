import GraphQuery.Argument.Kind
import GraphQuery.Method

/-
This file holds the types from which documents are compiled.
-/

namespace GraphQuery

namespace Schema

/-- A declared argument; a variable takes the place of its value. -/
structure ArgumentAttribute where
  name : String
  value : Option String := none
  kind : ArgumentKind := .default
  optional : Bool := false
  variableName : Option String := none
deriving DecidableEq, Repr, Inhabited

/-- A declared property renames a field and may bring arguments. -/
structure PropertyAttribute where
  name : String
  arguments : List ArgumentAttribute := []
deriving DecidableEq, Repr, Inhabited

/-- A declared variable and its type in the query language. -/
structure VariableAttribute where
  name : String
  type : String
deriving DecidableEq, Repr, Inhabited

structure OperationAttribute where
  name : String
  method : Method := .query
  variableAttributes : List VariableAttribute := []
  property : Option PropertyAttribute := none
deriving DecidableEq, Repr, Inhabited

/-- A field of an object with its attributes.
An absent list of arguments differs from an empty one. -/
structure Field (Kind : Type) where
  name : String
  type : Kind
  property : Option PropertyAttribute := none
  arguments : Option (List ArgumentAttribute) := none
  argument : Option ArgumentAttribute := none
  variableAttributes : List VariableAttribute := []
  ignored : Bool := false
  flattened : Bool := false
deriving Repr, Inhabited

/-- An object type whose fields have types of the given kind. -/
structure ObjectType (Kind : Type) where
  name : String
  property : Option PropertyAttribute := none
  operation : Option OperationAttribute := none
  fields : List (Field Kind) := []
deriving Repr, Inhabited

/-- What a value consists of once wrappers and lists are taken off. -/
inductive Element (count : Nat) where
  | builtin (name : String)
  /-- Nothing is known of the value. -/
  | unknown
  /-- The object type has this place in the schema. -/
  | object (type : Fin count)
deriving DecidableEq, Repr

/-- Types are written with wrappers and collections around an element. -/
inductive TypeExpression (count : Nat) where
  | element (content : Element count)
  | wrapped (inner : TypeExpression count)
  | collection (inner : TypeExpression count)
deriving Repr

/-- The type of a field is an element or a list of elements. -/
structure FieldType (count : Nat) where
  list : Bool
  element : Element count
deriving DecidableEq, Repr

/-- Wrappers are transparent, and nested collections make one list. -/
def TypeExpression.fieldType {count : Nat} : TypeExpression count → FieldType count
  | .element content => ⟨false, content⟩
  | .wrapped inner => inner.fieldType
  | .collection inner => { inner.fieldType with list := true }

end Schema

/-- A schema lists `count` object types, which refer to one another by their places. -/
structure Schema (count : Nat) where
  types : Vector (Schema.ObjectType (Schema.FieldType count)) count

namespace Schema

variable {count : Nat}

def typeAt (schema : Schema count) (type : Fin count) : ObjectType (FieldType count) :=
  schema.types.get type

/-- Registered types are leaves of documents; each is listed once, in the order of registration. -/
structure Scalars (count : Nat) where
  elements : List (Element count)

namespace Scalars

def empty : Scalars count := ⟨[]⟩

def contains (scalars : Scalars count) (element : Element count) : Bool :=
  decide (element ∈ scalars.elements)

def insert (scalars : Scalars count) (element : Element count) : Scalars count :=
  if scalars.contains element then scalars else ⟨scalars.elements ++ [element]⟩

def ofList (elements : List (Element count)) : Scalars count := elements.foldl insert empty

/-- An object is a scalar only by registration, and every other element is one by nature. -/
def isScalar (scalars : Scalars count) : Element count → Bool
  | .object type => scalars.contains (.object type)
  | _ => true

end Scalars

end Schema

end GraphQuery
