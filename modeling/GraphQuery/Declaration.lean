import GraphQuery.Declaration.Annotation
import GraphQuery.Schema
import GraphQuery.Text.Camel

/-
This file reads declarations of object types.
-/

namespace GraphQuery

/-- The outer form of a declared type; only a struct with named fields describes an object. -/
inductive DeclarationForm where
  | namedFields
  | unnamedFields
  | alternatives
deriving DecidableEq, Repr

namespace Declaration

/-- A declared field with its attributes. -/
structure DeclaredField (Kind : Type) where
  name : String
  type : Kind
  attributes : List Annotation

end Declaration

/-- The declaration of a type whose fields have types of the given kind. -/
structure Declaration (Kind : Type) where
  name : String
  form : DeclarationForm
  attributes : List Declaration.Annotation
  fields : List (Declaration.DeclaredField Kind)

namespace Declaration

open Schema

/-- Words are compared ignoring the case of ASCII letters. -/
def lowered (word : String) : String := String.ofList (word.toList.map Char.toLower)

def readKind (word : String) : Except Fault ArgumentKind :=
  match lowered word with
  | "boolean" | "bool" => .ok .boolean
  | "integer" | "int" => .ok .integer
  | "float" => .ok .float
  | "string" => .ok .string
  | other => .error (.unknownKind other)

def readMethod (word : String) : Except Fault Method :=
  match lowered word with
  | "query" => .ok .query
  | "mutation" | "mutate" => .ok .mutation
  | other => .error (.unknownMethod other)

/-- The name that a list must contain. -/
def requireMember (owner : Owner) (member : String) : Option String → Except Fault String
  | some content => .ok content
  | none => .error (.missing owner member)

/-- An argument under way; its name may still be missing. -/
structure ArgumentDraft where
  name : Option String := none
  rest : ArgumentAttribute := ⟨"", none, .default, false, none⟩

def argumentStep (draft : ArgumentDraft) (name : String) (_last : Bool) (entry : Annotation) :
    Except Fault ArgumentDraft :=
  match name with
  | "name" => do return { draft with name := some (← entry.text) }
  | "value" => do return { draft with rest := { draft.rest with value := some (← entry.text) } }
  | "kind" => do return { draft with rest := { draft.rest with kind := ← readKind (← entry.text) } }
  | "optional" => do return { draft with rest := { draft.rest with optional := ← entry.flag } }
  | "variable" => do
    return { draft with rest := { draft.rest with variableName := some (← entry.text) } }
  | _ => .error (.unknownName .argument)

def readArgument (last : Bool) (entry : Annotation) : Except Fault ArgumentAttribute := do
  let draft ← Annotation.readEntries argumentStep {} (← entry.entries last)
  return { draft.rest with name := ← requireMember .argument "name" draft.name }

/-- A variable under way. -/
structure VariableDraft where
  name : Option String := none
  type : Option String := none

def variableStep (draft : VariableDraft) (name : String) (_last : Bool) (entry : Annotation) :
    Except Fault VariableDraft :=
  match name with
  | "name" => do return { draft with name := some (← entry.text) }
  | "scalar" => do return { draft with type := some (← entry.text) }
  | _ => .error (.unknownName .variableEntry)

def readVariable (last : Bool) (entry : Annotation) : Except Fault VariableAttribute := do
  let draft ← Annotation.readEntries variableStep {} (← entry.entries last)
  let name ← requireMember .variableEntry "name" draft.name
  return ⟨name, ← requireMember .variableEntry "scalar" draft.type⟩

/-- Every entry of the list has the given name; the results follow those read before. -/
def readListed {Item : Type} (owner : Owner) (item : String)
    (read : Bool → Annotation → Except Fault Item) (before : List Item) (last : Bool)
    (entry : Annotation) : Except Fault (List Item) := do
  let step (items : List Item) (name : String) (last : Bool) (entry : Annotation) :
      Except Fault (List Item) :=
    if name = item then do return items ++ [← read last entry] else .error (.unknownName owner)
  Annotation.readEntries step before (← entry.entries last)

def readVariables : List VariableAttribute → Bool → Annotation →
    Except Fault (List VariableAttribute) :=
  readListed .variableList "variable" readVariable

def readArguments : List ArgumentAttribute → Bool → Annotation →
    Except Fault (List ArgumentAttribute) :=
  readListed .arguments "argument" readArgument

/-- A property under way. -/
structure PropertyDraft where
  name : Option String := none
  arguments : List ArgumentAttribute := []

def propertyStep (draft : PropertyDraft) (name : String) (last : Bool) (entry : Annotation) :
    Except Fault PropertyDraft :=
  match name with
  | "name" => do return { draft with name := some (← entry.text) }
  | "argument" => do
    return { draft with arguments := draft.arguments ++ [← readArgument last entry] }
  | _ => .error (.unknownName .property)

/-- An assigned text is the name of a property without arguments. -/
def readProperty (last : Bool) (entry : Annotation) : Except Fault PropertyAttribute := do
  match entry with
  | .assigned _ _ => return ⟨← entry.text, []⟩
  | _ =>
    let draft ← Annotation.readEntries propertyStep {} (← entry.entries last)
    return ⟨← requireMember .property "name" draft.name, draft.arguments⟩

/-- An operation under way. -/
structure OperationDraft where
  name : Option String := none
  method : Method := .query
  variableAttributes : List VariableAttribute := []
  property : Option PropertyAttribute := none

def operationStep (draft : OperationDraft) (name : String) (last : Bool) (entry : Annotation) :
    Except Fault OperationDraft :=
  match name with
  | "name" => do return { draft with name := some (← entry.text) }
  | "method" => do return { draft with method := ← readMethod (← entry.text) }
  | "variable" => do
    return { draft with
      variableAttributes := draft.variableAttributes ++ [← readVariable last entry] }
  | "variables" => do
    return { draft with
      variableAttributes := ← readVariables draft.variableAttributes last entry }
  | "property" => do return { draft with property := some (← readProperty last entry) }
  | _ => .error (.unknownName .operation)

def readOperation (last : Bool) (entry : Annotation) : Except Fault OperationAttribute := do
  let draft ← Annotation.readEntries operationStep {} (← entry.entries last)
  let name ← requireMember .operation "name" draft.name
  return ⟨name, draft.method, draft.variableAttributes, draft.property⟩

/-- The attributes of a type. -/
structure TypeAttributes where
  property : Option PropertyAttribute := none
  operation : Option OperationAttribute := none

def typeStep (attributes : TypeAttributes) (name : String) (last : Bool) (entry : Annotation) :
    Except Fault TypeAttributes :=
  match name with
  | "property" => do return { attributes with property := some (← readProperty last entry) }
  | "operation" => do return { attributes with operation := some (← readOperation last entry) }
  | _ => .error (.unknownName .type)

/-- The attributes of a field. -/
structure FieldAttributes where
  rename : Option String := none
  property : Option PropertyAttribute := none
  arguments : Option (List ArgumentAttribute) := none
  argument : Option ArgumentAttribute := none
  variableAttributes : List VariableAttribute := []
  single : Option VariableAttribute := none
  ignored : Bool := false
  scalar : Bool := false
  flattened : Bool := false

def fieldStep (attributes : FieldAttributes) (name : String) (last : Bool) (entry : Annotation) :
    Except Fault FieldAttributes :=
  match name with
  | "rename" => do return { attributes with rename := some (← entry.text) }
  | "property" => do return { attributes with property := some (← readProperty last entry) }
  | "arguments" => do
    let arguments ← readArguments (attributes.arguments.getD []) last entry
    return { attributes with arguments := some arguments }
  | "argument" =>
    if attributes.argument.isSome then .error (.repeated .argument)
    else do return { attributes with argument := some (← readArgument last entry) }
  | "variables" => do
    return { attributes with
      variableAttributes := ← readVariables attributes.variableAttributes last entry }
  | "variable" =>
    if attributes.single.isSome then .error (.repeated .variableEntry)
    else do return { attributes with single := some (← readVariable last entry) }
  | "ignore" => do return { attributes with ignored := ← entry.flag }
  | "scalar" => do return { attributes with scalar := ← entry.flag }
  | "flatten" => do return { attributes with flattened := ← entry.flag }
  | _ => .error (.unknownName .field)

/-- Only attributes of this name are read. -/
def attributeName : String := "graphql"

/-- The attributes are read one after another; an empty list of entries says nothing. -/
def readAttributes {State : Type} (step : State → String → Bool → Annotation → Except Fault State)
    (start : State) (attributes : List Annotation) : Except Fault State :=
  attributes.foldlM
    (fun state entry =>
      if entry.key = .name attributeName then
        match entry with
        | .bare _ | .followed _ => .error .bareAttribute
        | .assigned _ _ => .error .assignedAttribute
        | .group _ entries => Annotation.readEntries step state entries
      else .ok state)
    start

/-- The mark of an identifier that would be a keyword otherwise. -/
def rawMark : List Char := ['r', '#']

/-- The key of a field is its identifier in camel case. -/
def fieldKey (identifier : String) : String :=
  let chars := identifier.toList
  let bare := if rawMark.isPrefixOf chars then chars.drop rawMark.length else chars
  String.ofList (Text.lowerCamel bare)

variable {Kind : Type}

/-- Nothing is known of the type of a field that is ignored or a scalar. -/
def DeclaredField.read (field : DeclaredField Kind) :
    Except Fault (Schema.Field (Option Kind)) := do
  let attributes ← readAttributes fieldStep {} field.attributes
  return {
    name := attributes.rename.getD (fieldKey field.name)
    type := if attributes.ignored || attributes.scalar then none else some field.type
    property := attributes.property
    arguments := attributes.arguments
    argument := attributes.argument
    variableAttributes := attributes.variableAttributes ++ attributes.single.toList
    ignored := attributes.ignored
    flattened := attributes.flattened }

/-- The object type that a declaration describes; the first fault in the text wins. -/
def read (declaration : Declaration Kind) : Except Fault (ObjectType (Option Kind)) := do
  match declaration.form with
  | .unnamedFields => throw .unnamedFields
  | .alternatives => throw .noStruct
  | .namedFields =>
    let attributes ← readAttributes typeStep {} declaration.attributes
    let fields ← declaration.fields.mapM DeclaredField.read
    return ⟨declaration.name, attributes.property, attributes.operation, fields⟩

end Declaration

end GraphQuery
