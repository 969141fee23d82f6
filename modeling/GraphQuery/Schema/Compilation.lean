import GraphQuery.Argument.Coercion
import GraphQuery.Operation
import GraphQuery.Schema

/-
This file compiles object types into operations.
-/

namespace GraphQuery

/-- A compiled operation and the key under which its response is read. -/
structure Compiled where
  operation : Operation
  resourceKey : Option String
deriving Inhabited

namespace Schema

variable {count : Nat}

/-- A variable takes precedence over a declared value. -/
def ArgumentAttribute.argument (declared : ArgumentAttribute) : Except Failure Argument := do
  let value ← match declared.variableName with
    | some name => pure (.reference name)
    | none => declared.kind.coerce declared.name declared.value
  return ⟨declared.name, value, declared.optional⟩

def PropertyAttribute.declared (property : PropertyAttribute) : Except Failure (List Argument) :=
  property.arguments.mapM ArgumentAttribute.argument

/-- A field takes arguments if any of its attributes can bring one. -/
def Field.takesArguments {Kind : Type} (field : Field Kind) : Bool :=
  field.property.isSome || field.arguments.isSome || field.argument.isSome ||
    !field.variableAttributes.isEmpty

/-- The arguments of the property come first, then those of the list, the single one and the
variables. -/
def Field.declared {Kind : Type} (field : Field Kind) : Except Failure (List Argument) := do
  let ofProperty ← match field.property with
    | some property => property.declared
    | none => pure []
  let ofList ← (field.arguments.getD []).mapM ArgumentAttribute.argument
  let single ← field.argument.toList.mapM ArgumentAttribute.argument
  let bound := field.variableAttributes.map fun declared =>
    Argument.bound declared.name declared.name
  return ofProperty ++ ofList ++ single ++ bound

/-- A repeated variable keeps its place and takes the later type. -/
def declareAll (types : Keyed String) (declared : List VariableAttribute) : Keyed String :=
  declared.foldl (fun types declared => Keyed.put types declared.name declared.type) types

/-- The selection of the type under way and the variables of the whole document. -/
structure Draft where
  selection : Selection
  variableTypes : Keyed String
deriving Inhabited

/-- A trail holds the types under way, the latest one first, and none of them twice. -/
structure Trail (count : Nat) where
  visited : List (Fin count)
  distinct : visited.Nodup

namespace Trail

def empty : Trail count := ⟨[], List.nodup_nil⟩

def push (trail : Trail count) (type : Fin count) (fresh : type ∉ trail.visited) : Trail count :=
  ⟨type :: trail.visited, List.nodup_cons.2 ⟨fresh, trail.distinct⟩⟩

/-- A schema has room for each of its types once. -/
theorem length_visited_le (trail : Trail count) : trail.visited.length ≤ count := by
  have within := trail.distinct.length_le_of_subset fun type _ => List.mem_finRange type
  simpa using within

end Trail

/-- The names from the first visit of a type to its repetition. -/
def cycleNames (schema : Schema count) (trail : Trail count) (type : Fin count) : List String :=
  (type :: (trail.visited.takeWhile (· != type) ++ [type])).reverse.map fun visited =>
    (schema.typeAt visited).name

/-- The property of a field whose children are already known. -/
def Field.toProperty {Kind : Type} (field : Field Kind) (arguments : List Argument)
    (children : Option Selection) : Property :=
  { aliasName := field.property.map PropertyAttribute.name
    method := none
    arguments := if field.takesArguments then some arguments else none
    variableTypes := none
    children }

/-- The draft after one field; `enter` continues a draft with the fields of another type. -/
def Field.compile (scalars : Scalars count)
    (enter : Fin count → Draft → Except Failure Draft) (owner : String)
    (field : Field (FieldType count)) (draft : Draft) : Except Failure Draft :=
  if field.ignored then .ok draft
  else if field.flattened then
    match field.type.element with
    | .object type => enter type draft
    | _ => .error (.build (.flattenedLeaf field.name owner))
  else do
    let arguments ← field.declared
    let types := declareAll draft.variableTypes field.variableAttributes
    let (children, types) ← match field.type.element with
      | .object type =>
        if scalars.contains (.object type) then pure (none, types)
        else do
          let inner ← enter type ⟨[], types⟩
          pure (some inner.selection, inner.variableTypes)
      | _ => pure (none, types)
    return ⟨Keyed.put draft.selection field.name (field.toProperty arguments children), types⟩

/-- The draft after all fields of a type, unless the type is on the trail already. -/
def collect (schema : Schema count) (scalars : Scalars count) (trail : Trail count)
    (type : Fin count) (draft : Draft) : Except Failure Draft :=
  if repeated : type ∈ trail.visited then
    .error (.cyclicSchema (schema.cycleNames trail type))
  else
    (schema.typeAt type).fields.foldlM
      (fun draft field =>
        field.compile scalars
          (fun inner draft => collect schema scalars (trail.push type repeated) inner draft)
          (schema.typeAt type).name draft)
      draft
termination_by count - trail.visited.length
decreasing_by
  have room := (trail.push type repeated).length_visited_le
  simp only [Trail.push, List.length_cons] at room ⊢
  omega

/-- The property that wraps the whole selection; the one of the operation takes precedence. -/
def ObjectType.topProperty? {Kind : Type} (root : ObjectType Kind) : Option PropertyAttribute :=
  (root.operation.bind OperationAttribute.property) <|> root.property

/-- The operation of a root type; the root is expanded even if it is registered as a scalar. -/
def compile (schema : Schema count) (scalars : Scalars count) (root : Fin count) :
    Except Failure Compiled := do
  let type := schema.typeAt root
  let declared := declareAll [] ((type.operation.map OperationAttribute.variableAttributes).getD [])
  let draft ← schema.collect scalars .empty root ⟨[], declared⟩
  let operation : Operation :=
    { method := some ((type.operation.map OperationAttribute.method).getD .query)
      name := type.operation.map OperationAttribute.name
      variableTypes := draft.variableTypes }
  match type.topProperty? with
  | some top =>
    let arguments ← top.declared
    let property : Property := { Property.leaf with arguments, children := some draft.selection }
    return ⟨{ operation with children := some [(top.name, property)] }, some top.name⟩
  | none => return ⟨{ operation with children := some draft.selection }, none⟩

end Schema

end GraphQuery
