import GraphQuery.Operation.Path
import GraphQuery.Proofs.Compilation.Unfolding

/-
This file takes a compiled operation apart into what was collected below its root and what the root
adds to it.
-/

namespace GraphQuery

/-- What an operation selects below its wrapper, if it has one. -/
def Compiled.selection (compiled : Compiled) : Selection :=
  let children := compiled.operation.children.getD []
  if compiled.resourceKey.isSome then children.flatMap fun entry => entry.2.children.getD []
  else children

namespace Schema

variable {count : Nat}

namespace ObjectType

variable {Kind : Type} (root : ObjectType Kind)

/-- The variables that the operation attribute of a root declares. -/
def operationVariables : List VariableAttribute :=
  (root.operation.map OperationAttribute.variableAttributes).getD []

/-- A root without a wrapper has no arguments of its own. -/
def wrapperArguments : Except Failure (List Argument) :=
  match root.wrapper? with
  | none => .ok []
  | some wrapper => wrapper.declared

/-- The selection stands in the wrapper, if the root has one. -/
def wrapped (arguments : List Argument) (selection : Selection) : Selection :=
  match root.wrapper? with
  | none => selection
  | some wrapper => [(wrapper.name, ⟨none, none, some arguments, none, some selection⟩)]

/-- The root gives the verb, the name and the wrapper; the rest was collected below it. -/
def assembled (arguments : List Argument) (draft : Draft) : Compiled where
  operation :=
    { method := some ((root.operation.map OperationAttribute.method).getD .query)
      name := root.operation.map OperationAttribute.name
      variableTypes := draft.variableTypes
      children := some (root.wrapped arguments draft.selection) }
  resourceKey := root.wrapper?.map PropertyAttribute.name

theorem selection_assembled (arguments : List Argument) (draft : Draft) :
    (root.assembled arguments draft).selection = draft.selection := by
  cases wrapper : root.wrapper? <;> simp [Compiled.selection, assembled, wrapped, wrapper]

/-- Keys that lead to a property below the wrapper lead to it from the top as well. -/
theorem exists_keys_wrapped (arguments : List Argument) (selection : Selection)
    (keys : List String) (property : Property)
    (found : Selection.follow? keys selection = some property) :
    ∃ outer, Selection.follow? outer (root.wrapped arguments selection) = some property := by
  cases wrapped : root.wrapper? with
  | none => exact ⟨keys, by simpa [ObjectType.wrapped, wrapped] using found⟩
  | some wrapper =>
    cases keys with
    | nil => simp [Selection.follow?] at found
    | cons key rest =>
      refine ⟨wrapper.name :: key :: rest, ?_⟩
      simpa [ObjectType.wrapped, wrapped, Selection.follow?, Keyed.valueAt?] using found

end ObjectType

/-- A draft starts with the variables of the operation attribute. -/
def startOf (schema : Schema count) (root : Fin count) : Draft :=
  ⟨[], declareAll [] (schema.typeAt root).operationVariables⟩

/-- The fields are collected before the arguments of the wrapper are read. -/
theorem compile_eq (schema : Schema count) (scalars : Scalars count) (root : Fin count) :
    schema.compile scalars root = do
      let draft ← schema.collect scalars .empty root (schema.startOf root)
      let arguments ← (schema.typeAt root).wrapperArguments
      return (schema.typeAt root).assembled arguments draft := by
  rw [compile]
  congr 1
  funext draft
  rw [ObjectType.topProperty?_eq, ObjectType.wrapperArguments]
  cases wrapped : (schema.typeAt root).wrapper? <;>
    simp only [ObjectType.assembled, ObjectType.wrapped, wrapped] <;> rfl

theorem compile_eq_ok (schema : Schema count) (scalars : Scalars count) (root : Fin count)
    (compiled : Compiled) :
    schema.compile scalars root = .ok compiled ↔ ∃ draft arguments,
      schema.collect scalars .empty root (schema.startOf root) = .ok draft ∧
      (schema.typeAt root).wrapperArguments = .ok arguments ∧
      (schema.typeAt root).assembled arguments draft = compiled := by
  simp only [compile_eq, Outcome.bind_eq_ok, pure, Except.pure, Except.ok.injEq]
  constructor
  · rintro ⟨draft, collected, arguments, declared, equal⟩
    exact ⟨draft, arguments, collected, declared, equal⟩
  · rintro ⟨draft, arguments, collected, declared, equal⟩
    exact ⟨draft, collected, arguments, declared, equal⟩

end Schema

end GraphQuery
