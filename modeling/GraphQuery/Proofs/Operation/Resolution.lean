import GraphQuery.Proofs.Operation.Address
import GraphQuery.Proofs.Operation.Assignment

/-
This file compares the property that is read at a path with the one that an assignment changes.
-/

namespace GraphQuery.Operation

/-- A bare operation has a selection without properties. -/
def isBare (operation : Operation) : Bool := operation.children.any List.isEmpty

/-- What is read at a path is what an assignment would change, and so is the failure, unless a path
of dots is given to a bare operation. -/
theorem property_eq_target (operation : Operation) (path : String) :
    operation.property path =
      match operation.target path with
      | .ok found => .ok found.2
      | .error failure =>
        if namesTopLevel path.toList && operation.isBare then .error (.invalidPath ".")
        else .error failure := by
  cases present : operation.children with
  | none => simp [property, target, locate, isBare, present]
  | some children =>
    rw [property_eq operation children present]
    cases top : namesTopLevel path.toList with
    | true =>
      cases children with
      | nil => simp [target, locate, top, onlyProperty, isBare, present]
      | cons first rest =>
        obtain ⟨key, node⟩ := first
        cases rest with
        | nil =>
          simp [target, locate, top, onlyProperty, present, Selection.follow?, Keyed.valueAt?]
        | cons => simp [target, locate, top, onlyProperty, isBare, present]
    | false =>
      -- Both follow the same keys, one of them to the property and the other one to its place.
      simp only [target, locate, present, top, Bool.false_eq_true, if_false]
      cases found :
          Selection.follow? ((Text.pieces '.' path.toList).map String.ofList) children with
      | none => simp
      | some node => simp [found]

/-- An assignment reports a path of dots on a bare operation as it is written. -/
theorem target_of_isBare (operation : Operation) (path : String)
    (dots : namesTopLevel path.toList = true) (bare : operation.isBare = true) :
    operation.target path = .error (.invalidPath path) := by
  cases present : operation.children with
  | none => simp [isBare, present] at bare
  | some children =>
    have empty : children = [] := by simpa [isBare, present] using bare
    simp [target, locate, present, empty, dots]

theorem property_of_target {operation : Operation} {path : String} {keys : List String}
    {node : Property} (resolved : operation.target path = .ok (keys, node)) :
    operation.property path = .ok node := by
  rw [property_eq_target, resolved]

/-- Properties are alike if only values of their arguments differ. -/
structure Alike (node changed : Property) : Prop where
  elsewhere : { changed with arguments := none } = { node with arguments := none }
  slots : changed.arguments.map (List.map Argument.slot) =
    node.arguments.map (List.map Argument.slot)

/-- A path that is refused when it is read is refused for the same reason when arguments are
assigned, but for a path of dots on a bare operation, which is then reported as it is written. At
any other path the property that is read is the one that changes: it stands in the same place, only
values of its arguments are different, and the path is never a reason to fail. -/
theorem setArguments_resolves (operation : Operation) (path : String) (given : List Argument) :
    match operation.property path with
    | .error failure =>
      operation.setArguments path given =
        (operation, some (if namesTopLevel path.toList && operation.isBare then .invalidPath path
          else failure))
    | .ok node =>
      ∃ (context : Selection.Context) (changed : Property),
        operation.children = some (context.plug node) ∧
        (operation.setArguments path given).1 =
          { operation with children := some (context.plug changed) } ∧
        (operation.setArguments path given).1.property path = .ok changed ∧
        Alike node changed ∧
        ∀ failure ∈ (operation.setArguments path given).2,
          failure = .argumentsNotSupported path ∨
            ∃ argument, failure = .unknownArgument argument path := by
  cases resolved : operation.target path with
  | error failure =>
    have stays : operation.setArguments path given = (operation, some failure) := by
      simp only [setArguments, resolved]
    rw [property_eq_target, resolved, stays]
    by_cases bare : (namesTopLevel path.toList && operation.isBare) = true
    · obtain ⟨dots, empty⟩ := Bool.and_eq_true_iff.1 bare
      have same := (target_of_isBare operation path dots empty).symm.trans resolved
      simp [bare, Except.error.inj same]
    · simp [bare]
  | ok found =>
    obtain ⟨keys, node⟩ := found
    rw [property_of_target resolved]
    cases takes : node.arguments with
    | none =>
      have stays : operation.setArguments path given =
          (operation, some (.argumentsNotSupported path)) := by
        simp only [setArguments, resolved, takes]
      obtain ⟨selection, present, follows⟩ := follow?_of_target operation path keys node resolved
      obtain ⟨context, -, rfl⟩ := Selection.exists_context keys selection node follows
      rw [stays]
      refine ⟨context, node, present, ?_, property_of_target resolved, ⟨rfl, rfl⟩, by simp⟩
      rw [← present]
    | some declared =>
      obtain ⟨context, -, present, changed⟩ :=
        exists_context_of_target operation path given keys node declared resolved takes
      refine ⟨context, _, present, changed,
        property_of_target (target_setArguments resolved takes given), ⟨rfl, ?_⟩, ?_⟩
      · simp [takes, Argument.map_slot_assignAll]
      · rw [setArguments_of_target resolved takes]
        intro failure met
        obtain ⟨argument, -, equal⟩ := Option.map_eq_some_iff.1 met
        exact .inr ⟨argument, equal.symm⟩

/-- An operation with an empty selection. -/
def bare : Operation where
  children := some []

/-- Two dots on a bare operation are reported as one dot when they are read, and as they are written
when arguments are assigned. -/
theorem property_bare_dots :
    bare.property ".." = .error (.invalidPath ".") ∧
      bare.setArguments ".." [] = (bare, some (.invalidPath "..")) ∧
      (Failure.invalidPath ".").message ≠ (Failure.invalidPath "..").message :=
  ⟨rfl, rfl, by decide⟩

end GraphQuery.Operation
