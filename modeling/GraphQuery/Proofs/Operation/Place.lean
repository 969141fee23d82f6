import GraphQuery.Proofs.Operation.Frame
import GraphQuery.Proofs.Replay

/-
This file splits an assignment of arguments into writes to single declared arguments.
-/

namespace GraphQuery

namespace Argument

/-- The position of the first declared key that a given key stands for. -/
def position? (keys : List String) (key : String) : Option Nat :=
  keys.findIdx? fun declared => sameKey declared key

/-- The positions that take the given values, in their order and up to the first unknown key. -/
def filled (keys : List String) : List Argument → List (Nat × Value)
  | [] => []
  | given :: rest =>
    match position? keys given.key with
    | some position => (position, given.value) :: filled keys rest
    | none => []

/-- The first given key that is not declared. -/
def unknown? (keys : List String) : List Argument → Option String
  | [] => none
  | given :: rest =>
    match position? keys given.key with
    | some _ => unknown? keys rest
    | none => some given.key

/-- The argument at a position takes a value. -/
def fill (arguments : List Argument) (entry : Nat × Value) : List Argument :=
  arguments.modify entry.1 fun argument => { argument with value := entry.2 }

theorem map_key_fill (arguments : List Argument) (entry : Nat × Value) :
    (fill arguments entry).map key = arguments.map key := by
  apply List.ext_getElem
  · simp [fill]
  · intro index _ _
    simp only [fill, List.getElem_map, List.getElem_modify]
    split <;> rfl

theorem fill_comm (arguments : List Argument) (first second : Nat × Value)
    (apart : first.1 ≠ second.1) :
    fill (fill arguments first) second = fill (fill arguments second) first :=
  List.modify_modify_ne _ _ _ apart

theorem fill_fill (arguments : List Argument) (first second : Nat × Value)
    (same : first.1 = second.1) : fill (fill arguments first) second = fill arguments second := by
  rw [fill, fill, fill, same, List.modify_modify_eq]
  rfl

theorem assign?_eq (declared : List Argument) (key : String) (value : Value) :
    assign? declared key value =
      (position? (declared.map Argument.key) key).map fun position =>
        fill declared (position, value) := by
  induction declared with
  | nil => rfl
  | cons first rest inductionHypothesis =>
    rw [assign?_cons, List.map_cons, position?, List.findIdx?_cons]
    split
    · rfl
    · rw [inductionHypothesis, Option.map_map, Option.map_map]
      rfl

/-- An assignment fills positions that depend on the declared keys alone, and so does its end. -/
theorem assignAll_eq (declared given : List Argument) :
    assignAll declared given = ((filled (declared.map key) given).foldl fill declared,
      unknown? (declared.map key) given) := by
  induction given generalizing declared with
  | nil => rfl
  | cons first rest inductionHypothesis =>
    rw [assignAll, assign?_eq, filled, unknown?]
    cases position? (declared.map key) first.key with
    | none => rfl
    | some position =>
      dsimp only [Option.map_some]
      rw [inductionHypothesis, map_key_fill, List.foldl_cons]

end Argument

/-- The argument of a property at a position takes a value. -/
def Property.fill (entry : Nat × Value) (property : Property) : Property :=
  { property with
    arguments := property.arguments.map fun arguments => Argument.fill arguments entry }

/-- The keys of the arguments of a property, if it takes arguments. -/
def Property.argumentKeys? (property : Property) : Option (List String) :=
  property.arguments.map (List.map Argument.key)

theorem Property.argumentKeys?_fill (entry : Nat × Value) (property : Property) :
    (property.fill entry).argumentKeys? = property.argumentKeys? := by
  simp [fill, argumentKeys?, Function.comp_def, Argument.map_key_fill]

namespace Selection

/-- Two arguments are filled in any order if they are different. -/
theorem adjustAt_fill_comm (first second : Nat × Value) (keys others : List String)
    (apart : keys = others → first.1 ≠ second.1) (selection : Selection) :
    adjustAt (Property.fill first) keys (adjustAt (Property.fill second) others selection) =
      adjustAt (Property.fill second) others
        (adjustAt (Property.fill first) keys selection) := by
  induction keys generalizing others selection with
  | nil => rfl
  | cons key rest inductionHypothesis =>
    cases others with
    | nil => rfl
    | cons other later =>
      rw [adjustAt_cons, adjustAt_cons, adjustAt_cons, adjustAt_cons]
      apply Keyed.adjust_comm
      rintro rfl property
      -- Under the same key the two meet at one property, or one of them is further below.
      cases rest with
      | nil =>
        cases later with
        | nil =>
          have swapped := fun arguments =>
            Argument.fill_comm arguments second first (apart rfl).symm
          simp [below, Property.fill, Function.comp_def, swapped]
        | cons => rfl
      | cons =>
        cases later with
        | nil => rfl
        | cons =>
          have swapped := fun children => inductionHypothesis _
            (fun equal => apart (congrArg (key :: ·) equal)) children
          simp [below, Function.comp_def, swapped]

/-- Of two values for one argument the later one counts. -/
theorem adjustAt_fill_fill (first second : Nat × Value) (same : first.1 = second.1)
    (keys : List String) (selection : Selection) :
    adjustAt (Property.fill second) keys (adjustAt (Property.fill first) keys selection) =
      adjustAt (Property.fill second) keys selection := by
  induction keys generalizing selection with
  | nil => rfl
  | cons key rest inductionHypothesis =>
    rw [adjustAt_cons, adjustAt_cons, adjustAt_cons, Keyed.adjust_adjust]
    congr 1
    funext property
    cases rest with
    | nil =>
      have lost := fun arguments => Argument.fill_fill arguments first second same
      simp [below, Property.fill, Function.comp_def, lost]
    | cons => simp [below, Function.comp_def, inductionHypothesis]

theorem keys_adjustAt (change : Property → Property) (keys : List String) (selection : Selection) :
    Keyed.keys (adjustAt change keys selection) = Keyed.keys selection := by
  cases keys with
  | nil => rfl
  | cons key rest => rw [adjustAt_cons, Keyed.keys_adjust]

/-- A path leads to a property with the same argument keys wherever a value is filled in. -/
theorem follow?_adjustAt_fill (entry : Nat × Value) (keys path : List String)
    (selection : Selection) :
    (follow? path (adjustAt (Property.fill entry) keys selection)).map Property.argumentKeys? =
      (follow? path selection).map Property.argumentKeys? := by
  induction path generalizing keys selection with
  | nil => rfl
  | cons name rest inductionHypothesis =>
    cases keys with
    | nil => rfl
    | cons key later =>
      rw [adjustAt_cons]
      cases rest with
      | nil =>
        rw [follow?, follow?, Keyed.valueAt?_adjust]
        split
        · rw [Option.map_map]
          congr 1
          funext property
          cases later with
          | nil => exact property.argumentKeys?_fill entry
          | cons => rfl
        · rfl
      | cons next others =>
        -- A value that is filled in at this level leaves the children that the path goes on to.
        rw [follow?, follow?, Keyed.valueAt?_adjust]
        split
        · cases Keyed.valueAt? selection name with
          | none => rfl
          | some property =>
            cases later with
            | nil => rfl
            | cons =>
              cases children : property.children with
              | none => simp [below, children]
              | some children' => simp [below, children, inductionHypothesis]
        · rfl

end Selection

/-- A place is one declared argument of one property. -/
structure Place where
  keys : List String
  position : Nat
deriving DecidableEq, Repr

namespace Operation

/-- The argument at a place takes a value. -/
def write (operation : Operation) (entry : Place × Value) : Operation :=
  { operation with
    children := operation.children.map
      (Selection.adjustAt (Property.fill (entry.1.position, entry.2)) entry.1.keys) }

theorem overwriting_write : Replay.Overwriting write where
  commute := by
    rintro operation ⟨⟨keys, position⟩, value⟩ ⟨⟨others, other⟩, later⟩ apart
    have swapped := Selection.adjustAt_fill_comm (other, later) (position, value) others keys (by
      rintro rfl rfl
      exact apart rfl)
    simp [write, Function.comp_def, swapped]
  absorb := by
    rintro operation ⟨⟨keys, position⟩, value⟩ ⟨⟨others, other⟩, later⟩ same
    cases same
    have lost := Selection.adjustAt_fill_fill (position, value) (position, later) rfl keys
    simp [write, Function.comp_def, lost]

/-- The keys of the only property of the top level. -/
def topLevel (keys : List String) : Except PathProblem (List String) :=
  match keys with
  | [] => .error .absent
  | [key] => .ok [key]
  | _ :: _ :: _ => .error .ambiguous

/-- A path is resolved by the keys of the top level or by the property that it leads to. -/
theorem locate_eq (operation : Operation) (path : String) :
    operation.locate path =
      match operation.children with
      | none => .error .absent
      | some children =>
        if namesTopLevel path.toList then topLevel (Keyed.keys children)
        else
          let keys := (Text.pieces '.' path.toList).map String.ofList
          if (Selection.follow? keys children).isSome then .ok keys else .error .absent := by
  rw [locate]
  cases operation.children with
  | none => rfl
  | some children =>
    match children with
    | [] => rfl
    | [_] => rfl
    | _ :: _ :: _ => rfl

/-- A filled value changes no answer about where paths lead. -/
theorem locate_write (operation : Operation) (entry : Place × Value) (path : String) :
    (operation.write entry).locate path = operation.locate path := by
  rw [locate_eq, locate_eq, write]
  cases operation.children with
  | none => rfl
  | some children =>
    have same := fun keys => congrArg Option.isSome (Selection.follow?_adjustAt_fill
      (entry.1.position, entry.2) entry.1.keys keys children)
    simp only [Option.isSome_map] at same
    simp only [Option.map_some, Selection.keys_adjustAt, same]

/-- Where a path leads: the keys of the property and those of its arguments. -/
def addressed (operation : Operation) (path : String) :
    Except Failure (List String × Option (List String)) :=
  (operation.target path).map fun found => (found.1, found.2.argumentKeys?)

theorem addressed_eq (operation : Operation) (path : String) :
    operation.addressed path =
      match operation.locate path with
      | .error .ambiguous => .error (.build .severalProperties)
      | .error .absent => .error (.invalidPath path)
      | .ok keys =>
        match (operation.children.bind (Selection.follow? keys)).map Property.argumentKeys? with
        | some declared => .ok (keys, declared)
        | none => .error (.invalidPath path) := by
  rw [addressed, target]
  cases operation.locate path with
  | error problem => cases problem <;> rfl
  | ok keys =>
    dsimp only
    cases operation.children.bind (Selection.follow? keys) <;> rfl

/-- Paths lead to the same properties with the same argument keys after a write. -/
theorem addressed_write (operation : Operation) (entry : Place × Value) (path : String) :
    (operation.write entry).addressed path = operation.addressed path := by
  have same : ∀ keys,
      ((operation.write entry).children.bind (Selection.follow? keys)).map
          Property.argumentKeys? =
        (operation.children.bind (Selection.follow? keys)).map Property.argumentKeys? := by
    intro keys
    cases present : operation.children with
    | none => simp [write, present]
    | some children => simp [write, present, Selection.follow?_adjustAt_fill]
  simp only [addressed_eq, locate_write, same]

/-- A call of `setArguments` names a path and gives values. -/
abbrev Injection := String × List Argument

/-- The writes of a call to the declared arguments of the property that its path leads to. -/
def writes (operation : Operation) (call : Injection) : List (Place × Value) :=
  match operation.addressed call.1 with
  | .ok (keys, some declared) =>
    (Argument.filled declared call.2).map fun entry => (⟨keys, entry.1⟩, entry.2)
  | _ => []

/-- The failure of a call. -/
def failure? (operation : Operation) (call : Injection) : Option Failure :=
  match operation.addressed call.1 with
  | .error failure => some failure
  | .ok (_, none) => some (.argumentsNotSupported call.1)
  | .ok (_, some declared) =>
    (Argument.unknown? declared call.2).map fun argument => .unknownArgument argument call.1

/-- Writes to the arguments of one property replace them by the filled ones. -/
theorem foldl_write_plug (operation : Operation) (context : Selection.Context) (node : Property)
    (declared : List Argument) (entries : List (Nat × Value))
    (present : operation.children = some (context.plug node))
    (takes : node.arguments = some declared) :
    (entries.map fun entry => (Place.mk context.keys entry.1, entry.2)).foldl write operation =
      { operation with
        children := some (context.plug
          { node with arguments := some (entries.foldl Argument.fill declared) }) } := by
  induction entries generalizing operation node declared with
  | nil =>
    cases operation
    cases node
    cases present
    cases takes
    rfl
  | cons entry rest inductionHypothesis =>
    have written : (operation.write (⟨context.keys, entry.1⟩, entry.2)).children =
        some (context.plug (node.fill entry)) := by
      simp [write, present, Selection.Context.adjustAt_plug]
    have filled : (node.fill entry).arguments = some (Argument.fill declared entry) := by
      simp [Property.fill, takes]
    rw [List.map_cons, List.foldl_cons, List.foldl_cons,
      inductionHypothesis _ _ _ written filled]
    rfl

/-- An assignment is a row of writes and a failure, which depend on where the path leads. -/
theorem setArguments_eq (operation : Operation) (path : String) (given : List Argument) :
    operation.setArguments path given =
      ((operation.writes (path, given)).foldl write operation,
        operation.failure? (path, given)) := by
  cases resolved : operation.target path with
  | error failure => simp [setArguments, writes, failure?, addressed, resolved, Except.map]
  | ok found =>
    obtain ⟨keys, node⟩ := found
    cases takes : node.arguments with
    | none =>
      simp [setArguments, writes, failure?, addressed, resolved, takes, Except.map,
        Property.argumentKeys?]
    | some declared =>
      have leads : operation.addressed path = .ok (keys, some (declared.map Argument.key)) := by
        simp [addressed, resolved, Except.map, Property.argumentKeys?, takes]
      obtain ⟨context, rfl, present, changed⟩ :=
        exists_context_of_target operation path given keys node declared resolved takes
      apply Prod.ext
      · simp only [changed, writes, leads, Argument.assignAll_eq]
        rw [foldl_write_plug operation context node declared _ present takes]
      · simp [setArguments, resolved, takes, failure?, leads, Argument.assignAll_eq]

end Operation

end GraphQuery
