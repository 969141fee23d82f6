import GraphQuery.Operation

/-
This file finds properties by dotted paths and sets their arguments.
-/

namespace GraphQuery

/-- The property behind a row of keys, each among the children of the property before it. -/
def Property.descend? : List String → Property → Option Property
  | [], property => some property
  | key :: rest, property => do
    let child ← Keyed.valueAt? (← property.children) key
    descend? rest child

namespace Selection

/-- The property at the end of a chain of keys. -/
def follow? : List String → Selection → Option Property
  | [], _ => none
  | [key], selection => Keyed.valueAt? selection key
  | key :: next :: rest, selection => do
    let property ← Keyed.valueAt? selection key
    follow? (next :: rest) (← property.children)

/-- The property at the end of a chain of keys changes and every other one stays. -/
def adjustAt (change : Property → Property) : List String → Selection → Selection
  | [], selection => selection
  | [key], selection => Keyed.adjust change selection key
  | key :: next :: rest, selection =>
    Keyed.adjust
      (fun property =>
        { property with children := property.children.map (adjustAt change (next :: rest)) })
      selection key

end Selection

/-- These are the reasons for which a path leads nowhere. -/
inductive PathProblem where
  | absent
  | ambiguous
deriving DecidableEq, Repr

namespace Operation

/-- A path of dots alone stands for the only property of the top level. -/
def namesTopLevel (path : List Char) : Bool := !path.isEmpty && path.all (· == '.')

/-- The keys that a path names, if they lead to a property. -/
def locate (operation : Operation) (path : String) : Except PathProblem (List String) :=
  match operation.children with
  | none => .error .absent
  | some children =>
    if namesTopLevel path.toList then
      match children with
      | [] => .error .absent
      | [(key, _)] => .ok [key]
      | _ :: _ :: _ => .error .ambiguous
    else
      let keys := (Text.pieces '.' path.toList).map String.ofList
      if (Selection.follow? keys children).isSome then .ok keys else .error .absent

/-- The only property of a selection; a selection without properties is reported under a single
dot, however many dots the path had. -/
def onlyProperty : Selection → Except Failure Property
  | [] => .error (.invalidPath ".")
  | [(_, property)] => .ok property
  | _ :: _ :: _ => .error (.build .severalProperties)

/-- The property that a path names. -/
def property (operation : Operation) (path : String) : Except Failure Property :=
  match operation.children with
  | none => .error (.invalidPath path)
  | some children =>
    if namesTopLevel path.toList then onlyProperty children
    else
      match (Text.pieces '.' path.toList).map String.ofList with
      | [] => .error (.invalidPath path)
      | first :: rest =>
        match (Keyed.valueAt? children first).bind (Property.descend? rest) with
        | some property => .ok property
        | none => .error (.invalidPath path)

/-- The keys of the property that a path names, for a change in place. -/
def target (operation : Operation) (path : String) : Except Failure (List String × Property) :=
  match operation.locate path with
  | .error .ambiguous => .error (.build .severalProperties)
  | .error .absent => .error (.invalidPath path)
  | .ok keys =>
    match operation.children.bind (Selection.follow? keys) with
    | some property => .ok (keys, property)
    | none => .error (.invalidPath path)

/-- The arguments of the property at the given keys are replaced. -/
def replaceArguments (operation : Operation) (keys : List String) (arguments : List Argument) :
    Operation :=
  { operation with
    children := operation.children.map
      (Selection.adjustAt (fun property => { property with arguments := some arguments }) keys) }

/-- The operation after the given values have been assigned at a path, and what went wrong.
Values before the first unknown argument stay assigned. -/
def setArguments (operation : Operation) (path : String) (given : List Argument) :
    Operation × Option Failure :=
  match operation.target path with
  | .error failure => (operation, some failure)
  | .ok (keys, property) =>
    match property.arguments with
    | none => (operation, some (.argumentsNotSupported path))
    | some declared =>
      let (arguments, unknown) := Argument.assignAll declared given
      (operation.replaceArguments keys arguments,
        unknown.map fun argument => .unknownArgument argument path)

end Operation

end GraphQuery
