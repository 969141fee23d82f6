import GraphQuery.Proofs.Outcome
import GraphQuery.Schema.Compilation

/-
This file says which arguments the attributes of a field bring.
-/

namespace GraphQuery.Schema

/-- A variable of the attribute is the value; without one the declared text is, as its kind. -/
structure ArgumentAttribute.Gives (source : ArgumentAttribute) (argument : Argument) : Prop where
  key : argument.key = source.name
  optional : argument.optional = source.optional
  bound : ∀ name, source.variableName = some name → argument.value = .reference name
  coerced : source.variableName = none →
    source.kind.coerce source.name source.value = .ok argument.value

theorem ArgumentAttribute.argument_eq_ok (source : ArgumentAttribute) (argument : Argument) :
    source.argument = .ok argument ↔ source.Gives argument := by
  obtain ⟨name, value, kind, optional, variableName⟩ := source
  obtain ⟨key, given, flag⟩ := argument
  cases variableName with
  | some variableName =>
    constructor
    · intro equal
      cases equal
      exact ⟨rfl, rfl, fun _ same => by cases same; rfl, by simp⟩
    · rintro ⟨rfl, rfl, bound, -⟩
      cases bound variableName rfl
      rfl
  | none =>
    rw [ArgumentAttribute.argument, Outcome.bind_eq_ok]
    constructor
    · rintro ⟨coerced, equal, same⟩
      cases same
      exact ⟨rfl, rfl, by simp, fun _ => equal⟩
    · rintro ⟨rfl, rfl, -, coerced⟩
      exact ⟨given, coerced rfl, rfl⟩

/-- Only a declared text that no variable replaces has to be of its kind. -/
def ArgumentAttribute.Coerces (source : ArgumentAttribute) : Prop :=
  source.variableName = none →
    ∃ value, source.kind.coerce source.name source.value = .ok value

theorem ArgumentAttribute.coerces_iff (source : ArgumentAttribute) :
    source.Coerces ↔ ∃ argument, source.argument = .ok argument := by
  constructor
  · intro coerces
    cases bound : source.variableName with
    | some name => exact ⟨⟨source.name, .reference name, source.optional⟩,
        (source.argument_eq_ok _).2
          ⟨rfl, rfl, fun _ same => by rw [bound] at same; cases same; rfl, by simp [bound]⟩⟩
    | none =>
      obtain ⟨value, coerced⟩ := coerces bound
      exact ⟨⟨source.name, value, source.optional⟩,
        (source.argument_eq_ok _).2 ⟨rfl, rfl, by simp [bound], fun _ => coerced⟩⟩
  · rintro ⟨argument, equal⟩ unbound
    exact ⟨argument.value, ((source.argument_eq_ok argument).1 equal).coerced unbound⟩

/-- A declared text that is not of its kind is reported as such. -/
theorem ArgumentAttribute.eq_notCoercible (source : ArgumentAttribute) (failure : Failure)
    (failed : source.argument = .error failure) :
    ∃ text, failure = .notCoercible source.name text source.kind := by
  obtain ⟨name, value, kind, optional, variableName⟩ := source
  cases variableName with
  | some variableName => cases failed
  | none =>
    rw [ArgumentAttribute.argument, Outcome.bind_eq_error] at failed
    rcases failed with rejected | ⟨given, -, impossible⟩
    · change kind.coerce name value = .error failure at rejected
      cases value with
      | none => cases rejected
      | some text =>
        rw [ArgumentKind.coerce] at rejected
        cases given : kind.read? text with
        | some value =>
          rw [given] at rejected
          cases rejected
        | none =>
          rw [given] at rejected
          cases rejected
          exact ⟨text, rfl⟩
    · cases impossible

/-- Each attribute of a row gives the argument in its place. -/
theorem mapM_argument_eq_ok (sources : List ArgumentAttribute) (given : List Argument) :
    sources.mapM ArgumentAttribute.argument = .ok given ↔
      List.Forall₂ ArgumentAttribute.Gives sources given := by
  rw [Outcome.mapM_eq_ok]
  constructor
  · intro each
    exact each.imp fun source argument => (source.argument_eq_ok argument).1
  · intro each
    exact each.imp fun source argument => (source.argument_eq_ok argument).2

theorem exists_mapM_argument_iff (sources : List ArgumentAttribute) :
    (∃ given, sources.mapM ArgumentAttribute.argument = .ok given) ↔
      ∀ source ∈ sources, source.Coerces := by
  simp only [ArgumentAttribute.coerces_iff]
  exact Outcome.exists_mapM_eq_ok_iff _ _

theorem eq_notCoercible_of_mapM (sources : List ArgumentAttribute) (failure : Failure)
    (failed : sources.mapM ArgumentAttribute.argument = .error failure) :
    ∃ name text kind, failure = .notCoercible name text kind := by
  obtain ⟨source, -, rejected⟩ := Outcome.exists_of_mapM_eq_error _ _ _ failed
  obtain ⟨text, equal⟩ := source.eq_notCoercible failure rejected
  exact ⟨_, text, _, equal⟩

namespace Field

variable {Kind : Type} (field : Field Kind)

/-- The attributes of a field that declare arguments, in the order of the arguments. -/
def attributes : List ArgumentAttribute :=
  (field.property.map PropertyAttribute.arguments).getD [] ++ field.arguments.getD [] ++
    field.argument.toList

/-- Each variable of a field is bound to an argument of its own name. -/
def boundArguments : List Argument :=
  field.variableAttributes.map fun declared => ⟨declared.name, .reference declared.name, false⟩

/-- A field without attributes for arguments takes none; any other field takes what its attributes
give and then its variables. -/
def Brings : Option (List Argument) → Prop
  | none => field.property.isNone ∧ field.arguments.isNone ∧ field.argument.isNone ∧
      field.variableAttributes = []
  | some arguments =>
    (field.property.isSome ∨ field.arguments.isSome ∨ field.argument.isSome ∨
      field.variableAttributes ≠ []) ∧
    ∃ given, List.Forall₂ ArgumentAttribute.Gives field.attributes given ∧
      arguments = given ++ field.boundArguments

/-- The arguments of a field are read off its attributes in one pass. -/
theorem declared_eq :
    field.declared = do
      let given ← field.attributes.mapM ArgumentAttribute.argument
      return given ++ field.boundArguments := by
  obtain ⟨name, type, property, arguments, argument, bound, ignored, flattened⟩ := field
  cases property <;>
    simp [declared, attributes, boundArguments, PropertyAttribute.declared, Argument.bound]

theorem declared_eq_ok (arguments : List Argument) :
    field.declared = .ok arguments ↔
      ∃ given, List.Forall₂ ArgumentAttribute.Gives field.attributes given ∧
        arguments = given ++ field.boundArguments := by
  rw [declared_eq, Outcome.bind_eq_ok]
  simp only [mapM_argument_eq_ok]
  constructor
  · rintro ⟨given, gives, equal⟩
    exact ⟨given, gives, (Except.ok.inj equal).symm⟩
  · rintro ⟨given, gives, rfl⟩
    exact ⟨given, gives, rfl⟩

theorem declared_iff :
    (∃ arguments, field.declared = .ok arguments) ↔
      ∀ source ∈ field.attributes, source.Coerces := by
  rw [← exists_mapM_argument_iff, declared_eq]
  constructor
  · rintro ⟨arguments, declared⟩
    obtain ⟨given, collected, -⟩ := (Outcome.bind_eq_ok _ _ _).1 declared
    exact ⟨given, collected⟩
  · rintro ⟨given, collected⟩
    exact ⟨given ++ field.boundArguments, by rw [collected]; rfl⟩

theorem eq_notCoercible (failure : Failure) (failed : field.declared = .error failure) :
    ∃ name text kind, failure = .notCoercible name text kind := by
  rw [declared_eq, Outcome.bind_eq_error] at failed
  rcases failed with rejected | ⟨given, -, impossible⟩
  · exact eq_notCoercible_of_mapM field.attributes failure rejected
  · cases impossible

theorem Brings.unique {field : Field Kind} {first second : Option (List Argument)}
    (left : field.Brings first) (right : field.Brings second) : first = second := by
  cases first with
  | none =>
    cases second with
    | none => rfl
    | some arguments =>
      obtain ⟨property, list, single, bound⟩ := left
      simp_all [Brings]
  | some arguments =>
    cases second with
    | none =>
      obtain ⟨property, list, single, bound⟩ := right
      simp_all [Brings]
    | some others =>
      have equal := ((field.declared_eq_ok arguments).2 left.2).symm.trans
        ((field.declared_eq_ok others).2 right.2)
      rw [Except.ok.inj equal]

theorem brings_of_declared (arguments : List Argument) (declared : field.declared = .ok arguments) :
    field.Brings (if field.takesArguments then some arguments else none) := by
  have gives := (field.declared_eq_ok arguments).1 declared
  split
  · next takes =>
    refine ⟨?_, gives⟩
    simpa [takesArguments, or_assoc] using takes
  · next takes =>
    simpa [takesArguments, Brings, and_assoc] using takes

end Field

end GraphQuery.Schema
