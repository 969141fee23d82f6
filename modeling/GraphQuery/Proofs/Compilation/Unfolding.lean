import GraphQuery.Proofs.Compilation.Arguments
import GraphQuery.Proofs.Compilation.Run
import GraphQuery.Proofs.Keyed

/-
This file shows that a compiled selection is the unfolding of the types below the root.
-/

namespace GraphQuery.Schema

variable {count : Nat}

/-- The effective fields leave out ignored ones and put the effective fields of an object in place
of a flattened field of that type, registered or not. -/
inductive Effective (schema : Schema count) :
    List (Field (FieldType count)) → List (Field (FieldType count)) → Prop
  | nil : Effective schema [] []
  | ignored {field : Field (FieldType count)} {fields effective : List (Field (FieldType count))}
      (ignored : field.ignored = true) (later : Effective schema fields effective) :
      Effective schema (field :: fields) effective
  | flattened {field : Field (FieldType count)}
      {fields inner effective : List (Field (FieldType count))} (kept : field.ignored = false)
      (flattened : field.flattened = true) (type : Fin count)
      (object : field.type.element = .object type)
      (inside : Effective schema (schema.typeAt type).fields inner)
      (later : Effective schema fields effective) :
      Effective schema (field :: fields) (inner ++ effective)
  | own {field : Field (FieldType count)} {fields effective : List (Field (FieldType count))}
      (kept : field.ignored = false) (own : field.flattened = false)
      (later : Effective schema fields effective) :
      Effective schema (field :: fields) (field :: effective)

/-- A property describes a field but for what is selected below it. -/
structure Field.Describes (scalars : Scalars count) (field : Field (FieldType count))
    (property : Property) : Prop where
  aliasName : property.aliasName = field.property.map PropertyAttribute.name
  method : property.method = none
  variableTypes : property.variableTypes = none
  arguments : field.Brings property.arguments
  children : property.children = none ↔ ∀ type, ¬scalars.Expands field.type.element type

/-- The last field of a name. -/
def lastNamed? (fields : List (Field (FieldType count))) (name : String) :
    Option (Field (FieldType count)) :=
  fields.reverse.find? fun field => field.name == name

/-- A selection unfolds a type: each name among the effective fields stands once, in the order of
first occurrence, and describes the last field of this name, with the unfolding of its element. -/
inductive Unfolds (schema : Schema count) (scalars : Scalars count) :
    Fin count → Selection → Prop
  | intro {type : Fin count} {fields : List (Field (FieldType count))} {selection : Selection}
      (effective : Effective schema (schema.typeAt type).fields fields)
      (names : Keyed.keys selection = (fields.map Field.name).eraseDups)
      (described : ∀ entry ∈ selection, ∃ field,
        lastNamed? fields entry.1 = some field ∧ field.Describes scalars entry.2)
      (below : ∀ entry ∈ selection, ∀ field inner children,
        lastNamed? fields entry.1 = some field → scalars.Expands field.type.element inner →
        entry.2.children = some children → Unfolds schema scalars inner children) :
      Unfolds schema scalars type selection

theorem Effective.unique {schema : Schema count}
    {fields first second : List (Field (FieldType count))} (left : Effective schema fields first)
    (right : Effective schema fields second) : first = second := by
  induction left generalizing second with
  | nil => cases right; rfl
  | ignored ignored _ inductionHypothesis =>
    cases right with
    | ignored _ later => exact inductionHypothesis later
    | flattened kept => rw [ignored] at kept; cases kept
    | own kept => rw [ignored] at kept; cases kept
  | flattened kept flattened type object _ _ innerHypothesis laterHypothesis =>
    cases right with
    | ignored ignored => rw [ignored] at kept; cases kept
    | flattened _ _ other same inside later =>
      rw [object] at same
      cases same
      rw [innerHypothesis inside, laterHypothesis later]
    | own _ own => rw [flattened] at own; cases own
  | own kept own _ inductionHypothesis =>
    cases right with
    | ignored ignored => rw [ignored] at kept; cases kept
    | flattened _ flattened => rw [flattened] at own; cases own
    | own _ _ later => rw [inductionHypothesis later]

/-- Two descriptions of a field agree if the selections below them do. -/
theorem Field.Describes.unique {scalars : Scalars count} {field : Field (FieldType count)}
    {first second : Property} (left : field.Describes scalars first)
    (right : field.Describes scalars second)
    (below : ∀ inner children others, scalars.Expands field.type.element inner →
      first.children = some children → second.children = some others → children = others) :
    first = second := by
  have children : first.children = second.children := by
    cases one : first.children with
    | none => exact (right.children.2 (left.children.1 one)).symm
    | some children =>
      cases two : second.children with
      | none =>
        have absent := left.children.2 (right.children.1 two)
        rw [one] at absent
        cases absent
      | some others =>
        have branch : ¬∀ type, ¬scalars.Expands field.type.element type := fun leaf => by
          have absent := left.children.2 leaf
          rw [one] at absent
          cases absent
        obtain ⟨inner, expands⟩ := not_forall_not.1 branch
        rw [below inner children others expands one two]
  have aliasName := left.aliasName.trans right.aliasName.symm
  have method := left.method.trans right.method.symm
  have variableTypes := left.variableTypes.trans right.variableTypes.symm
  have arguments := left.arguments.unique right.arguments
  cases first
  cases second
  simp_all

/-- A type has at most one unfolding. -/
theorem Unfolds.unique {schema : Schema count} {scalars : Scalars count} {type : Fin count}
    {first second : Selection} (left : Unfolds schema scalars type first)
    (right : Unfolds schema scalars type second) : first = second := by
  induction left generalizing second with
  | @intro type fields first effective names described below inductionHypothesis =>
    obtain @⟨_, otherFields, _, otherEffective, otherNames, otherDescribed, otherBelow⟩ := right
    have sameFields := effective.unique otherEffective
    subst sameFields
    apply Keyed.eq_of_keys first second (names.trans otherNames.symm)
    intro entry inFirst other inSecond sameKey
    obtain ⟨field, last, describes⟩ := described entry inFirst
    obtain ⟨otherField, otherLast, otherDescribes⟩ := otherDescribed other inSecond
    have sameField : field = otherField := by
      rw [← sameKey, last] at otherLast
      exact Option.some.inj otherLast
    subst sameField
    apply Prod.ext sameKey
    apply describes.unique otherDescribes
    intro inner children others expands one two
    exact inductionHypothesis entry inFirst field inner children last expands one
      (otherBelow other inSecond field inner others otherLast expands two)

/-- A property unfolds a field if it describes it and its selection unfolds the element. -/
def Field.Unfolded (schema : Schema count) (scalars : Scalars count)
    (field : Field (FieldType count)) (property : Property) : Prop :=
  field.Describes scalars property ∧
    ∀ inner children, scalars.Expands field.type.element inner →
      property.children = some children → Unfolds schema scalars inner children

/-- A field and its property make an entry under the name of the field. -/
def entryOf (pair : Field (FieldType count) × Property) : String × Property :=
  (pair.1.name, pair.2)

theorem lastNamed?_append (before after : List (Field (FieldType count)))
    (field : Field (FieldType count)) (last : ∀ later ∈ after, later.name ≠ field.name) :
    lastNamed? (before ++ field :: after) field.name = some field := by
  have absent : after.reverse.find? (fun later => later.name == field.name) = none := by
    rw [List.find?_eq_none]
    intro later member
    simpa using last later (List.mem_reverse.1 member)
  simp [lastNamed?, absent]

/-- The unfolded effective fields of a type make its unfolding when they are inserted in order. -/
theorem unfolds_ofPairs (schema : Schema count) (scalars : Scalars count) (type : Fin count)
    (pairs : List (Field (FieldType count) × Property))
    (effective : Effective schema (schema.typeAt type).fields (pairs.map Prod.fst))
    (unfolded : ∀ pair ∈ pairs, pair.1.Unfolded schema scalars pair.2) :
    Unfolds schema scalars type (Keyed.ofPairs (pairs.map entryOf)) := by
  have located : ∀ entry ∈ Keyed.ofPairs (pairs.map entryOf), ∃ pair ∈ pairs,
      entry = entryOf pair ∧ lastNamed? (pairs.map Prod.fst) entry.1 = some pair.1 := by
    intro entry member
    obtain ⟨before, after, split, last⟩ := Keyed.exists_of_mem_ofPairs _ entry member
    obtain ⟨front, rest, rfl, -, tail⟩ := List.map_eq_append_iff.1 split
    obtain ⟨pair, back, rfl, rfl, rfl⟩ := List.map_eq_cons_iff.1 tail
    refine ⟨pair, by simp, rfl, ?_⟩
    rw [List.map_append, List.map_cons]
    apply lastNamed?_append
    intro later among
    obtain ⟨other, inside, rfl⟩ := List.mem_map.1 among
    exact last (entryOf other) (List.mem_map_of_mem inside)
  apply Unfolds.intro effective
  · rw [Keyed.keys_ofPairs, List.map_map, List.map_map]
    rfl
  · intro entry member
    obtain ⟨pair, inside, rfl, last⟩ := located entry member
    exact ⟨pair.1, last, (unfolded pair inside).1⟩
  · intro entry member field inner children last expands some
    obtain ⟨pair, inside, rfl, same⟩ := located entry member
    rw [same] at last
    cases last
    exact (unfolded pair inside).2 inner children expands some

/-- A run inserts the unfolded effective fields into the selection of its draft. -/
theorem Run.exists_pairs {schema : Schema count} {scalars : Scalars count}
    {fields : List (Field (FieldType count))} {draft after : Draft}
    (run : Run schema scalars fields draft after) :
    ∃ pairs : List (Field (FieldType count) × Property),
      Effective schema fields (pairs.map Prod.fst) ∧
      (∀ pair ∈ pairs, pair.1.Unfolded schema scalars pair.2) ∧
      after.selection = (pairs.map entryOf).foldl
        (fun entries pair => Keyed.put entries pair.1 pair.2) draft.selection := by
  induction run with
  | done draft => exact ⟨[], .nil, by simp, rfl⟩
  | ignored ignored _ inductionHypothesis =>
    obtain ⟨pairs, effective, unfolded, inserted⟩ := inductionHypothesis
    exact ⟨pairs, .ignored ignored effective, unfolded, inserted⟩
  | flattened kept flattened type object _ _ innerHypothesis laterHypothesis =>
    obtain ⟨inner, innerEffective, innerUnfolded, innerInserted⟩ := innerHypothesis
    obtain ⟨later, laterEffective, laterUnfolded, laterInserted⟩ := laterHypothesis
    refine ⟨inner ++ later, ?_, ?_, ?_⟩
    · rw [List.map_append]
      exact .flattened kept flattened type object innerEffective laterEffective
    · intro pair member
      rcases List.mem_append.1 member with early | late
      · exact innerUnfolded pair early
      · exact laterUnfolded pair late
    · rw [List.map_append, List.foldl_append, ← innerInserted, laterInserted]
  | @leaf field rest draft after kept own arguments declared leaf _ inductionHypothesis =>
    obtain ⟨pairs, effective, unfolded, inserted⟩ := inductionHypothesis
    refine ⟨(field, field.toProperty arguments none) :: pairs, .own kept own effective, ?_, inserted⟩
    rw [List.forall_mem_cons]
    refine ⟨⟨⟨rfl, rfl, rfl, field.brings_of_declared arguments declared, ?_⟩, ?_⟩, unfolded⟩
    · exact ⟨fun _ => leaf, fun _ => rfl⟩
    · intro inner children expands
      exact absurd expands (leaf inner)
  | @branch field rest draft inner after kept own arguments declared type expands _ _
      innerHypothesis laterHypothesis =>
    obtain ⟨below, innerEffective, innerUnfolded, innerInserted⟩ := innerHypothesis
    obtain ⟨pairs, effective, unfolded, inserted⟩ := laterHypothesis
    have unfolds := unfolds_ofPairs schema scalars type below innerEffective innerUnfolded
    refine ⟨(field, field.toProperty arguments (some inner.selection)) :: pairs,
      .own kept own effective, ?_, inserted⟩
    rw [List.forall_mem_cons]
    refine ⟨⟨⟨rfl, rfl, rfl, field.brings_of_declared arguments declared, ?_⟩, ?_⟩, unfolded⟩
    · exact ⟨fun absent => (by cases absent), fun leaf => absurd expands (leaf type)⟩
    · intro other children otherExpands some
      have sameType := expands.1.symm.trans otherExpands.1
      cases sameType
      cases some
      rw [innerInserted]
      exact unfolds

/-- A type that is collected into an empty selection leaves its unfolding there. -/
theorem unfolds_of_collect (schema : Schema count) (scalars : Scalars count) (trail : Trail count)
    (type : Fin count) (types : Keyed String) (after : Draft)
    (succeeded : schema.collect scalars trail type ⟨[], types⟩ = .ok after) :
    Unfolds schema scalars type after.selection := by
  have run := run_of_collect schema scalars trail type _ after succeeded
  obtain ⟨pairs, effective, unfolded, inserted⟩ := run.exists_pairs
  rw [inserted]
  exact unfolds_ofPairs schema scalars type pairs effective unfolded

/-- The property of the operation attribute, or else that of the type, wraps the selection. -/
def ObjectType.wrapper? {Kind : Type} (root : ObjectType Kind) : Option PropertyAttribute :=
  (root.operation.bind OperationAttribute.property).or root.property

/-- A compiled operation selects the only unfolding of its root under its wrapper, if there is one.
The name of the wrapper is then the key of the response. -/
def IsUnfolding (schema : Schema count) (scalars : Scalars count) (root : Fin count)
    (compiled : Compiled) : Prop :=
  ∃ selection, Unfolds schema scalars root selection ∧
    (∀ other, Unfolds schema scalars root other → other = selection) ∧
    compiled.operation.name = (schema.typeAt root).operation.map OperationAttribute.name ∧
    compiled.operation.method =
      some (((schema.typeAt root).operation.map OperationAttribute.method).getD .query) ∧
    match (schema.typeAt root).wrapper? with
    | none => compiled.operation.children = some selection ∧ compiled.resourceKey = none
    | some wrapper =>
      ∃ arguments, List.Forall₂ ArgumentAttribute.Gives wrapper.arguments arguments ∧
        compiled.operation.children =
          some [(wrapper.name, ⟨none, none, some arguments, none, some selection⟩)] ∧
        compiled.resourceKey = some wrapper.name

theorem ObjectType.topProperty?_eq {Kind : Type} (root : ObjectType Kind) :
    root.topProperty? = root.wrapper? := by
  rw [topProperty?, wrapper?]
  cases root.operation.bind OperationAttribute.property <;> rfl

/-- Whatever compilation gives is the unfolding of the root, under the name, the verb and the
wrapper that the root declares. -/
theorem compile_isUnfolding (schema : Schema count) (scalars : Scalars count) (root : Fin count)
    (compiled : Compiled) (succeeded : schema.compile scalars root = .ok compiled) :
    schema.IsUnfolding scalars root compiled := by
  rw [compile, Outcome.bind_eq_ok] at succeeded
  obtain ⟨draft, collected, finished⟩ := succeeded
  have unfolds := unfolds_of_collect schema scalars .empty root _ draft collected
  refine ⟨draft.selection, unfolds, fun other right => right.unique unfolds, ?_⟩
  dsimp only at finished
  rw [ObjectType.topProperty?_eq] at finished
  cases wrapped : (schema.typeAt root).wrapper? with
  | none =>
    rw [wrapped] at finished
    cases finished
    exact ⟨rfl, rfl, rfl, rfl⟩
  | some wrapper =>
    rw [wrapped] at finished
    obtain ⟨arguments, declared, equal⟩ := (Outcome.bind_eq_ok _ _ _).1 finished
    have gives := (mapM_argument_eq_ok _ _).1 declared
    cases equal
    exact ⟨rfl, rfl, arguments, gives, rfl, rfl⟩

/-- The first type wraps its selection, renames a field, flattens the second one and then declares
a field of the same name; the third type is reached through fields. -/
def catalogue : Schema 3 where
  types := #v[
    { name := "Catalogue"
      property := some ⟨"items", [{ name := "first", value := some "7", kind := .integer }]⟩
      fields := [
        { name := "size", type := ⟨false, .builtin "i32"⟩, property := some ⟨"total", []⟩ },
        { name := "base", type := ⟨false, .object 1⟩, flattened := true },
        { name := "author", type := ⟨true, .object 2⟩, variableAttributes := [⟨"id", "ID"⟩] },
        { name := "owner", type := ⟨false, .object 1⟩ }] },
    { name := "Base"
      fields := [
        { name := "author", type := ⟨false, .builtin "str"⟩ },
        { name := "hidden", type := ⟨false, .unknown⟩, ignored := true }] },
    { name := "Author", fields := [{ name := "login", type := ⟨false, .builtin "str"⟩ }] }]

theorem compile_isUnfolding_catalogue :
    ∃ compiled, catalogue.compile ⟨[.object 1]⟩ 0 = .ok compiled ∧
      catalogue.IsUnfolding ⟨[.object 1]⟩ 0 compiled := by
  have present : (catalogue.compile ⟨[.object 1]⟩ 0).toOption.isSome = true := by decide +kernel
  cases succeeded : catalogue.compile ⟨[.object 1]⟩ 0 with
  | error failure =>
    rw [succeeded] at present
    cases present
  | ok compiled => exact ⟨compiled, rfl, compile_isUnfolding _ _ _ compiled succeeded⟩

end GraphQuery.Schema
