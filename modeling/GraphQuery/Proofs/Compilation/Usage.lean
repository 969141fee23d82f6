import GraphQuery.Proofs.Compilation.Declarations
import GraphQuery.Proofs.Compilation.Success

/-
This file says which declared variables a compiled operation uses: all but those that come only from
a field whose place a later field of its name has taken.
-/

namespace GraphQuery

/-- An argument somewhere in the tree refers to the variable. -/
def Operation.Refers (operation : Operation) (name : String) : Prop :=
  ∃ keys property, Selection.follow? keys (operation.children.getD []) = some property ∧
    ∃ argument ∈ property.arguments.getD [], argument.value = .reference name

namespace Schema

variable {count : Nat} {schema : Schema count} {scalars : Scalars count}

/-- A name is replaced below a type if an effective field that meets it is followed by another one
of its name, here or below a field that keeps its place. -/
inductive Replaced (schema : Schema count) (scalars : Scalars count) (name : String) :
    Fin count → Prop
  | here {type : Fin count} {before after : List (Field (FieldType count))}
      {field : Field (FieldType count)}
      (flat : Effective schema (schema.typeAt type).fields (before ++ field :: after))
      (again : ∃ later ∈ after, later.name = field.name)
      (meets : Field.Meets schema scalars name field) : Replaced schema scalars name type
  | deeper {type inner : Fin count} {fields : List (Field (FieldType count))} {key : String}
      {field : Field (FieldType count)} (flat : Effective schema (schema.typeAt type).fields fields)
      (last : lastNamed? fields key = some field)
      (expands : scalars.Expands field.type.element inner)
      (inside : Replaced schema scalars name inner) : Replaced schema scalars name type

/-- A field is the last one of its name, or another one of its name follows. -/
theorem last_or_again {fields : List (Field (FieldType count))} {field : Field (FieldType count)}
    (among : field ∈ fields) :
    lastNamed? fields field.name = some field ∨
      ∃ before after, fields = before ++ field :: after ∧
        ∃ later ∈ after, later.name = field.name := by
  obtain ⟨before, after, rfl⟩ := List.append_of_mem among
  by_cases again : ∃ later ∈ after, later.name = field.name
  · exact .inr ⟨before, after, rfl, again⟩
  · left
    apply lastNamed?_append
    intro later member same
    exact again ⟨later, member, same⟩

/-- A field that is met declares the name at its place in the tree, unless it is replaced. -/
theorem Field.Meets.at_or_replaced {name : String} {field : Field (FieldType count)}
    (meets : Field.Meets schema scalars name field) (type : Fin count)
    (fields : List (Field (FieldType count)))
    (flat : Effective schema (schema.typeAt type).fields fields) (among : field ∈ fields) :
    (∃ keys other, FieldAt schema scalars type keys other ∧ name ∈ other.variableNames) ∨
      Replaced schema scalars name type := by
  induction meets generalizing type fields with
  | @own field declared =>
    rcases last_or_again among with last | ⟨before, after, rfl, again⟩
    · exact .inl ⟨[field.name], field, .here flat last, declared⟩
    · exact .inr (.here flat again (.own declared))
  | @inside field other inner below expands flatBelow amongBelow meets inductionHypothesis =>
    rcases last_or_again among with last | ⟨before, after, rfl, again⟩
    · rcases inductionHypothesis inner below flatBelow amongBelow with
        ⟨keys, declaring, fieldAt, declared⟩ | replaced
      · exact .inl ⟨field.name :: keys, declaring, .deeper flat last expands fieldAt, declared⟩
      · exact .inr (.deeper flat last expands replaced)
    · exact .inr (.here flat again (.inside expands flatBelow amongBelow meets))

/-- What is replaced is met all the same. -/
theorem Replaced.meets {name : String} {type : Fin count}
    (replaced : Replaced schema scalars name type) :
    ∃ effective, Effective schema (schema.typeAt type).fields effective ∧
      ∃ field ∈ effective, Field.Meets schema scalars name field := by
  induction replaced with
  | here flat again meets => exact ⟨_, flat, _, by simp, meets⟩
  | deeper flat last expands _ inductionHypothesis =>
    obtain ⟨below, flatBelow, first, among, meets⟩ := inductionHypothesis
    exact ⟨_, flat, _, (lastNamed?_eq_some last).1, .inside expands flatBelow among meets⟩

/-- A trace has the names of the fields that keep their places and the names that are replaced. -/
theorem Declares.mem_names_iff_at {type : Fin count} {trace : List VariableAttribute}
    (declares : Declares schema scalars (schema.typeAt type).fields trace) (name : String) :
    name ∈ trace.map VariableAttribute.name ↔
      (∃ keys field, FieldAt schema scalars type keys field ∧ name ∈ field.variableNames) ∨
        Replaced schema scalars name type := by
  constructor
  · intro member
    obtain ⟨effective, flat⟩ := declares.exists_effective
    obtain ⟨field, among, meets⟩ := (declares.mem_names_iff flat name).1 member
    exact meets.at_or_replaced type effective flat among
  · rintro (⟨keys, field, fieldAt, declared⟩ | replaced)
    · obtain ⟨effective, flat, meets⟩ := fieldAt.meets name declared
      exact (declares.mem_names_iff flat name).2 meets
    · obtain ⟨effective, flat, meets⟩ := replaced.meets
      exact (declares.mem_names_iff flat name).2 meets

/-- An effective field of a type is a field of a type that flattening reaches. -/
theorem Effective.exists_owner (scalars : Scalars count)
    {fields effective : List (Field (FieldType count))} (flat : Effective schema fields effective)
    (type : Fin count) (inside : ∀ field ∈ fields, field ∈ (schema.typeAt type).fields)
    (field : Field (FieldType count)) (among : field ∈ effective) :
    ∃ owner, schema.Reaches scalars type owner ∧ field ∈ (schema.typeAt owner).fields ∧
      field.ignored = false ∧ field.flattened = false := by
  induction flat generalizing type with
  | nil => cases among
  | ignored _ _ inductionHypothesis =>
    exact inductionHypothesis type (fun other member => inside other (.tail _ member)) among
  | @flattened outer _ _ _ kept flattened target object _ _ innerHypothesis laterHypothesis =>
    rcases List.mem_append.1 among with early | late
    · have leads : schema.Leads scalars type target :=
        ⟨outer, inside outer (.head _), kept, object, .inl flattened⟩
      obtain ⟨owner, reaches, sound⟩ := innerHypothesis target (fun _ member => member) early
      exact ⟨owner, .head leads reaches, sound⟩
    · exact laterHypothesis type (fun other member => inside other (.tail _ member)) late
  | own kept own _ inductionHypothesis =>
    rcases List.mem_cons.1 among with rfl | late
    · exact ⟨type, .refl, inside _ (.head _), kept, own⟩
    · exact inductionHypothesis type (fun other member => inside other (.tail _ member)) late

/-- The element of an effective field is reached if the field is expanded. -/
theorem Effective.reaches {type inner : Fin count} {effective : List (Field (FieldType count))}
    (flat : Effective schema (schema.typeAt type).fields effective)
    (field : Field (FieldType count)) (among : field ∈ effective)
    (expands : scalars.Expands field.type.element inner) : schema.Reaches scalars type inner := by
  obtain ⟨owner, reaches, member, kept, -⟩ :=
    flat.exists_owner scalars type (fun _ member => member) field among
  have leads : schema.Leads scalars owner inner :=
    ⟨field, member, kept, expands.1, .inr expands.2⟩
  exact reaches.tail leads

/-- No two effective fields of a reached type have the same name. -/
def DistinctNames (schema : Schema count) (scalars : Scalars count) (root : Fin count) : Prop :=
  ∀ type, schema.Reaches scalars root type → ∀ effective,
    Effective schema (schema.typeAt type).fields effective → (effective.map Field.name).Nodup

theorem Replaced.not_distinctNames {name : String} {type : Fin count}
    (replaced : Replaced schema scalars name type) : ¬schema.DistinctNames scalars type := by
  induction replaced with
  | here flat again _ =>
    intro distinct
    obtain ⟨later, member, same⟩ := again
    have names := distinct _ .refl _ flat
    rw [List.map_append, List.map_cons] at names
    have fresh := (List.nodup_cons.1 (List.nodup_append.1 names).2.1).1
    exact fresh (same ▸ List.mem_map_of_mem member)
  | deeper flat last expands _ inductionHypothesis =>
    intro distinct
    have reaches := flat.reaches _ (lastNamed?_eq_some last).1 expands
    exact inductionHypothesis fun type onward => distinct type (reaches.trans onward)

/-- A field at its place in the tree has a property with an argument for each of its variables. -/
theorem refers_of_fieldAt (root : Fin count) (compiled : Compiled)
    (succeeded : schema.compile scalars root = .ok compiled) (keys : List String)
    (field : Field (FieldType count)) (fieldAt : FieldAt schema scalars root keys field)
    (name : String) (declared : name ∈ field.variableNames) : compiled.operation.Refers name := by
  have unfolds := unfolds_of_compile root compiled succeeded
  obtain ⟨property, found, describes⟩ := unfolds.exists_property keys field fieldAt
  obtain ⟨draft, given, -, -, rfl⟩ := (compile_eq_ok _ _ _ _).1 succeeded
  rw [ObjectType.selection_assembled] at found
  obtain ⟨outer, top⟩ := (schema.typeAt root).exists_keys_wrapped given _ keys property found
  refine ⟨outer, property, top, ?_⟩
  obtain ⟨variableAttribute, member, rfl⟩ := List.mem_map.1 declared
  have brings := describes.arguments
  cases arguments : property.arguments with
  | none =>
    rw [arguments] at brings
    have empty : field.variableAttributes = [] := brings.2.2.2
    rw [empty] at member
    cases member
  | some all =>
    rw [arguments] at brings
    obtain ⟨-, others, -, rfl⟩ := brings
    have bound : ⟨variableAttribute.name, .reference variableAttribute.name, false⟩ ∈
        field.boundArguments := List.mem_map_of_mem member
    exact ⟨_, List.mem_append_right _ bound, rfl⟩

/-- The header of a compiled operation has the names that its root declares, those of the fields in
the tree and those that are replaced. Only the last may be declared without any use, so nothing is
if the names of effective fields are distinct. -/
theorem compile_refers (schema : Schema count) (scalars : Scalars count) (root : Fin count)
    (compiled : Compiled) (succeeded : schema.compile scalars root = .ok compiled) :
    let declared := Keyed.keys compiled.operation.variableTypes
    let ofRoot := (schema.typeAt root).operationVariables.map VariableAttribute.name
    (∀ name, name ∈ declared ↔ name ∈ ofRoot ∨
      (∃ keys field, FieldAt schema scalars root keys field ∧ name ∈ field.variableNames) ∨
      Replaced schema scalars name root) ∧
    (∀ name ∈ declared, ¬Replaced schema scalars name root →
      name ∈ ofRoot ∨ compiled.operation.Refers name) ∧
    (schema.DistinctNames scalars root →
      ∀ name ∈ declared, name ∈ ofRoot ∨ compiled.operation.Refers name) := by
  intro declared ofRoot
  obtain ⟨trace, declares, equal⟩ := exists_trace_of_compile root compiled succeeded
  have mem_declared (name : String) : name ∈ declared ↔ name ∈ ofRoot ∨
      (∃ keys field, FieldAt schema scalars root keys field ∧ name ∈ field.variableNames) ∨
      Replaced schema scalars name root := by
    have names := (isHeader_declareAll ((schema.typeAt root).operationVariables ++ trace)).names
    rw [← equal] at names
    rw [show declared = _ from names, List.mem_eraseDups, List.map_append, List.mem_append,
      declares.mem_names_iff_at]
  have used (name : String) (member : name ∈ declared)
      (kept : ¬Replaced schema scalars name root) :
      name ∈ ofRoot ∨ compiled.operation.Refers name := by
    rcases (mem_declared name).1 member with own | ⟨keys, field, fieldAt, inField⟩ | replaced
    · exact .inl own
    · exact .inr (refers_of_fieldAt root compiled succeeded keys field fieldAt name inField)
    · exact absurd replaced kept
  refine ⟨mem_declared, used, ?_⟩
  intro distinct name member
  exact used name member fun replaced => replaced.not_distinctNames distinct

/-- The fields of the second type stand among those of the first, and no two have the same name. -/
def paged : Schema 2 where
  types := #v[
    { name := "Search"
      fields := [
        { name := "page", type := ⟨false, .object 1⟩, flattened := true },
        { name := "results", type := ⟨true, .builtin "str"⟩
          variableAttributes := [⟨"term", "String!"⟩] }] },
    { name := "Page"
      fields := [
        { name := "total", type := ⟨false, .builtin "i32"⟩
          variableAttributes := [⟨"limit", "Int"⟩] }] }]

theorem distinctNames_paged : paged.DistinctNames .empty 0 := by
  intro type _ effective flat
  have page : Effective paged (paged.typeAt 1).fields (paged.typeAt 1).fields := .own rfl rfl .nil
  match type with
  | 0 =>
    have whole : Effective paged (paged.typeAt 0).fields _ :=
      .flattened rfl rfl 1 rfl page (.own rfl rfl .nil)
    rw [flat.unique whole]
    decide
  | 1 =>
    rw [flat.unique page]
    decide

theorem compile_refers_paged :
    ∃ compiled, paged.compile .empty 0 = .ok compiled ∧
      ∀ name ∈ Keyed.keys compiled.operation.variableTypes,
        name ∈ (paged.typeAt 0).operationVariables.map VariableAttribute.name ∨
          compiled.operation.Refers name := by
  have present : (paged.compile .empty 0).toOption.isSome = true := by decide +kernel
  obtain ⟨compiled, succeeded⟩ := (Outcome.isSome_toOption _).1 present
  have used := (compile_refers _ _ _ compiled succeeded).2.2 distinctNames_paged
  exact ⟨compiled, succeeded, used⟩

/-- The own field of the first type replaces the flattened one, which brings a variable. -/
def redeclared : Schema 2 where
  types := #v[
    { name := "Profile"
      fields := [
        { name := "base", type := ⟨false, .object 1⟩, flattened := true },
        { name := "author", type := ⟨false, .builtin "str"⟩ }] },
    { name := "Base"
      fields := [
        { name := "author", type := ⟨false, .builtin "str"⟩
          variableAttributes := [⟨"id", "ID"⟩] }] }]

/-- The variable of the field that was replaced is declared, and nothing uses it. -/
theorem compile_unused_redeclared :
    ∃ compiled, redeclared.compile .empty 0 = .ok compiled ∧
      ¬∀ name ∈ Keyed.keys compiled.operation.variableTypes,
        name ∈ (redeclared.typeAt 0).operationVariables.map VariableAttribute.name ∨
          compiled.operation.Refers name := by
  have succeeded : redeclared.compile .empty 0 =
      .ok ⟨{ variableTypes := [("id", "ID")], children := some [("author", .leaf)] }, none⟩ := by
    with_unfolding_all rfl
  refine ⟨_, succeeded, ?_⟩
  intro used
  rcases used "id" (.head _) with ofRoot | ⟨keys, property, found, argument, member, -⟩
  · cases ofRoot
  · have leaf : property = .leaf := by
      cases keys with
      | nil => cases found
      | cons key rest =>
        cases rest with
        | nil =>
          cases Keyed.mem_of_valueAt? _ key property found with
          | head => rfl
          | tail _ nowhere => cases nowhere
        | cons next others =>
          simp only [Selection.follow?, Option.bind_eq_bind, Option.bind_eq_some_iff] at found
          obtain ⟨parent, present, children, some, -⟩ := found
          cases Keyed.mem_of_valueAt? _ key parent present with
          | head => cases some
          | tail _ nowhere => cases nowhere
    rw [leaf] at member
    cases member

end Schema

end GraphQuery
