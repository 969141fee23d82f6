import GraphQuery.Proofs.Compilation.Assembly
import GraphQuery.Proofs.Compilation.Origin

/-
This file shows that a compiled operation declares what a walk over the types below its root meets,
and that this is all that the arguments bound by fields refer to.
-/

namespace GraphQuery.Schema

variable {count : Nat} {schema : Schema count} {scalars : Scalars count}

/-- A trace lists the variables that fields declare, in the order in which a walk meets them: those
of a kept field, then those below its element. A flattened field brings only what is met inside. -/
inductive Declares (schema : Schema count) (scalars : Scalars count) :
    List (Field (FieldType count)) → List VariableAttribute → Prop
  | nil : Declares schema scalars [] []
  | ignored {field : Field (FieldType count)} {fields : List (Field (FieldType count))}
      {trace : List VariableAttribute} (ignored : field.ignored = true)
      (later : Declares schema scalars fields trace) :
      Declares schema scalars (field :: fields) trace
  | flattened {field : Field (FieldType count)} {fields : List (Field (FieldType count))}
      {inner trace : List VariableAttribute} (kept : field.ignored = false)
      (flattened : field.flattened = true) (type : Fin count)
      (object : field.type.element = .object type)
      (inside : Declares schema scalars (schema.typeAt type).fields inner)
      (later : Declares schema scalars fields trace) :
      Declares schema scalars (field :: fields) (inner ++ trace)
  | leaf {field : Field (FieldType count)} {fields : List (Field (FieldType count))}
      {trace : List VariableAttribute} (kept : field.ignored = false)
      (own : field.flattened = false) (leaf : ∀ type, ¬scalars.Expands field.type.element type)
      (later : Declares schema scalars fields trace) :
      Declares schema scalars (field :: fields) (field.variableAttributes ++ trace)
  | branch {field : Field (FieldType count)} {fields : List (Field (FieldType count))}
      {inner trace : List VariableAttribute} (kept : field.ignored = false)
      (own : field.flattened = false) (type : Fin count)
      (expands : scalars.Expands field.type.element type)
      (inside : Declares schema scalars (schema.typeAt type).fields inner)
      (later : Declares schema scalars fields trace) :
      Declares schema scalars (field :: fields) (field.variableAttributes ++ (inner ++ trace))

section

variable {fewer more : Scalars count}

theorem Scalars.Expands.of_more {element : Element count} {type : Fin count}
    (extended : ∀ element ∈ fewer.elements, element ∈ more.elements)
    (expands : more.Expands element type) : fewer.Expands element type :=
  ⟨expands.1, fun registered => expands.2 (extended _ registered)⟩

/-- A larger registration declares nothing else. -/
theorem Declares.sublist {fields : List (Field (FieldType count))}
    {before after : List VariableAttribute}
    (extended : ∀ element ∈ fewer.elements, element ∈ more.elements)
    (left : Declares schema fewer fields before) (right : Declares schema more fields after) :
    after.Sublist before := by
  induction left generalizing after with
  | nil => cases right; exact .slnil
  | ignored ignored _ inductionHypothesis =>
    cases right with
    | ignored _ later => exact inductionHypothesis later
    | flattened kept => rw [ignored] at kept; cases kept
    | leaf kept => rw [ignored] at kept; cases kept
    | branch kept => rw [ignored] at kept; cases kept
  | flattened kept flattened type object _ _ innerHypothesis laterHypothesis =>
    cases right with
    | ignored ignored => rw [ignored] at kept; cases kept
    | flattened _ _ other same inside later =>
      rw [object] at same
      cases same
      exact (innerHypothesis inside).append (laterHypothesis later)
    | leaf _ own => rw [flattened] at own; cases own
    | branch _ own => rw [flattened] at own; cases own
  | leaf kept own leaf _ inductionHypothesis =>
    cases right with
    | ignored ignored => rw [ignored] at kept; cases kept
    | flattened _ flattened => rw [flattened] at own; cases own
    | leaf _ _ _ later => exact (List.Sublist.refl _).append (inductionHypothesis later)
    | branch _ _ type expands => exact absurd (expands.of_more extended) (leaf type)
  | @branch field fields inner trace kept own type expands _ _ innerHypothesis laterHypothesis =>
    cases right with
    | ignored ignored => rw [ignored] at kept; cases kept
    | flattened _ flattened => rw [flattened] at own; cases own
    | leaf _ _ _ later =>
      have below := (laterHypothesis later).trans (List.sublist_append_right inner _)
      exact (List.Sublist.refl _).append below
    | branch _ _ other otherExpands inside later =>
      have same := expands.unique otherExpands
      subst same
      have below := (innerHypothesis inside).append (laterHypothesis later)
      exact (List.Sublist.refl _).append below

end

theorem Declares.unique {fields : List (Field (FieldType count))}
    {first second : List VariableAttribute} (left : Declares schema scalars fields first)
    (right : Declares schema scalars fields second) : first = second := by
  have same : ∀ element ∈ scalars.elements, element ∈ scalars.elements := fun _ member => member
  exact (right.sublist same left).antisymm (left.sublist same right)

theorem Declares.exists_effective {fields : List (Field (FieldType count))}
    {trace : List VariableAttribute} (declares : Declares schema scalars fields trace) :
    ∃ effective, Effective schema fields effective := by
  induction declares with
  | nil => exact ⟨[], .nil⟩
  | ignored ignored _ inductionHypothesis =>
    obtain ⟨effective, later⟩ := inductionHypothesis
    exact ⟨effective, .ignored ignored later⟩
  | flattened kept flattened type object _ _ innerHypothesis laterHypothesis =>
    obtain ⟨inner, inside⟩ := innerHypothesis
    obtain ⟨effective, later⟩ := laterHypothesis
    exact ⟨inner ++ effective, .flattened kept flattened type object inside later⟩
  | leaf kept own _ _ inductionHypothesis =>
    obtain ⟨effective, later⟩ := inductionHypothesis
    exact ⟨_, .own kept own later⟩
  | branch kept own _ _ _ _ _ laterHypothesis =>
    obtain ⟨effective, later⟩ := laterHypothesis
    exact ⟨_, .own kept own later⟩

theorem declareAll_append (types : Keyed String) (first second : List VariableAttribute) :
    declareAll types (first ++ second) = declareAll (declareAll types first) second :=
  List.foldl_append

/-- A run declares its trace on top of what its draft declares. -/
theorem Run.declares {fields : List (Field (FieldType count))} {draft after : Draft}
    (run : Run schema scalars fields draft after) :
    ∃ trace, Declares schema scalars fields trace ∧
      after.variableTypes = declareAll draft.variableTypes trace := by
  induction run with
  | done draft => exact ⟨[], .nil, rfl⟩
  | ignored ignored _ inductionHypothesis =>
    obtain ⟨trace, declares, equal⟩ := inductionHypothesis
    exact ⟨trace, .ignored ignored declares, equal⟩
  | flattened kept flattened type object _ _ innerHypothesis laterHypothesis =>
    obtain ⟨inner, inside, innerEqual⟩ := innerHypothesis
    obtain ⟨trace, later, equal⟩ := laterHypothesis
    refine ⟨inner ++ trace, .flattened kept flattened type object inside later, ?_⟩
    rw [equal, innerEqual, declareAll_append]
  | @leaf field _ _ _ kept own _ _ leaf _ inductionHypothesis =>
    obtain ⟨trace, declares, equal⟩ := inductionHypothesis
    refine ⟨field.variableAttributes ++ trace, .leaf kept own leaf declares, ?_⟩
    rw [equal, declareAll_append]
    rfl
  | @branch field _ _ _ _ kept own _ _ type expands _ _ innerHypothesis laterHypothesis =>
    obtain ⟨inner, inside, innerEqual⟩ := innerHypothesis
    obtain ⟨trace, later, equal⟩ := laterHypothesis
    refine ⟨field.variableAttributes ++ (inner ++ trace),
      .branch kept own type expands inside later, ?_⟩
    rw [equal, innerEqual, declareAll_append, declareAll_append]
    rfl

/-- The last declaration of a name. -/
def lastDeclared? (trace : List VariableAttribute) (name : String) : Option VariableAttribute :=
  trace.reverse.find? fun declared => declared.name == name

/-- A header has each declared name once, in the order of first declarations, with the type of the
last declaration. -/
structure IsHeader (trace : List VariableAttribute) (types : Keyed String) : Prop where
  names : Keyed.keys types = (trace.map VariableAttribute.name).eraseDups
  types : ∀ name, Keyed.valueAt? types name =
    (lastDeclared? trace name).map VariableAttribute.type

/-- The name of a declared variable and its type. -/
def VariableAttribute.pair (declared : VariableAttribute) : String × String :=
  (declared.name, declared.type)

theorem declareAll_nil (trace : List VariableAttribute) :
    declareAll [] trace = Keyed.ofPairs (trace.map VariableAttribute.pair) := by
  rw [declareAll, Keyed.ofPairs, List.foldl_map]
  rfl

theorem isHeader_declareAll (trace : List VariableAttribute) :
    IsHeader trace (declareAll [] trace) where
  names := by
    rw [declareAll_nil, Keyed.keys_ofPairs, List.map_map]
    rfl
  types := by
    intro name
    rw [declareAll_nil, Keyed.valueAt?_ofPairs, ← List.map_reverse, List.find?_map, Option.map_map]
    rfl

/-- The names that a field declares itself. -/
def Field.variableNames {Kind : Type} (field : Field Kind) : List String :=
  field.variableAttributes.map VariableAttribute.name

/-- A field meets a name if it or an effective field below its element declares the name. -/
inductive Field.Meets (schema : Schema count) (scalars : Scalars count) (name : String) :
    Field (FieldType count) → Prop
  | own {field : Field (FieldType count)} (declared : name ∈ field.variableNames) :
      Meets schema scalars name field
  | inside {field other : Field (FieldType count)} {type : Fin count}
      {below : List (Field (FieldType count))} (expands : scalars.Expands field.type.element type)
      (flat : Effective schema (schema.typeAt type).fields below) (among : other ∈ below)
      (meets : Meets schema scalars name other) :
      Meets schema scalars name field

/-- A trace has the names that the effective fields meet. -/
theorem Declares.mem_names_iff {fields effective : List (Field (FieldType count))}
    {trace : List VariableAttribute} (declares : Declares schema scalars fields trace)
    (flat : Effective schema fields effective) (name : String) :
    name ∈ trace.map VariableAttribute.name ↔
      ∃ field ∈ effective, Field.Meets schema scalars name field := by
  induction declares generalizing effective with
  | nil => cases flat; simp
  | ignored ignored _ inductionHypothesis =>
    cases flat with
    | ignored _ later => exact inductionHypothesis later
    | flattened kept => rw [ignored] at kept; cases kept
    | own kept => rw [ignored] at kept; cases kept
  | flattened kept flattened type object _ _ innerHypothesis laterHypothesis =>
    cases flat with
    | ignored ignored => rw [ignored] at kept; cases kept
    | flattened _ _ other same inside later =>
      rw [object] at same
      cases same
      rw [List.map_append, List.mem_append, innerHypothesis inside, laterHypothesis later]
      simp only [List.mem_append, or_and_right, exists_or]
    | own _ own => rw [flattened] at own; cases own
  | @leaf field _ _ kept own leaf _ inductionHypothesis =>
    cases flat with
    | ignored ignored => rw [ignored] at kept; cases kept
    | flattened _ flattened => rw [flattened] at own; cases own
    | own _ _ later =>
      have meets : Field.Meets schema scalars name field ↔ name ∈ field.variableNames := by
        constructor
        · intro meets
          cases meets with
          | own declared => exact declared
          | inside expands => exact absurd expands (leaf _)
        · exact .own
      rw [List.map_append, List.mem_append, inductionHypothesis later, List.exists_mem_cons_iff,
        meets]
      rfl
  | @branch field _ _ _ kept own type expands inside _ innerHypothesis laterHypothesis =>
    cases flat with
    | ignored ignored => rw [ignored] at kept; cases kept
    | flattened _ flattened => rw [flattened] at own; cases own
    | own _ _ later =>
      obtain ⟨below, flatBelow⟩ := inside.exists_effective
      have meets : Field.Meets schema scalars name field ↔ name ∈ field.variableNames ∨
          ∃ other ∈ below, Field.Meets schema scalars name other := by
        constructor
        · intro meets
          cases meets with
          | own declared => exact .inl declared
          | inside otherExpands otherFlat among meets =>
            have same := expands.unique otherExpands
            subst same
            exact .inr ⟨_, otherFlat.unique flatBelow ▸ among, meets⟩
        · rintro (declared | ⟨other, among, meets⟩)
          · exact .own declared
          · exact .inside expands flatBelow among meets
      rw [List.map_append, List.map_append, List.mem_append, List.mem_append,
        innerHypothesis flatBelow, laterHypothesis later, List.exists_mem_cons_iff, meets, or_assoc]
      rfl

/-- A field at the end of keys is met from the type where the keys start. -/
theorem FieldAt.meets {type : Fin count} {keys : List String} {field : Field (FieldType count)}
    (fieldAt : FieldAt schema scalars type keys field) (name : String)
    (declared : name ∈ field.variableNames) :
    ∃ effective, Effective schema (schema.typeAt type).fields effective ∧
      ∃ first ∈ effective, Field.Meets schema scalars name first := by
  induction fieldAt with
  | here effective last => exact ⟨_, effective, _, (lastNamed?_eq_some last).1, .own declared⟩
  | deeper effective last expands _ inductionHypothesis =>
    obtain ⟨below, flatBelow, first, among, meets⟩ := inductionHypothesis declared
    exact ⟨_, effective, _, (lastNamed?_eq_some last).1, .inside expands flatBelow among meets⟩

/-- The header of a compiled operation comes from the variables of the root and from one trace. -/
theorem exists_trace_of_compile (root : Fin count) (compiled : Compiled)
    (succeeded : schema.compile scalars root = .ok compiled) :
    ∃ trace, Declares schema scalars (schema.typeAt root).fields trace ∧
      compiled.operation.variableTypes =
        declareAll [] ((schema.typeAt root).operationVariables ++ trace) := by
  obtain ⟨draft, arguments, collected, -, rfl⟩ := (compile_eq_ok _ _ _ _).1 succeeded
  have run := run_of_collect schema scalars .empty root _ draft collected
  obtain ⟨trace, declares, equal⟩ := run.declares
  refine ⟨trace, declares, ?_⟩
  rw [declareAll_append]
  exact equal

/-- What stands below the wrapper of a compiled operation unfolds the root. -/
theorem unfolds_of_compile (root : Fin count) (compiled : Compiled)
    (succeeded : schema.compile scalars root = .ok compiled) :
    Unfolds schema scalars root compiled.selection := by
  obtain ⟨draft, arguments, collected, -, rfl⟩ := (compile_eq_ok _ _ _ _).1 succeeded
  rw [ObjectType.selection_assembled]
  exact unfolds_of_collect schema scalars .empty root _ draft collected

/-- Arguments come from the attributes of a field and from its variables; each of the latter refers
to one of the given names. -/
def Field.IsClosed (field : Field (FieldType count)) (property : Property) (names : List String) :
    Prop :=
  field.Brings property.arguments ∧
    ∀ argument ∈ field.boundArguments, ∃ name ∈ names, argument.value = .reference name

/-- A compiled operation declares the variables of its root and then the only trace below it, which
lists a field also if a later one of its name takes its place. Each property of the selection has
one field, and the arguments that this field binds to its variables refer to declared names. -/
theorem compile_isHeader (schema : Schema count) (scalars : Scalars count) (root : Fin count)
    (compiled : Compiled) (succeeded : schema.compile scalars root = .ok compiled) :
    ∃ trace, Declares schema scalars (schema.typeAt root).fields trace ∧
      (∀ other, Declares schema scalars (schema.typeAt root).fields other → other = trace) ∧
      IsHeader ((schema.typeAt root).operationVariables ++ trace)
        compiled.operation.variableTypes ∧
      ∀ keys property, Selection.follow? keys compiled.selection = some property →
        ∃ field, FieldAt schema scalars root keys field ∧
          (∀ other, FieldAt schema scalars root keys other → other = field) ∧
          field.IsClosed property (Keyed.keys compiled.operation.variableTypes) := by
  obtain ⟨trace, declares, equal⟩ := exists_trace_of_compile root compiled succeeded
  have header := isHeader_declareAll ((schema.typeAt root).operationVariables ++ trace)
  rw [← equal] at header
  refine ⟨trace, declares, fun other right => right.unique declares, header, ?_⟩
  intro keys property found
  have unfolds := unfolds_of_compile root compiled succeeded
  obtain ⟨field, fieldAt, describes⟩ := unfolds.exists_fieldAt keys property found
  refine ⟨field, fieldAt, fun other right => right.unique fieldAt, describes.arguments, ?_⟩
  intro argument bound
  obtain ⟨declared, member, rfl⟩ := List.mem_map.1 bound
  have own : declared.name ∈ field.variableNames := List.mem_map_of_mem member
  obtain ⟨effective, flat, meets⟩ := fieldAt.meets declared.name own
  have traced := (declares.mem_names_iff flat declared.name).2 meets
  refine ⟨declared.name, ?_, rfl⟩
  rw [header.names, List.mem_eraseDups, List.map_append]
  exact List.mem_append_right _ traced

/-- Users are met twice and declare a variable again with another type, and the own field of the
first type takes the place of the flattened one. -/
def tracker : Schema 5 where
  types := #v[
    { name := "Tracker"
      operation := some
        { name := "Track", variableAttributes := [⟨"id", "ID"⟩], property := some ⟨"tracker", []⟩ }
      fields := [
        { name := "base", type := ⟨false, .object 1⟩, flattened := true },
        { name := "owner", type := ⟨false, .object 2⟩
          variableAttributes := [⟨"login", "String"⟩] },
        { name := "issues", type := ⟨true, .object 3⟩
          variableAttributes := [⟨"limit", "Int"⟩] }] },
    { name := "Base"
      fields := [
        { name := "owner", type := ⟨false, .builtin "str"⟩
          variableAttributes := [⟨"old", "ID"⟩] }] },
    { name := "User"
      fields := [
        { name := "name", type := ⟨false, .builtin "str"⟩
          variableAttributes := [⟨"login", "String!"⟩] }] },
    { name := "Issue"
      fields := [
        { name := "author", type := ⟨false, .object 2⟩ },
        { name := "labels", type := ⟨true, .object 4⟩
          variableAttributes := [⟨"limit", "Int!"⟩] }] },
    { name := "Label"
      fields := [
        { name := "text", type := ⟨false, .builtin "str"⟩
          variableAttributes := [⟨"id", "ID!"⟩] }] }]

theorem exists_compile_tracker : ∃ compiled, tracker.compile .empty 0 = .ok compiled := by
  have present : (tracker.compile .empty 0).toOption.isSome = true := by decide +kernel
  exact (Outcome.isSome_toOption _).1 present

theorem compile_isHeader_tracker :
    ∃ compiled, tracker.compile .empty 0 = .ok compiled ∧
      ∃ trace, Declares tracker .empty (tracker.typeAt 0).fields trace ∧
        IsHeader ((tracker.typeAt 0).operationVariables ++ trace)
          compiled.operation.variableTypes := by
  obtain ⟨compiled, succeeded⟩ := exists_compile_tracker
  obtain ⟨trace, declares, -, header, -⟩ := compile_isHeader _ _ _ compiled succeeded
  exact ⟨compiled, succeeded, trace, declares, header⟩

example :
    (tracker.compile .empty 0).toOption.map (fun compiled => compiled.operation.variableTypes) =
      some [("id", "ID!"), ("old", "ID"), ("login", "String!"), ("limit", "Int!")] := by
  decide +kernel

end GraphQuery.Schema
