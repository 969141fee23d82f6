import GraphQuery.Proofs.Compilation.Declarations
import GraphQuery.Proofs.Compilation.Success

/-
This file compares the operations that one root compiles to when more types are registered as
scalars.
-/

namespace GraphQuery

namespace Property

mutual

/-- A property loses its children where it is marked; keys lead from it to the places below. -/
def prune (cut : List String → Bool) : Property → Property
  | ⟨aliasName, method, arguments, variableTypes, children⟩ =>
    ⟨aliasName, method, arguments, variableTypes,
      if cut [] then none
      else
        match children with
        | none => none
        | some selection => some (pruneSelection cut selection)⟩

/-- Every property stays in its place, under its key. -/
def pruneSelection (cut : List String → Bool) : List (String × Property) → List (String × Property)
  | [] => []
  | (key, child) :: rest =>
    (key, child.prune fun keys => cut (key :: keys)) :: pruneSelection cut rest

end

theorem prune_eq (cut : List String → Bool) (property : Property) :
    property.prune cut =
      { property with
        children := if cut [] then none else property.children.map (pruneSelection cut) } := by
  obtain ⟨aliasName, method, arguments, variableTypes, children⟩ := property
  cases children <;> rw [prune] <;> rfl

theorem pruneSelection_eq_map (cut : List String → Bool) (selection : Selection) :
    pruneSelection cut selection =
      selection.map fun entry => (entry.1, entry.2.prune fun keys => cut (entry.1 :: keys)) := by
  induction selection with
  | nil => rfl
  | cons entry rest inductionHypothesis => rw [pruneSelection, inductionHypothesis]; rfl

theorem keys_pruneSelection (cut : List String → Bool) (selection : Selection) :
    Keyed.keys (pruneSelection cut selection) = Keyed.keys selection := by
  rw [pruneSelection_eq_map, Keyed.keys, List.map_map]
  rfl

end Property

namespace Schema

variable {count : Nat} {schema : Schema count} {fewer more : Scalars count}

/-- The larger registration makes a leaf of this element, the smaller one does not. -/
def Scalars.Adds (fewer more : Scalars count) (element : Element count) : Prop :=
  ∃ type, fewer.Expands element type ∧ Element.object type ∈ more.elements

/-- Two descriptions of a field differ in the children at most. -/
theorem Field.Describes.eq_of_children {field : Field (FieldType count)} {old new : Property}
    (left : field.Describes fewer old) (right : field.Describes more new) :
    new = { old with children := new.children } := by
  have aliasName := right.aliasName.trans left.aliasName.symm
  have method := right.method.trans left.method.symm
  have variableTypes := right.variableTypes.trans left.variableTypes.symm
  have arguments := right.arguments.unique left.arguments
  cases old
  cases new
  simp_all

/-- The descriptions of a field under both registrations differ by pruning if the selections below
them do. -/
theorem Field.Describes.eq_prune {field : Field (FieldType count)} {old new : Property}
    (extended : ∀ element ∈ fewer.elements, element ∈ more.elements)
    (left : field.Describes fewer old) (right : field.Describes more new)
    (cut : List String → Bool) (marked : cut [] = true ↔ fewer.Adds more field.type.element)
    (below : ∀ inner children others, more.Expands field.type.element inner →
      old.children = some children → new.children = some others →
      others = Property.pruneSelection cut children) :
    new = old.prune cut := by
  rw [left.eq_of_children right, Property.prune_eq]
  congr 1
  by_cases adds : fewer.Adds more field.type.element
  · -- a leaf under the larger registration only
    rw [if_pos (marked.2 adds)]
    obtain ⟨inner, expands, registered⟩ := adds
    apply right.children.2
    intro other expandsMore
    have same := expands.unique expandsMore
    subst same
    exact expandsMore.2 registered
  rw [if_neg fun holds => adds (marked.1 holds)]
  by_cases branch : ∃ inner, fewer.Expands field.type.element inner
  · -- a selection under both registrations
    obtain ⟨inner, expands⟩ := branch
    have expandsMore : more.Expands field.type.element inner :=
      ⟨expands.1, fun registered => adds ⟨inner, expands, registered⟩⟩
    have present : old.children ≠ none := fun absent => left.children.1 absent inner expands
    have otherPresent : new.children ≠ none := fun absent =>
      right.children.1 absent inner expandsMore
    obtain ⟨children, some⟩ := Option.ne_none_iff_exists'.1 present
    obtain ⟨others, otherSome⟩ := Option.ne_none_iff_exists'.1 otherPresent
    rw [some, otherSome, below inner children others expandsMore some otherSome]
    rfl
  · -- a leaf under both registrations
    have leaf := left.children.2 (not_exists.1 branch)
    have otherLeaf := right.children.2 fun inner expandsMore =>
      branch ⟨inner, expandsMore.of_more extended⟩
    rw [leaf, otherLeaf]
    rfl

/-- Marks stand at the places of the fields whose elements are registered in addition. -/
def Marks (schema : Schema count) (fewer more : Scalars count) (type : Fin count)
    (cut : List String → Bool) : Prop :=
  ∀ keys field, FieldAt schema fewer type keys field →
    (cut keys = true ↔ fewer.Adds more field.type.element)

/-- The unfolding under the larger registration is what pruning leaves of the other one. -/
theorem Unfolds.eq_pruneSelection {type : Fin count} {before after : Selection}
    (extended : ∀ element ∈ fewer.elements, element ∈ more.elements)
    (left : Unfolds schema fewer type before) (right : Unfolds schema more type after)
    (cut : List String → Bool) (marks : schema.Marks fewer more type cut) :
    after = Property.pruneSelection cut before := by
  induction left generalizing after cut with
  | @intro type fields before effective names described below inductionHypothesis =>
    obtain ⟨otherEffective, otherNames, otherDescribed, otherBelow⟩ := right
    have sameFields := effective.unique otherEffective
    subst sameFields
    apply Keyed.eq_of_keys after _
    · rw [Property.keys_pruneSelection, otherNames, names]
    intro entry inAfter pruned inPruned sameKey
    rw [Property.pruneSelection_eq_map] at inPruned
    obtain ⟨⟨key, old⟩, inBefore, rfl⟩ := List.mem_map.1 inPruned
    obtain ⟨otherKey, new⟩ := entry
    change otherKey = key at sameKey
    subst sameKey
    obtain ⟨field, last, describes⟩ := described _ inBefore
    obtain ⟨otherField, otherLast, otherDescribes⟩ := otherDescribed _ inAfter
    have sameField : otherField = field := Option.some.inj (otherLast.symm.trans last)
    subst sameField
    have marked := marks [otherKey] otherField (.here effective last)
    apply congrArg (Prod.mk otherKey)
    apply describes.eq_prune extended otherDescribes _ marked
    intro inner children others expandsMore some otherSome
    have expands := expandsMore.of_more extended
    have unfolds := otherBelow _ inAfter otherField inner others last expandsMore otherSome
    apply inductionHypothesis _ inBefore otherField inner children last expands some unfolds
    intro keys lower fieldAt
    exact marks _ lower (.deeper effective last expands fieldAt)

theorem Leads.of_more {source target : Fin count}
    (extended : ∀ element ∈ fewer.elements, element ∈ more.elements)
    (leads : schema.Leads more source target) : schema.Leads fewer source target := by
  obtain ⟨field, member, kept, object, entered⟩ := leads
  refine ⟨field, member, kept, object, entered.imp_right ?_⟩
  exact fun absent registered => absent (extended _ registered)

theorem Settled.of_fewer {type : Fin count}
    (extended : ∀ element ∈ fewer.elements, element ∈ more.elements)
    (settled : Settled schema fewer type) : Settled schema more type := by
  induction settled with
  | intro sound _ inductionHypothesis =>
    exact .intro sound fun target leads => inductionHypothesis target (leads.of_more extended)

/-- Nothing can be blamed for a settled type. -/
theorem Settled.exists_collect {scalars : Scalars count} {type : Fin count}
    (settled : Settled schema scalars type) (draft : Draft) :
    ∃ after, schema.collect scalars .empty type draft = .ok after := by
  cases collected : schema.collect scalars .empty type draft with
  | ok after => exact ⟨after, rfl⟩
  | error failure =>
    cases blames_of_collect schema scalars .empty type draft failure collected with
    | cycle names repeated reaches closes =>
      rcases closes with visited | cycle
      · cases visited
      · exact absurd cycle (settled.reached reaches).not_onCycle
    | field _ reached reaches field member kept unsound =>
      obtain ⟨sound, -⟩ := settled.reached reaches
      exact absurd (sound field member kept) unsound

/-- The registrations agree on the element of a field, unless this field is flattened: then its
element is expanded in any case. -/
def Field.Agrees (fewer more : Scalars count) (field : Field (FieldType count)) : Prop :=
  field.flattened = false → ∀ target, field.type.element = .object target →
    (Element.object target ∈ fewer.elements ↔ Element.object target ∈ more.elements)

/-- A field is compiled alike under registrations that agree on its element. -/
theorem Field.compile_congr (field : Field (FieldType count))
    (enter other : Fin count → Draft → Except Failure Draft) (owner : String) (draft : Draft)
    (agrees : field.ignored = false → field.Agrees fewer more)
    (entered : ∀ target, field.Enters fewer target → enter target = other target) :
    field.compile fewer enter owner draft = field.compile more other owner draft := by
  cases field.compiles_compile fewer enter owner draft with
  | ignored ignored equal => rw [equal, field.compile_ignored _ _ _ _ ignored]
  | flattened kept flattened type object equal =>
    rw [equal, field.compile_flattened _ _ _ _ kept flattened type object,
      entered type ⟨kept, object, .inl flattened⟩]
  | misplaced kept flattened leaf equal =>
    rw [equal, field.compile_misplaced _ _ _ _ kept flattened leaf]
  | undeclared kept own failure failed equal =>
    rw [equal, field.compile_undeclared _ _ _ _ kept own failure failed]
  | leaf kept own arguments declared leaf equal =>
    have otherLeaf (type : Fin count) : ¬more.Expands field.type.element type := by
      intro expands
      have agreed := agrees kept own type expands.1
      exact leaf type ⟨expands.1, fun registered => expands.2 (agreed.1 registered)⟩
    rw [equal, field.compile_leaf _ _ _ _ kept own arguments declared otherLeaf]
  | branch kept own arguments declared type expands equal =>
    have agreed := agrees kept own type expands.1
    have otherExpands : more.Expands field.type.element type :=
      ⟨expands.1, fun registered => expands.2 (agreed.2 registered)⟩
    rw [equal, field.compile_branch _ _ _ _ kept own arguments declared type otherExpands,
      entered type ⟨kept, expands.1, .inr expands.2⟩]

/-- A type is collected alike under registrations that agree below it. -/
theorem collect_congr (trail : Trail count) (type : Fin count) (draft : Draft)
    (agree : schema.EachField fewer type (Field.Agrees fewer more)) :
    schema.collect fewer trail type draft = schema.collect more trail type draft := by
  induction trail, type, draft using collect.induct with
  | case1 trail type draft repeated => rw [collect, collect, dif_pos repeated, dif_pos repeated]
  | case2 trail type draft fresh inductionHypothesis =>
    rw [collect, collect, dif_neg fresh, dif_neg fresh]
    apply Outcome.foldlM_congr
    intro field member state
    apply field.compile_congr
    · exact agree type .refl field member
    · intro target enters
      funext inner
      apply inductionHypothesis
      intro reached reaches
      have leads : schema.Leads fewer type target := ⟨field, member, enters⟩
      exact agree reached (.head leads reaches)

/-- Only flattened fields have this element, among those that a root reaches. -/
def OnlyFlattened (schema : Schema count) (scalars : Scalars count) (root type : Fin count) :
    Prop :=
  schema.EachField scalars root fun field =>
    field.type.element = .object type → field.flattened = true

/-- A field that is not flattened would close a cycle through a root that is not registered. -/
theorem Settled.onlyFlattened {scalars : Scalars count} {root : Fin count}
    (settled : Settled schema scalars root) (absent : Element.object root ∉ scalars.elements) :
    schema.OnlyFlattened scalars root root := by
  intro reached reaches field member kept object
  have leads : schema.Leads scalars reached root := ⟨field, member, kept, object, .inr absent⟩
  exact absurd (.tail' reaches leads) settled.not_onCycle

/-- Registering types that only flattened fields enter makes no difference for a root. -/
theorem compile_congr (root : Fin count)
    (extended : ∀ element ∈ fewer.elements, element ∈ more.elements)
    (added : ∀ type, fewer.Adds more (.object type) → schema.OnlyFlattened fewer root type) :
    schema.compile more root = schema.compile fewer root := by
  have agree : schema.EachField fewer root (Field.Agrees fewer more) := by
    intro reached reaches field member kept own target object
    refine ⟨extended _, ?_⟩
    intro registered
    by_contra absent
    have only := added target ⟨target, ⟨rfl, absent⟩, registered⟩
    have flattened := only reached reaches field member kept object
    rw [own] at flattened
    cases flattened
  rw [compile_eq, compile_eq, collect_congr .empty root (schema.startOf root) agree]

/-- The places of one level tell their fields, so they can be marked; no field is at the top. -/
theorem exists_marks (schema : Schema count) (fewer more : Scalars count) (type : Fin count) :
    ∃ cut : List String → Bool, cut [] = false ∧ schema.Marks fewer more type cut := by
  classical
  refine ⟨fun keys => decide (∃ field, FieldAt schema fewer type keys field ∧
    fewer.Adds more field.type.element), ?_, ?_⟩
  · rw [decide_eq_false_iff_not]
    rintro ⟨field, fieldAt, -⟩
    exact fieldAt.keys_ne_nil rfl
  · intro keys field fieldAt
    rw [decide_eq_true_eq]
    constructor
    · rintro ⟨other, otherAt, adds⟩
      rw [fieldAt.unique otherAt]
      exact adds
    · intro adds
      exact ⟨field, fieldAt, adds⟩

/-- The wrapper of a root is not marked, so only what it holds is pruned. -/
theorem ObjectType.pruneSelection_wrapped {Kind : Type} (root : ObjectType Kind)
    (arguments : List Argument) (selection : Selection) (cut : List String → Bool)
    (unmarked : cut [] = false) :
    Property.pruneSelection
        (fun keys => cut (keys.drop (root.wrapper?.map PropertyAttribute.name).toList.length))
        (root.wrapped arguments selection) =
      root.wrapped arguments (Property.pruneSelection cut selection) := by
  cases wrapped : root.wrapper? with
  | none => simp [ObjectType.wrapped, wrapped]
  | some wrapper =>
    simp [ObjectType.wrapped, wrapped, Property.pruneSelection, Property.prune, unmarked]

/-- A larger registration declares no other names. -/
theorem names_subset_of_compile (root : Fin count) (compiled pruned : Compiled)
    (extended : ∀ element ∈ fewer.elements, element ∈ more.elements)
    (succeeded : schema.compile fewer root = .ok compiled)
    (otherSucceeded : schema.compile more root = .ok pruned) (name : String)
    (member : name ∈ Keyed.keys pruned.operation.variableTypes) :
    name ∈ Keyed.keys compiled.operation.variableTypes := by
  obtain ⟨trace, declares, equal⟩ := exists_trace_of_compile root compiled succeeded
  obtain ⟨other, otherDeclares, otherEqual⟩ := exists_trace_of_compile root pruned otherSucceeded
  have declared := declares.sublist extended otherDeclares
  have headers := ((List.Sublist.refl (schema.typeAt root).operationVariables).append declared).map
    VariableAttribute.name
  rw [otherEqual, (isHeader_declareAll _).names, List.mem_eraseDups] at member
  rw [equal, (isHeader_declareAll _).names, List.mem_eraseDups]
  exact headers.subset member

/-- An operation is pruned if it loses the children of the properties whose elements are registered
in addition, and has no other names in its header. The wrapper of a root is no such property. -/
structure PrunesTo (schema : Schema count) (fewer more : Scalars count) (root : Fin count)
    (compiled pruned : Compiled) : Prop where
  name : pruned.operation.name = compiled.operation.name
  method : pruned.operation.method = compiled.operation.method
  resourceKey : pruned.resourceKey = compiled.resourceKey
  names : ∀ name ∈ Keyed.keys pruned.operation.variableTypes,
    name ∈ Keyed.keys compiled.operation.variableTypes
  children : ∃ cut, (∀ key, compiled.resourceKey = some key → cut [key] = false) ∧
    schema.Marks fewer more root (fun keys => cut (compiled.resourceKey.toList ++ keys)) ∧
    pruned.operation.children = compiled.operation.children.map (Property.pruneSelection cut)

theorem exists_prunesTo (root : Fin count) (compiled : Compiled)
    (extended : ∀ element ∈ fewer.elements, element ∈ more.elements)
    (succeeded : schema.compile fewer root = .ok compiled) :
    ∃ pruned, schema.compile more root = .ok pruned ∧
      schema.PrunesTo fewer more root compiled pruned := by
  have unfolds := unfolds_of_compile root compiled succeeded
  have settled := (settled_of_compile schema fewer root compiled succeeded).1
  obtain ⟨draft, arguments, collected, declared, equal⟩ := (compile_eq_ok _ _ _ _).1 succeeded
  obtain ⟨after, otherCollected⟩ :=
    (settled.of_fewer extended).exists_collect (schema.startOf root)
  have otherSucceeded : schema.compile more root =
      .ok ((schema.typeAt root).assembled arguments after) :=
    (compile_eq_ok _ _ _ _).2 ⟨after, arguments, otherCollected, declared, rfl⟩
  have otherUnfolds := unfolds_of_compile root _ otherSucceeded
  have names := names_subset_of_compile root compiled _ extended succeeded otherSucceeded
  subst equal
  rw [ObjectType.selection_assembled] at unfolds otherUnfolds
  obtain ⟨cut, unmarked, marks⟩ := exists_marks schema fewer more root
  have pruned := unfolds.eq_pruneSelection extended otherUnfolds cut marks
  have wrapped := (schema.typeAt root).pruneSelection_wrapped arguments draft.selection cut unmarked
  refine ⟨_, otherSucceeded, rfl, rfl, rfl, names, fun keys => cut (keys.drop
    ((schema.typeAt root).wrapper?.map PropertyAttribute.name).toList.length), ?_, ?_, ?_⟩
  · intro key named
    change (schema.typeAt root).wrapper?.map PropertyAttribute.name = some key at named
    rw [named]
    exact unmarked
  · intro keys field fieldAt
    simpa [ObjectType.assembled] using marks keys field fieldAt
  · change some ((schema.typeAt root).wrapped arguments after.selection) = some (_ : Selection)
    rw [pruned, ← wrapped]

/-- A compiled root compiles under every larger registration as well, to what is left of it if the
types registered in addition are cut off. It stays as it is if these are the root and types that
only flattened fields enter; whether or not a root compiles, the latter make no difference. -/
theorem compile_prunes (schema : Schema count) (fewer more : Scalars count) (root : Fin count)
    (extended : ∀ element ∈ fewer.elements, element ∈ more.elements) :
    (∀ compiled, schema.compile fewer root = .ok compiled →
      (∃ pruned, schema.compile more root = .ok pruned ∧
        schema.PrunesTo fewer more root compiled pruned) ∧
      ((∀ type, fewer.Adds more (.object type) →
          type = root ∨ schema.OnlyFlattened fewer root type) →
        schema.compile more root = .ok compiled)) ∧
    ((∀ type, fewer.Adds more (.object type) → schema.OnlyFlattened fewer root type) →
      schema.compile more root = schema.compile fewer root) := by
  refine ⟨?_, compile_congr root extended⟩
  intro compiled succeeded
  refine ⟨exists_prunesTo root compiled extended succeeded, ?_⟩
  intro added
  rw [← succeeded]
  apply compile_congr root extended
  intro type adds
  rcases added type adds with rfl | only
  · have settled := (settled_of_compile schema fewer type compiled succeeded).1
    obtain ⟨target, ⟨object, absent⟩, -⟩ := adds
    cases object
    exact settled.onlyFlattened absent
  · exact only

/-- Users are cut off; the other types are the root and the element of a flattened field. -/
theorem compile_prunes_tracker :
    ∃ compiled, tracker.compile .empty 0 = .ok compiled ∧
      (∃ pruned, tracker.compile ⟨[.object 2]⟩ 0 = .ok pruned ∧
        tracker.PrunesTo .empty ⟨[.object 2]⟩ 0 compiled pruned) ∧
      tracker.compile ⟨[.object 0, .object 1]⟩ 0 = .ok compiled := by
  obtain ⟨compiled, succeeded⟩ := exists_compile_tracker
  have empty (more : Scalars 5) : ∀ element ∈ (Scalars.empty : Scalars 5).elements,
      element ∈ more.elements := by
    intro element member
    cases member
  have onlyFlattened : tracker.OnlyFlattened .empty 0 1 := by
    have everywhere : ∀ reached, ∀ field ∈ (tracker.typeAt reached).fields,
        field.ignored = false → field.type.element = .object 1 → field.flattened = true := by
      decide
    exact fun reached _ => everywhere reached
  have added (type : Fin 5)
      (adds : Scalars.Adds .empty ⟨[.object 0, .object 1]⟩ (.object type)) :
      type = 0 ∨ tracker.OnlyFlattened .empty 0 type := by
    obtain ⟨target, ⟨object, -⟩, registered⟩ := adds
    cases object
    rcases List.mem_cons.1 registered with root | other
    · cases root
      exact .inl rfl
    · cases List.mem_singleton.1 other
      exact .inr onlyFlattened
  have pruned := (compile_prunes tracker .empty ⟨[.object 2]⟩ 0 (empty _)).1 compiled succeeded
  have same := (compile_prunes tracker .empty ⟨[.object 0, .object 1]⟩ 0 (empty _)).1 compiled
    succeeded
  exact ⟨compiled, succeeded, pruned.1, same.2 added⟩

end Schema

end GraphQuery
