import GraphQuery.Operation.Path
import GraphQuery.Proofs.Compilation.Unfolding

/-
This file says which field each property of an unfolding comes from.
-/

namespace GraphQuery.Schema

variable {count : Nat}

/-- The element of a field tells the type that it is expanded to, under any registration. -/
theorem Scalars.Expands.unique {scalars other : Scalars count} {element : Element count}
    {first second : Fin count} (left : scalars.Expands element first)
    (right : other.Expands element second) : first = second :=
  Element.object.inj (left.1.symm.trans right.1)

/-- Keys lead from a type to a field: each key names the last effective field of its level, and the
next level is the element of this field. -/
inductive FieldAt (schema : Schema count) (scalars : Scalars count) :
    Fin count → List String → Field (FieldType count) → Prop
  | here {type : Fin count} {fields : List (Field (FieldType count))} {key : String}
      {field : Field (FieldType count)}
      (effective : Effective schema (schema.typeAt type).fields fields)
      (last : lastNamed? fields key = some field) : FieldAt schema scalars type [key] field
  | deeper {type inner : Fin count} {fields : List (Field (FieldType count))} {key : String}
      {keys : List String} {outer field : Field (FieldType count)}
      (effective : Effective schema (schema.typeAt type).fields fields)
      (last : lastNamed? fields key = some outer)
      (expands : scalars.Expands outer.type.element inner)
      (inside : FieldAt schema scalars inner keys field) :
      FieldAt schema scalars type (key :: keys) field

theorem FieldAt.keys_ne_nil {schema : Schema count} {scalars : Scalars count} {type : Fin count}
    {keys : List String} {field : Field (FieldType count)}
    (fieldAt : FieldAt schema scalars type keys field) : keys ≠ [] := by
  cases fieldAt <;> simp

theorem FieldAt.unique {schema : Schema count} {scalars : Scalars count} {type : Fin count}
    {keys : List String} {first second : Field (FieldType count)}
    (left : FieldAt schema scalars type keys first)
    (right : FieldAt schema scalars type keys second) : first = second := by
  induction left with
  | here effective last =>
    cases right with
    | here otherEffective otherLast =>
      rw [effective.unique otherEffective, otherLast] at last
      exact (Option.some.inj last).symm
    | deeper _ _ _ inside => exact absurd rfl inside.keys_ne_nil
  | deeper effective last expands inside inductionHypothesis =>
    cases right with
    | here => exact absurd rfl inside.keys_ne_nil
    | deeper otherEffective otherLast otherExpands otherInside =>
      rw [effective.unique otherEffective, otherLast] at last
      have sameField := Option.some.inj last
      subst sameField
      have sameType := expands.unique otherExpands
      subst sameType
      exact inductionHypothesis otherInside

/-- Keys that lead to a property of an unfolding lead to the field that it describes. -/
theorem Unfolds.exists_fieldAt {schema : Schema count} {scalars : Scalars count}
    {type : Fin count} {selection : Selection} (unfolds : Unfolds schema scalars type selection)
    (keys : List String) (property : Property)
    (found : Selection.follow? keys selection = some property) :
    ∃ field, FieldAt schema scalars type keys field ∧ field.Describes scalars property := by
  induction unfolds generalizing keys with
  | @intro type fields selection effective names described below inductionHypothesis =>
    cases keys with
    | nil => simp [Selection.follow?] at found
    | cons key rest =>
      cases rest with
      | nil =>
        have member := Keyed.mem_of_valueAt? selection key property found
        obtain ⟨field, last, describes⟩ := described _ member
        exact ⟨field, .here effective last, describes⟩
      | cons next others =>
        simp only [Selection.follow?, Option.bind_eq_bind, Option.bind_eq_some_iff] at found
        obtain ⟨parent, present, children, some, lower⟩ := found
        have member := Keyed.mem_of_valueAt? selection key parent present
        obtain ⟨outer, last, describes⟩ := described _ member
        -- a property with a selection comes from a field that is expanded
        have expanded : ∃ inner, scalars.Expands outer.type.element inner := by
          by_contra leaf
          have absent := describes.children.2 (not_exists.1 leaf)
          rw [some] at absent
          cases absent
        obtain ⟨inner, expands⟩ := expanded
        obtain ⟨field, inside, describesField⟩ :=
          inductionHypothesis _ member outer inner children last expands some _ lower
        exact ⟨field, .deeper effective last expands inside, describesField⟩

/-- The last field of a name has this name and is one of the fields. -/
theorem lastNamed?_eq_some {fields : List (Field (FieldType count))} {name : String}
    {field : Field (FieldType count)} (last : lastNamed? fields name = some field) :
    field ∈ fields ∧ field.name = name := by
  have member := List.mem_reverse.1 (List.mem_of_find?_eq_some last)
  have named := List.find?_some last
  exact ⟨member, by simpa using named⟩

/-- Each name among the fields has a property that describes the last field of this name. -/
theorem exists_described {scalars : Scalars count} {fields : List (Field (FieldType count))}
    {selection : Selection} (names : Keyed.keys selection = (fields.map Field.name).eraseDups)
    (described : ∀ entry ∈ selection, ∃ field,
      lastNamed? fields entry.1 = some field ∧ field.Describes scalars entry.2)
    (key : String) (field : Field (FieldType count)) (last : lastNamed? fields key = some field) :
    ∃ property, Keyed.valueAt? selection key = some property ∧
      (key, property) ∈ selection ∧ field.Describes scalars property := by
  obtain ⟨among, named⟩ := lastNamed?_eq_some last
  have present : key ∈ Keyed.keys selection := by
    rw [names, List.mem_eraseDups, ← named]
    exact List.mem_map_of_mem among
  cases found : Keyed.valueAt? selection key with
  | none => exact absurd present ((Keyed.valueAt?_eq_none selection key).1 found)
  | some property =>
    have member := Keyed.mem_of_valueAt? selection key property found
    obtain ⟨other, otherLast, describes⟩ := described _ member
    have same : other = field := Option.some.inj (otherLast.symm.trans last)
    exact ⟨property, rfl, member, same ▸ describes⟩

/-- Keys that lead to a field lead to a property of an unfolding that describes it. -/
theorem Unfolds.exists_property {schema : Schema count} {scalars : Scalars count}
    {type : Fin count} {selection : Selection} (unfolds : Unfolds schema scalars type selection)
    (keys : List String) (field : Field (FieldType count))
    (fieldAt : FieldAt schema scalars type keys field) :
    ∃ property, Selection.follow? keys selection = some property ∧
      field.Describes scalars property := by
  induction fieldAt generalizing selection with
  | here effective last =>
    obtain ⟨otherEffective, names, described, -⟩ := unfolds
    rw [effective.unique otherEffective] at last
    obtain ⟨property, found, -, describes⟩ := exists_described names described _ _ last
    exact ⟨property, found, describes⟩
  | @deeper type inner fields key keys outer field effective last expands inside
      inductionHypothesis =>
    obtain ⟨otherEffective, names, described, below⟩ := unfolds
    rw [effective.unique otherEffective] at last
    obtain ⟨parent, present, member, describes⟩ := exists_described names described _ _ last
    have branches : parent.children ≠ none := fun absent =>
      describes.children.1 absent inner expands
    obtain ⟨children, some⟩ := Option.ne_none_iff_exists'.1 branches
    have unfoldsInner := below _ member outer inner children last expands some
    obtain ⟨property, found, describesField⟩ := inductionHypothesis unfoldsInner
    refine ⟨property, ?_, describesField⟩
    obtain ⟨next, rest, equal⟩ := List.exists_cons_of_ne_nil inside.keys_ne_nil
    subst equal
    simpa [Selection.follow?, present, some] using found

end GraphQuery.Schema
