import GraphQuery.Operation.Path

/-
This file takes one property out of the selections around it.
-/

namespace GraphQuery.Selection

/-- The change of a property for a change at the end of the keys below it. -/
def below (change : Property → Property) : List String → Property → Property
  | [], property => change property
  | key :: rest, property =>
    { property with children := property.children.map (adjustAt change (key :: rest)) }

theorem adjustAt_cons (change : Property → Property) (key : String) (rest : List String)
    (selection : Selection) :
    adjustAt change (key :: rest) selection = Keyed.adjust (below change rest) selection key := by
  cases rest <;> rfl

theorem follow?_cons_cons (key next : String) (rest : List String) (selection : Selection) :
    follow? (key :: next :: rest) selection =
      (Keyed.valueAt? selection key).bind fun property =>
        property.children.bind (follow? (next :: rest)) :=
  rfl

/-- A context is a selection with one property left out, here or below one of its properties.
No earlier property of a level has the key of the level. -/
inductive Context where
  | here (before : Selection) (key : String) (after : Selection)
      (first : key ∉ Keyed.keys before)
  | within (before : Selection) (key : String) (parent : Property) (inner : Context)
      (after : Selection) (first : key ∉ Keyed.keys before)

namespace Context

/-- The keys that lead to the property that is left out. -/
def keys : Context → List String
  | here _ key _ _ => [key]
  | within _ key _ inner _ _ => key :: inner.keys

/-- The selection with a property put in. -/
def plug (property : Property) : Context → Selection
  | here before key after _ => before ++ (key, property) :: after
  | within before key parent inner after _ =>
    before ++ (key, { parent with children := some (inner.plug property) }) :: after

section Equations

variable (before after : Selection) (key : String) (first : key ∉ Keyed.keys before)
  (parent property : Property) (inner : Context)

theorem keys_within : (within before key parent inner after first).keys = key :: inner.keys := rfl

theorem plug_here :
    (here before key after first).plug property = before ++ (key, property) :: after :=
  rfl

theorem plug_within :
    (within before key parent inner after first).plug property =
      before ++ (key, { parent with children := some (inner.plug property) }) :: after :=
  rfl

end Equations

theorem keys_ne_nil (context : Context) : context.keys ≠ [] := by
  cases context <;> exact List.cons_ne_nil _ _

theorem plug_ne_nil (context : Context) (property : Property) : context.plug property ≠ [] := by
  cases context <;> exact List.append_ne_nil_of_right_ne_nil _ (List.cons_ne_nil _ _)

/-- The keys of a context lead to the property that was put in. -/
theorem follow?_plug (context : Context) (property : Property) :
    follow? context.keys (context.plug property) = some property := by
  induction context with
  | here before key after first => exact Keyed.valueAt?_split before after key property first
  | within before key parent inner after first inductionHypothesis =>
    obtain ⟨next, rest, equal⟩ := List.exists_cons_of_ne_nil inner.keys_ne_nil
    rw [equal] at inductionHypothesis
    rw [keys_within, plug_within, equal, follow?_cons_cons, Keyed.valueAt?_split _ _ _ _ first]
    exact inductionHypothesis

/-- A change at the keys of a context changes the property that was put in. -/
theorem adjustAt_plug (change : Property → Property) (context : Context)
    (property : Property) :
    adjustAt change context.keys (context.plug property) = context.plug (change property) := by
  induction context with
  | here before key after first =>
    exact Keyed.adjust_split change before after key property first
  | within before key parent inner after first inductionHypothesis =>
    obtain ⟨next, rest, equal⟩ := List.exists_cons_of_ne_nil inner.keys_ne_nil
    rw [keys_within, plug_within, plug_within, adjustAt_cons,
      Keyed.adjust_split _ _ _ _ _ first, equal, below, ← equal]
    simp [inductionHypothesis]

end Context

/-- Keys that lead to a property have a context that it was taken out of. -/
theorem exists_context (keys : List String) (selection : Selection) (property : Property)
    (found : follow? keys selection = some property) :
    ∃ context : Context, context.keys = keys ∧ context.plug property = selection := by
  induction keys generalizing selection with
  | nil => cases found
  | cons key rest inductionHypothesis =>
    cases rest with
    | nil =>
      obtain ⟨before, after, split, first⟩ := Keyed.exists_split selection key property found
      exact ⟨.here before key after first, rfl, split.symm⟩
    | cons next others =>
      simp only [follow?_cons_cons, Option.bind_eq_some_iff] at found
      obtain ⟨parent, present, children, some, lower⟩ := found
      obtain ⟨inner, keys, plugged⟩ := inductionHypothesis children lower
      obtain ⟨before, after, split, first⟩ := Keyed.exists_split selection key parent present
      refine ⟨.within before key parent inner after first, ?_, ?_⟩
      · rw [Context.keys_within, keys]
      · rw [split, Context.plug_within, plugged, ← some]
        cases parent
        rfl

end GraphQuery.Selection
