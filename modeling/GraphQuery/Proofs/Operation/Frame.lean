import GraphQuery.Proofs.Operation.Context

/-
This file shows what an assignment of arguments leaves as it is.
-/

namespace GraphQuery

namespace Argument

/-- A slot is what an assignment never changes of an argument. -/
def slot (argument : Argument) : String × Bool := (argument.key, argument.optional)

theorem assign?_cons (first : Argument) (rest : List Argument) (key : String) (value : Value) :
    assign? (first :: rest) key value =
      if sameKey first.key key then some ({ first with value } :: rest)
      else (assign? rest key value).map (first :: ·) :=
  rfl

theorem map_slot_assign? (declared updated : List Argument) (key : String) (value : Value)
    (assigned : assign? declared key value = some updated) :
    updated.map slot = declared.map slot := by
  induction declared generalizing updated with
  | nil => cases assigned
  | cons first rest inductionHypothesis =>
    rw [assign?_cons] at assigned
    split at assigned
    · cases assigned
      rfl
    · obtain ⟨others, later, rfl⟩ := Option.map_eq_some_iff.1 assigned
      rw [List.map_cons, List.map_cons, inductionHypothesis others later]

/-- An assignment keeps the keys, their number, their order and the optional flags. -/
theorem map_slot_assignAll (declared given : List Argument) :
    (assignAll declared given).1.map slot = declared.map slot := by
  induction given generalizing declared with
  | nil => rfl
  | cons first rest inductionHypothesis =>
    rw [assignAll]
    split
    · next updated assigned =>
      rw [inductionHypothesis, map_slot_assign? _ _ _ _ assigned]
    · rfl

end Argument

namespace Selection

/-- What is written before and after the property of a context depends on the context alone. -/
theorem Context.exists_selectionChars (context : Context) :
    ∃ (key : String) (before after : List Char), ∀ property,
      Property.selectionChars (context.plug property) =
        before ++ property.chars (some key) ++ after := by
  induction context with
  | here before key after _ =>
    refine ⟨key, Property.selectionChars before, Property.selectionChars after, ?_⟩
    intro property
    rw [plug_here, Property.selectionChars_append, Property.selectionChars, List.append_assoc]
  | within before key parent inner after _ inductionHypothesis =>
    obtain ⟨inmost, left, right, written⟩ := inductionHypothesis
    refine ⟨inmost,
      Property.selectionChars before ++ Property.headChars (some key) parent ++
        Property.argumentsChars (parent.arguments.getD []) ++ '{' :: ' ' :: left,
      right ++ ['}', ' '] ++ Property.selectionChars after, ?_⟩
    intro property
    have block := Property.blockChars_some (inner.plug property) (inner.plug_ne_nil property)
    rw [plug_within, Property.selectionChars_append, Property.selectionChars, Property.chars_eq,
      block, written]
    simp [Property.headChars]

end Selection

namespace Operation

/-- The rest of a document is the same whatever the arguments of one property are. -/
theorem exists_charsAs_plug (operation : Operation) (method : Option Method)
    (context : Selection.Context) (property : Property) :
    ∃ before after : List Char, ∀ arguments,
      operation.charsAs method (context.plug { property with arguments := some arguments }) =
        before ++ Property.argumentsChars arguments ++ after := by
  obtain ⟨key, left, right, written⟩ := context.exists_selectionChars
  refine ⟨Property.wordChars (method.map Method.keyword) ++ operation.headChars ++
      '{' :: ' ' :: left ++ Property.headChars (some key) property,
    Property.blockChars property.children ++ right ++ ['}', ' '], ?_⟩
  intro arguments
  rw [charsAs, selectionChars, written, Property.chars_eq]
  simp [Property.headChars]

/-- A path that has a target leads to it through the selection of the operation. -/
theorem follow?_of_target (operation : Operation) (path : String) (keys : List String)
    (node : Property) (resolved : operation.target path = .ok (keys, node)) :
    ∃ selection, operation.children = some selection ∧
      Selection.follow? keys selection = some node := by
  rw [target] at resolved
  split at resolved
  · cases resolved
  · cases resolved
  · split at resolved
    · next found =>
      cases resolved
      exact Option.bind_eq_some_iff.1 found
    · cases resolved

/-- The property that a path names can be taken out, and an assignment puts it back with other
arguments. -/
theorem exists_context_of_target (operation : Operation) (path : String) (given : List Argument)
    (keys : List String) (node : Property) (declared : List Argument)
    (resolved : operation.target path = .ok (keys, node))
    (takes : node.arguments = some declared) :
    ∃ context : Selection.Context, context.keys = keys ∧
      operation.children = some (context.plug node) ∧
      (operation.setArguments path given).1 = { operation with
        children := some (context.plug
          { node with arguments := some (Argument.assignAll declared given).1 }) } := by
  obtain ⟨selection, present, follows⟩ := follow?_of_target operation path keys node resolved
  obtain ⟨context, rfl, rfl⟩ := Selection.exists_context keys selection node follows
  refine ⟨context, rfl, present, ?_⟩
  simp [setArguments, resolved, takes, replaceArguments, present,
    Selection.Context.adjustAt_plug]

/-- An assignment changes values of arguments of the property that the path names, and nothing else:
one context holds the property before and after, and one text holds its arguments before and after.
A path without a target and a property without arguments leave the whole operation as it is. -/
theorem setArguments_frame (operation : Operation) (path : String) (given : List Argument) :
    let changed := (operation.setArguments path given).1
    match operation.target path with
    | .error _ => changed = operation
    | .ok (keys, node) =>
      match node.arguments with
      | none => changed = operation
      | some declared =>
        ∃ (context : Selection.Context) (updated : List Argument),
          context.keys = keys ∧
          operation.children = some (context.plug node) ∧
          changed = { operation with
            children := some (context.plug { node with arguments := some updated }) } ∧
          updated.map Argument.slot = declared.map Argument.slot ∧
          ∀ method, ∃ before after : List Char,
            operation.renderAs method =
              .ok (String.ofList (before ++ Property.argumentsChars declared ++ after)) ∧
            changed.renderAs method =
              .ok (String.ofList (before ++ Property.argumentsChars updated ++ after)) := by
  dsimp only
  cases resolved : operation.target path with
  | error failure => simp [setArguments, resolved]
  | ok found =>
    obtain ⟨keys, node⟩ := found
    dsimp only
    cases takes : node.arguments with
    | none => simp [setArguments, resolved, takes]
    | some declared =>
      obtain ⟨context, named, present, changed⟩ :=
        exists_context_of_target operation path given keys node declared resolved takes
      refine ⟨context, (Argument.assignAll declared given).1, named, present, changed,
        Argument.map_slot_assignAll declared given, ?_⟩
      intro method
      obtain ⟨before, after, written⟩ := exists_charsAs_plug operation method context node
      have whole : { node with arguments := some declared } = node := by
        cases node
        cases takes
        rfl
      have original := written declared
      rw [whole] at original
      refine ⟨before, after, ?_, ?_⟩
      · rw [renderAs, present, ← original]
      · rw [changed, renderAs, ← written]
        rfl

end Operation

end GraphQuery
