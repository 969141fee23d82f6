import GraphQuery.Proofs.Outcome
import GraphQuery.Schema.Compilation

/-
This file says what compilation does with each field and what a successful run has done.
-/

namespace GraphQuery.Schema

variable {count : Nat}

/-- A field of this element gets the selection of an object type, which is not registered. -/
def Scalars.Expands (scalars : Scalars count) (element : Element count) (type : Fin count) : Prop :=
  element = .object type ∧ Element.object type ∉ scalars.elements

namespace Field

variable (scalars : Scalars count) (enter : Fin count → Draft → Except Failure Draft)
  (owner : String) (field : Field (FieldType count)) (draft : Draft)

theorem compile_ignored (ignored : field.ignored = true) :
    field.compile scalars enter owner draft = .ok draft := by
  simp [compile, ignored]

theorem compile_flattened (kept : field.ignored = false) (flattened : field.flattened = true)
    (type : Fin count) (object : field.type.element = .object type) :
    field.compile scalars enter owner draft = enter type draft := by
  simp [compile, kept, flattened, object]

/-- Only objects can be flattened. -/
theorem compile_misplaced (kept : field.ignored = false) (flattened : field.flattened = true)
    (leaf : ∀ type, field.type.element ≠ .object type) :
    field.compile scalars enter owner draft =
      .error (.build (.flattenedLeaf field.name owner)) := by
  cases element : field.type.element with
  | object type => exact absurd element (leaf type)
  | builtin name => simp [compile, kept, flattened, element]
  | unknown => simp [compile, kept, flattened, element]

theorem compile_undeclared (kept : field.ignored = false) (own : field.flattened = false)
    (failure : Failure) (failed : field.declared = .error failure) :
    field.compile scalars enter owner draft = .error failure := by
  simp [compile, kept, own, failed, bind, Except.bind]

/-- The variables of a field are declared before its selection is compiled. -/
def declaredTypes (types : Keyed String) : Keyed String :=
  declareAll types field.variableAttributes

theorem compile_leaf (kept : field.ignored = false) (own : field.flattened = false)
    (arguments : List Argument) (declared : field.declared = .ok arguments)
    (leaf : ∀ type, ¬scalars.Expands field.type.element type) :
    field.compile scalars enter owner draft =
      .ok ⟨Keyed.put draft.selection field.name (field.toProperty arguments none),
        field.declaredTypes draft.variableTypes⟩ := by
  cases element : field.type.element with
  | object type =>
    have registered : scalars.contains (.object type) = true := by
      rw [Scalars.contains, decide_eq_true_eq]
      exact Decidable.not_not.1 fun absent => leaf type ⟨element, absent⟩
    simp [compile, kept, own, declared, element, registered, declaredTypes, bind, Except.bind, pure,
      Except.pure]
  | builtin name =>
    simp [compile, kept, own, declared, element, declaredTypes, bind, Except.bind, pure, Except.pure]
  | unknown =>
    simp [compile, kept, own, declared, element, declaredTypes, bind, Except.bind, pure, Except.pure]

theorem compile_branch (kept : field.ignored = false) (own : field.flattened = false)
    (arguments : List Argument) (declared : field.declared = .ok arguments) (type : Fin count)
    (expands : scalars.Expands field.type.element type) :
    field.compile scalars enter owner draft =
      (enter type ⟨[], field.declaredTypes draft.variableTypes⟩).map fun inner =>
        ⟨Keyed.put draft.selection field.name (field.toProperty arguments (some inner.selection)),
          inner.variableTypes⟩ := by
  have unregistered : scalars.contains (.object type) = false := by
    rw [Scalars.contains, decide_eq_false_iff_not]
    exact expands.2
  simp only [compile, kept, own, declared, expands.1, unregistered, declaredTypes]
  cases enter type ⟨[], declareAll draft.variableTypes field.variableAttributes⟩ <;> rfl

/-- These are all the ways in which a field can be compiled. -/
inductive Compiles (outcome : Except Failure Draft) : Prop
  | ignored (ignored : field.ignored = true) (equal : outcome = .ok draft)
  | flattened (kept : field.ignored = false) (flattened : field.flattened = true)
      (type : Fin count) (object : field.type.element = .object type)
      (equal : outcome = enter type draft)
  | misplaced (kept : field.ignored = false) (flattened : field.flattened = true)
      (leaf : ∀ type, field.type.element ≠ .object type)
      (equal : outcome = .error (.build (.flattenedLeaf field.name owner)))
  | undeclared (kept : field.ignored = false) (own : field.flattened = false) (failure : Failure)
      (failed : field.declared = .error failure) (equal : outcome = .error failure)
  | leaf (kept : field.ignored = false) (own : field.flattened = false)
      (arguments : List Argument) (declared : field.declared = .ok arguments)
      (leaf : ∀ type, ¬scalars.Expands field.type.element type)
      (equal : outcome =
        .ok ⟨Keyed.put draft.selection field.name (field.toProperty arguments none),
          field.declaredTypes draft.variableTypes⟩)
  | branch (kept : field.ignored = false) (own : field.flattened = false)
      (arguments : List Argument) (declared : field.declared = .ok arguments) (type : Fin count)
      (expands : scalars.Expands field.type.element type)
      (equal : outcome =
        (enter type ⟨[], field.declaredTypes draft.variableTypes⟩).map fun inner =>
          ⟨Keyed.put draft.selection field.name (field.toProperty arguments (some inner.selection)),
            inner.variableTypes⟩)

theorem compiles_compile :
    Compiles scalars enter owner field draft (field.compile scalars enter owner draft) := by
  cases kept : field.ignored with
  | true => exact .ignored kept (compile_ignored _ _ _ _ _ kept)
  | false =>
    cases own : field.flattened with
    | true =>
      by_cases object : ∃ type, field.type.element = .object type
      · obtain ⟨type, object⟩ := object
        exact .flattened kept own type object (compile_flattened _ _ _ _ _ kept own type object)
      · have leaf := not_exists.1 object
        exact .misplaced kept own leaf (compile_misplaced _ _ _ _ _ kept own leaf)
    | false =>
      cases declared : field.declared with
      | error failure =>
        exact .undeclared kept own failure declared
          (compile_undeclared _ _ _ _ _ kept own failure declared)
      | ok arguments =>
        by_cases expands : ∃ type, scalars.Expands field.type.element type
        · obtain ⟨type, expands⟩ := expands
          exact .branch kept own arguments declared type expands
            (compile_branch _ _ _ _ _ kept own arguments declared type expands)
        · have leaf := not_exists.1 expands
          exact .leaf kept own arguments declared leaf
            (compile_leaf _ _ _ _ _ kept own arguments declared leaf)

end Field

/-- A run is a successful compilation of fields, each with what is below it. -/
inductive Run (schema : Schema count) (scalars : Scalars count) :
    List (Field (FieldType count)) → Draft → Draft → Prop
  | done (draft : Draft) : Run schema scalars [] draft draft
  | ignored {field : Field (FieldType count)} {rest : List (Field (FieldType count))}
      {draft after : Draft} (ignored : field.ignored = true)
      (later : Run schema scalars rest draft after) : Run schema scalars (field :: rest) draft after
  | flattened {field : Field (FieldType count)} {rest : List (Field (FieldType count))}
      {draft middle after : Draft} (kept : field.ignored = false)
      (flattened : field.flattened = true) (type : Fin count)
      (object : field.type.element = .object type)
      (inside : Run schema scalars (schema.typeAt type).fields draft middle)
      (later : Run schema scalars rest middle after) : Run schema scalars (field :: rest) draft after
  | leaf {field : Field (FieldType count)} {rest : List (Field (FieldType count))}
      {draft after : Draft} (kept : field.ignored = false) (own : field.flattened = false)
      (arguments : List Argument) (declared : field.declared = .ok arguments)
      (leaf : ∀ type, ¬scalars.Expands field.type.element type)
      (later : Run schema scalars rest
        ⟨Keyed.put draft.selection field.name (field.toProperty arguments none),
          field.declaredTypes draft.variableTypes⟩ after) :
      Run schema scalars (field :: rest) draft after
  | branch {field : Field (FieldType count)} {rest : List (Field (FieldType count))}
      {draft inner after : Draft} (kept : field.ignored = false) (own : field.flattened = false)
      (arguments : List Argument) (declared : field.declared = .ok arguments) (type : Fin count)
      (expands : scalars.Expands field.type.element type)
      (inside : Run schema scalars (schema.typeAt type).fields
        ⟨[], field.declaredTypes draft.variableTypes⟩ inner)
      (later : Run schema scalars rest
        ⟨Keyed.put draft.selection field.name (field.toProperty arguments (some inner.selection)),
          inner.variableTypes⟩ after) :
      Run schema scalars (field :: rest) draft after

/-- A loop over fields is a run if every type that it enters is. -/
theorem run_of_foldlM (schema : Schema count) (scalars : Scalars count)
    (enter : Fin count → Draft → Except Failure Draft) (owner : String)
    (entered : ∀ type draft after, enter type draft = .ok after →
      Run schema scalars (schema.typeAt type).fields draft after)
    (fields : List (Field (FieldType count))) (draft after : Draft)
    (succeeded : fields.foldlM (fun draft field => field.compile scalars enter owner draft) draft =
      .ok after) :
    Run schema scalars fields draft after := by
  induction fields generalizing draft with
  | nil =>
    cases succeeded
    exact .done _
  | cons field rest inductionHypothesis =>
    rw [List.foldlM_cons, Outcome.bind_eq_ok] at succeeded
    obtain ⟨middle, head, tail⟩ := succeeded
    have later := inductionHypothesis middle tail
    cases field.compiles_compile scalars enter owner draft with
    | ignored ignored equal =>
      rw [equal] at head
      cases head
      exact .ignored ignored later
    | flattened kept flattened type object equal =>
      rw [equal] at head
      exact .flattened kept flattened type object (entered type draft middle head) later
    | misplaced kept flattened leaf equal =>
      rw [equal] at head
      cases head
    | undeclared kept own failure failed equal =>
      rw [equal] at head
      cases head
    | leaf kept own arguments declared leaf equal =>
      rw [equal] at head
      cases head
      exact .leaf kept own arguments declared leaf later
    | branch kept own arguments declared type expands equal =>
      rw [equal] at head
      cases inner : enter type ⟨[], field.declaredTypes draft.variableTypes⟩ with
      | error failure =>
        rw [inner] at head
        cases head
      | ok inside =>
        rw [inner] at head
        cases head
        exact .branch kept own arguments declared type expands (entered type _ inside inner) later

/-- A type that is collected with success has a run of its fields. -/
theorem run_of_collect (schema : Schema count) (scalars : Scalars count) (trail : Trail count)
    (type : Fin count) (draft after : Draft)
    (succeeded : schema.collect scalars trail type draft = .ok after) :
    Run schema scalars (schema.typeAt type).fields draft after := by
  induction trail, type, draft using collect.induct generalizing after with
  | case1 trail type draft repeated =>
    rw [collect, dif_pos repeated] at succeeded
    cases succeeded
  | case2 trail type draft fresh inductionHypothesis =>
    rw [collect, dif_neg fresh] at succeeded
    exact run_of_foldlM schema scalars _ _ inductionHypothesis _ _ _ succeeded

end GraphQuery.Schema
