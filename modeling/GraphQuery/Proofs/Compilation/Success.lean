import GraphQuery.Proofs.Compilation.Arguments
import GraphQuery.Proofs.Compilation.Run
import GraphQuery.Proofs.Compilation.Unfolding
import Mathlib.Logic.Relation

/-
This file shows which schemas compile and which failures the others meet.
-/

namespace GraphQuery.Schema

variable {count : Nat}

/-- Compilation continues with the object of a kept field if the field is flattened or the object is
not registered. -/
def Field.Enters (scalars : Scalars count) (field : Field (FieldType count))
    (target : Fin count) : Prop :=
  field.ignored = false ∧ field.type.element = .object target ∧
    (field.flattened = true ∨ Element.object target ∉ scalars.elements)

/-- Types are joined by their identities, so types of one name are different. -/
def Leads (schema : Schema count) (scalars : Scalars count) (source target : Fin count) : Prop :=
  ∃ field ∈ (schema.typeAt source).fields, field.Enters scalars target

/-- Every type reaches itself, registered or not. -/
def Reaches (schema : Schema count) (scalars : Scalars count) : Fin count → Fin count → Prop :=
  Relation.ReflTransGen (schema.Leads scalars)

/-- A type on a cycle leads back to itself in one step or more. -/
def OnCycle (schema : Schema count) (scalars : Scalars count) (type : Fin count) : Prop :=
  Relation.TransGen (schema.Leads scalars) type type

def IsAcyclic (schema : Schema count) (scalars : Scalars count) (root : Fin count) : Prop :=
  ∀ type, schema.Reaches scalars root type → ¬schema.OnCycle scalars type

/-- This property of a field holds below a root if each kept field of a reached type has it. -/
def EachField (schema : Schema count) (scalars : Scalars count) (root : Fin count)
    (holds : Field (FieldType count) → Prop) : Prop :=
  ∀ type, schema.Reaches scalars root type →
    ∀ field ∈ (schema.typeAt type).fields, field.ignored = false → holds field

/-- Only objects have fields that can stand in place of a flattened one. -/
def Field.FlattensObject (field : Field (FieldType count)) : Prop :=
  field.flattened = true → ∃ type, field.type.element = .object type

/-- The attributes of a flattened field are not read. -/
def Field.Coerces (field : Field (FieldType count)) : Prop :=
  field.flattened = false → ∀ source ∈ field.attributes, source.Coerces

def FlattensObjects (schema : Schema count) (scalars : Scalars count) (root : Fin count) : Prop :=
  schema.EachField scalars root Field.FlattensObject

/-- The declared values of the reached fields and of the wrapper are of their kinds. -/
def CoercesValues (schema : Schema count) (scalars : Scalars count) (root : Fin count) : Prop :=
  schema.EachField scalars root Field.Coerces ∧
    ∀ wrapper, (schema.typeAt root).wrapper? = some wrapper →
      ∀ source ∈ wrapper.arguments, source.Coerces

/-- A type is settled if its kept fields are in order and it leads to settled types only. -/
inductive Settled (schema : Schema count) (scalars : Scalars count) : Fin count → Prop
  | intro {type : Fin count}
      (sound : ∀ field ∈ (schema.typeAt type).fields, field.ignored = false →
        field.FlattensObject ∧ field.Coerces)
      (onward : ∀ target, schema.Leads scalars type target → Settled schema scalars target) :
      Settled schema scalars type

namespace Settled

variable {schema : Schema count} {scalars : Scalars count} {type target : Fin count}

theorem reached (settled : Settled schema scalars type)
    (reaches : schema.Reaches scalars type target) : Settled schema scalars target := by
  induction reaches with
  | refl => exact settled
  | tail _ leads inductionHypothesis =>
    obtain ⟨_, onward⟩ := inductionHypothesis
    exact onward _ leads

/-- The second type of a cycle would be on it as well. -/
theorem not_onCycle (settled : Settled schema scalars type) : ¬schema.OnCycle scalars type := by
  induction settled with
  | intro _ _ inductionHypothesis =>
    intro cycle
    obtain ⟨next, leads, back⟩ := Relation.TransGen.head'_iff.1 cycle
    exact inductionHypothesis next leads (Relation.TransGen.tail' back leads)

end Settled

/-- A kept field settles what it enters, and is in order itself. -/
def Field.Settles (schema : Schema count) (scalars : Scalars count)
    (field : Field (FieldType count)) : Prop :=
  field.ignored = false → (field.FlattensObject ∧ field.Coerces) ∧
    ∀ target, field.Enters scalars target → Settled schema scalars target

theorem settled_of_fields {schema : Schema count} {scalars : Scalars count} {type : Fin count}
    (each : ∀ field ∈ (schema.typeAt type).fields, field.Settles schema scalars) :
    Settled schema scalars type := by
  refine .intro (fun field member kept => (each field member kept).1) ?_
  rintro target ⟨field, member, enters⟩
  exact (each field member enters.1).2 target enters

theorem Field.sound_of_declared (field : Field (FieldType count)) (own : field.flattened = false)
    (arguments : List Argument) (declared : field.declared = .ok arguments) :
    field.FlattensObject ∧ field.Coerces := by
  constructor
  · intro flattened
    rw [own] at flattened
    cases flattened
  · intro _
    exact field.declared_iff.1 ⟨arguments, declared⟩

/-- A run settles every type that one of its fields enters, since the fields of an entered type are
those of an inner run. -/
theorem Run.settles {schema : Schema count} {scalars : Scalars count}
    {fields : List (Field (FieldType count))} {draft after : Draft}
    (run : Run schema scalars fields draft after) :
    ∀ field ∈ fields, field.Settles schema scalars := by
  induction run with
  | done draft => simp
  | ignored ignored _ inductionHypothesis =>
    rw [List.forall_mem_cons]
    refine ⟨fun kept => ?_, inductionHypothesis⟩
    rw [ignored] at kept
    cases kept
  | flattened kept flattened type object _ _ innerHypothesis laterHypothesis =>
    rw [List.forall_mem_cons]
    refine ⟨fun _ => ⟨⟨fun _ => ⟨type, object⟩, fun own => ?_⟩, ?_⟩, laterHypothesis⟩
    · rw [flattened] at own
      cases own
    · rintro target ⟨-, same, -⟩
      rw [object] at same
      cases same
      exact settled_of_fields innerHypothesis
  | @leaf field _ _ _ kept own arguments declared leaf _ inductionHypothesis =>
    rw [List.forall_mem_cons]
    have sound := field.sound_of_declared own arguments declared
    refine ⟨fun _ => ⟨sound, ?_⟩, inductionHypothesis⟩
    rintro target ⟨-, object, flattened | unregistered⟩
    · rw [own] at flattened
      cases flattened
    · exact absurd ⟨object, unregistered⟩ (leaf target)
  | @branch field _ _ _ _ kept own arguments declared type expands _ _ innerHypothesis
      laterHypothesis =>
    rw [List.forall_mem_cons]
    have sound := field.sound_of_declared own arguments declared
    refine ⟨fun _ => ⟨sound, ?_⟩, laterHypothesis⟩
    rintro target ⟨-, same, -⟩
    rw [expands.1] at same
    cases same
    exact settled_of_fields innerHypothesis

theorem settled_of_collect (schema : Schema count) (scalars : Scalars count) (trail : Trail count)
    (type : Fin count) (draft after : Draft)
    (succeeded : schema.collect scalars trail type draft = .ok after) :
    Settled schema scalars type := by
  have run := run_of_collect schema scalars trail type draft after succeeded
  exact settled_of_fields run.settles

/-- A failure comes from a type that is entered again or from a kept field that is not in order. -/
inductive Blames (schema : Schema count) (scalars : Scalars count) (trail : Trail count)
    (type : Fin count) : Failure → Prop
  | cycle (names : List String) (repeated : Fin count)
      (reaches : schema.Reaches scalars type repeated)
      (closes : repeated ∈ trail.visited ∨ schema.OnCycle scalars repeated) :
      Blames schema scalars trail type (.cyclicSchema names)
  | field {failure : Failure} (other : ∀ names, failure ≠ .cyclicSchema names)
      (reached : Fin count) (reaches : schema.Reaches scalars type reached)
      (field : Field (FieldType count)) (member : field ∈ (schema.typeAt reached).fields)
      (kept : field.ignored = false) (unsound : ¬(field.FlattensObject ∧ field.Coerces)) :
      Blames schema scalars trail type failure

/-- What is blamed for an entered type is blamed for the type that enters it, and a return to the
latter is a cycle. -/
theorem Blames.enter {schema : Schema count} {scalars : Scalars count} {trail : Trail count}
    {type target : Fin count} {fresh : type ∉ trail.visited} {failure : Failure}
    (leads : schema.Leads scalars type target)
    (blames : Blames schema scalars (trail.push type fresh) target failure) :
    Blames schema scalars trail type failure := by
  cases blames with
  | cycle names repeated reaches closes =>
    have onward := Relation.ReflTransGen.head leads reaches
    rcases closes with visited | cycle
    · rcases List.mem_cons.1 visited with rfl | earlier
      · exact .cycle names repeated .refl (.inr (Relation.TransGen.head' leads reaches))
      · exact .cycle names repeated onward (.inl earlier)
    · exact .cycle names repeated onward (.inr cycle)
  | field other reached reaches field member kept unsound =>
    exact .field other reached (.head leads reaches) field member kept unsound

/-- Every failure of the compilation of a type can be blamed. -/
theorem blames_of_collect (schema : Schema count) (scalars : Scalars count) (trail : Trail count)
    (type : Fin count) (draft : Draft) (failure : Failure)
    (failed : schema.collect scalars trail type draft = .error failure) :
    Blames schema scalars trail type failure := by
  induction trail, type, draft using collect.induct with
  | case1 trail type draft repeated =>
    rw [collect, dif_pos repeated] at failed
    cases failed
    exact .cycle _ type .refl (.inl repeated)
  | case2 trail type draft fresh inductionHypothesis =>
    rw [collect, dif_neg fresh] at failed
    obtain ⟨field, member, state, met⟩ := Outcome.exists_of_foldlM_eq_error _ _ _ _ failed
    cases field.compiles_compile scalars (schema.collect scalars (trail.push type fresh))
        (schema.typeAt type).name state with
    | ignored _ equal =>
      rw [equal] at met
      cases met
    | flattened kept flattened target object equal =>
      rw [equal] at met
      have leads : schema.Leads scalars type target :=
        ⟨field, member, kept, object, .inl flattened⟩
      exact .enter leads (inductionHypothesis target state met)
    | misplaced kept flattened leaf equal =>
      rw [equal] at met
      cases met
      refine .field (by simp) type .refl field member kept fun sound => ?_
      obtain ⟨target, object⟩ := sound.1 flattened
      exact leaf target object
    | undeclared kept own problem rejected equal =>
      rw [equal] at met
      cases met
      obtain ⟨name, text, kind, rfl⟩ := field.eq_notCoercible failure rejected
      refine .field (by simp) type .refl field member kept fun sound => ?_
      obtain ⟨arguments, declared⟩ := field.declared_iff.2 (sound.2 own)
      rw [declared] at rejected
      cases rejected
    | leaf _ _ _ _ _ equal =>
      rw [equal] at met
      cases met
    | branch kept own arguments declared target expands equal =>
      rw [equal, Outcome.map_eq_error] at met
      have leads : schema.Leads scalars type target :=
        ⟨field, member, kept, expands.1, .inr expands.2⟩
      exact .enter leads (inductionHypothesis target _ met)

/-- The wrapper is read once the selection is complete. -/
theorem compile_eq_error (schema : Schema count) (scalars : Scalars count) (root : Fin count)
    (failure : Failure) (failed : schema.compile scalars root = .error failure) :
    Blames schema scalars .empty root failure ∨
      ∃ wrapper, (schema.typeAt root).wrapper? = some wrapper ∧
        wrapper.declared = .error failure := by
  rw [compile, Outcome.bind_eq_error] at failed
  rcases failed with collecting | ⟨draft, -, finishing⟩
  · exact .inl (blames_of_collect schema scalars .empty root _ failure collecting)
  · dsimp only at finishing
    rw [ObjectType.topProperty?_eq] at finishing
    cases wrapped : (schema.typeAt root).wrapper? with
    | none =>
      rw [wrapped] at finishing
      cases finishing
    | some wrapper =>
      rw [wrapped] at finishing
      rcases (Outcome.bind_eq_error _ _ _).1 finishing with rejected | ⟨arguments, -, impossible⟩
      · exact .inr ⟨wrapper, rfl, rejected⟩
      · cases impossible

/-- A schema that compiles has a settled root and a wrapper with values of their kinds. -/
theorem settled_of_compile (schema : Schema count) (scalars : Scalars count) (root : Fin count)
    (compiled : Compiled) (succeeded : schema.compile scalars root = .ok compiled) :
    Settled schema scalars root ∧
      ∀ wrapper, (schema.typeAt root).wrapper? = some wrapper →
        ∀ source ∈ wrapper.arguments, source.Coerces := by
  rw [compile, Outcome.bind_eq_ok] at succeeded
  obtain ⟨draft, collected, finished⟩ := succeeded
  refine ⟨settled_of_collect schema scalars .empty root _ draft collected, ?_⟩
  intro wrapper wrapped
  dsimp only at finished
  rw [ObjectType.topProperty?_eq, wrapped] at finished
  obtain ⟨arguments, declared, -⟩ := (Outcome.bind_eq_ok _ _ _).1 finished
  exact (exists_mapM_argument_iff _).1 ⟨arguments, declared⟩

section

variable {schema : Schema count} {scalars : Scalars count} {root : Fin count}

theorem ordered_of_compile (compiled : Compiled)
    (succeeded : schema.compile scalars root = .ok compiled) :
    schema.IsAcyclic scalars root ∧ schema.FlattensObjects scalars root ∧
      schema.CoercesValues scalars root := by
  obtain ⟨settled, wrapper⟩ := settled_of_compile schema scalars root compiled succeeded
  refine ⟨fun type reaches => (settled.reached reaches).not_onCycle, ?_, ?_, wrapper⟩
  · intro type reaches field member kept
    obtain ⟨sound, -⟩ := settled.reached reaches
    exact (sound field member kept).1
  · intro type reaches field member kept
    obtain ⟨sound, -⟩ := settled.reached reaches
    exact (sound field member kept).2

/-- Fields and values that are in order leave only cycles to blame. -/
theorem eq_cyclicSchema_of_compile (flattens : schema.FlattensObjects scalars root)
    (coerces : schema.CoercesValues scalars root) (failure : Failure)
    (failed : schema.compile scalars root = .error failure) :
    ∃ names, failure = .cyclicSchema names := by
  rcases compile_eq_error schema scalars root failure failed with blames |
    ⟨wrapper, wrapped, rejected⟩
  · cases blames with
    | cycle names => exact ⟨names, rfl⟩
    | field _ reached reaches field member kept unsound =>
      have flattensObject := flattens reached reaches field member kept
      have coercesOwn := coerces.1 reached reaches field member kept
      exact absurd ⟨flattensObject, coercesOwn⟩ unsound
  · obtain ⟨arguments, declared⟩ :=
      (exists_mapM_argument_iff wrapper.arguments).2 (coerces.2 wrapper wrapped)
    rw [PropertyAttribute.declared, declared] at rejected
    cases rejected

/-- The empty trail of the root holds no type, so a cycle that is reported is one of the schema. -/
theorem compile_ne_cyclicSchema (acyclic : schema.IsAcyclic scalars root) (names : List String) :
    schema.compile scalars root ≠ .error (.cyclicSchema names) := by
  intro failed
  rcases compile_eq_error schema scalars root _ failed with blames | ⟨wrapper, -, rejected⟩
  · cases blames with
    | cycle _ repeated reaches closes =>
      rcases closes with visited | cycle
      · cases visited
      · exact acyclic repeated reaches cycle
    | field other => exact other names rfl
  · obtain ⟨name, text, kind, impossible⟩ := eq_notCoercible_of_mapM _ _ rejected
    cases impossible

end

/-- Compilation ends for every schema, since no trail holds a type twice. It succeeds exactly if no
reached type is on a cycle, every flattened field has an object and every value is of its kind. The
first of these is the only one that a cyclic schema is reported for, and nothing else is reported if
it is the only one that fails. -/
theorem compile_succeeds_iff (schema : Schema count) (scalars : Scalars count) (root : Fin count) :
    ((∃ compiled, schema.compile scalars root = .ok compiled) ↔
      schema.IsAcyclic scalars root ∧ schema.FlattensObjects scalars root ∧
        schema.CoercesValues scalars root) ∧
    (schema.FlattensObjects scalars root → schema.CoercesValues scalars root →
      ∀ failure, schema.compile scalars root = .error failure →
        ∃ names, failure = .cyclicSchema names) ∧
    (schema.IsAcyclic scalars root →
      ∀ names, schema.compile scalars root ≠ .error (.cyclicSchema names)) := by
  refine ⟨⟨?_, ?_⟩, eq_cyclicSchema_of_compile, compile_ne_cyclicSchema⟩
  · rintro ⟨compiled, succeeded⟩
    exact ordered_of_compile compiled succeeded
  · rintro ⟨acyclic, flattens, coerces⟩
    cases outcome : schema.compile scalars root with
    | ok compiled => exact ⟨compiled, rfl⟩
    | error failure =>
      obtain ⟨names, rfl⟩ := eq_cyclicSchema_of_compile flattens coerces failure outcome
      exact absurd outcome (compile_ne_cyclicSchema acyclic names)

end GraphQuery.Schema
