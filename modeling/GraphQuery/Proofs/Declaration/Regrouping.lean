import GraphQuery.Proofs.Declaration.Faults
import GraphQuery.Proofs.Outcome
import Mathlib.Logic.Relation

/-
This file shows that the reader of attributes does not see how their entries are grouped.
-/

namespace GraphQuery.Declaration

open Outcome
open Annotation (readEntries)

/-- One list of entries is cut in two, a list without entries comes in, or an attribute does that is
not read. -/
inductive Regroups : List Annotation → List Annotation → Prop
  | split (before after first second : List Annotation) :
    Regroups (before ++ .group (.name attributeName) (first ++ second) :: after)
      (before ++ .group (.name attributeName) first :: .group (.name attributeName) second :: after)
  | empty (before after : List Annotation) :
    Regroups (before ++ after) (before ++ .group (.name attributeName) [] :: after)
  | foreign (before after : List Annotation) (other : Annotation)
      (unread : other.key ≠ .name attributeName) :
    Regroups (before ++ after) (before ++ other :: after)

/-- Attributes are regrouped in any number of such steps, forth and back. -/
def Regrouped : List Annotation → List Annotation → Prop := Relation.EqvGen Regroups

/-- The forms of the entries that hold a list. -/
def Form.isList : Form → Bool
  | .list _ | .property => true
  | .text | .kind | .method | .flag => false

/-- A name lacks its list if nothing follows it. -/
def Owner.lacksList (owner : Owner) : Annotation → Bool
  | .bare (.name name) => (Keyed.valueAt? owner.forms name).any Form.isList
  | _ => false

/-- The fault without the place where a list is missing, at the end or in front of something. -/
def Fault.unplaced : Fault → Fault
  | .endBeforeGroup => .expectedGroup
  | fault => fault

section Places

variable {Note State : Type} {note : Fault → Note} {entry : Annotation}

/-- A note does not tell of an entry where it stands if the entry is more than a bare key or the
note says the same of both faults for a missing list. -/
def Annotation.Unplaced (entry : Annotation) (note : Fault → Note) : Prop :=
  note .endBeforeGroup = note .expectedGroup ∨ ∀ key, entry ≠ .bare key

theorem entries_alike (unplaced : entry.Unplaced note) (last other : Bool) :
    Alike note (entry.entries last) (entry.entries other) := by
  cases entry with
  | bare key =>
    have same := unplaced.resolve_right fun apart => apart key rfl
    cases last <;> cases other <;> simp [Alike, Annotation.entries, Except.mapError, same]
  | group key entries => cases entries <;> rfl
  | assigned _ _ | followed _ => rfl

theorem readArgument_alike (unplaced : entry.Unplaced note) (last other : Bool) :
    Alike note (readArgument last entry) (readArgument other entry) :=
  (entries_alike unplaced last other).bind fun _ => rfl

theorem readVariable_alike (unplaced : entry.Unplaced note) (last other : Bool) :
    Alike note (readVariable last entry) (readVariable other entry) :=
  (entries_alike unplaced last other).bind fun _ => rfl

theorem readListed_alike {Item : Type} (owner : Owner) (item : String)
    (read : Bool → Annotation → Except Fault Item) (before : List Item)
    (unplaced : entry.Unplaced note) (last other : Bool) :
    Alike note (readListed owner item read before last entry)
      (readListed owner item read before other entry) :=
  (entries_alike unplaced last other).bind fun _ => rfl

theorem readProperty_alike (unplaced : entry.Unplaced note) (last other : Bool) :
    Alike note (readProperty last entry) (readProperty other entry) := by
  cases entry with
  | assigned _ _ => rfl
  | bare _ | group _ _ | followed _ => exact (entries_alike unplaced last other).bind fun _ => rfl

theorem readOperation_alike (unplaced : entry.Unplaced note) (last other : Bool) :
    Alike note (readOperation last entry) (readOperation other entry) :=
  (entries_alike unplaced last other).bind fun _ => rfl

/-- For an owner this is so of every entry that does not lack its list. -/
def Owner.Unplaced (owner : Owner) (note : Fault → Note) (entry : Annotation) : Prop :=
  note .endBeforeGroup = note .expectedGroup ∨ owner.lacksList entry = false

theorem Owner.Unplaced.of_list {owner : Owner} {name : String}
    (unplaced : owner.Unplaced note entry) (key : entry.key = .name name)
    (list : (Keyed.valueAt? owner.forms name).any Form.isList = true) :
    entry.Unplaced note := by
  refine unplaced.imp_right fun present other bare => ?_
  subst bare
  cases key
  simp [lacksList, list] at present

/-- A step takes an entry for the same wherever it stands. -/
def Owner.Placeless (owner : Owner) (note : Fault → Note)
    (step : State → String → Bool → Annotation → Except Fault State) : Prop :=
  ∀ state name last other entry, entry.key = .name name → owner.Unplaced note entry →
    Alike note (step state name last entry) (step state name other entry)

theorem typeStep_placeless : Owner.type.Placeless note typeStep := by
  intro attributes name last other entry key unplaced
  unfold typeStep
  split
  · exact (readProperty_alike (unplaced.of_list key rfl) last other).bind fun _ => rfl
  · exact (readOperation_alike (unplaced.of_list key rfl) last other).bind fun _ => rfl
  · rfl

theorem fieldStep_placeless : Owner.field.Placeless note fieldStep := by
  intro attributes name last other entry key unplaced
  unfold fieldStep
  split
  · rfl
  · exact (readProperty_alike (unplaced.of_list key rfl) last other).bind fun _ => rfl
  · exact (readListed_alike _ _ _ _ (unplaced.of_list key rfl) last other).bind fun _ => rfl
  · split
    · rfl
    · exact (readArgument_alike (unplaced.of_list key rfl) last other).bind fun _ => rfl
  · exact (readListed_alike _ _ _ _ (unplaced.of_list key rfl) last other).bind fun _ => rfl
  · split
    · rfl
    · exact (readVariable_alike (unplaced.of_list key rfl) last other).bind fun _ => rfl
  · rfl
  · rfl
  · rfl
  · rfl

end Places

section Rows

variable {Note State : Type} {note : Fault → Note} {owner : Owner}
  {step : State → String → Bool → Annotation → Except Fault State}

/-- A row of entries can be read in two parts. -/
theorem readEntries_append (placeless : owner.Placeless note step) (state : State)
    (first second : List Annotation) (unplaced : ∀ entry ∈ first, owner.Unplaced note entry) :
    Alike note (readEntries step state (first ++ second))
      (readEntries step state first >>= fun next =>
        readEntries step next second) := by
  induction first generalizing state with
  | nil => rfl
  | cons entry rest inductionHypothesis =>
    rw [List.cons_append, readEntries, readEntries]
    cases key : entry.key with
    | literal | symbol => rfl
    | name name =>
      dsimp only
      rw [bind_assoc]
      -- The last entry of the first part may have others behind it in the whole row.
      refine (placeless state name _ _ entry key (unplaced entry List.mem_cons_self)).bind
        fun next => ?_
      exact inductionHypothesis next fun other member =>
        unplaced other (List.mem_cons_of_mem _ member)

theorem readAttributes_append (state : State) (first second : List Annotation) :
    readAttributes step state (first ++ second) =
      readAttributes step state first >>= fun next => readAttributes step next second :=
  List.foldlM_append

theorem readAttributes_group (state : State) (entries rest : List Annotation) :
    readAttributes step state (.group (.name attributeName) entries :: rest) =
      readEntries step state entries >>= fun next => readAttributes step next rest := by
  rw [readAttributes, List.foldlM_cons, Annotation.key, if_pos rfl]
  rfl

theorem readAttributes_foreign (state : State) (other : Annotation) (rest : List Annotation)
    (unread : other.key ≠ .name attributeName) :
    readAttributes step state (other :: rest) = readAttributes step state rest := by
  rw [readAttributes, List.foldlM_cons, if_neg unread]
  rfl

theorem listed_foreign {other : Annotation} (unread : other.key ≠ .name attributeName) :
    listed [other] = [] := by
  cases other with
  | group key entries =>
    have apart : key ≠ .name attributeName := unread
    simp [listed, apart]
  | bare _ | assigned _ _ | followed _ => rfl

theorem Regroups.listed_eq {attributes others : List Annotation}
    (regroups : Regroups attributes others) : listed others = listed attributes := by
  cases regroups with
  | split before after first second => simp [listed]
  | empty before after => simp [listed]
  | foreign before after other unread =>
    have own := listed_foreign unread
    simp only [listed, List.flatMap_append, List.flatMap_cons, List.flatMap_nil,
      List.append_nil] at own ⊢
    rw [own, List.nil_append]

/-- A step of regrouping changes what is read at most in the place of a missing list. -/
theorem Regroups.alike {attributes others : List Annotation}
    (regroups : Regroups attributes others) (placeless : owner.Placeless note step)
    (unplaced : ∀ entry ∈ listed attributes, owner.Unplaced note entry) (state : State) :
    Alike note (readAttributes step state attributes) (readAttributes step state others) := by
  cases regroups with
  | split before after first second =>
    rw [readAttributes_append, readAttributes_append]
    refine Alike.bind rfl fun next => ?_
    rw [readAttributes_group, readAttributes_group]
    simp only [readAttributes_group]
    rw [← bind_assoc]
    refine (readEntries_append placeless next first second fun entry member => ?_).bind
      fun _ => rfl
    exact unplaced entry (by simp [listed, member])
  | empty before after =>
    rw [readAttributes_append, readAttributes_append]
    exact Alike.bind rfl fun _ => rfl
  | foreign before after other unread =>
    simp only [readAttributes_append, readAttributes_foreign _ other after unread]
    rfl

theorem Regrouped.listed_eq {attributes others : List Annotation}
    (regrouped : Regrouped attributes others) : listed others = listed attributes := by
  induction regrouped with
  | rel first second regroups => exact regroups.listed_eq
  | refl => rfl
  | symm _ _ _ inductionHypothesis => exact inductionHypothesis.symm
  | trans _ _ _ _ _ earlier later => exact later.trans earlier

/-- However the entries are grouped, the same is read but for the place of a missing list. -/
theorem Regrouped.alike {attributes others : List Annotation}
    (regrouped : Regrouped attributes others) (placeless : owner.Placeless note step)
    (unplaced : ∀ entry ∈ listed attributes, owner.Unplaced note entry) (state : State) :
    Alike note (readAttributes step state attributes) (readAttributes step state others) := by
  induction regrouped with
  | rel first second regroups => exact regroups.alike placeless unplaced state
  | refl => rfl
  | symm first second related inductionHypothesis =>
    have same : listed second = listed first := Regrouped.listed_eq related
    exact (inductionHypothesis (same ▸ unplaced)).symm
  | trans first second third related _ earlier later =>
    have same : listed second = listed first := Regrouped.listed_eq related
    exact (earlier unplaced).trans (later (same ▸ unplaced))

end Rows

end GraphQuery.Declaration
