import GraphQuery.Proofs.Compilation.Arguments
import GraphQuery.Proofs.Declaration.Rearrangement

/-
This file shows that the layout of its attributes does not change what a declaration describes.
-/

namespace GraphQuery.Declaration

open Outcome Schema
open Annotation (readEntries)

variable {Kind : Type}

/-- Declarations differ only in their attributes, and these are related at the type and at each
field. -/
structure Relates (type field : List Annotation → List Annotation → Prop)
    (first second : Declaration Kind) : Prop where
  name : first.name = second.name
  form : first.form = second.form
  type : type first.attributes second.attributes
  fields : List.Forall₂
    (fun own other => own.name = other.name ∧ own.type = other.type ∧
      field own.attributes other.attributes) first.fields second.fields

theorem Relates.imp {type field type' field' : List Annotation → List Annotation → Prop}
    {first second : Declaration Kind} (relates : Relates type field first second)
    (typed : type first.attributes second.attributes → type' first.attributes second.attributes)
    (fielded : ∀ own ∈ first.fields, ∀ others,
      field own.attributes others → field' own.attributes others) :
    Relates type' field' first second where
  name := relates.name
  form := relates.form
  type := typed relates.type
  fields := by
    have each := (List.forall₂_and_left _ _).2 ⟨fielded, relates.fields⟩
    exact each.imp fun own other ⟨change, name, type, related⟩ =>
      ⟨name, type, change other.attributes related⟩

/-- Declarations are read alike if their attributes are. -/
theorem Relates.read_alike {Note : Type} {note : Fault → Note} {first second : Declaration Kind}
    (relates : Relates
      (fun own other =>
        Alike note (readAttributes typeStep {} own) (readAttributes typeStep {} other))
      (fun own other =>
        Alike note (readAttributes fieldStep {} own) (readAttributes fieldStep {} other))
      first second) :
    Alike note first.read second.read := by
  unfold read
  rw [← relates.form]
  split
  · rfl
  · rfl
  · refine relates.type.bind fun attributes => ?_
    have fields : Alike note (first.fields.mapM DeclaredField.read)
        (second.fields.mapM DeclaredField.read) := by
      refine Alike.mapM (relates.fields.imp fun own other ⟨name, type, alike⟩ => ?_)
      unfold DeclaredField.read
      rw [← name, ← type]
      exact alike.bind fun _ => rfl
    rw [← relates.name]
    exact fields.bind fun _ => rfl

/-- The two messages for a list that is missing, in front of something and at the end. -/
def missingListMessages : List String :=
  ["expected parentheses", "unexpected end of input, expected parentheses"]

/-- Somewhere a name that takes a list has nothing behind it. -/
def Lacks (declaration : Declaration Kind) : Prop :=
  (∃ entry ∈ listed declaration.attributes, Owner.type.lacksList entry = true) ∨
    ∃ field ∈ declaration.fields, ∃ entry ∈ listed field.attributes,
      Owner.field.lacksList entry = true

theorem Relates.regrouped_alike {Note : Type} {note : Fault → Note}
    {first second : Declaration Kind} (relates : Relates Regrouped Regrouped first second)
    (unplaced : note .endBeforeGroup = note .expectedGroup ∨ ¬first.Lacks) :
    Alike note first.read second.read := by
  have type : ∀ entry ∈ listed first.attributes, Owner.type.Unplaced note entry :=
    fun entry member => unplaced.imp_right fun complete =>
      Bool.eq_false_iff.2 fun lacks => complete (.inl ⟨entry, member, lacks⟩)
  have fields : ∀ field ∈ first.fields, ∀ entry ∈ listed field.attributes,
      Owner.field.Unplaced note entry :=
    fun field inside entry member => unplaced.imp_right fun complete =>
      Bool.eq_false_iff.2 fun lacks => complete (.inr ⟨field, inside, entry, member, lacks⟩)
  exact read_alike <| relates.imp
    (fun regrouped => regrouped.alike typeStep_placeless type {})
    fun field inside _ regrouped => regrouped.alike fieldStep_placeless (fields field inside) {}

theorem Fault.unplaced_eq {fault other : Fault} (same : fault.unplaced = other.unplaced) :
    fault = other ∨ fault.message ∈ missingListMessages ∧ other.message ∈ missingListMessages := by
  have kept : ∀ fault : Fault, fault ≠ .endBeforeGroup → fault.unplaced = fault := by
    intro fault placed
    cases fault <;> first | rfl | exact absurd rfl placed
  by_cases here : fault = .endBeforeGroup
  · subst here
    by_cases there : other = .endBeforeGroup
    · exact .inl there.symm
    · rw [kept other there] at same
      subst same
      exact .inr ⟨by decide, by decide⟩
  · by_cases there : other = .endBeforeGroup
    · subst there
      rw [kept fault here] at same
      subst same
      exact .inr ⟨by decide, by decide⟩
    · rw [kept fault here, kept other there] at same
      exact .inl same

section Collections

variable {Item : Type}

/-- The results of all entries with this keyword, in their order. -/
def collected (keyword : String) (read : Annotation → Except Fault Item)
    (entries : List Annotation) : Except Fault (List Item) :=
  (entries.filter (·.key = .name keyword)).mapM read

variable {keyword : String} {read : Annotation → Except Fault Item} {entries : List Annotation}
  {entry : Annotation}

theorem collected_append_of_ne (other : entry.key ≠ .name keyword) :
    collected keyword read (entries ++ [entry]) = collected keyword read entries := by
  simp [collected, other]

theorem collected_append_of_eq {items : List Item} {item : Item} (own : entry.key = .name keyword)
    (earlier : collected keyword read entries = .ok items) (now : read entry = .ok item) :
    collected keyword read (entries ++ [entry]) = .ok (items ++ [item]) := by
  have kept : [entry].filter (·.key = .name keyword) = [entry] := by simp [own]
  unfold collected at earlier ⊢
  rw [List.filter_append, kept, List.mapM_append, earlier, List.mapM_cons, now]
  rfl

/-- An entry with the keyword adds its item behind the others. -/
theorem map_collected_append {Result : Type} {fold : List Item → Result} {result : Result}
    {item : Item} (own : entry.key = .name keyword)
    (earlier : (collected keyword read entries).map fold = .ok result)
    (now : read entry = .ok item) :
    ∃ items, fold items = result ∧
      (collected keyword read (entries ++ [entry])).map fold = .ok (fold (items ++ [item])) := by
  obtain ⟨items, collects, folded⟩ := (map_eq_ok _ _ _).1 earlier
  refine ⟨items, folded, ?_⟩
  rw [collected_append_of_eq own collects now]
  rfl

end Collections

/-- Attributes collect what the entries with the same keyword say: lists are joined in their order,
the last property counts, and the other two have one entry at most. -/
structure FieldAttributes.Collects (attributes : FieldAttributes) (entries : List Annotation) :
    Prop where
  property : (collected "property" (readProperty true) entries).map List.getLast? =
    .ok attributes.property
  arguments : (collected "arguments" (readArguments [] true) entries).map List.flatten =
    .ok (attributes.arguments.getD [])
  argument : collected "argument" (readArgument true) entries = .ok attributes.argument.toList
  variableAttributes : (collected "variables" (readVariables [] true) entries).map List.flatten =
    .ok attributes.variableAttributes
  single : collected "variable" (readVariable true) entries = .ok attributes.single.toList

theorem FieldAttributes.Collects.step {attributes next : FieldAttributes}
    {earlier : List Annotation} {entry : Annotation} {name : String} {last : Bool}
    (collects : attributes.Collects earlier) (key : entry.key = .name name)
    (read : fieldStep attributes name last entry = .ok next) :
    next.Collects (earlier ++ [entry]) := by
  obtain ⟨property, arguments, argument, variableAttributes, single⟩ := collects
  unfold fieldStep at read
  split at read
  -- A property takes the place of the one before it.
  case h_2 =>
    obtain ⟨item, now, equal⟩ := (bind_eq_ok _ _ _).1 read
    cases equal
    have again := Agree.eq_ok (readProperty_alike (.inl rfl) last true) now
    obtain ⟨items, -, joined⟩ := map_collected_append key property again
    constructor
    case property => rw [joined]; simp
    all_goals rw [collected_append_of_ne (by simp [key])]; assumption
  -- A list is joined to the lists before it.
  case h_3 =>
    rw [← readArguments_bind] at read
    obtain ⟨item, now, equal⟩ := (bind_eq_ok _ _ _).1 read
    cases equal
    have again := Agree.eq_ok (readListed_alike _ _ _ _ (.inl rfl) last true) now
    obtain ⟨items, before, joined⟩ := map_collected_append key arguments again
    constructor
    case arguments => rw [joined]; simp [before]
    all_goals rw [collected_append_of_ne (by simp [key])]; assumption
  -- A single entry finds its place vacant, so there is none before it.
  case h_4 =>
    split at read
    · cases read
    · next vacant =>
      obtain ⟨item, now, equal⟩ := (bind_eq_ok _ _ _).1 read
      cases equal
      have again := Agree.eq_ok (readArgument_alike (.inl rfl) last true) now
      rw [Option.not_isSome_iff_eq_none.1 vacant] at argument
      constructor
      case argument => exact collected_append_of_eq key argument again
      all_goals rw [collected_append_of_ne (by simp [key])]; assumption
  case h_5 =>
    rw [← readVariables_bind] at read
    obtain ⟨item, now, equal⟩ := (bind_eq_ok _ _ _).1 read
    cases equal
    have again := Agree.eq_ok (readListed_alike _ _ _ _ (.inl rfl) last true) now
    obtain ⟨items, before, joined⟩ := map_collected_append key variableAttributes again
    constructor
    case variableAttributes => rw [joined]; simp [before]
    all_goals rw [collected_append_of_ne (by simp [key])]; assumption
  case h_6 =>
    split at read
    · cases read
    · next vacant =>
      obtain ⟨item, now, equal⟩ := (bind_eq_ok _ _ _).1 read
      cases equal
      have again := Agree.eq_ok (readVariable_alike (.inl rfl) last true) now
      rw [Option.not_isSome_iff_eq_none.1 vacant] at single
      constructor
      case single => exact collected_append_of_eq key single again
      all_goals rw [collected_append_of_ne (by simp [key])]; assumption
  case h_10 => cases read
  -- The other entries are collected nowhere.
  all_goals
    obtain ⟨item, now, equal⟩ := (bind_eq_ok _ _ _).1 read
    cases equal
    constructor
    all_goals rw [collected_append_of_ne (by simp [key])]; assumption

theorem FieldAttributes.Collects.after_entries {attributes final : FieldAttributes}
    {earlier entries : List Annotation} (collects : attributes.Collects earlier)
    (read : readEntries fieldStep attributes entries = .ok final) :
    final.Collects (earlier ++ entries) := by
  induction entries generalizing attributes earlier with
  | nil =>
    cases read
    simpa using collects
  | cons entry rest inductionHypothesis =>
    rw [readEntries] at read
    split at read
    · cases read
    · cases read
    · next name key =>
      obtain ⟨next, now, later⟩ := (bind_eq_ok _ _ _).1 read
      simpa using inductionHypothesis (collects.step key now) later

theorem FieldAttributes.Collects.after_attributes {start final : FieldAttributes}
    {earlier attributes : List Annotation} (collects : start.Collects earlier)
    (read : readAttributes fieldStep start attributes = .ok final) :
    final.Collects (earlier ++ listed attributes) := by
  induction attributes generalizing start earlier with
  | nil =>
    cases read
    simpa [listed] using collects
  | cons head rest inductionHypothesis =>
    rw [listed_cons, ← List.append_assoc]
    by_cases named : head.key = .name attributeName
    · cases head with
      | group key entries =>
        cases named
        rw [readAttributes_group] at read
        obtain ⟨next, now, later⟩ := (bind_eq_ok _ _ _).1 read
        have own : listed [.group (.name attributeName) entries] = entries := by simp [listed]
        rw [own]
        exact inductionHypothesis (collects.after_entries now) later
      | bare _ | assigned _ _ | followed _ =>
        rw [readAttributes, List.foldlM_cons, if_pos named] at read
        cases read
    · rw [readAttributes_foreign _ _ _ named] at read
      rw [listed_foreign named, List.append_nil]
      exact inductionHypothesis collects read

/-- A field merges what its entries say, wherever they stand: lists of variables come before the
single variable, and the arguments of the last property come first, those of the lists next and the
single argument last. -/
structure Merges (entries : List Annotation) (field : Schema.Field (Option Kind)) : Prop where
  variableAttributes : ∃ lists singles,
    collected "variables" (readVariables [] true) entries = .ok lists ∧
    collected "variable" (readVariable true) entries = .ok singles ∧ singles.length ≤ 1 ∧
    field.variableAttributes = lists.flatten ++ singles
  arguments : ∃ properties lists singles,
    collected "property" (readProperty true) entries = .ok properties ∧
    collected "arguments" (readArguments [] true) entries = .ok lists ∧
    collected "argument" (readArgument true) entries = .ok singles ∧ singles.length ≤ 1 ∧
    field.declared = do
      let given ← ((properties.getLast?.map PropertyAttribute.arguments).getD [] ++ lists.flatten ++
        singles).mapM ArgumentAttribute.argument
      return given ++ field.boundArguments

theorem DeclaredField.merges (field : DeclaredField Kind) (result : Schema.Field (Option Kind))
    (read : field.read = .ok result) : Merges (listed field.attributes) result := by
  obtain ⟨attributes, collects, equal⟩ := (bind_eq_ok _ _ _).1 read
  cases equal
  have nothing : FieldAttributes.Collects {} [] := ⟨rfl, rfl, rfl, rfl, rfl⟩
  obtain ⟨property, arguments, argument, variableAttributes, single⟩ :=
    nothing.after_attributes collects
  obtain ⟨declared, listsOfVariables, joinedVariables⟩ := (map_eq_ok _ _ _).1 variableAttributes
  obtain ⟨properties, allProperties, lastProperty⟩ := (map_eq_ok _ _ _).1 property
  obtain ⟨lists, listsOfArguments, joinedArguments⟩ := (map_eq_ok _ _ _).1 arguments
  constructor
  · exact ⟨declared, attributes.single.toList, listsOfVariables, single, Option.length_toList_le,
      by rw [joinedVariables]⟩
  · refine ⟨properties, lists, attributes.argument.toList, allProperties, listsOfArguments,
      argument, Option.length_toList_le, ?_⟩
    rw [Field.declared_eq, Field.attributes, lastProperty, joinedArguments]

def graphql (entries : List Annotation) : Annotation := .group (.name attributeName) entries

def variableEntry (name type : String) : Annotation :=
  .group (.name "variable")
    [.assigned (.name "name") (.text name), .assigned (.name "scalar") (.text type)]

/-- A field with these attributes. -/
def posts (attributes : List Annotation) : DeclaredField Unit := ⟨"posts", (), attributes⟩

def user (attributes : List Annotation) : Declaration Unit :=
  ⟨"User", .namedFields, [], [posts attributes]⟩

end GraphQuery.Declaration
