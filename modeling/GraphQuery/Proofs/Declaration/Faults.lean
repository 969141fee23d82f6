import GraphQuery.Proofs.Declaration.Grammar
import GraphQuery.Proofs.Keyed

/-
This file lists the faults of declarations that do not follow the grammar.
-/

namespace GraphQuery.Declaration

/-- The required names that are missing in a list. -/
def Owner.missing (owner : Owner) (present : List Key) : List Fault :=
  (owner.required.filter fun name => Key.name name ∉ present).map (Fault.missing owner)

/-- The faults of an entry that has a key and comes after others with the earlier keys.
What follows the key is judged by the form that the name asks for. -/
def Owner.keyFaults (owner : Owner) (earlier : List Key) (judge : Form → List Fault) :
    Key → List Fault
  | .literal => [.literalKey]
  | .symbol => [.symbolKey]
  | .name name =>
    match Keyed.valueAt? owner.forms name with
    | none => [.unknownName owner]
    | some form =>
      match Keyed.valueAt? owner.single name with
      | some repeated => if Key.name name ∈ earlier then [.repeated repeated] else judge form
      | none => judge form

/-- A list is not empty, and what is missing in it shows at its end. -/
def Owner.listFaults (owner : Owner) (entries : List Annotation) (each : List Fault) :
    List Fault :=
  if entries.isEmpty then [.emptyGroup]
  else each ++ owner.missing (entries.map Annotation.key)

mutual

/-- The faults of an annotation that should have a form, in the order of the text.
The flag `last` says that nothing follows the annotation. -/
def Form.faults (form : Form) (last : Bool) : Annotation → List Fault
  | .bare _ =>
    match form with
    | .flag => []
    | .list _ | .property => [if last then .endBeforeGroup else .expectedGroup]
    | .text | .kind | .method => [.expectedAssignment]
  | .assigned _ value =>
    match form, value with
    | .text, .text _ | .property, .text _ | .flag, .flag _ => []
    | .kind, .text word => if lowered word ∈ kindWords then [] else [.unknownKind (lowered word)]
    | .method, .text word =>
      if lowered word ∈ methodWords then [] else [.unknownMethod (lowered word)]
    | .flag, _ => [.expectedFlag]
    | .list _, _ => [.expectedGroup]
    | _, _ => [.expectedText]
  | .group _ entries =>
    match form with
    | .list owner => owner.listFaults entries (owner.entryFaults [] entries)
    | .property => Owner.property.listFaults entries (Owner.property.entryFaults [] entries)
    | .flag => [.expectedSeparator]
    | .text | .kind | .method => [.expectedAssignment]
  | .followed _ =>
    match form with
    | .flag => [.expectedSeparator]
    | .list _ | .property => [.expectedGroup]
    | .text | .kind | .method => [.expectedAssignment]

/-- The faults of entries that come after others with the earlier keys. -/
def Owner.entryFaults (owner : Owner) (earlier : List Key) : List Annotation → List Fault
  | [] => []
  | entry :: rest =>
    owner.keyFaults earlier (fun form => form.faults rest.isEmpty entry) entry.key ++
      owner.entryFaults (earlier ++ [entry.key]) rest

end

/-- The faults of attributes that come after others with entries of the earlier keys. -/
def Owner.attributeFaults (owner : Owner) (earlier : List Key) : List Annotation → List Fault
  | [] => []
  | annotation :: rest =>
    if annotation.key = .name attributeName then
      match annotation with
      | .bare _ | .followed _ => .bareAttribute :: owner.attributeFaults earlier rest
      | .assigned _ _ => .assignedAttribute :: owner.attributeFaults earlier rest
      | .group _ entries =>
        owner.entryFaults earlier entries ++
          owner.attributeFaults (earlier ++ entries.map Annotation.key) rest
    else owner.attributeFaults earlier rest

variable {Kind : Type}

/-- The attributes of the type come before those of its fields. -/
def faults (declaration : Declaration Kind) : List Fault :=
  match declaration.form with
  | .unnamedFields => [.unnamedFields]
  | .alternatives => [.noStruct]
  | .namedFields =>
    Owner.type.attributeFaults [] declaration.attributes ++
      declaration.fields.flatMap fun field => Owner.field.attributeFaults [] field.attributes

theorem Owner.missing_eq_nil (owner : Owner) (present : List Key) :
    owner.missing present = [] ↔ ∀ name ∈ owner.required, Key.name name ∈ present := by
  simp [Owner.missing, List.filter_eq_nil_iff]

theorem Owner.keyFaults_eq_nil (owner : Owner) (earlier : List Key) (judge : Form → List Fault)
    (key : Key) :
    owner.keyFaults earlier judge key = [] ↔
      (∃ name form, key = .name name ∧ Keyed.valueAt? owner.forms name = some form ∧
        judge form = []) ∧
      ∀ name ∈ Keyed.keys owner.single, key = .name name → Key.name name ∉ earlier := by
  cases key with
  | literal => simp [Owner.keyFaults]
  | symbol => simp [Owner.keyFaults]
  | name name =>
    have inner : owner.keyFaults earlier judge (.name name) = [] ↔
        (∃ form, Keyed.valueAt? owner.forms name = some form ∧ judge form = []) ∧
          (name ∈ Keyed.keys owner.single → Key.name name ∉ earlier) := by
      cases known : Keyed.valueAt? owner.forms name with
      | none => simp [Owner.keyFaults, known]
      | some form =>
        by_cases single : name ∈ Keyed.keys owner.single
        · obtain ⟨repeated, found⟩ : ∃ repeated, Keyed.valueAt? owner.single name = some repeated :=
            Option.ne_none_iff_exists'.1 (mt (Keyed.valueAt?_eq_none _ _).1 (not_not_intro single))
          by_cases before : Key.name name ∈ earlier <;>
            simp [Owner.keyFaults, known, found, single, before]
        · have absent := (Keyed.valueAt?_eq_none _ _).2 single
          simp [Owner.keyFaults, known, absent, single]
    rw [inner]
    refine and_congr (by simp) ⟨fun fresh other member same => ?_, fun fresh member => ?_⟩
    · cases same
      exact fresh member
    · exact fresh name member rfl

theorem Owner.unrepeated_cons (owner : Owner) (earlier : List Key) (key : Key)
    (keys : List Key) :
    owner.Unrepeated earlier (key :: keys) ↔
      (∀ name ∈ Keyed.keys owner.single, key = .name name → Key.name name ∉ earlier) ∧
      owner.Unrepeated (earlier ++ [key]) keys := by
  simp only [Owner.Unrepeated, ← forall_and]
  refine forall₂_congr fun name _ => ?_
  by_cases same : key = .name name
  · subst same
    by_cases before : Key.name name ∈ earlier <;> simp [before]
  · have apart : ¬Key.name name = key := fun equal => same equal.symm
    simp [same, apart]

theorem Owner.unrepeated_append (owner : Owner) (earlier keys others : List Key) :
    owner.Unrepeated earlier (keys ++ others) ↔
      owner.Unrepeated earlier keys ∧ owner.Unrepeated (earlier ++ keys) others := by
  induction keys generalizing earlier with
  | nil => simp [Owner.Unrepeated]
  | cons key keys inductionHypothesis =>
    rw [List.cons_append, unrepeated_cons, unrepeated_cons, inductionHypothesis,
      List.append_assoc, List.singleton_append, and_assoc]

theorem admitted_iff (owner : Owner) (entry : Annotation) :
    Admitted owner entry ↔ ∃ name form, entry.key = .name name ∧
      Keyed.valueAt? owner.forms name = some form ∧ Fits form entry :=
  ⟨fun ⟨_, _, name, form, named, known, fits⟩ => ⟨name, form, named, known, fits⟩,
    fun ⟨name, form, named, known, fits⟩ => .entry owner entry name form named known fits⟩

theorem fits_list_iff (owner : Owner) (key : Key) (entries : List Annotation) :
    Fits (.list owner) (.group key entries) ↔
      entries ≠ [] ∧ ((∀ entry ∈ entries, Admitted owner entry) ∧
        owner.Unrepeated [] (entries.map Annotation.key)) ∧
        ∀ name ∈ owner.required, Key.name name ∈ entries.map Annotation.key :=
  ⟨fun | .list _ _ _ present each unrepeated complete => ⟨present, ⟨each, unrepeated⟩, complete⟩,
    fun ⟨present, ⟨each, unrepeated⟩, complete⟩ =>
      .list owner key entries present each unrepeated complete⟩

theorem fits_property_group (key : Key) (entries : List Annotation) :
    Fits .property (.group key entries) ↔ Fits (.list .property) (.group key entries) :=
  ⟨fun | .propertyList _ _ list => list, .propertyList key entries⟩

theorem Owner.listFaults_eq_nil (owner : Owner) (key : Key) (entries : List Annotation)
    (each : List Fault)
    (sound : each = [] ↔ (∀ entry ∈ entries, Admitted owner entry) ∧
      owner.Unrepeated [] (entries.map Annotation.key)) :
    owner.listFaults entries each = [] ↔ Fits (.list owner) (.group key entries) := by
  rw [fits_list_iff, ← sound, ← Owner.missing_eq_nil]
  cases entries <;> simp [Owner.listFaults]

mutual

/-- An annotation without faults fits its form. -/
theorem Form.faults_eq_nil (form : Form) (last : Bool) :
    (entry : Annotation) → (form.faults last entry = [] ↔ Fits form entry)
  | .bare key => by
    cases form with
    | flag => exact iff_of_true rfl (.bareFlag key)
    | text | kind | method | list _ | property =>
      exact iff_of_false (by simp [Form.faults]) (fun fits => nomatch fits)
  | .assigned key value => by
    cases form with
    | text =>
      cases value with
      | text content => exact iff_of_true rfl (.text key content)
      | flag _ | other => exact iff_of_false (by simp [Form.faults]) (fun fits => nomatch fits)
    | kind =>
      cases value with
      | text word =>
        by_cases known : lowered word ∈ kindWords
        · exact iff_of_true (by simp [Form.faults, known]) (.kind key word known)
        · exact iff_of_false (by simp [Form.faults, known]) fun | .kind _ _ found => known found
      | flag _ | other => exact iff_of_false (by simp [Form.faults]) (fun fits => nomatch fits)
    | method =>
      cases value with
      | text word =>
        by_cases known : lowered word ∈ methodWords
        · exact iff_of_true (by simp [Form.faults, known]) (.method key word known)
        · exact iff_of_false (by simp [Form.faults, known]) fun | .method _ _ found => known found
      | flag _ | other => exact iff_of_false (by simp [Form.faults]) (fun fits => nomatch fits)
    | flag =>
      cases value with
      | flag value => exact iff_of_true rfl (.setFlag key value)
      | text _ | other => exact iff_of_false (by simp [Form.faults]) (fun fits => nomatch fits)
    | list _ => exact iff_of_false (by simp [Form.faults]) (fun fits => nomatch fits)
    | property =>
      cases value with
      | text content => exact iff_of_true rfl (.propertyName key content)
      | flag _ | other => exact iff_of_false (by simp [Form.faults]) (fun fits => nomatch fits)
  | .group key entries => by
    cases form with
    | list owner =>
      rw [Form.faults]
      exact owner.listFaults_eq_nil key entries _ (owner.entryFaults_eq_nil [] entries)
    | property =>
      rw [Form.faults, fits_property_group]
      exact Owner.property.listFaults_eq_nil key entries _
        (Owner.property.entryFaults_eq_nil [] entries)
    | text | kind | method | flag =>
      exact iff_of_false (by simp [Form.faults]) (fun fits => nomatch fits)
  | .followed key => by
    cases form <;> exact iff_of_false (by simp [Form.faults]) (fun fits => nomatch fits)

theorem Owner.entryFaults_eq_nil (owner : Owner) (earlier : List Key) :
    (entries : List Annotation) → (owner.entryFaults earlier entries = [] ↔
      (∀ entry ∈ entries, Admitted owner entry) ∧
        owner.Unrepeated earlier (entries.map Annotation.key))
  | [] => by simp [Owner.entryFaults, Owner.Unrepeated]
  | entry :: rest => by
    rw [Owner.entryFaults, List.append_eq_nil_iff, Owner.keyFaults_eq_nil,
      Owner.entryFaults_eq_nil owner (earlier ++ [entry.key]) rest, List.map_cons,
      Owner.unrepeated_cons, List.forall_mem_cons, admitted_iff]
    simp only [Form.faults_eq_nil _ _ entry]
    exact and_and_and_comm

end

theorem listed_cons (first : Annotation) (rest : List Annotation) :
    listed (first :: rest) = listed [first] ++ listed rest := by
  simp [listed]

/-- Attributes without faults follow the grammar. -/
theorem Owner.attributeFaults_eq_nil (owner : Owner) (earlier : List Key)
    (attributes : List Annotation) :
    owner.attributeFaults earlier attributes = [] ↔
      (∀ first ∈ attributes, first.key = .name attributeName →
        ∃ key entries, first = .group key entries) ∧
      (∀ entry ∈ listed attributes, Admitted owner entry) ∧
      owner.Unrepeated earlier ((listed attributes).map Annotation.key) := by
  induction attributes generalizing earlier with
  | nil => simp [Owner.attributeFaults, listed, Owner.Unrepeated]
  | cons first rest inductionHypothesis =>
    rw [listed_cons, List.forall_mem_cons]
    by_cases read : first.key = .name attributeName
    · cases first with
      | group key entries =>
        have own : listed [.group key entries] = entries := by
          have same : key = .name attributeName := read
          simp [listed, same]
        simp only [Owner.attributeFaults, if_pos read, List.append_eq_nil_iff,
          Owner.entryFaults_eq_nil, inductionHypothesis, own, List.map_append,
          Owner.unrepeated_append, List.forall_mem_append]
        -- What is left relates conditions on the first attribute to those on the rest.
        have grouped : Annotation.key (.group key entries) = .name attributeName →
            ∃ other others, Annotation.group key entries = .group other others :=
          fun _ => ⟨key, entries, rfl⟩
        tauto
      | bare _ | assigned _ _ | followed _ =>
        simp [Owner.attributeFaults, read]
    · have own : listed [first] = [] := by
        cases first with
        | group key _ =>
          simpa [listed] using fun same : key = .name attributeName => absurd same read
        | bare _ | assigned _ _ | followed _ => rfl
      simp only [Owner.attributeFaults, if_neg read, inductionHypothesis, own, List.nil_append]
      simp [read]

/-- A declaration without faults is grammatical. -/
theorem faults_eq_nil (declaration : Declaration Kind) :
    faults declaration = [] ↔ IsGrammatical declaration := by
  have follow (owner : Owner) (attributes : List Annotation) :
      owner.attributeFaults [] attributes = [] ↔ Follow owner attributes :=
    (owner.attributeFaults_eq_nil [] attributes).trans
      ⟨fun ⟨grouped, admitted, unrepeated⟩ => ⟨grouped, admitted, unrepeated⟩,
        fun ⟨grouped, admitted, unrepeated⟩ => ⟨grouped, admitted, unrepeated⟩⟩
  cases form : declaration.form with
  | namedFields =>
    rw [faults, form, List.append_eq_nil_iff, follow, List.flatMap_eq_nil_iff]
    simp only [follow]
    exact ⟨fun ⟨type, fields⟩ => ⟨form, type, fields⟩, fun ⟨_, type, fields⟩ => ⟨type, fields⟩⟩
  | unnamedFields | alternatives =>
    refine iff_of_false (by simp [faults, form]) fun grammatical => ?_
    cases form.symm.trans grammatical.named

end GraphQuery.Declaration
