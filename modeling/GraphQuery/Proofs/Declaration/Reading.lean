import GraphQuery.Proofs.Declaration.Faults

/-
This file shows that the reader of declarations accepts what is grammatical and reports the first
fault of anything else.
-/

namespace GraphQuery.Declaration

open Schema

variable {Value Result State Kind : Type}

/-- An outcome reports a row of faults if it fails with the first of them.
Without faults it is a value with a property. -/
def Reports (faults : List Fault) (holds : Value → Prop) : Except Fault Value → Prop
  | .ok value => faults = [] ∧ holds value
  | .error fault => faults.head? = some fault

/-- A step behind another one is reached only if the other one finds no fault. -/
theorem Reports.bind {first : Except Fault Value} {next : Value → Except Fault Result}
    {faults others : List Fault} {holds : Value → Prop} {property : Result → Prop}
    (now : Reports faults holds first)
    (later : ∀ value, holds value → Reports others property (next value)) :
    Reports (faults ++ others) property (first >>= next) := by
  cases first with
  | error fault =>
    have found : faults.head? = some fault := now
    cases faults with
    | nil => cases found
    | cons fault rest => exact found
  | ok value =>
    obtain ⟨rfl, held⟩ : faults = [] ∧ holds value := now
    exact later value held

/-- A step that cannot fail adds no fault. -/
theorem Reports.map {first : Except Fault Value} {faults : List Fault} {holds : Value → Prop}
    {property : Result → Prop} (now : Reports faults holds first) (change : Value → Result)
    (kept : ∀ value, holds value → property (change value)) :
    Reports faults property (first >>= fun value => pure (change value)) := by
  cases first with
  | error fault => exact now
  | ok value => exact ⟨now.1, kept value now.2⟩

/-- Nothing more is said of a value that is read. -/
def Read (_ : Value) : Prop := True

theorem text_reports (last : Bool) (entry : Annotation) :
    Reports (Form.text.faults last entry) Read entry.text := by
  cases entry with
  | assigned key value => cases value <;> simp [Form.faults, Annotation.text, Reports, Read]
  | bare _ | group _ _ | followed _ => rfl

theorem flag_reports (last : Bool) (entry : Annotation) :
    Reports (Form.flag.faults last entry) Read entry.flag := by
  cases entry with
  | assigned key value => cases value <;> simp [Form.faults, Annotation.flag, Reports, Read]
  | bare _ => exact ⟨rfl, trivial⟩
  | group _ _ | followed _ => rfl

theorem readKind_reports (word : String) :
    Reports (if lowered word ∈ kindWords then [] else [.unknownKind (lowered word)]) Read
      (readKind word) := by
  unfold readKind
  split <;> split <;> simp_all [kindWords, Reports, Read]

theorem readMethod_reports (word : String) :
    Reports (if lowered word ∈ methodWords then [] else [.unknownMethod (lowered word)]) Read
      (readMethod word) := by
  unfold readMethod
  split <;> split <;> simp_all [methodWords, Reports, Read]

theorem kind_reports (last : Bool) (entry : Annotation) :
    Reports (Form.kind.faults last entry) Read (entry.text >>= readKind) := by
  cases entry with
  | assigned key value =>
    cases value with
    | text word => exact readKind_reports word
    | flag _ | other => rfl
  | bare _ | group _ _ | followed _ => rfl

theorem method_reports (last : Bool) (entry : Annotation) :
    Reports (Form.method.faults last entry) Read (entry.text >>= readMethod) := by
  cases entry with
  | assigned key value =>
    cases value with
    | text word => exact readMethod_reports word
    | flag _ | other => rfl
  | bare _ | group _ _ | followed _ => rfl

theorem requireMember_reports (owner : Owner) (member : String) (content : Option String) :
    Reports (if content.isSome then [] else [.missing owner member]) Read
      (requireMember owner member content) := by
  cases content with
  | none => rfl
  | some content => exact ⟨rfl, trivial⟩

/-- What a state tells of some names: whether they are among the keys that have been read. -/
def Tracks (told : Keyed Bool) (keys : List Key) : Prop :=
  ∀ entry ∈ told, entry.2 = true ↔ Key.name entry.1 ∈ keys

/-- A step of an owner's list reports the faults of its entry, and the state keeps track of the
names it tells of. -/
def Implements (owner : Owner) (tells : State → Keyed Bool)
    (step : State → String → Bool → Annotation → Except Fault State) : Prop :=
  ∀ state name last entry earlier, Tracks (tells state) earlier →
    Reports (owner.keyFaults earlier (fun form => form.faults last entry) (.name name))
      (fun next => Tracks (tells next) (earlier ++ [.name name])) (step state name last entry)

variable {owner : Owner} {tells : State → Keyed Bool}
  {step : State → String → Bool → Annotation → Except Fault State}

theorem readEntries_reports (implements : Implements owner tells step) (state : State)
    (entries : List Annotation) (earlier : List Key) (tracked : Tracks (tells state) earlier) :
    Reports (owner.entryFaults earlier entries)
      (fun final => Tracks (tells final) (earlier ++ entries.map Annotation.key)) <|
        Annotation.readEntries step state entries := by
  induction entries generalizing state earlier with
  | nil => exact ⟨rfl, by simpa using tracked⟩
  | cons entry rest inductionHypothesis =>
    rw [Owner.entryFaults]
    cases key : entry.key with
    | literal => simp [Owner.keyFaults, Annotation.readEntries, key, Reports]
    | symbol => simp [Owner.keyFaults, Annotation.readEntries, key, Reports]
    | name name =>
      simp only [key, Annotation.readEntries]
      refine (implements state name _ entry earlier tracked).bind fun next kept => ?_
      have row := inductionHypothesis next (earlier ++ [.name name]) kept
      rw [List.append_assoc] at row
      rw [List.map_cons, key]
      exact row

/-- A reader of a list takes its entries and checks then that nothing is missing. -/
theorem list_reports (implements : Implements owner tells step) (start : State)
    (finish : State → Except Fault Value) (last : Bool) (entry : Annotation)
    (empty : Tracks (tells start) [])
    (check : ∀ state present, Tracks (tells state) present →
      Reports (owner.missing present) Read (finish state)) :
    Reports ((Form.list owner).faults last entry) Read
      (do finish (← Annotation.readEntries step start (← entry.entries last))) := by
  cases entry with
  | bare _ | assigned _ _ | followed _ => rfl
  | group key entries =>
    cases entries with
    | nil => rfl
    | cons first rest =>
      have faults : (Form.list owner).faults last (.group key (first :: rest)) =
          owner.entryFaults [] (first :: rest) ++
            owner.missing ((first :: rest).map Annotation.key) := by
        simp [Form.faults, Owner.listFaults]
      rw [faults]
      exact (readEntries_reports implements start _ [] empty).bind fun final kept =>
        check final _ kept

/-- A member of a list is read with the form that its owner asks for. -/
theorem member_reports {first : Except Fault Value} {holds : Value → Prop} {entry : Annotation}
    {last : Bool} {name : String} {earlier : List Key} (form : Form)
    (known : Keyed.valueAt? owner.forms name = some form)
    (free : Keyed.valueAt? owner.single name = none)
    (reader : Reports (form.faults last entry) holds first) (change : Value → State)
    (kept : ∀ value, Tracks (tells (change value)) (earlier ++ [.name name])) :
    Reports (owner.keyFaults earlier (fun form => form.faults last entry) (.name name))
      (fun next => Tracks (tells next) (earlier ++ [.name name]))
      (first >>= fun value => pure (change value)) := by
  simp only [Owner.keyFaults, known, free]
  exact reader.map change fun value _ => kept value

/-- A member that the list admits only once is read if it does not occur before. -/
theorem single_reports {first : Except Fault Value} {holds : Value → Prop} {entry : Annotation}
    {last : Bool} {name : String} {earlier : List Key} {present : Bool} (form : Form)
    (repeated : Owner) (known : Keyed.valueAt? owner.forms name = some form)
    (single : Keyed.valueAt? owner.single name = some repeated)
    (told : present = true ↔ Key.name name ∈ earlier)
    (reader : Reports (form.faults last entry) holds first) (change : Value → State)
    (kept : ∀ value, Tracks (tells (change value)) (earlier ++ [.name name])) :
    Reports (owner.keyFaults earlier (fun form => form.faults last entry) (.name name))
      (fun next => Tracks (tells next) (earlier ++ [.name name]))
      (if present then .error (.repeated repeated)
      else first >>= fun value => pure (change value)) := by
  by_cases before : present = true
  · simp [Owner.keyFaults, known, single, told.1 before, before, Reports]
  · simp only [Owner.keyFaults, known, single, mt told.2 before, before, if_false,
      Bool.false_eq_true]
    exact reader.map change fun value _ => kept value

theorem unknown_reports {entry : Annotation} {last : Bool} {name : String} {earlier : List Key}
    {holds : State → Prop} (unknown : name ∉ Keyed.keys owner.forms) :
    Reports (owner.keyFaults earlier (fun form => form.faults last entry) (.name name)) holds
      (.error (.unknownName owner)) := by
  rw [Owner.keyFaults, (Keyed.valueAt?_eq_none _ _).2 unknown]
  rfl

def ArgumentDraft.told (draft : ArgumentDraft) : Keyed Bool := [("name", draft.name.isSome)]

theorem argumentStep_implements : Implements .argument ArgumentDraft.told argumentStep := by
  intro draft name last entry earlier tracked
  unfold argumentStep
  split
  · exact member_reports .text rfl rfl (text_reports last entry) _ fun _ => by
      simp [Tracks, ArgumentDraft.told]
  · exact member_reports .text rfl rfl (text_reports last entry) _ fun _ => by
      simpa [Tracks, ArgumentDraft.told] using tracked
  · rw [← bind_assoc]
    exact member_reports .kind rfl rfl (kind_reports last entry) _ fun _ => by
      simpa [Tracks, ArgumentDraft.told] using tracked
  · exact member_reports .flag rfl rfl (flag_reports last entry) _ fun _ => by
      simpa [Tracks, ArgumentDraft.told] using tracked
  · exact member_reports .text rfl rfl (text_reports last entry) _ fun _ => by
      simpa [Tracks, ArgumentDraft.told] using tracked
  · exact unknown_reports (by simp_all [Owner.forms, Keyed.keys])

/-- One name is required. -/
theorem requireMember_missing (owner : Owner) (member : String) (content : Option String)
    (present : List Key) (only : owner.required = [member])
    (tracked : content.isSome = true ↔ Key.name member ∈ present) :
    Reports (owner.missing present) Read (requireMember owner member content) := by
  have same : owner.missing present =
      if content.isSome then [] else [.missing owner member] := by
    by_cases found : Key.name member ∈ present <;> simp [Owner.missing, only, found, tracked]
  rw [same]
  exact requireMember_reports owner member content

theorem argument_reports (last : Bool) (entry : Annotation) :
    Reports ((Form.list .argument).faults last entry) Read (readArgument last entry) := by
  refine list_reports argumentStep_implements {} _ last entry (by simp [Tracks, ArgumentDraft.told])
    fun draft present tracked => ?_
  refine Reports.map (requireMember_missing _ _ _ _ rfl ?_) _ fun _ _ => trivial
  simpa [Tracks, ArgumentDraft.told] using tracked

def VariableDraft.told (draft : VariableDraft) : Keyed Bool :=
  [("name", draft.name.isSome), ("scalar", draft.type.isSome)]

theorem variableStep_implements : Implements .variableEntry VariableDraft.told variableStep := by
  intro draft name last entry earlier tracked
  unfold variableStep
  split
  · exact member_reports .text rfl rfl (text_reports last entry) _ fun _ => by
      simpa [Tracks, VariableDraft.told] using (List.forall_mem_cons.1 tracked).2
  · exact member_reports .text rfl rfl (text_reports last entry) _ fun _ => by
      simpa [Tracks, VariableDraft.told] using (List.forall_mem_cons.1 tracked).1
  · exact unknown_reports (by simp_all [Owner.forms, Keyed.keys])

theorem variable_reports (last : Bool) (entry : Annotation) :
    Reports ((Form.list .variableEntry).faults last entry) Read (readVariable last entry) := by
  refine list_reports variableStep_implements {} _ last entry (by simp [Tracks, VariableDraft.told])
    fun draft present tracked => ?_
  obtain ⟨name, scalar⟩ : (draft.name.isSome = true ↔ Key.name "name" ∈ present) ∧
      (draft.type.isSome = true ↔ Key.name "scalar" ∈ present) := by
    simpa [Tracks, VariableDraft.told] using tracked
  have split : Owner.variableEntry.missing present =
      (if draft.name.isSome then [] else [.missing .variableEntry "name"]) ++
        if draft.type.isSome then [] else [.missing .variableEntry "scalar"] := by
    by_cases first : Key.name "name" ∈ present <;> by_cases second : Key.name "scalar" ∈ present <;>
      simp [Owner.missing, Owner.required, name, scalar, first, second]
  rw [split]
  exact (requireMember_reports _ _ _).bind fun _ _ =>
    (requireMember_reports _ _ _).map _ fun _ _ => trivial

/-- A list of items of one name requires nothing. -/
theorem readListed_reports {Item : Type} (owner : Owner) (item : String) (form : Form)
    (read : Bool → Annotation → Except Fault Item) (before : List Item) (last : Bool)
    (entry : Annotation) (forms : owner.forms = [(item, form)]) (free : owner.single = [])
    (optional : owner.required = [])
    (each : ∀ last entry, Reports (form.faults last entry) Read (read last entry)) :
    Reports ((Form.list owner).faults last entry) Read
      (readListed owner item read before last entry) := by
  have implements : Implements owner (fun _ => [])
      (fun (items : List Item) name last entry =>
        if name = item then do return items ++ [← read last entry]
        else .error (.unknownName owner)) := by
    intro items name last entry earlier _
    dsimp only
    split
    · next same =>
      subst same
      exact member_reports form (by simp [forms, Keyed.valueAt?]) (by simp [free, Keyed.valueAt?])
        (each last entry) _ fun _ => by simp [Tracks]
    · next apart => exact unknown_reports (by simpa [forms, Keyed.keys] using apart)
  have list := list_reports implements before (fun items => pure items) last entry
    (by simp [Tracks]) fun _ _ _ => ⟨by simp [Owner.missing, optional], trivial⟩
  simp only [bind_pure] at list
  exact list

theorem arguments_reports (before : List ArgumentAttribute) (last : Bool) (entry : Annotation) :
    Reports ((Form.list .arguments).faults last entry) Read (readArguments before last entry) :=
  readListed_reports .arguments "argument" (.list .argument) readArgument before last entry rfl rfl
    rfl argument_reports

theorem variables_reports (before : List VariableAttribute) (last : Bool) (entry : Annotation) :
    Reports ((Form.list .variableList).faults last entry) Read (readVariables before last entry) :=
  readListed_reports .variableList "variable" (.list .variableEntry) readVariable before last entry
    rfl rfl rfl variable_reports

def PropertyDraft.told (draft : PropertyDraft) : Keyed Bool := [("name", draft.name.isSome)]

theorem propertyStep_implements : Implements .property PropertyDraft.told propertyStep := by
  intro draft name last entry earlier tracked
  unfold propertyStep
  split
  · exact member_reports .text rfl rfl (text_reports last entry) _ fun _ => by
      simp [Tracks, PropertyDraft.told]
  · exact member_reports (.list .argument) rfl rfl (argument_reports last entry) _ fun _ => by
      simpa [Tracks, PropertyDraft.told] using tracked
  · exact unknown_reports (by simp_all [Owner.forms, Keyed.keys])

theorem property_reports (last : Bool) (entry : Annotation) :
    Reports (Form.property.faults last entry) Read (readProperty last entry) := by
  cases entry with
  | assigned key value =>
    have named : Reports (Form.text.faults last (.assigned key value)) Read
        (readProperty last (.assigned key value)) :=
      (text_reports last (.assigned key value)).map _ fun _ _ => trivial
    cases value <;> exact named
  | bare _ | followed _ => rfl
  | group key entries =>
    have list := list_reports propertyStep_implements {}
      (fun draft => do
        return PropertyAttribute.mk (← requireMember .property "name" draft.name) draft.arguments)
      last (.group key entries) (by simp [Tracks, PropertyDraft.told]) fun draft present tracked =>
      Reports.map (requireMember_missing _ _ _ _ rfl (by
        simpa [Tracks, PropertyDraft.told] using tracked)) _ fun _ _ => trivial
    exact list

def OperationDraft.told (draft : OperationDraft) : Keyed Bool := [("name", draft.name.isSome)]

theorem operationStep_implements : Implements .operation OperationDraft.told operationStep := by
  intro draft name last entry earlier tracked
  unfold operationStep
  split
  · exact member_reports .text rfl rfl (text_reports last entry) _ fun _ => by
      simp [Tracks, OperationDraft.told]
  · rw [← bind_assoc]
    exact member_reports .method rfl rfl (method_reports last entry) _ fun _ => by
      simpa [Tracks, OperationDraft.told] using tracked
  · exact member_reports (.list .variableEntry) rfl rfl (variable_reports last entry) _
      fun _ => by simpa [Tracks, OperationDraft.told] using tracked
  · exact member_reports (.list .variableList) rfl rfl (variables_reports _ last entry) _
      fun _ => by simpa [Tracks, OperationDraft.told] using tracked
  · exact member_reports .property rfl rfl (property_reports last entry) _ fun _ => by
      simpa [Tracks, OperationDraft.told] using tracked
  · exact unknown_reports (by simp_all [Owner.forms, Keyed.keys])

theorem operation_reports (last : Bool) (entry : Annotation) :
    Reports ((Form.list .operation).faults last entry) Read (readOperation last entry) := by
  refine list_reports operationStep_implements {} _ last entry
    (by simp [Tracks, OperationDraft.told]) fun draft present tracked => ?_
  refine Reports.map (requireMember_missing _ _ _ _ rfl ?_) _ fun _ _ => trivial
  simpa [Tracks, OperationDraft.told] using tracked

/-- The list of a type may say everything again. -/
theorem typeStep_implements : Implements .type (fun _ => []) typeStep := by
  intro attributes name last entry earlier _
  unfold typeStep
  split
  · exact member_reports .property rfl rfl (property_reports last entry) _ fun _ => by
      simp [Tracks]
  · exact member_reports (.list .operation) rfl rfl (operation_reports last entry) _ fun _ => by
      simp [Tracks]
  · exact unknown_reports (by simp_all [Owner.forms, Keyed.keys])

def FieldAttributes.told (attributes : FieldAttributes) : Keyed Bool :=
  [("argument", attributes.argument.isSome), ("variable", attributes.single.isSome)]

theorem fieldStep_implements : Implements .field FieldAttributes.told fieldStep := by
  intro attributes name last entry earlier tracked
  unfold fieldStep
  split
  · exact member_reports .text rfl rfl (text_reports last entry) _ fun _ => by
      simpa [Tracks, FieldAttributes.told] using tracked
  · exact member_reports .property rfl rfl (property_reports last entry) _ fun _ => by
      simpa [Tracks, FieldAttributes.told] using tracked
  · exact member_reports (.list .arguments) rfl rfl (arguments_reports _ last entry) _ fun _ => by
      simpa [Tracks, FieldAttributes.told] using tracked
  · exact single_reports (.list .argument) .argument rfl rfl (by
      simpa [Tracks, FieldAttributes.told] using (List.forall_mem_cons.1 tracked).1)
      (argument_reports last entry) _ fun _ => by
        simpa [Tracks, FieldAttributes.told] using (List.forall_mem_cons.1 tracked).2
  · exact member_reports (.list .variableList) rfl rfl (variables_reports _ last entry) _
      fun _ => by simpa [Tracks, FieldAttributes.told] using tracked
  · exact single_reports (.list .variableEntry) .variableEntry rfl rfl (by
      simpa [Tracks, FieldAttributes.told] using (List.forall_mem_cons.1 tracked).2)
      (variable_reports last entry) _ fun _ => by
        simpa [Tracks, FieldAttributes.told] using (List.forall_mem_cons.1 tracked).1
  · exact member_reports .flag rfl rfl (flag_reports last entry) _ fun _ => by
      simpa [Tracks, FieldAttributes.told] using tracked
  · exact member_reports .flag rfl rfl (flag_reports last entry) _ fun _ => by
      simpa [Tracks, FieldAttributes.told] using tracked
  · exact member_reports .flag rfl rfl (flag_reports last entry) _ fun _ => by
      simpa [Tracks, FieldAttributes.told] using tracked
  · exact unknown_reports (by simp_all [Owner.forms, Keyed.keys])

/-- The state goes on from one attribute to the next. -/
theorem readAttributes_reports (implements : Implements owner tells step) (state : State)
    (attributes : List Annotation) (earlier : List Key) (tracked : Tracks (tells state) earlier) :
    Reports (owner.attributeFaults earlier attributes) Read
      (readAttributes step state attributes) := by
  induction attributes generalizing state earlier with
  | nil => exact ⟨rfl, trivial⟩
  | cons annotation rest inductionHypothesis =>
    rw [readAttributes, List.foldlM_cons]
    by_cases read : annotation.key = .name attributeName
    · cases annotation with
      | group key entries =>
        simp only [Owner.attributeFaults, if_pos read]
        exact (readEntries_reports implements state entries earlier tracked).bind
          fun next kept => inductionHypothesis next _ kept
      | bare _ | assigned _ _ | followed _ =>
        simp only [Owner.attributeFaults, if_pos read]
        rfl
    · simp only [Owner.attributeFaults, if_neg read]
      exact inductionHypothesis state earlier tracked

theorem field_reports (field : DeclaredField Kind) :
    Reports (Owner.field.attributeFaults [] field.attributes) Read field.read :=
  (readAttributes_reports fieldStep_implements {} field.attributes []
    (by simp [Tracks, FieldAttributes.told])).map _ fun _ _ => trivial

theorem mapM_reports (read : Value → Except Fault Result) (faults : Value → List Fault)
    (values : List Value) (each : ∀ value ∈ values, Reports (faults value) Read (read value)) :
    Reports (values.flatMap faults) Read (values.mapM read) := by
  induction values with
  | nil => exact ⟨rfl, trivial⟩
  | cons value rest inductionHypothesis =>
    rw [List.mapM_cons, List.flatMap_cons]
    have onward := inductionHypothesis fun other member =>
      each other (List.mem_cons_of_mem _ member)
    exact (each value List.mem_cons_self).bind fun _ _ => onward.map _ fun _ _ => trivial

theorem reports_read (declaration : Declaration Kind) :
    Reports (faults declaration) Read declaration.read := by
  rw [faults, read]
  cases declaration.form with
  | unnamedFields => rfl
  | alternatives => rfl
  | namedFields =>
    refine (readAttributes_reports typeStep_implements {} declaration.attributes []
      (by simp [Tracks])).bind fun _ _ => ?_
    exact (mapM_reports _ _ _ fun field _ => field_reports field).map _ fun _ _ => trivial

end GraphQuery.Declaration
