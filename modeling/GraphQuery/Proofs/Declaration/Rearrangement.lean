import GraphQuery.Proofs.Declaration.Regrouping
import GraphQuery.Proofs.Separation

/-
This file shows that the reader of attributes does not see the order of entries with different
keywords.
-/

namespace GraphQuery.Declaration

open Outcome
open Annotation (readEntries)

/-- The keyword of an entry; in the list of an operation the single variables and the lists of
variables have one keyword. -/
def Key.keyword (list : Key) (name : String) : String :=
  if list = .name "operation" ∧ name = "variables" then "variable" else name

/-- The keyword of an entry with this key, if it has one. -/
def Key.keywordIn (key list : Key) : Option String :=
  match key with
  | .name word => some (list.keyword word)
  | .literal | .symbol => none

/-- Lists are rearranged, and so are the lists in them, if the entries of each keyword correspond in
their order. Entries without a keyword are not read: it is enough that there are some or none. -/
inductive Rearranged : Annotation → Annotation → Prop
  | same (entry : Annotation) : Rearranged entry entry
  | group (key : Key) (entries others : List Annotation)
    (keywords : ∀ keyword : String, List.Forall₂ Rearranged
      (entries.filter (·.key.keywordIn key = some keyword))
      (others.filter (·.key.keywordIn key = some keyword)))
    (unread : (∃ entry ∈ entries, entry.key.keywordIn key = none) ↔
      ∃ other ∈ others, other.key.keywordIn key = none) :
    Rearranged (.group key entries) (.group key others)

theorem Key.keyword_of_ne {list : Key} (plain : list ≠ .name "operation") (name : String) :
    list.keyword name = name := by
  simp [keyword, plain]

namespace Rearranged

variable {first second : Annotation}

theorem key_eq (rearranged : Rearranged first second) : first.key = second.key := by
  cases rearranged <;> rfl

theorem text_eq (rearranged : Rearranged first second) : first.text = second.text := by
  cases rearranged <;> rfl

theorem flag_eq (rearranged : Rearranged first second) : first.flag = second.flag := by
  cases rearranged <;> rfl

/-- Neighbours with different keywords can be swapped. -/
theorem swap (list : Key) (before after : List Annotation)
    (apart : first.key.keywordIn list ≠ second.key.keywordIn list) :
    Rearranged (.group list (before ++ first :: second :: after))
      (.group list (before ++ second :: first :: after)) := by
  refine .group list _ _ (fun keyword => ?_) (by simp [or_left_comm])
  have equal : (before ++ first :: second :: after).filter (·.key.keywordIn list = some keyword) =
      (before ++ second :: first :: after).filter (·.key.keywordIn list = some keyword) := by
    by_cases own : first.key.keywordIn list = some keyword
    · have other : second.key.keywordIn list ≠ some keyword := own ▸ apart.symm
      simp [own, other]
    · simp [List.filter_cons, own]
  rw [equal]
  exact List.forall₂_same.2 fun entry _ => .same entry

variable {list : Key} {entries others : List Annotation}
  (rearranged : Rearranged (.group list entries) (.group list others))

include rearranged

theorem forall₂_filter (keyword : String) :
    List.Forall₂ Rearranged (entries.filter (·.key.keywordIn list = some keyword))
      (others.filter (·.key.keywordIn list = some keyword)) := by
  cases rearranged with
  | same => exact List.forall₂_same.2 fun entry _ => .same entry
  | group _ _ _ keywords _ => exact keywords keyword

theorem exists_iff (keyword : Option String) :
    (∃ entry ∈ entries, entry.key.keywordIn list = keyword) ↔
      ∃ other ∈ others, other.key.keywordIn list = keyword := by
  cases keyword with
  | none =>
    cases rearranged with
    | same => rfl
    | group _ _ _ _ unread => exact unread
  | some keyword =>
    have long := (rearranged.forall₂_filter keyword).length_eq
    rw [← List.countP_eq_length_filter, ← List.countP_eq_length_filter] at long
    have present : ∀ row : List Annotation,
        (∃ entry ∈ row, entry.key.keywordIn list = some keyword) ↔
          0 < row.countP (·.key.keywordIn list = some keyword) := by
      simp [List.countP_pos_iff]
    rw [present, present, long]

theorem eq_nil_iff : entries = [] ↔ others = [] := by
  have occupied : ∀ row : List Annotation,
      row = [] ↔ ¬∃ keyword, ∃ entry ∈ row, entry.key.keywordIn list = keyword := by
    intro row
    cases row <;> simp
  simp only [occupied, rearranged.exists_iff]

end Rearranged

section Rows

variable {State Part Value : Type} {step : State → String → Bool → Annotation → Except Fault State}

/-- What an entry makes of a state; nothing is told of a fault or of the place of the entry. -/
def taken (step : State → String → Bool → Annotation → Except Fault State) (state : State)
    (entry : Annotation) : Option State :=
  match entry.key with
  | .name name => (step state name true entry).toOption
  | .literal | .symbol => none

/-- A reading moves the part of one keyword if it leaves the others as they are and depends on this
part alone. -/
def Moves (part : String → State → Part) (keyword : String) (act : State → Except Fault State) :
    Prop :=
  ∀ state next, act state = .ok next →
    (∀ other, other ≠ keyword → part other next = part other state) ∧
      ∀ other, part keyword other = part keyword state →
        ∃ reached, act other = .ok reached ∧ part keyword reached = part keyword next

/-- The order in the lists of an entry makes no difference to a reader of entries with this name. -/
def Orderless (name : String) (read : Bool → Annotation → Except Fault Value) : Prop :=
  ∀ last other first second, Rearranged first second → first.key = .name name →
    Agree (read last first) (read other second)

/-- A step goes by keywords if each entry moves the part of its own one, and the order in the lists
of an entry makes no difference to it. -/
structure Keywise (list : Key) (step : State → String → Bool → Annotation → Except Fault State)
    (part : String → State → Part) : Prop where
  whole : ∀ first second, (∀ keyword, part keyword first = part keyword second) → first = second
  moves : ∀ name entry, Moves part (list.keyword name) fun state => step state name true entry
  orderless : ∀ state name, Orderless name (step state name)

variable {part : String → State → Part} {list : Key} (keywise : Keywise list step part)

include keywise

theorem Keywise.separate :
    Separate (taken step) (·.key.keywordIn list) fun kind state => kind.map (part · state) where
  whole first second same := keywise.whole first second fun keyword =>
    Option.some_inj.1 (same (some keyword))
  elsewhere state entry next took kind apart := by
    cases key : entry.key with
    | literal | symbol => simp [taken, key] at took
    | name name =>
      cases kind with
      | none => rfl
      | some keyword =>
        simp only [taken, key, toOption_eq_some] at took
        refine congrArg some (((keywise.moves name entry) state next took).1 keyword ?_)
        simpa [Key.keywordIn, key] using apart
  inside state entry next took other same := by
    cases key : entry.key with
    | literal | symbol => simp [taken, key] at took
    | name name =>
      simp only [taken, key, toOption_eq_some, Key.keywordIn, Option.map_some, Option.some_inj]
        at took same ⊢
      exact ((keywise.moves name entry) state next took).2 other same

theorem Keywise.readEntries_toOption (entries : List Annotation) (state : State) :
    (readEntries step state entries).toOption = entries.foldlM (taken step) state := by
  induction entries generalizing state with
  | nil => rfl
  | cons entry rest inductionHypothesis =>
    rw [readEntries, List.foldlM_cons]
    cases key : entry.key with
    | literal | symbol => simp [taken, key, Except.toOption]
    | name name =>
      have placeless := (agree_iff _ _).1 <|
        keywise.orderless state name rest.isEmpty true entry entry (.same entry) key
      simp only [taken, key, toOption_bind, placeless, inductionHypothesis]
      rfl

theorem Keywise.taken_eq (state : State) {first second : Annotation}
    (rearranged : Rearranged first second) : taken step state first = taken step state second := by
  unfold taken
  rw [← rearranged.key_eq]
  cases key : first.key with
  | literal | symbol => rfl
  | name name =>
    exact (agree_iff _ _).1 (keywise.orderless state name true true first second rearranged key)

theorem Keywise.foldlM_eq (state : State) {entries others : List Annotation}
    (each : List.Forall₂ Rearranged entries others) :
    entries.foldlM (taken step) state = others.foldlM (taken step) state := by
  induction each generalizing state with
  | nil => rfl
  | cons head _ inductionHypothesis =>
    simp only [List.foldlM_cons, keywise.taken_eq state head, inductionHypothesis]

omit keywise in
/-- An entry without a keyword ends a row. -/
theorem foldlM_unread (list : Key) (entries : List Annotation) (state : State)
    (unread : ∀ entry ∈ entries, entry.key.keywordIn list = none) :
    entries.foldlM (taken step) state = if entries = [] then some state else none := by
  cases entries with
  | nil => rfl
  | cons entry rest =>
    have none_taken : taken step state entry = none := by
      have own := unread entry List.mem_cons_self
      cases key : entry.key with
      | literal | symbol => simp [taken, key]
      | name name => simp [Key.keywordIn, key] at own
    rw [List.foldlM_cons, none_taken]
    rfl

/-- Rearranged rows are read alike. -/
theorem Keywise.readEntries_alike (state : State) {entries others : List Annotation}
    (rearranged : Rearranged (.group list entries) (.group list others)) :
    Agree (readEntries step state entries)
      (readEntries step state others) := by
  rw [agree_iff, keywise.readEntries_toOption, keywise.readEntries_toOption]
  refine keywise.separate.foldlM_eq entries others state fun kind => ?_
  cases kind with
  | some keyword => exact keywise.foldlM_eq state (rearranged.forall₂_filter keyword)
  | none =>
    have same : entries.filter (·.key.keywordIn list = none) = [] ↔
        others.filter (·.key.keywordIn list = none) = [] := by
      simpa using not_congr (rearranged.exists_iff none)
    rw [foldlM_unread list _ state (by simp), foldlM_unread list _ state (by simp)]
    simp only [same]

theorem Keywise.list_orderless {name : String} (named : list = .name name) (start : State)
    (finish : State → Except Fault Value) :
    Orderless name (fun last entry =>
      do finish (← readEntries step start (← entry.entries last))) := by
  intro last other first second rearranged key
  cases rearranged with
  | same => exact (entries_alike (.inl rfl) last other).bind fun _ => rfl
  | group own entries others keywords unread =>
    have same : own = list := key.trans named.symm
    subst same
    have rearranged : Rearranged (.group own entries) (.group own others) :=
      .group own entries others keywords unread
    have empty := rearranged.eq_nil_iff
    have row := keywise.readEntries_alike start rearranged
    cases entries with
    | nil =>
      cases others with
      | nil => rfl
      | cons => simp at empty
    | cons =>
      cases others with
      | nil => simp at empty
      | cons => exact row.bind fun _ => rfl

theorem Keywise.readAttributes_alike (own : list = .name attributeName) (state : State)
    {attributes others : List Annotation} (each : List.Forall₂ Rearranged attributes others) :
    Agree (readAttributes step state attributes)
      (readAttributes step state others) := by
  induction each generalizing state with
  | nil => rfl
  | cons head _ inductionHypothesis =>
    rw [readAttributes, readAttributes, List.foldlM_cons, List.foldlM_cons]
    refine Alike.bind ?_ inductionHypothesis
    rw [← head.key_eq]
    split
    · next named =>
      cases head with
      | same => rfl
      | group key entries others keywords unread =>
        cases named
        subst own
        exact keywise.readEntries_alike state (.group _ entries others keywords unread)
    · rfl

end Rows

section Steps

variable {State Part Value : Type} {part : String → State → Part} {keyword : String}

theorem Moves.congr {act other : State → Except Fault State} (moves : Moves part keyword act)
    (same : ∀ state, act state = other state) : Moves part keyword other :=
  funext same ▸ moves

/-- The reading of a value moves a part if the value is put there. -/
theorem Moves.of_bind {read : Except Fault Value} {change : State → Value → State}
    (elsewhere : ∀ state value other, other ≠ keyword →
      part other (change state value) = part other state)
    (inside : ∀ first second value, part keyword first = part keyword second →
      part keyword (change first value) = part keyword (change second value)) :
    Moves part keyword fun state => read >>= fun value => pure (change state value) := by
  intro state next took
  obtain ⟨value, got, equal⟩ := (bind_eq_ok _ _ _).1 took
  cases equal
  refine ⟨elsewhere state value, fun other same => ⟨change other value, ?_, inside _ _ _ same⟩⟩
  rw [bind_eq_ok]
  exact ⟨value, got, rfl⟩

/-- A part that may be filled only once is moved as long as it is vacant. -/
theorem Moves.of_vacant {act : State → Except Fault State} {occupied : State → Bool} {fault : Fault}
    (moves : Moves part keyword act)
    (told : ∀ first second, part keyword first = part keyword second →
      occupied first = occupied second) :
    Moves part keyword fun state => if occupied state then .error fault else act state := by
  intro state next took
  cases vacant : occupied state with
  | true => simp [vacant] at took
  | false =>
    simp only [vacant, Bool.false_eq_true, if_false] at took
    obtain ⟨elsewhere, inside⟩ := moves state next took
    refine ⟨elsewhere, fun other same => ?_⟩
    simp only [told other state same, vacant, Bool.false_eq_true, if_false]
    exact inside other same

end Steps

/-- What an argument under way has of a keyword. -/
def ArgumentDraft.part (keyword : String) (draft : ArgumentDraft) : ArgumentDraft where
  name := if keyword = "name" then draft.name else none
  rest := {
    name := draft.rest.name
    value := if keyword = "value" then draft.rest.value else none
    kind := if keyword = "kind" then draft.rest.kind else .default
    optional := keyword = "optional" && draft.rest.optional
    variableName := if keyword = "variable" then draft.rest.variableName else none }

theorem argumentStep_keywise : Keywise (.name "argument") argumentStep ArgumentDraft.part where
  whole first second same := by
    have each := And.intro (same "name") <| And.intro (same "value") <| And.intro (same "kind") <|
      And.intro (same "optional") (same "variable")
    obtain ⟨_, _, _, _, _, _⟩ := first
    obtain ⟨_, _, _, _, _, _⟩ := second
    simp_all [ArgumentDraft.part]
  moves name entry draft next took := by
    rw [Key.keyword_of_ne (by decide)]
    unfold argumentStep at took
    split at took
    case h_3 =>
      exact (Moves.of_bind (by simp +contextual [ArgumentDraft.part])
        (by simp +contextual [ArgumentDraft.part])).congr
          (fun _ => bind_assoc entry.text readKind _) _ _ took
    case h_6 => cases took
    all_goals
      exact Moves.of_bind (by simp +contextual [ArgumentDraft.part])
        (by simp +contextual [ArgumentDraft.part]) _ _ took
  orderless draft name last other first second rearranged _ := by
    have same : argumentStep draft name last first = argumentStep draft name other second := by
      simp only [argumentStep, rearranged.text_eq, rearranged.flag_eq]
    rw [same]
    rfl

/-- What a variable under way has of a keyword. -/
def VariableDraft.part (keyword : String) (draft : VariableDraft) : VariableDraft where
  name := if keyword = "name" then draft.name else none
  type := if keyword = "scalar" then draft.type else none

theorem variableStep_keywise : Keywise (.name "variable") variableStep VariableDraft.part where
  whole first second same := by
    have each := And.intro (same "name") (same "scalar")
    obtain ⟨_, _⟩ := first
    obtain ⟨_, _⟩ := second
    simp_all [VariableDraft.part]
  moves name entry draft next took := by
    rw [Key.keyword_of_ne (by decide)]
    unfold variableStep at took
    split at took
    case h_3 => cases took
    all_goals
      exact Moves.of_bind (by simp +contextual [VariableDraft.part])
        (by simp +contextual [VariableDraft.part]) _ _ took
  orderless draft name last other first second rearranged _ := by
    have same : variableStep draft name last first = variableStep draft name other second := by
      simp only [variableStep, rearranged.text_eq]
    rw [same]
    rfl

theorem readArgument_orderless : Orderless "argument" readArgument :=
  Keywise.list_orderless argumentStep_keywise rfl {} _

theorem readVariable_orderless : Orderless "variable" readVariable :=
  Keywise.list_orderless variableStep_keywise rfl {} _

section Items

variable {Item : Type} (owner : Owner) (item : String)
  (read : Bool → Annotation → Except Fault Item)

/-- The step of a list whose entries all have one name. -/
def listedStep (items : List Item) (name : String) (last : Bool) (entry : Annotation) :
    Except Fault (List Item) :=
  if name = item then do return items ++ [← read last entry] else .error (.unknownName owner)

theorem listedStep_keywise {list : Key} (plain : list ≠ .name "operation")
    (orderless : Orderless item read) :
    Keywise list (listedStep owner item read)
      fun keyword items => if keyword = item then items else [] where
  whole first second same := by simpa using same item
  moves name entry items next took := by
    rw [Key.keyword_of_ne plain]
    by_cases named : name = item
    · subst named
      have moves : Moves (fun keyword items => if keyword = name then items else []) name
          fun items => read true entry >>= fun value => pure (items ++ [value]) :=
        .of_bind (by simp +contextual) (by simp +contextual)
      exact moves.congr (fun _ => (if_pos rfl).symm) items next took
    · simp [listedStep, named] at took
  orderless items name last other first second rearranged key := by
    unfold listedStep
    split
    · next named =>
      exact (orderless last other first second rearranged (named ▸ key)).bind fun _ => rfl
    · rfl

theorem readListed_orderless {name : String} (plain : name ≠ "operation")
    (orderless : Orderless item read) (before : List Item) :
    Orderless name (readListed owner item read before) := by
  have keywise : Keywise (.name name) (listedStep owner item read) _ :=
    listedStep_keywise owner item read (by simpa using plain) orderless
  have list := keywise.list_orderless rfl before pure
  simp only [bind_pure] at list
  exact list

/-- The results of a list follow those before it. -/
theorem readEntries_listedStep (before items : List Item) (entries : List Annotation) :
    readEntries (listedStep owner item read) (before ++ items) entries =
      readEntries (listedStep owner item read) items entries >>= fun read =>
        pure (before ++ read) := by
  induction entries generalizing items with
  | nil => rfl
  | cons entry rest inductionHypothesis =>
    rw [readEntries, readEntries]
    split
    · rfl
    · rfl
    · next name key =>
      unfold listedStep
      split
      · simp only [bind_assoc, pure_bind, List.append_assoc]
        congr 1
        funext value
        exact inductionHypothesis _
      · rfl

theorem readListed_bind {Result : Type} (before : List Item) (last : Bool) (entry : Annotation)
    (next : List Item → Except Fault Result) :
    (readListed owner item read [] last entry >>= fun items => next (before ++ items)) =
      readListed owner item read before last entry >>= next := by
  change (entry.entries last >>= readEntries (listedStep owner item read) []) >>= _ =
    (entry.entries last >>= readEntries (listedStep owner item read) before) >>= _
  rw [bind_assoc, bind_assoc]
  congr 1
  funext entries
  have row := readEntries_listedStep owner item read before [] entries
  rw [List.append_nil] at row
  rw [row, bind_assoc]
  rfl

end Items

theorem readVariables_bind {Result : Type} (before : List Schema.VariableAttribute) (last : Bool)
    (entry : Annotation) (next : List Schema.VariableAttribute → Except Fault Result) :
    (readVariables [] last entry >>= fun items => next (before ++ items)) =
      readVariables before last entry >>= next :=
  readListed_bind .variableList "variable" readVariable before last entry next

theorem readArguments_bind {Result : Type} (before : List Schema.ArgumentAttribute) (last : Bool)
    (entry : Annotation) (next : List Schema.ArgumentAttribute → Except Fault Result) :
    (readArguments [] last entry >>= fun items => next (before ++ items)) =
      readArguments before last entry >>= next :=
  readListed_bind .arguments "argument" readArgument before last entry next

theorem readVariables_orderless (before : List Schema.VariableAttribute) :
    Orderless "variables" (readVariables before) :=
  readListed_orderless _ _ _ (by decide) readVariable_orderless before

theorem readArguments_orderless (before : List Schema.ArgumentAttribute) :
    Orderless "arguments" (readArguments before) :=
  readListed_orderless _ _ _ (by decide) readArgument_orderless before

/-- What a property under way has of a keyword. -/
def PropertyDraft.part (keyword : String) (draft : PropertyDraft) : PropertyDraft where
  name := if keyword = "name" then draft.name else none
  arguments := if keyword = "argument" then draft.arguments else []

theorem propertyStep_keywise : Keywise (.name "property") propertyStep PropertyDraft.part where
  whole first second same := by
    have each := And.intro (same "name") (same "argument")
    obtain ⟨_, _⟩ := first
    obtain ⟨_, _⟩ := second
    simp_all [PropertyDraft.part]
  moves name entry draft next took := by
    rw [Key.keyword_of_ne (by decide)]
    unfold propertyStep at took
    split at took
    case h_3 => cases took
    all_goals
      exact Moves.of_bind (by simp +contextual [PropertyDraft.part])
        (by simp +contextual [PropertyDraft.part]) _ _ took
  orderless draft name last other first second rearranged key := by
    unfold propertyStep
    split
    · rw [rearranged.text_eq]
      rfl
    · exact (readArgument_orderless last other _ _ rearranged key).bind fun _ => rfl
    · rfl

theorem readProperty_orderless : Orderless "property" readProperty := by
  intro last other first second rearranged key
  have list := Keywise.list_orderless propertyStep_keywise rfl {}
    (fun draft => do
      return (⟨← requireMember .property "name" draft.name, draft.arguments⟩ :
        Schema.PropertyAttribute))
    last other first second rearranged key
  cases rearranged with
  | same => exact readProperty_alike (.inl rfl) last other
  | group => exact list

/-- What an operation under way has of a keyword. -/
def OperationDraft.part (keyword : String) (draft : OperationDraft) : OperationDraft where
  name := if keyword = "name" then draft.name else none
  method := if keyword = "method" then draft.method else .query
  variableAttributes := if keyword = "variable" then draft.variableAttributes else []
  property := if keyword = "property" then draft.property else none

theorem operationStep_keywise :
    Keywise (.name "operation") operationStep OperationDraft.part where
  whole first second same := by
    have each := And.intro (same "name") <| And.intro (same "method") <|
      And.intro (same "variable") (same "property")
    obtain ⟨_, _, _, _⟩ := first
    obtain ⟨_, _, _, _⟩ := second
    simp_all [OperationDraft.part]
  moves name entry draft next took := by
    unfold operationStep at took
    split at took
    case h_2 =>
      exact (Moves.of_bind (by simp +contextual [OperationDraft.part, Key.keyword])
        (by simp +contextual [OperationDraft.part, Key.keyword])).congr
          (fun _ => bind_assoc entry.text readMethod _) _ _ took
    case h_4 =>
      have moves : Moves OperationDraft.part ((Key.name "operation").keyword "variables")
          fun draft => readVariables [] true entry >>= fun items => pure
            { draft with variableAttributes := draft.variableAttributes ++ items } :=
        .of_bind (by simp +contextual [OperationDraft.part, Key.keyword])
          (by simp +contextual [OperationDraft.part, Key.keyword])
      exact moves.congr (fun draft => readVariables_bind draft.variableAttributes true entry
        fun items => pure { draft with variableAttributes := items }) _ _ took
    case h_6 => cases took
    all_goals
      exact Moves.of_bind (by simp +contextual [OperationDraft.part, Key.keyword])
        (by simp +contextual [OperationDraft.part, Key.keyword]) _ _ took
  orderless draft name last other first second rearranged key := by
    unfold operationStep
    split
    · rw [rearranged.text_eq]
      rfl
    · rw [rearranged.text_eq]
      rfl
    · exact (readVariable_orderless last other _ _ rearranged key).bind fun _ => rfl
    · exact (readVariables_orderless _ last other _ _ rearranged key).bind fun _ => rfl
    · exact (readProperty_orderless last other _ _ rearranged key).bind fun _ => rfl
    · rfl

theorem readOperation_orderless : Orderless "operation" readOperation :=
  Keywise.list_orderless operationStep_keywise rfl {} _

/-- What the attributes of a type have of a keyword. -/
def TypeAttributes.part (keyword : String) (attributes : TypeAttributes) : TypeAttributes where
  property := if keyword = "property" then attributes.property else none
  operation := if keyword = "operation" then attributes.operation else none

theorem typeStep_keywise : Keywise (.name attributeName) typeStep TypeAttributes.part where
  whole first second same := by
    have each := And.intro (same "property") (same "operation")
    obtain ⟨_, _⟩ := first
    obtain ⟨_, _⟩ := second
    simp_all [TypeAttributes.part]
  moves name entry attributes next took := by
    rw [Key.keyword_of_ne (by decide)]
    unfold typeStep at took
    split at took
    case h_3 => cases took
    all_goals
      exact Moves.of_bind (by simp +contextual [TypeAttributes.part])
        (by simp +contextual [TypeAttributes.part]) _ _ took
  orderless attributes name last other first second rearranged key := by
    unfold typeStep
    split
    · exact (readProperty_orderless last other _ _ rearranged key).bind fun _ => rfl
    · exact (readOperation_orderless last other _ _ rearranged key).bind fun _ => rfl
    · rfl

/-- What the attributes of a field have of a keyword. -/
def FieldAttributes.part (keyword : String) (attributes : FieldAttributes) : FieldAttributes where
  rename := if keyword = "rename" then attributes.rename else none
  property := if keyword = "property" then attributes.property else none
  arguments := if keyword = "arguments" then attributes.arguments else none
  argument := if keyword = "argument" then attributes.argument else none
  variableAttributes := if keyword = "variables" then attributes.variableAttributes else []
  single := if keyword = "variable" then attributes.single else none
  ignored := keyword = "ignore" && attributes.ignored
  scalar := keyword = "scalar" && attributes.scalar
  flattened := keyword = "flatten" && attributes.flattened

theorem fieldStep_keywise : Keywise (.name attributeName) fieldStep FieldAttributes.part where
  whole first second same := by
    have slots := And.intro (same "rename") <| And.intro (same "property") <|
      And.intro (same "arguments") <| And.intro (same "argument") <|
      And.intro (same "variables") (same "variable")
    have flags := And.intro (same "ignore") <| And.intro (same "scalar") (same "flatten")
    obtain ⟨_, _, _, _, _, _, _, _, _⟩ := first
    obtain ⟨_, _, _, _, _, _, _, _, _⟩ := second
    simp_all [FieldAttributes.part]
  moves name entry attributes next took := by
    rw [Key.keyword_of_ne (by decide)]
    unfold fieldStep at took
    split at took
    case h_3 =>
      have moves : Moves FieldAttributes.part "arguments"
          fun attributes => readArguments [] true entry >>= fun items => pure
            { attributes with arguments := some (attributes.arguments.getD [] ++ items) } :=
        .of_bind (by simp +contextual [FieldAttributes.part])
          (by simp +contextual [FieldAttributes.part])
      exact moves.congr (fun attributes => readArguments_bind (attributes.arguments.getD []) true
        entry fun items => pure { attributes with arguments := some items }) _ _ took
    case h_5 =>
      have moves : Moves FieldAttributes.part "variables"
          fun attributes => readVariables [] true entry >>= fun items => pure
            { attributes with variableAttributes := attributes.variableAttributes ++ items } :=
        .of_bind (by simp +contextual [FieldAttributes.part])
          (by simp +contextual [FieldAttributes.part])
      exact moves.congr (fun attributes => readVariables_bind attributes.variableAttributes true
        entry fun items => pure { attributes with variableAttributes := items }) _ _ took
    case h_4 =>
      have moves : Moves FieldAttributes.part "argument"
          fun attributes => readArgument true entry >>= fun argument => pure
            { attributes with argument := some argument } :=
        .of_bind (by simp +contextual [FieldAttributes.part])
          (by simp +contextual [FieldAttributes.part])
      exact moves.of_vacant (by simp +contextual [FieldAttributes.part]) _ _ took
    case h_6 =>
      have moves : Moves FieldAttributes.part "variable"
          fun attributes => readVariable true entry >>= fun single => pure
            { attributes with single := some single } :=
        .of_bind (by simp +contextual [FieldAttributes.part])
          (by simp +contextual [FieldAttributes.part])
      exact moves.of_vacant (by simp +contextual [FieldAttributes.part]) _ _ took
    case h_10 => cases took
    all_goals
      exact Moves.of_bind (by simp +contextual [FieldAttributes.part])
        (by simp +contextual [FieldAttributes.part]) _ _ took
  orderless attributes name last other first second rearranged key := by
    unfold fieldStep
    split
    · rw [rearranged.text_eq]
      rfl
    · exact (readProperty_orderless last other _ _ rearranged key).bind fun _ => rfl
    · exact (readArguments_orderless _ last other _ _ rearranged key).bind fun _ => rfl
    · split
      · rfl
      · exact (readArgument_orderless last other _ _ rearranged key).bind fun _ => rfl
    · exact (readVariables_orderless _ last other _ _ rearranged key).bind fun _ => rfl
    · split
      · rfl
      · exact (readVariable_orderless last other _ _ rearranged key).bind fun _ => rfl
    · rw [rearranged.flag_eq]
      rfl
    · rw [rearranged.flag_eq]
      rfl
    · rw [rearranged.flag_eq]
      rfl
    · rfl

end GraphQuery.Declaration
