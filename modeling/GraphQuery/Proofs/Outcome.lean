import Mathlib.Data.List.Forall2

/-
This file opens computations that can fail.
-/

namespace GraphQuery.Outcome

variable {Problem Value Result : Type}

theorem bind_eq_ok (first : Except Problem Value) (next : Value → Except Problem Result)
    (result : Result) :
    (first >>= next) = .ok result ↔ ∃ value, first = .ok value ∧ next value = .ok result := by
  cases first <;> simp [bind, Except.bind]

theorem bind_eq_error (first : Except Problem Value) (next : Value → Except Problem Result)
    (problem : Problem) :
    (first >>= next) = .error problem ↔
      first = .error problem ∨ ∃ value, first = .ok value ∧ next value = .error problem := by
  cases first <;> simp [bind, Except.bind]

theorem toOption_eq_some (outcome : Except Problem Value) (value : Value) :
    outcome.toOption = some value ↔ outcome = .ok value := by
  cases outcome <;> simp [Except.toOption]

theorem toOption_bind (first : Except Problem Value) (next : Value → Except Problem Result) :
    (first >>= next).toOption = first.toOption.bind fun value => (next value).toOption := by
  cases first <;> rfl

theorem isSome_toOption (outcome : Except Problem Value) :
    outcome.toOption.isSome = true ↔ ∃ value, outcome = .ok value := by
  cases outcome <;> simp [Except.toOption]

/-- A loop that succeeds has passed each of its steps. -/
theorem exists_of_foldlM_eq_ok (step : Result → Value → Except Problem Result)
    (values : List Value) (start result : Result)
    (succeeded : values.foldlM step start = .ok result) (value : Value) (member : value ∈ values) :
    ∃ before after, step before value = .ok after := by
  induction values generalizing start with
  | nil => cases member
  | cons first rest inductionHypothesis =>
    rw [List.foldlM_cons, bind_eq_ok] at succeeded
    obtain ⟨state, now, later⟩ := succeeded
    rcases List.mem_cons.1 member with rfl | among
    · exact ⟨start, state, now⟩
    · exact inductionHypothesis state later among

/-- A loop that fails has passed the steps before the one that fails. -/
theorem exists_split_of_foldlM_eq_error (step : Result → Value → Except Problem Result)
    (values : List Value) (start : Result) (problem : Problem)
    (failed : values.foldlM step start = .error problem) :
    ∃ before value after state, values = before ++ value :: after ∧
      before.foldlM step start = .ok state ∧ step state value = .error problem := by
  induction values generalizing start with
  | nil => simp [pure, Except.pure] at failed
  | cons first rest inductionHypothesis =>
    rw [List.foldlM_cons, bind_eq_error] at failed
    rcases failed with now | ⟨state, passed, later⟩
    · exact ⟨[], first, rest, start, rfl, rfl, now⟩
    · obtain ⟨before, value, after, reached, rfl, earlier, met⟩ := inductionHypothesis state later
      refine ⟨first :: before, value, after, reached, rfl, ?_, met⟩
      rw [List.foldlM_cons, bind_eq_ok]
      exact ⟨state, passed, earlier⟩

/-- A loop that fails has a step that fails. -/
theorem exists_of_foldlM_eq_error (step : Result → Value → Except Problem Result)
    (values : List Value) (start : Result) (problem : Problem)
    (failed : values.foldlM step start = .error problem) :
    ∃ value ∈ values, ∃ state, step state value = .error problem := by
  obtain ⟨before, value, after, state, rfl, -, met⟩ :=
    exists_split_of_foldlM_eq_error step values start problem failed
  exact ⟨value, by simp, state, met⟩

theorem foldlM_congr (first second : Result → Value → Except Problem Result)
    (values : List Value) (start : Result)
    (same : ∀ value ∈ values, ∀ state, first state value = second state value) :
    values.foldlM first start = values.foldlM second start := by
  induction values generalizing start with
  | nil => rfl
  | cons value rest inductionHypothesis =>
    rw [List.foldlM_cons, List.foldlM_cons, same value (.head _)]
    congr 1
    funext state
    exact inductionHypothesis state fun other member => same other (.tail _ member)

theorem map_eq_ok (first : Except Problem Value) (change : Value → Result) (result : Result) :
    first.map change = .ok result ↔ ∃ value, first = .ok value ∧ change value = result := by
  cases first <;> simp [Except.map]

theorem map_eq_error (first : Except Problem Value) (change : Value → Result)
    (problem : Problem) : first.map change = .error problem ↔ first = .error problem := by
  cases first <;> simp [Except.map]

/-- A row of steps that fails has a step that fails. -/
theorem exists_of_mapM_eq_error (step : Value → Except Problem Result) (values : List Value)
    (problem : Problem) (failed : values.mapM step = .error problem) :
    ∃ value ∈ values, step value = .error problem := by
  induction values with
  | nil => simp [pure, Except.pure] at failed
  | cons value rest inductionHypothesis =>
    rw [List.mapM_cons, bind_eq_error] at failed
    rcases failed with now | ⟨first, -, later⟩
    · exact ⟨value, List.mem_cons_self, now⟩
    · rcases (bind_eq_error _ _ _).1 later with tail | ⟨others, -, impossible⟩
      · obtain ⟨other, member, reached⟩ := inductionHypothesis tail
        exact ⟨other, List.mem_cons_of_mem _ member, reached⟩
      · cases impossible

/-- A loop collects the results of its steps in their order. -/
theorem mapM_eq_ok (step : Value → Except Problem Result) (values : List Value)
    (results : List Result) :
    values.mapM step = .ok results ↔
      List.Forall₂ (fun value result => step value = .ok result) values results := by
  induction values generalizing results with
  | nil =>
    rw [List.forall₂_nil_left_iff]
    exact ⟨fun equal => (Except.ok.inj equal).symm, fun equal => by rw [equal]; rfl⟩
  | cons value rest inductionHypothesis =>
    rw [List.mapM_cons, bind_eq_ok, List.forall₂_cons_left_iff]
    constructor
    · rintro ⟨first, head, tail⟩
      obtain ⟨others, later, equal⟩ := (bind_eq_ok _ _ _).1 tail
      exact ⟨first, others, head, (inductionHypothesis others).1 later, (Except.ok.inj equal).symm⟩
    · rintro ⟨first, others, head, later, rfl⟩
      exact ⟨first, head, (bind_eq_ok _ _ _).2 ⟨others, (inductionHypothesis others).2 later, rfl⟩⟩

/-- A row of steps succeeds exactly if each of its steps does. -/
theorem exists_mapM_eq_ok_iff (step : Value → Except Problem Result) (values : List Value) :
    (∃ results, values.mapM step = .ok results) ↔
      ∀ value ∈ values, ∃ result, step value = .ok result := by
  simp only [mapM_eq_ok]
  constructor
  · rintro ⟨results, each⟩ value member
    obtain ⟨index, inside, rfl⟩ := List.getElem_of_mem member
    exact ⟨_, (List.forall₂_iff_get.1 each).2 index inside (each.length_eq ▸ inside)⟩
  · intro each
    induction values with
    | nil => exact ⟨[], .nil⟩
    | cons value rest inductionHypothesis =>
      obtain ⟨first, head⟩ := each value List.mem_cons_self
      obtain ⟨others, later⟩ := inductionHypothesis fun other member =>
        each other (List.mem_cons_of_mem _ member)
      exact ⟨first :: others, .cons head later⟩

section Alike

variable {Note : Type}

/-- Outcomes are alike under a note if they are the same once a note is taken of each problem. -/
def Alike (note : Problem → Note) (first second : Except Problem Value) : Prop :=
  first.mapError note = second.mapError note

variable {note : Problem → Note}

theorem Alike.refl (outcome : Except Problem Value) : Alike note outcome outcome := rfl

theorem alike_id (first second : Except Problem Value) :
    Alike id first second ↔ first = second := by
  cases first <;> cases second <;> simp [Alike, Except.mapError]

/-- Outcomes agree if they are the same value or both of them are problems. -/
abbrev Agree (first second : Except Problem Value) : Prop := Alike (fun _ => ()) first second

theorem agree_iff (first second : Except Problem Value) :
    Agree first second ↔ first.toOption = second.toOption := by
  cases first <;> cases second <;> simp [Alike, Except.mapError, Except.toOption]

theorem Agree.eq_ok {first second : Except Problem Value} (agree : Agree first second)
    {value : Value} (succeeded : first = .ok value) : second = .ok value := by
  rw [← toOption_eq_some, ← (agree_iff _ _).1 agree, toOption_eq_some]
  exact succeeded

/-- Outcomes that are alike are the same or problems of which the same note is taken. -/
theorem Alike.eq_or_error {first second : Except Problem Value} (alike : Alike note first second) :
    first = second ∨ ∃ problem other, first = .error problem ∧ second = .error other ∧
      note problem = note other := by
  cases first with
  | ok value =>
    cases second with
    | ok other => exact .inl (congrArg Except.ok (Except.ok.inj alike))
    | error => cases alike
  | error problem =>
    cases second with
    | ok => cases alike
    | error other => exact .inr ⟨problem, other, rfl, rfl, Except.error.inj alike⟩

theorem Alike.bind {first second : Except Problem Value}
    {next other : Value → Except Problem Result} (now : Alike note first second)
    (later : ∀ value, Alike note (next value) (other value)) :
    Alike note (first >>= next) (second >>= other) := by
  rcases now.eq_or_error with rfl | ⟨problem, _, rfl, rfl, noted⟩
  · cases first with
    | error => rfl
    | ok value => exact later value
  · exact congrArg Except.error noted

theorem Alike.map {first second : Except Problem Value} (alike : Alike note first second)
    (change : Value → Result) : Alike note (first.map change) (second.map change) := by
  rcases alike.eq_or_error with rfl | ⟨problem, other, rfl, rfl, noted⟩
  · rfl
  · exact congrArg Except.error noted

/-- Rows of steps are alike if their steps are. -/
theorem Alike.mapM {Other : Type} {step : Value → Except Problem Result}
    {again : Other → Except Problem Result} {values : List Value} {others : List Other}
    (each : List.Forall₂ (fun value other => Alike note (step value) (again other)) values others) :
    Alike note (values.mapM step) (others.mapM again) := by
  induction each with
  | nil => rfl
  | cons head _ inductionHypothesis =>
    rw [List.mapM_cons, List.mapM_cons]
    exact head.bind fun _ => inductionHypothesis.bind fun _ => rfl

end Alike

end GraphQuery.Outcome
