/-
This file holds the insertion-ordered maps from names to values.
-/

namespace GraphQuery

/-- A keyed list holds one entry for each key, in the order of first insertion. -/
abbrev Keyed (α : Type) := List (String × α)

namespace Keyed

variable {α : Type}

def keys (entries : Keyed α) : List String := entries.map Prod.fst

def valueAt? : Keyed α → String → Option α
  | [], _ => none
  | (name, value) :: rest, key => if name = key then some value else valueAt? rest key

/-- A repeated key keeps its place and takes the new value. -/
def put : Keyed α → String → α → Keyed α
  | [], key, value => [(key, value)]
  | (name, old) :: rest, key, value =>
    if name = key then (name, value) :: rest else (name, old) :: put rest key value

/-- The pairs are inserted from left to right. -/
def ofPairs (pairs : List (String × α)) : Keyed α :=
  pairs.foldl (fun entries pair => put entries pair.1 pair.2) []

/-- The value of one key changes; an absent key changes nothing. -/
def adjust (change : α → α) : Keyed α → String → Keyed α
  | [], _ => []
  | (name, value) :: rest, key =>
    if name = key then (name, change value) :: rest else (name, value) :: adjust change rest key

section Equations

variable (rest : Keyed α) (name key : String) (value : α)

theorem valueAt?_nil : valueAt? ([] : Keyed α) key = none := rfl

theorem valueAt?_cons :
    valueAt? ((name, value) :: rest) key = if name = key then some value else valueAt? rest key :=
  rfl

theorem put_nil : put [] key value = [(key, value)] := rfl

theorem put_cons (old : α) :
    put ((name, old) :: rest) key value =
      if name = key then (name, value) :: rest else (name, old) :: put rest key value :=
  rfl

theorem adjust_nil (change : α → α) : adjust change [] key = [] := rfl

theorem adjust_cons (change : α → α) :
    adjust change ((name, value) :: rest) key =
      if name = key then (name, change value) :: rest
      else (name, value) :: adjust change rest key :=
  rfl

end Equations

theorem valueAt?_put (entries : Keyed α) (key other : String) (value : α) :
    valueAt? (put entries key value) other =
      if key = other then some value else valueAt? entries other := by
  induction entries with
  | nil => simp [put_nil, valueAt?_cons, valueAt?_nil]
  | cons entry rest inductionHypothesis =>
    obtain ⟨name, old⟩ := entry
    by_cases same : name = key
    · subst same
      by_cases found : name = other <;> simp [put_cons, valueAt?_cons, found]
    · by_cases found : name = other
      · subst found
        have apart : ¬key = name := fun equal => same equal.symm
        simp [put_cons, valueAt?_cons, same, apart]
      · simp [put_cons, valueAt?_cons, same, found, inductionHypothesis]

theorem keys_put (entries : Keyed α) (key : String) (value : α) :
    keys (put entries key value) =
      if key ∈ keys entries then keys entries else keys entries ++ [key] := by
  induction entries with
  | nil => simp [put_nil, keys]
  | cons entry rest inductionHypothesis =>
    obtain ⟨name, old⟩ := entry
    by_cases same : name = key
    · subst same
      simp [put_cons, keys]
    · have apart : ¬key = name := fun equal => same equal.symm
      simp only [keys] at inductionHypothesis
      by_cases present : key ∈ rest.map Prod.fst <;>
        simp_all [put_cons, keys]

theorem nodup_keys_put (entries : Keyed α) (key : String) (value : α)
    (distinct : (keys entries).Nodup) : (keys (put entries key value)).Nodup := by
  rw [keys_put]
  split
  · exact distinct
  · next absent =>
    rw [List.nodup_append]
    refine ⟨distinct, by simp, ?_⟩
    intro name member other only equal
    simp only [List.mem_singleton] at only
    exact absent (only ▸ equal ▸ member)

theorem nodup_keys_ofPairs (pairs : List (String × α)) : (keys (ofPairs pairs)).Nodup := by
  have general : ∀ entries : Keyed α, (keys entries).Nodup →
      (keys (pairs.foldl (fun entries pair => put entries pair.1 pair.2) entries)).Nodup := by
    induction pairs with
    | nil => exact fun _ distinct => distinct
    | cons pair rest inductionHypothesis =>
      exact fun entries distinct => inductionHypothesis _ (nodup_keys_put entries _ _ distinct)
  exact general [] (by simp [keys])

theorem keys_adjust (change : α → α) (entries : Keyed α) (key : String) :
    keys (adjust change entries key) = keys entries := by
  induction entries with
  | nil => rfl
  | cons entry rest inductionHypothesis =>
    obtain ⟨name, value⟩ := entry
    simp only [keys] at inductionHypothesis
    by_cases same : name = key <;> simp [adjust_cons, keys, same, inductionHypothesis]

theorem valueAt?_adjust (change : α → α) (entries : Keyed α) (key other : String) :
    valueAt? (adjust change entries key) other =
      if key = other then (valueAt? entries other).map change else valueAt? entries other := by
  induction entries with
  | nil => simp [adjust_nil, valueAt?_nil]
  | cons entry rest inductionHypothesis =>
    obtain ⟨name, value⟩ := entry
    by_cases same : name = key
    · subst same
      by_cases found : name = other <;> simp [adjust_cons, valueAt?_cons, found]
    · by_cases found : name = other
      · subst found
        have apart : ¬key = name := fun equal => same equal.symm
        simp [adjust_cons, valueAt?_cons, same, apart]
      · simp [adjust_cons, valueAt?_cons, same, found, inductionHypothesis]

/-- A key that is present splits the list at its first entry. -/
theorem exists_split (entries : Keyed α) (key : String) (value : α)
    (present : valueAt? entries key = some value) :
    ∃ before after : Keyed α, entries = before ++ (key, value) :: after ∧ key ∉ keys before := by
  induction entries with
  | nil => simp [valueAt?_nil] at present
  | cons entry rest inductionHypothesis =>
    obtain ⟨name, first⟩ := entry
    by_cases same : name = key
    · subst same
      simp only [valueAt?_cons, if_true, Option.some.injEq] at present
      subst present
      exact ⟨[], rest, rfl, by simp [keys]⟩
    · simp only [valueAt?_cons, if_neg same] at present
      obtain ⟨before, after, rfl, absent⟩ := inductionHypothesis present
      have apart : ¬key = name := fun equal => same equal.symm
      exact ⟨(name, first) :: before, after, rfl, by simpa [keys, apart] using absent⟩

theorem valueAt?_split (before after : Keyed α) (key : String) (value : α)
    (absent : key ∉ keys before) :
    valueAt? (before ++ (key, value) :: after) key = some value := by
  induction before with
  | nil => simp [valueAt?_cons]
  | cons entry rest inductionHypothesis =>
    obtain ⟨name, first⟩ := entry
    simp only [keys, List.map_cons, List.mem_cons, not_or] at absent
    have apart : ¬name = key := fun equal => absent.1 equal.symm
    simpa [valueAt?_cons, apart] using inductionHypothesis absent.2

/-- A change takes place at the entry that splits the list. -/
theorem adjust_split (change : α → α) (before after : Keyed α) (key : String) (value : α)
    (absent : key ∉ keys before) :
    adjust change (before ++ (key, value) :: after) key =
      before ++ (key, change value) :: after := by
  induction before with
  | nil => simp [adjust_cons]
  | cons entry rest inductionHypothesis =>
    obtain ⟨name, first⟩ := entry
    simp only [keys, List.map_cons, List.mem_cons, not_or] at absent
    have apart : ¬name = key := fun equal => absent.1 equal.symm
    simpa [adjust_cons, apart] using inductionHypothesis absent.2

/-- Changes of two entries can be swapped, and so can changes of one entry that commute. -/
theorem adjust_comm (first second : α → α) (entries : Keyed α) (key other : String)
    (commute : key = other → ∀ value, first (second value) = second (first value)) :
    adjust first (adjust second entries other) key =
      adjust second (adjust first entries key) other := by
  induction entries with
  | nil => rfl
  | cons entry rest inductionHypothesis =>
    obtain ⟨name, value⟩ := entry
    by_cases here : name = key
    · subst here
      by_cases there : name = other
      · subst there
        simp [adjust_cons, commute rfl]
      · simp [adjust_cons, there]
    · by_cases there : name = other
      · subst there
        simp [adjust_cons, here]
      · simp [adjust_cons, here, there, inductionHypothesis]

theorem adjust_adjust (first second : α → α) (entries : Keyed α) (key : String) :
    adjust second (adjust first entries key) key =
      adjust (fun value => second (first value)) entries key := by
  induction entries with
  | nil => rfl
  | cons entry rest inductionHypothesis =>
    obtain ⟨name, value⟩ := entry
    by_cases same : name = key <;> simp [adjust_cons, same, inductionHypothesis]

end Keyed

end GraphQuery
