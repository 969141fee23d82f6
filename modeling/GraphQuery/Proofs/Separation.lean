import Mathlib.Data.List.Forall2

/-
This file runs rows of entries each of which works on one part of a state.
-/

namespace GraphQuery

variable {State Entry Kind Part : Type}

/-- The entries of a row are separate if the parts of a state make it up, and an entry that is taken
leaves the parts of other kinds as they are and depends on the part of its own kind alone. -/
structure Separate (take : State → Entry → Option State) (kind : Entry → Kind)
    (part : Kind → State → Part) : Prop where
  whole : ∀ first second, (∀ key, part key first = part key second) → first = second
  elsewhere : ∀ state entry next, take state entry = some next →
    ∀ key, key ≠ kind entry → part key next = part key state
  inside : ∀ state entry next, take state entry = some next →
    ∀ other, part (kind entry) other = part (kind entry) state →
      ∃ reached, take other entry = some reached ∧
        part (kind entry) reached = part (kind entry) next

namespace Separate

variable {take : State → Entry → Option State} {kind : Entry → Kind} {part : Kind → State → Part}
  (separate : Separate take kind part)

include separate

/-- Entries of one kind go the same way from all states that have the same part of this kind. -/
theorem exists_foldlM_of_part (key : Kind) (entries : List Entry)
    (only : ∀ entry ∈ entries, kind entry = key) (state other final : State)
    (same : part key other = part key state) (taken : entries.foldlM take state = some final) :
    ∃ reached, entries.foldlM take other = some reached ∧ part key reached = part key final := by
  induction entries generalizing state other with
  | nil =>
    cases taken
    exact ⟨other, rfl, same⟩
  | cons entry rest inductionHypothesis =>
    rw [List.foldlM_cons] at taken
    obtain ⟨next, now, later⟩ := Option.bind_eq_some_iff.1 taken
    have own := only entry List.mem_cons_self
    obtain ⟨step, stepped, agreed⟩ := separate.inside state entry next now other (own ▸ same)
    have others := fun other member => only other (List.mem_cons_of_mem entry member)
    obtain ⟨reached, onward, equal⟩ := inductionHypothesis others next step (own ▸ agreed) later
    refine ⟨reached, ?_, equal⟩
    rw [List.foldlM_cons, stepped]
    exact onward

variable [DecidableEq Kind]

/-- A whole row leaves in each part what the entries of this kind alone would leave. -/
theorem exists_foldlM_filter (key : Kind) (entries : List Entry) (state final : State)
    (taken : entries.foldlM take state = some final) :
    ∃ reached, (entries.filter (kind · = key)).foldlM take state = some reached ∧
      part key reached = part key final := by
  induction entries generalizing state with
  | nil =>
    cases taken
    exact ⟨_, rfl, rfl⟩
  | cons entry rest inductionHypothesis =>
    rw [List.foldlM_cons] at taken
    obtain ⟨next, now, later⟩ := Option.bind_eq_some_iff.1 taken
    obtain ⟨reached, onward, equal⟩ := inductionHypothesis next later
    by_cases own : kind entry = key
    · refine ⟨reached, ?_, equal⟩
      rw [List.filter_cons_of_pos (by simpa using own), List.foldlM_cons, now]
      exact onward
    · have untouched := separate.elsewhere state entry next now key (Ne.symm own)
      rw [List.filter_cons_of_neg (by simpa using own)]
      obtain ⟨back, before, same⟩ := separate.exists_foldlM_of_part key _ (by simp) next state
        reached untouched.symm onward
      exact ⟨back, before, same.trans equal⟩

/-- A row is taken if the entries of each kind would be taken alone. -/
theorem exists_foldlM_of_filter (entries : List Entry) (state : State)
    (each : ∀ key, ∃ reached, (entries.filter (kind · = key)).foldlM take state = some reached) :
    ∃ final, entries.foldlM take state = some final := by
  induction entries generalizing state with
  | nil => exact ⟨state, rfl⟩
  | cons entry rest inductionHypothesis =>
    obtain ⟨reached, taken⟩ := each (kind entry)
    rw [List.filter_cons_of_pos (by simp), List.foldlM_cons] at taken
    obtain ⟨next, now, later⟩ := Option.bind_eq_some_iff.1 taken
    obtain ⟨final, onward⟩ := inductionHypothesis next fun key => by
      by_cases own : kind entry = key
      · exact ⟨reached, own ▸ later⟩
      · obtain ⟨alone, before⟩ := each key
        rw [List.filter_cons_of_neg (by simpa using own)] at before
        have untouched := separate.elsewhere state entry next now key (Ne.symm own)
        obtain ⟨after, moved, -⟩ :=
          separate.exists_foldlM_of_part key _ (by simp) state next alone untouched before
        exact ⟨after, moved⟩
    refine ⟨final, ?_⟩
    rw [List.foldlM_cons, now]
    exact onward

/-- Rows that do the same in each kind do the same. -/
theorem foldlM_eq (entries others : List Entry) (state : State)
    (same : ∀ key, (entries.filter (kind · = key)).foldlM take state =
      (others.filter (kind · = key)).foldlM take state) :
    entries.foldlM take state = others.foldlM take state := by
  have onward : ∀ first second : List Entry,
      (∀ key, (first.filter (kind · = key)).foldlM take state =
        (second.filter (kind · = key)).foldlM take state) →
      ∀ final, first.foldlM take state = some final → second.foldlM take state = some final := by
    intro first second same final taken
    obtain ⟨reached, onward⟩ := separate.exists_foldlM_of_filter second state fun key => by
      obtain ⟨alone, before, -⟩ := separate.exists_foldlM_filter key first state final taken
      exact ⟨alone, same key ▸ before⟩
    rw [onward]
    refine congrArg some (separate.whole _ _ fun key => ?_)
    obtain ⟨alone, before, equal⟩ := separate.exists_foldlM_filter key first state final taken
    obtain ⟨again, after, agreed⟩ := separate.exists_foldlM_filter key second state reached onward
    rw [← same key, before, Option.some_inj] at after
    rw [← equal, ← agreed, after]
  exact Option.ext fun final =>
    ⟨onward entries others same final, onward others entries (fun key => (same key).symm) final⟩

end Separate

end GraphQuery
