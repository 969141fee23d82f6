import Mathlib.Data.List.FinRange

/-
This file makes rows of calls one after another, and rows of writes to the places of a state.
-/

namespace GraphQuery.Replay

section Calls

variable {State Call Outcome : Type} (step : State → Call → State × Outcome)

/-- The state after a row of calls and the outcome of each call. -/
def runAll : State → List Call → State × List Outcome
  | state, [] => (state, [])
  | state, call :: rest =>
    let (next, outcome) := step state call
    let (last, outcomes) := runAll next rest
    (last, outcome :: outcomes)

theorem runAll_cons (state : State) (call : Call) (rest : List Call) :
    runAll step state (call :: rest) =
      ((runAll step (step state call).1 rest).1,
        (step state call).2 :: (runAll step (step state call).1 rest).2) := rfl

variable {step} {Holds : State → Prop}

/-- What every call keeps holds after a row of calls. -/
theorem runAll_keeps (kept : ∀ state call, Holds state → Holds (step state call).1)
    (state : State) (calls : List Call) (holds : Holds state) :
    Holds (runAll step state calls).1 := by
  induction calls generalizing state with
  | nil => exact holds
  | cons call rest inductionHypothesis => exact inductionHypothesis _ (kept state call holds)

/-- Outcomes that do not depend on what the calls change are those of the single calls. -/
theorem runAll_outcomes (kept : ∀ state call, Holds state → Holds (step state call).1)
    (outcome : Call → Outcome)
    (known : ∀ state call, Holds state → (step state call).2 = outcome call)
    (state : State) (calls : List Call) (holds : Holds state) :
    (runAll step state calls).2 = calls.map outcome := by
  induction calls generalizing state with
  | nil => rfl
  | cons call rest inductionHypothesis =>
    rw [runAll_cons, List.map_cons, known state call holds,
      inductionHypothesis _ (kept state call holds)]

/-- Calls whose writes do not depend on what the calls change make their writes in a row. -/
theorem runAll_writes {Write : Type} {write : State → Write → State}
    (kept : ∀ state call, Holds state → Holds (step state call).1) (writes : Call → List Write)
    (known : ∀ state call, Holds state → (step state call).1 = (writes call).foldl write state)
    (state : State) (calls : List Call) (holds : Holds state) :
    (runAll step state calls).1 = (calls.flatMap writes).foldl write state := by
  induction calls generalizing state with
  | nil => rfl
  | cons call rest inductionHypothesis =>
    rw [List.flatMap_cons, List.foldl_append, ← known state call holds, runAll_cons,
      inductionHypothesis _ (kept state call holds)]

end Calls

section Writes

variable {State Place Value : Type}

/-- Writes to different places do not see each other, and of two writes to one place the later one
counts. -/
structure Overwriting (write : State → Place × Value → State) : Prop where
  commute : ∀ state first second, first.1 ≠ second.1 →
    write (write state first) second = write (write state second) first
  absorb : ∀ state first second, first.1 = second.1 →
    write (write state first) second = write state second

variable {write : State → Place × Value → State} (overwriting : Overwriting write)

include overwriting

/-- A write passes writes to other places. -/
theorem Overwriting.foldl_write (entry : Place × Value) (entries : List (Place × Value))
    (apart : ∀ other ∈ entries, other.1 ≠ entry.1) (state : State) :
    write (entries.foldl write state) entry = entries.foldl write (write state entry) := by
  induction entries generalizing state with
  | nil => rfl
  | cons other rest inductionHypothesis =>
    rw [List.foldl_cons, List.foldl_cons,
      inductionHypothesis fun later member => apart later (List.mem_cons_of_mem _ member),
      overwriting.commute _ _ _ (apart other List.mem_cons_self)]

/-- A write is lost if its place is written again. -/
theorem Overwriting.foldl_absorb (entry : Place × Value) (entries : List (Place × Value))
    (again : entry.1 ∈ entries.map Prod.fst) (state : State) :
    entries.foldl write (write state entry) = entries.foldl write state := by
  induction entries generalizing state with
  | nil => cases again
  | cons other rest inductionHypothesis =>
    rw [List.foldl_cons, List.foldl_cons]
    by_cases same : entry.1 = other.1
    · rw [overwriting.absorb _ _ _ same]
    · rw [overwriting.commute _ _ _ same]
      apply inductionHypothesis
      rw [List.map_cons, List.mem_cons] at again
      exact again.resolve_left same

/-- A row of writes is lost if all its places are written again. -/
theorem Overwriting.foldl_absorb_row (earlier entries : List (Place × Value))
    (again : ∀ entry ∈ earlier, entry.1 ∈ entries.map Prod.fst) (state : State) :
    entries.foldl write (earlier.foldl write state) = entries.foldl write state := by
  induction earlier generalizing state with
  | nil => rfl
  | cons entry rest inductionHypothesis =>
    rw [List.foldl_cons,
      inductionHypothesis fun other member => again other (List.mem_cons_of_mem _ member)]
    exact overwriting.foldl_absorb entry entries (again entry List.mem_cons_self) state

/-- A row of writes that is made twice is made once. -/
theorem Overwriting.foldl_twice (entries : List (Place × Value)) (state : State) :
    entries.foldl write (entries.foldl write state) = entries.foldl write state :=
  overwriting.foldl_absorb_row entries entries (fun _ member => List.mem_map_of_mem member) state

variable [DecidableEq Place]

/-- Rows of writes with the same writes to each place in the same order end in the same state. -/
theorem Overwriting.foldl_eq_of_filter_eq (entries others : List (Place × Value))
    (same : ∀ place, entries.filter (·.1 = place) = others.filter (·.1 = place)) (state : State) :
    entries.foldl write state = others.foldl write state := by
  induction entries generalizing others state with
  | nil =>
    cases others with
    | nil => rfl
    | cons other rest => simpa using same other.1
  | cons entry rest inductionHypothesis =>
    -- The first write moves to the front of the other row, past writes to other places.
    have first : others.filter (·.1 = entry.1) = entry :: rest.filter (·.1 = entry.1) := by
      rw [← same entry.1, List.filter_cons_of_pos (by simp)]
    obtain ⟨before, after, rfl, apart, -, remaining⟩ := List.filter_eq_cons_iff.1 first
    have moved : (before ++ entry :: after).foldl write state =
        (before ++ after).foldl write (write state entry) := by
      rw [List.foldl_append, List.foldl_cons, List.foldl_append,
        overwriting.foldl_write entry before fun other member => by simpa using apart other member]
    rw [moved, List.foldl_cons]
    apply inductionHypothesis
    intro place
    by_cases here : entry.1 = place
    · subst here
      rw [List.filter_append, List.filter_eq_nil_iff.2 apart, remaining, List.nil_append]
    · have later := same place
      simpa [here] using later

end Writes

section Orders

variable {Call : Type}

/-- The calls in another order, in which each call stands at the position given for it. -/
def reorder (calls : List Call) (order : Equiv.Perm (Fin calls.length)) : List Call :=
  ((List.finRange calls.length).map order.symm).map calls.get

/-- Calls of one kind that keep their order are the same row in both orders. -/
theorem filter_reorder (calls : List Call) (order : Equiv.Perm (Fin calls.length))
    (kind : Call → Bool)
    (kept : ∀ first second, first < second → kind (calls.get first) → kind (calls.get second) →
      order first < order second) :
    (reorder calls order).filter kind = calls.filter kind := by
  have moved : (((List.finRange calls.length).map order.symm).filter
      (kind ∘ calls.get)).Pairwise (order · < order ·) := by
    refine List.Pairwise.filter _ (List.pairwise_map.2 ?_)
    simpa using List.pairwise_lt_finRange calls.length
  have unmoved : ((List.finRange calls.length).filter (kind ∘ calls.get)).Pairwise
      (order · < order ·) := by
    refine List.Pairwise.imp_of_mem ?_ ((List.pairwise_lt_finRange _).filter _)
    intro first second inFirst inSecond less
    exact kept first second less (List.mem_filter.1 inFirst).2 (List.mem_filter.1 inSecond).2
  have same := (Equiv.Perm.map_finRange_perm order.symm).filter (kind ∘ calls.get)
  -- Both rows hold the same positions, and both are sorted by the positions they move to.
  have equal := List.Perm.eq_of_pairwise
    (fun _ _ _ _ less greater => absurd greater (lt_asymm less)) moved unmoved same
  rw [reorder, List.filter_map, equal, ← List.filter_map, List.map_get_finRange]

end Orders

end GraphQuery.Replay
