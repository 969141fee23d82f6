import GraphQuery.Proofs.Operation.Place

/-
This file shows that calls which set different arguments do not depend on one another.
-/

namespace GraphQuery.Operation

/-- The operation after a row of calls, and what went wrong in each of them. -/
def injectAll (operation : Operation) (calls : List Injection) :
    Operation × List (Option Failure) :=
  Replay.runAll (fun operation call => operation.setArguments call.1 call.2) operation calls

/-- The places that a call writes to; a call that fails writes up to its failure. -/
def overwritten (operation : Operation) (call : Injection) : List Place :=
  (operation.writes call).map Prod.fst

/-- Two calls interfere if they write to the same place, by whatever paths. -/
def Interfere (operation : Operation) (first second : Injection) : Prop :=
  ∃ place ∈ operation.overwritten first, place ∈ operation.overwritten second

instance (operation : Operation) (first second : Injection) :
    Decidable (operation.Interfere first second) :=
  inferInstanceAs (Decidable (∃ place ∈ operation.overwritten first, _))

/-- Paths lead to the same properties with the same argument keys in both operations. -/
def SamePaths (operation changed : Operation) : Prop :=
  ∀ path, changed.addressed path = operation.addressed path

theorem SamePaths.foldl_write {operation changed : Operation}
    (same : operation.SamePaths changed) (entries : List (Place × Value)) :
    operation.SamePaths (entries.foldl write changed) := by
  induction entries generalizing changed with
  | nil => exact same
  | cons entry rest inductionHypothesis =>
    exact inductionHypothesis fun path => (addressed_write changed entry path).trans (same path)

/-- Assignments leave all paths as they are. -/
theorem SamePaths.setArguments {operation changed : Operation}
    (same : operation.SamePaths changed) (path : String) (given : List Argument) :
    operation.SamePaths (changed.setArguments path given).1 := by
  rw [setArguments_eq]
  exact same.foldl_write _

/-- Where paths lead to the same properties, a call writes the same values. -/
theorem SamePaths.setArguments_fst {operation changed : Operation}
    (same : operation.SamePaths changed) (call : Injection) :
    (changed.setArguments call.1 call.2).1 = (operation.writes call).foldl write changed := by
  rw [setArguments_eq, writes, writes, same]

/-- Where paths lead to the same properties, a call fails for the same reason. -/
theorem SamePaths.setArguments_snd {operation changed : Operation}
    (same : operation.SamePaths changed) (call : Injection) :
    (changed.setArguments call.1 call.2).2 = (operation.setArguments call.1 call.2).2 := by
  rw [setArguments_eq, setArguments_eq, failure?, failure?, same]

/-- A row of calls is the row of their writes, each as in the operation at the start. -/
theorem injectAll_fst (operation : Operation) (calls : List Injection) :
    (operation.injectAll calls).1 = (calls.flatMap operation.writes).foldl write operation :=
  Replay.runAll_writes
    (fun _ call (same : operation.SamePaths _) => same.setArguments call.1 call.2)
    operation.writes (fun _ call same => same.setArguments_fst call) operation calls fun _ => rfl

/-- The writes of a row of calls to one place come from the calls that overwrite it. -/
theorem filter_flatMap_writes (operation : Operation) (calls : List Injection) (place : Place) :
    (calls.flatMap operation.writes).filter (·.1 = place) =
      (calls.filter (place ∈ operation.overwritten ·)).flatMap
        fun call => (operation.writes call).filter (·.1 = place) := by
  induction calls with
  | nil => rfl
  | cons call rest inductionHypothesis =>
    rw [List.flatMap_cons, List.filter_append, inductionHypothesis]
    by_cases touches : place ∈ operation.overwritten call
    · rw [List.filter_cons_of_pos (by simpa using touches), List.flatMap_cons]
    · have apart : (operation.writes call).filter (·.1 = place) = [] := by
        rw [List.filter_eq_nil_iff]
        intro entry member same
        exact touches (of_decide_eq_true same ▸ List.mem_map_of_mem member)
      rw [apart, List.filter_cons_of_neg (by simpa using touches), List.nil_append]

/-- Each call of a row fails and writes as it would alone, a call that is repeated at once changes
nothing, and calls that interfere are the only ones whose order counts: in every other order of the
calls that keeps theirs, the row ends in the same operation. -/
theorem injectAll_independent (operation : Operation) (calls : List Injection) :
    (operation.injectAll calls).2 =
        calls.map (fun call => (operation.setArguments call.1 call.2).2) ∧
      (operation.injectAll calls).1 = (calls.flatMap operation.writes).foldl write operation ∧
      (∀ path given,
        let once := (operation.injectAll calls).1.setArguments path given
        once.1.setArguments path given = once) ∧
      ∀ order : Equiv.Perm (Fin calls.length),
        (∀ first second, first < second →
          operation.Interfere (calls.get first) (calls.get second) →
          order first < order second) →
        (operation.injectAll (Replay.reorder calls order)).1 = (operation.injectAll calls).1 := by
  refine ⟨?_, injectAll_fst operation calls, ?_, ?_⟩
  · exact Replay.runAll_outcomes
      (fun _ call (same : operation.SamePaths _) => same.setArguments call.1 call.2) _
      (fun _ call same => same.setArguments_snd call) operation calls fun _ => rfl
  · intro path given
    have same : ((operation.injectAll calls).1).SamePaths (operation.injectAll calls).1 :=
      fun _ => rfl
    have after := same.setArguments path given
    apply Prod.ext
    · rw [after.setArguments_fst (path, given), same.setArguments_fst (path, given)]
      exact overwriting_write.foldl_twice _ _
    · exact after.setArguments_snd (path, given)
  · intro order kept
    rw [injectAll_fst, injectAll_fst]
    apply overwriting_write.foldl_eq_of_filter_eq
    intro place
    rw [filter_flatMap_writes, filter_flatMap_writes, Replay.filter_reorder]
    intro first second less inFirst inSecond
    exact kept first second less
      ⟨place, of_decide_eq_true inFirst, of_decide_eq_true inSecond⟩

/-- A user with two arguments and a list of posts with one. -/
def profile : Operation where
  children := some [("user",
    { Property.leaf with
      arguments := some [⟨"id", .null, false⟩, ⟨"name", .null, true⟩]
      children := some [("posts",
        { Property.leaf with arguments := some [⟨"first", .null, true⟩] })] })]

/-- The first call sets the id and fails after it, and the last one sets the id by another path. -/
def profileCalls : List Injection :=
  [(".", [⟨"ID", .integer 1, false⟩, ⟨"age", .integer 2, false⟩]),
    ("user", [⟨"name", .text "ada", false⟩]),
    ("user.posts", [⟨"first", .integer 3, false⟩]),
    ("user", [⟨"id", .integer 4, false⟩])]

/-- The second call comes first and the third one last. -/
def profileOrder : Equiv.Perm (Fin profileCalls.length) :=
  ((Equiv.swap 0 1).trans (Equiv.swap 2 3) : Equiv.Perm (Fin 4))

theorem injectAll_independent_profile :
    (∀ first second, first < second →
      profile.Interfere (profileCalls.get first) (profileCalls.get second) →
      profileOrder first < profileOrder second) ∧
    (profile.injectAll (Replay.reorder profileCalls profileOrder)).1 =
      (profile.injectAll profileCalls).1 := by
  have kept : ∀ first second, first < second →
      profile.Interfere (profileCalls.get first) (profileCalls.get second) →
      profileOrder first < profileOrder second := by
    decide +kernel
  exact ⟨kept, (injectAll_independent profile profileCalls).2.2.2 profileOrder kept⟩

end GraphQuery.Operation
