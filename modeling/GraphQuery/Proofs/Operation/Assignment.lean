import GraphQuery.Proofs.Operation.Injection
import GraphQuery.Proofs.Outcome
import Mathlib.Data.List.Induction
import Mathlib.Data.List.TakeWhile

/-
This file says which values an assignment of arguments leaves behind, also if it stops early.
-/

namespace GraphQuery

namespace Argument

/-- Whether a key is one of the declared ones, ignoring the case of ASCII letters. -/
def isDeclared (keys : List String) (argument : Argument) : Bool :=
  keys.any fun declared => sameKey declared argument.key

/-- The longest row of given arguments, from the first one on, whose keys are all declared. -/
def accepted (keys : List String) (given : List Argument) : List Argument :=
  given.takeWhile (isDeclared keys)

/-- The last value that is given for the declared key at a position.
A given key that several declared ones match stands for the first of them. -/
def lastValue? (keys : List String) (given : List Argument) (position : Nat) : Option Value :=
  (given.filter fun argument => position? keys argument.key = some position).getLast?.map value

/-- The declared arguments, each with the last value that is given for it or else its own. -/
def assigned (declared given : List Argument) : List Argument :=
  declared.mapIdx fun position argument =>
    { argument with value := (lastValue? (declared.map key) given position).getD argument.value }

/-- The last value in a row of entries for a position is the one that stays. -/
theorem foldl_fill (declared : List Argument) (entries : List (Nat × Value)) :
    entries.foldl fill declared = declared.mapIdx fun position argument =>
      { argument with value := ((entries.filter fun entry => entry.1 = position).getLast?.map
          Prod.snd).getD argument.value } := by
  induction entries using List.reverseRecOn with
  | nil => exact List.mapIdx_eq_iff.2 (by simp) |>.symm
  | append_singleton entries entry inductionHypothesis =>
    rw [List.foldl_append, inductionHypothesis]
    apply List.ext_getElem
    · simp [fill]
    · intro position _ _
      by_cases here : entry.1 = position
      · simp [fill, here]
      · simp [fill, here]

theorem isDeclared_eq (keys : List String) (argument : Argument) :
    isDeclared keys argument = (position? keys argument.key).isSome :=
  List.findIdx?_isSome.symm

/-- The values that are filled in are those of the accepted arguments. -/
theorem filter_filled (keys : List String) (given : List Argument) (position : Nat) :
    ((filled keys given).filter fun entry => entry.1 = position).map Prod.snd =
      ((accepted keys given).filter fun argument =>
        position? keys argument.key = some position).map value := by
  induction given with
  | nil => rfl
  | cons argument rest inductionHypothesis =>
    rw [filled, accepted, List.takeWhile_cons, isDeclared_eq]
    cases found : position? keys argument.key with
    | none => rfl
    | some index =>
      by_cases here : index = position
      · simpa [here, found, accepted] using inductionHypothesis
      · simpa [here, found, accepted] using inductionHypothesis

theorem unknown?_eq (keys : List String) (given : List Argument) :
    unknown? keys given = (given.dropWhile (isDeclared keys)).head?.map key := by
  induction given with
  | nil => rfl
  | cons argument rest inductionHypothesis =>
    rw [unknown?, List.dropWhile_cons, isDeclared_eq]
    cases position? keys argument.key with
    | none => rfl
    | some index => exact inductionHypothesis

/-- An assignment goes through the accepted arguments and reports the one behind them. -/
theorem assignAll_eq_assigned (declared given : List Argument) :
    assignAll declared given =
      (assigned declared (accepted (declared.map key) given),
        (given.dropWhile (isDeclared (declared.map key))).head?.map key) := by
  rw [assignAll_eq, foldl_fill, unknown?_eq, assigned]
  simp only [lastValue?, ← List.getLast?_map, filter_filled]

/-- Of accepted arguments all are assigned. -/
theorem assignAll_accepted (declared given : List Argument) :
    assignAll declared (accepted (declared.map key) given) =
      (assigned declared (accepted (declared.map key) given), none) := by
  have all : (accepted (declared.map key) given).dropWhile (isDeclared (declared.map key)) = [] :=
    List.dropWhile_eq_nil_iff.2 fun _ member => List.mem_takeWhile_imp member
  have again : accepted (declared.map key) (accepted (declared.map key) given) =
      accepted (declared.map key) given :=
    List.takeWhile_idem
  rw [assignAll_eq_assigned, all, again]
  rfl

/-- A longer row of arguments is assigned after a shorter one that is accepted. -/
theorem assignAll_append (declared given more : List Argument) :
    assignAll declared (given ++ more) =
      match assignAll declared given with
      | (updated, none) => assignAll updated more
      | stopped => stopped := by
  induction given generalizing declared with
  | nil => rfl
  | cons argument rest inductionHypothesis =>
    rw [List.cons_append, assignAll, assignAll]
    cases assign? declared argument.key argument.value with
    | none => rfl
    | some updated => exact inductionHypothesis updated

end Argument

namespace Operation

variable {operation : Operation} {path : String} {keys : List String} {node : Property}
  {declared : List Argument}

/-- The arguments of a property that a path names are assigned in place. -/
theorem setArguments_of_target (resolved : operation.target path = .ok (keys, node))
    (takes : node.arguments = some declared) (given : List Argument) :
    operation.setArguments path given =
      (operation.replaceArguments keys (Argument.assignAll declared given).1,
        (Argument.assignAll declared given).2.map fun argument =>
          .unknownArgument argument path) := by
  simp only [setArguments, resolved, takes]

theorem replaceArguments_plug {context : Selection.Context}
    (present : operation.children = some (context.plug node)) (arguments : List Argument) :
    operation.replaceArguments context.keys arguments =
      { operation with
        children := some (context.plug { node with arguments := some arguments }) } := by
  simp [replaceArguments, present, Selection.Context.adjustAt_plug]

/-- Of two replacements at one property the later one counts. -/
theorem replaceArguments_replaceArguments
    (resolved : operation.target path = .ok (keys, node)) (first second : List Argument) :
    (operation.replaceArguments keys first).replaceArguments keys second =
      operation.replaceArguments keys second := by
  obtain ⟨selection, present, follows⟩ := follow?_of_target operation path keys node resolved
  obtain ⟨context, rfl, rfl⟩ := Selection.exists_context keys selection node follows
  rw [replaceArguments_plug present, replaceArguments_plug present, replaceArguments_plug rfl]

/-- After an assignment the path leads to the same property with the assigned arguments. -/
theorem target_setArguments (resolved : operation.target path = .ok (keys, node))
    (takes : node.arguments = some declared) (given : List Argument) :
    (operation.setArguments path given).1.target path =
      .ok (keys, { node with arguments := some (Argument.assignAll declared given).1 }) := by
  obtain ⟨context, rfl, -, changed⟩ :=
    exists_context_of_target operation path given keys node declared resolved takes
  have same := SamePaths.setArguments (fun _ => rfl : operation.SamePaths operation) path given path
  rw [addressed, addressed, resolved] at same
  obtain ⟨⟨keys, found⟩, reached, equal⟩ := (Outcome.map_eq_ok _ _ _).1 same
  obtain ⟨rfl, -⟩ := Prod.mk.inj equal
  -- At the keys of the context stands what was put in.
  obtain ⟨selection, present, follows⟩ := follow?_of_target _ _ _ _ reached
  rw [changed, Option.some_inj] at present
  rw [← present, Selection.Context.follow?_plug, Option.some_inj] at follows
  rw [reached, ← follows]

/-- A longer row of arguments is assigned like its two parts in turn. -/
theorem setArguments_append (operation : Operation) (path : String)
    (given more : List Argument) :
    operation.setArguments path (given ++ more) =
      match operation.setArguments path given with
      | (changed, none) => changed.setArguments path more
      | stopped => stopped := by
  cases resolved : operation.target path with
  | error failure => simp only [setArguments, resolved]
  | ok found =>
    obtain ⟨keys, node⟩ := found
    cases takes : node.arguments with
    | none => simp only [setArguments, resolved, takes]
    | some declared =>
      have onward := target_setArguments resolved takes given
      rw [setArguments_of_target resolved takes, setArguments_of_target resolved takes,
        Argument.assignAll_append]
      rw [setArguments_of_target resolved takes] at onward
      cases assigned : Argument.assignAll declared given with
      | mk updated unknown =>
        rw [assigned] at onward
        cases unknown with
        | some key => rfl
        | none =>
          dsimp only [Option.map_none] at onward ⊢
          rw [setArguments_of_target onward rfl, replaceArguments_replaceArguments resolved]

/-- The outcome of an assignment is told by the longest row of given arguments whose keys are
declared. Each declared argument takes the last value of this row that is given for it, the path
leads to the same property after it, and the call ends as a call with this row alone, but for the
failure at the first key behind it. A longer row is assigned like two rows in turn. -/
theorem setArguments_sequential (operation : Operation) (path : String) (given : List Argument) :
    (match operation.target path with
      | .error failure => operation.setArguments path given = (operation, some failure)
      | .ok (keys, node) =>
        match node.arguments with
        | none => operation.setArguments path given =
            (operation, some (.argumentsNotSupported path))
        | some declared =>
          ∃ refused, given = Argument.accepted (declared.map Argument.key) given ++ refused ∧
            let accepted := Argument.accepted (declared.map Argument.key) given
            let updated := Argument.assigned declared accepted
            let changed := operation.replaceArguments keys updated
            (∀ argument ∈ accepted, Argument.isDeclared (declared.map Argument.key) argument) ∧
            (∀ argument ∈ refused.head?,
              ¬Argument.isDeclared (declared.map Argument.key) argument) ∧
            changed.target path = .ok (keys, { node with arguments := some updated }) ∧
            operation.setArguments path accepted = (changed, none) ∧
            operation.setArguments path given =
              (changed, refused.head?.map fun argument => .unknownArgument argument.key path)) ∧
    ∀ more, operation.setArguments path (given ++ more) =
      match operation.setArguments path given with
      | (changed, none) => changed.setArguments path more
      | stopped => stopped := by
  refine ⟨?_, setArguments_append operation path given⟩
  cases resolved : operation.target path with
  | error failure => simp only [setArguments, resolved]
  | ok found =>
    obtain ⟨keys, node⟩ := found
    cases takes : node.arguments with
    | none => simp only [setArguments, resolved, takes]
    | some declared =>
      let isDeclared := Argument.isDeclared (declared.map Argument.key)
      have whole := setArguments_of_target resolved takes given
      have shorter := setArguments_of_target resolved takes
        (Argument.accepted (declared.map Argument.key) given)
      have after := target_setArguments resolved takes given
      rw [Argument.assignAll_eq_assigned] at whole after
      rw [Argument.assignAll_accepted] at shorter
      rw [whole] at after
      simp only [takes]
      refine ⟨given.dropWhile isDeclared, List.takeWhile_append_dropWhile.symm,
        fun _ member => List.mem_takeWhile_imp member, ?_, after, shorter, ?_⟩
      · intro argument first
        have refused := List.head?_dropWhile_not isDeclared given
        rw [first] at refused
        simpa using refused
      · rw [whole, Option.map_map]
        rfl

end Operation

end GraphQuery
