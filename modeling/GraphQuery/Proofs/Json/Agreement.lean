import GraphQuery.Json.Shape.Decoder
import GraphQuery.Proofs.Json.Tree

/-
This file compares reading from a text with decoding the values that stand in it.
-/

namespace GraphQuery.Json

variable {Item State Result : Type}

/-- A reader succeeds if and only if a decoder does, and stops at the given place. -/
def Agrees (read : Except Fault (Item × Cursor)) (decoded : Except Mismatch Item)
    (stop : Cursor) : Prop :=
  read.toOption = decoded.toOption.map fun data => (data, stop)

variable {read other : Except Fault (Item × Cursor)} {decoded : Except Mismatch Item}
  {stop : Cursor}

theorem agrees_error (fault : Fault) (mismatch : Mismatch) (stop : Cursor) :
    Agrees (.error fault : Except Fault (Item × Cursor)) (.error mismatch) stop := rfl

theorem agrees_ok (data : Item) (stop : Cursor) : Agrees (.ok (data, stop)) (.ok data) stop := rfl

theorem agrees_of_eq {data : Item} (found : read = .ok (data, stop)) (taken : decoded = .ok data) :
    Agrees read decoded stop := by
  rw [found, taken]
  exact agrees_ok data stop

theorem agrees_of_peek {atEnd : Flaw} {cursor start : Cursor} {byte : UInt8}
    (first : peekAfterBlanks atEnd cursor = .ok (byte, start))
    {next : UInt8 × Cursor → Except Fault (Item × Cursor)}
    (onward : Agrees (next (byte, start)) decoded stop) :
    Agrees (peekAfterBlanks atEnd cursor >>= next) decoded stop := by
  rw [first]
  exact onward

theorem agrees_if {accepted : Prop} [Decidable accepted] (holds : accepted)
    (agrees : Agrees read decoded stop) :
    Agrees (if accepted then read else other) decoded stop := by
  rwa [if_pos holds]

theorem agrees_else {accepted : Prop} [Decidable accepted] (fails : ¬accepted)
    (agrees : Agrees other decoded stop) :
    Agrees (if accepted then read else other) decoded stop := by
  rwa [if_neg fails]

/-- What agrees fails on both sides or gives the same data on both. -/
theorem Agrees.cases (agrees : Agrees read decoded stop) :
    (∃ fault mismatch, read = .error fault ∧ decoded = .error mismatch) ∨
      ∃ data, read = .ok (data, stop) ∧ decoded = .ok data := by
  cases read with
  | error fault =>
    cases decoded with
    | error mismatch => exact .inl ⟨fault, mismatch, rfl, rfl⟩
    | ok data => cases agrees
  | ok found =>
    cases decoded with
    | error mismatch => cases agrees
    | ok data =>
      cases agrees
      exact .inr ⟨data, rfl, rfl⟩

/-- Steps that follow agree if they do so for the same data. -/
theorem Agrees.bind {middle : Cursor} (agrees : Agrees read decoded middle)
    {next : Item × Cursor → Except Fault (Result × Cursor)} {other : Item → Except Mismatch Result}
    (onward : ∀ data, decoded = .ok data → Agrees (next (data, middle)) (other data) stop) :
    Agrees (read >>= next) (decoded >>= other) stop := by
  rcases agrees.cases with ⟨fault, mismatch, rfl, rfl⟩ | ⟨data, rfl, rfl⟩
  · rfl
  · exact onward data rfl

/-- A list ends behind its bracket. -/
theorem Agrees.closed (agrees : Agrees read decoded stop) :
    Agrees (read >>= fun found => pure (found.1, found.2.next)) decoded stop.next := by
  rcases agrees.cases with ⟨fault, mismatch, rfl, rfl⟩ | ⟨data, rfl, rfl⟩ <;> rfl

theorem Agrees.congr {taken : Except Mismatch Item} (agrees : Agrees read decoded stop)
    (same : decoded.toOption = taken.toOption) : Agrees read taken stop := by
  rwa [Agrees, ← same]

/-- One more value before the others leaves the end of the list where it is. -/
theorem Agrees.before {close : Cursor → Except Fault Cursor} (value : Result)
    (agrees : Agrees
      (do
        let (values, cursor) ← read
        return (values, ← close cursor)) decoded stop) :
    Agrees
      (do
        let (values, cursor) ← (do
          let (values, cursor) ← read
          return ((value, values), cursor))
        return (values, ← close cursor))
      (do return (value, ← decoded)) stop := by
  cases read with
  | error fault =>
    cases decoded with
    | error mismatch => rfl
    | ok values => cases agrees
  | ok found =>
    obtain ⟨values, middle⟩ := found
    change Agrees (close middle >>= fun cursor => pure (values, cursor)) decoded stop at agrees
    change Agrees (close middle >>= fun cursor => pure ((value, values), cursor))
      (decoded >>= fun values => pure (value, values)) stop
    generalize close middle = closed at agrees ⊢
    cases closed with
    | error fault =>
      cases decoded with
      | error mismatch => rfl
      | ok values => cases agrees
    | ok last =>
      cases decoded with
      | error mismatch => cases agrees
      | ok others =>
        cases agrees
        rfl

/-- The items of a list are read one after another, as they are decoded. -/
theorem readItems_agrees (value : Cursor → Except Fault (Tree × Cursor))
    (item : Cursor → Except Fault (Item × Cursor)) (decode : Json → Except Mismatch Item)
    (Proper : Tree → Prop)
    (each : ∀ cursor stop tree, value cursor = .ok (tree, stop) → Proper tree →
      Agrees (item cursor) (decode tree.toJson) stop)
    (fuel : Nat) (first : Bool) (cursor stop : Cursor) (trees : List Tree)
    (read : readItems value fuel first cursor = .ok (trees, stop))
    (proper : ∀ tree ∈ trees, Proper tree) :
    Agrees (readItems item fuel first cursor) ((trees.map Tree.toJson).mapM decode) stop := by
  induction fuel generalizing first cursor trees with
  | zero => cases read
  | succ fuel inductionHypothesis =>
    rw [readItems, Outcome.bind_eq_ok] at read
    obtain ⟨⟨more, start⟩, next, read⟩ := read
    rw [readItems, next]
    cases more with
    | false =>
      cases read
      rfl
    | true =>
      obtain ⟨⟨tree, middle⟩, head, read⟩ := (Outcome.bind_eq_ok _ _ _).1 read
      obtain ⟨⟨rest, last⟩, tail, equal⟩ := (Outcome.bind_eq_ok _ _ _).1 read
      cases equal
      rw [List.map_cons, List.mapM_cons]
      refine (each _ _ _ head (proper _ List.mem_cons_self)).bind fun data _ => ?_
      have onward := inductionHypothesis _ _ _ tail fun other member =>
        proper other (List.mem_cons_of_mem _ member)
      exact onward.bind fun _ _ => rfl

/-- The members that are read follow those before. -/
theorem Tree.exists_append_of_readMembers (value : Cursor → Except Fault (Tree × Cursor))
    (fuel : Nat) (first : Bool) (cursor stop : Cursor) (before members : List (String × Tree))
    (read : readMembers (Tree.readMember value) fuel first before cursor = .ok (members, stop)) :
    ∃ new, members = before ++ new := by
  induction fuel generalizing first cursor before with
  | zero => cases read
  | succ fuel inductionHypothesis =>
    rw [readMembers, Outcome.bind_eq_ok] at read
    obtain ⟨⟨more, start⟩, next, read⟩ := read
    cases more with
    | false =>
      cases read
      exact ⟨[], (List.append_nil _).symm⟩
    | true =>
      obtain ⟨⟨between, middle⟩, member, tail⟩ := (Outcome.bind_eq_ok _ _ _).1 read
      obtain ⟨name, -, -, tree, -, -, -, rfl⟩ := (Tree.readMember_eq_ok _ _ _ _ _).1 member
      obtain ⟨new, same⟩ := inductionHypothesis _ _ _ tail
      exact ⟨(name, tree) :: new, by simp [same]⟩

/-- The members of an object change a state one after another, as their values do.
The state goes with the members before it, and no known name occurs twice. -/
theorem readMembers_agrees (value : Cursor → Except Fault (Tree × Cursor))
    (step : State → Cursor → Except Fault (State × Cursor))
    (decode : State → String × Json → Except Mismatch State) (Known : String → Prop)
    (GoesWith : State → List (String × Tree) → Prop) (Proper : String × Tree → Prop)
    (each : ∀ before state name tree cursor stop, GoesWith state before → Proper (name, tree) →
      (Known name → name ∉ before.map Prod.fst) →
      Tree.readMember value before cursor = .ok (before ++ [(name, tree)], stop) →
      Agrees (step state cursor) (decode state (name, tree.toJson)) stop)
    (keep : ∀ before state name tree next, GoesWith state before →
      decode state (name, tree.toJson) = .ok next → GoesWith next (before ++ [(name, tree)]))
    (fuel : Nat) (first : Bool) (cursor stop : Cursor) (before new : List (String × Tree))
    (state : State) (follows : GoesWith state before)
    (read : readMembers (Tree.readMember value) fuel first before cursor =
      .ok (before ++ new, stop))
    (once : ∀ name, Known name → ((before ++ new).map Prod.fst).count name ≤ 1)
    (proper : ∀ member ∈ new, Proper member) :
    Agrees (readMembers step fuel first state cursor)
      ((new.map fun member => (member.1, member.2.toJson)).foldlM decode state) stop := by
  induction fuel generalizing first cursor before new state with
  | zero => cases read
  | succ fuel inductionHypothesis =>
    rw [readMembers, Outcome.bind_eq_ok] at read
    obtain ⟨⟨more, start⟩, next, read⟩ := read
    rw [readMembers, next]
    cases more with
    | false =>
      obtain ⟨same, rfl⟩ : before = before ++ new ∧ start = stop := by
        simpa [pure, Except.pure] using read
      obtain rfl : new = [] := List.self_eq_append_right.1 same
      rfl
    | true =>
      obtain ⟨⟨between, middle⟩, member, tail⟩ := (Outcome.bind_eq_ok _ _ _).1 read
      obtain ⟨name, quoted, opened, tree, string, colon, content, rfl⟩ :=
        (Tree.readMember_eq_ok _ _ _ _ _).1 member
      obtain ⟨rest, same⟩ := Tree.exists_append_of_readMembers _ _ _ _ _ _ _ tail
      rw [List.append_assoc, List.append_cancel_left_eq] at same
      subst same
      obtain ⟨now, later⟩ := List.forall_mem_cons.1 proper
      have absent : Known name → name ∉ before.map Prod.fst := fun known =>
        not_mem_of_count_le_one before rest name tree (by simpa using once name known)
      rw [List.singleton_append, List.map_cons, List.foldlM_cons]
      refine (each _ _ _ _ _ _ follows now absent member).bind fun state decoded => ?_
      rw [← List.append_assoc] at tail once
      exact inductionHypothesis _ _ _ _ _ (keep _ _ _ _ _ follows decoded) tail once later

end GraphQuery.Json
