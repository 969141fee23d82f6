import GraphQuery.Proofs.Compilation.Assembly
import GraphQuery.Proofs.Compilation.Success
import Mathlib.Data.List.Chain

/-
This file shows that a reported cycle is the first one that a depth-first walk closes.
-/

namespace GraphQuery.Schema

variable {count : Nat} {schema : Schema count} {scalars : Scalars count}

/-- The type that compilation continues with at a field, if it does. -/
def Field.target? (scalars : Scalars count) (field : Field (FieldType count)) :
    Option (Fin count) :=
  match field.type.element with
  | .object type =>
    if !field.ignored && (field.flattened || !scalars.contains (.object type)) then some type
    else none
  | _ => none

theorem Field.target?_eq_some (field : Field (FieldType count)) (target : Fin count) :
    field.target? scalars = some target ↔ field.Enters scalars target := by
  cases element : field.type.element with
  | object type =>
    simp only [Field.target?, Field.Enters, element, Scalars.contains,
      Option.ite_none_right_eq_some, Option.some.injEq, Element.object.injEq, Bool.and_eq_true,
      Bool.or_eq_true, Bool.not_eq_true', decide_eq_false_iff_not]
    constructor
    · rintro ⟨⟨kept, entered⟩, rfl⟩
      exact ⟨kept, rfl, entered⟩
    · rintro ⟨kept, rfl, entered⟩
      exact ⟨⟨kept, entered⟩, rfl⟩
  | builtin name => simp [Field.target?, Field.Enters, element]
  | unknown => simp [Field.target?, Field.Enters, element]

/-- A link goes from the latest of the types that are being expanded to a target. -/
structure Link (count : Nat) where
  underway : List (Fin count)
  target : Fin count
deriving DecidableEq

/-- A link returns if its target is being expanded already. -/
def Link.returns (link : Link count) : Bool := link.underway.contains link.target

theorem Link.returns_eq_true (link : Link count) :
    link.returns = true ↔ link.target ∈ link.underway := List.contains_iff_mem

theorem Link.returns_eq_false (link : Link count) :
    link.returns = false ↔ link.target ∉ link.underway := by
  rw [← Bool.not_eq_true, returns_eq_true]

/-- The link of a field comes before those below its target. -/
def Field.links (scalars : Scalars count) (underway : List (Fin count))
    (onward : Fin count → List (Link count)) (field : Field (FieldType count)) :
    List (Link count) :=
  match field.target? scalars with
  | none => []
  | some target => ⟨underway, target⟩ :: onward target

theorem Field.links_of_enters (underway : List (Fin count))
    (onward : Fin count → List (Link count)) (field : Field (FieldType count)) (target : Fin count)
    (enters : field.Enters scalars target) :
    field.links scalars underway onward = ⟨underway, target⟩ :: onward target := by
  rw [links, (field.target?_eq_some target).2 enters]

theorem Field.mem_links (underway : List (Fin count)) (onward : Fin count → List (Link count))
    (field : Field (FieldType count)) (link : Link count)
    (member : link ∈ field.links scalars underway onward) :
    ∃ target, field.Enters scalars target ∧
      (link = ⟨underway, target⟩ ∨ link ∈ onward target) := by
  rw [links] at member
  cases entered : field.target? scalars with
  | none =>
    rw [entered] at member
    cases member
  | some target =>
    rw [entered] at member
    exact ⟨target, (field.target?_eq_some target).1 entered, List.mem_cons.1 member⟩

/-- A walk meets the links of a type field by field, and none below a type that is being expanded
already. -/
def walk (schema : Schema count) (scalars : Scalars count) (trail : Trail count)
    (type : Fin count) : List (Link count) :=
  if repeated : type ∈ trail.visited then []
  else
    (schema.typeAt type).fields.flatMap
      (Field.links scalars (type :: trail.visited) fun target =>
        walk schema scalars (trail.push type repeated) target)
termination_by count - trail.visited.length
decreasing_by
  have room := (trail.push type repeated).length_visited_le
  simp only [Trail.push, List.length_cons] at room ⊢
  omega

/-- The types from the target of a link to the latest one; they make a cycle if the link returns. -/
def Link.cycle (link : Link count) : List (Fin count) :=
  (link.underway.takeWhile (· != link.target) ++ [link.target]).reverse

/-- The names of a closed cycle. -/
def closedNames (schema : Schema count) (cycle : List (Fin count)) : List String :=
  (cycle ++ cycle.head?.toList).map fun type => (schema.typeAt type).name

theorem cycleNames_eq (trail : Trail count) (type : Fin count) :
    schema.cycleNames trail type = schema.closedNames (Link.cycle ⟨trail.visited, type⟩) := by
  simp [cycleNames, closedNames, Link.cycle]

/-- A field that compiles has entered its target with success. -/
theorem Field.exists_entered (enter : Fin count → Draft → Except Failure Draft) (owner : String)
    (field : Field (FieldType count)) (draft after : Draft)
    (succeeded : field.compile scalars enter owner draft = .ok after) (target : Fin count)
    (enters : field.Enters scalars target) : ∃ state result, enter target state = .ok result := by
  obtain ⟨kept, object, entered⟩ := enters
  cases field.compiles_compile scalars enter owner draft with
  | ignored ignored equal => rw [ignored] at kept; cases kept
  | flattened _ _ type same equal =>
    rw [object] at same
    cases same
    exact ⟨draft, after, equal ▸ succeeded⟩
  | misplaced _ _ leaf equal => exact absurd object (leaf target)
  | undeclared _ _ failure _ equal => rw [equal] at succeeded; cases succeeded
  | leaf _ own _ _ leaf equal =>
    rcases entered with flattened | unregistered
    · rw [own] at flattened
      cases flattened
    · exact absurd ⟨object, unregistered⟩ (leaf target)
  | branch _ _ arguments _ type expands equal =>
    have same := object.symm.trans expands.1
    cases same
    rw [equal, Outcome.map_eq_ok] at succeeded
    obtain ⟨inner, collected, -⟩ := succeeded
    exact ⟨_, inner, collected⟩

/-- A field never closes a cycle by itself, so a cycle that it reports comes from its target. -/
theorem Field.exists_cyclic (enter : Fin count → Draft → Except Failure Draft) (owner : String)
    (field : Field (FieldType count)) (draft : Draft) (names : List String)
    (failed : field.compile scalars enter owner draft = .error (.cyclicSchema names)) :
    ∃ target, field.Enters scalars target ∧
      ∃ state, enter target state = .error (.cyclicSchema names) := by
  cases field.compiles_compile scalars enter owner draft with
  | ignored _ equal => rw [equal] at failed; cases failed
  | flattened kept flattened type object equal =>
    exact ⟨type, ⟨kept, object, .inl flattened⟩, draft, equal ▸ failed⟩
  | misplaced _ _ _ equal => rw [equal] at failed; cases failed
  | undeclared _ _ failure rejected equal =>
    obtain ⟨name, text, kind, other⟩ := field.eq_notCoercible failure rejected
    rw [equal, other] at failed
    cases failed
  | leaf _ _ _ _ _ equal => rw [equal] at failed; cases failed
  | branch kept _ _ _ type expands equal =>
    rw [equal, Outcome.map_eq_error] at failed
    exact ⟨type, ⟨kept, expands.1, .inr expands.2⟩, _, failed⟩

/-- Fields that compile have no links that return if the types that they enter have none. -/
theorem quiet_of_foldlM (enter : Fin count → Draft → Except Failure Draft) (owner : String)
    (underway : List (Fin count)) (onward : Fin count → List (Link count))
    (entered : ∀ target draft after, enter target draft = .ok after →
      target ∉ underway ∧ ∀ link ∈ onward target, link.returns = false)
    (fields : List (Field (FieldType count))) (draft after : Draft)
    (succeeded : fields.foldlM (fun draft field => field.compile scalars enter owner draft) draft =
      .ok after) :
    ∀ link ∈ fields.flatMap (Field.links scalars underway onward), link.returns = false := by
  intro link met
  obtain ⟨field, member, inField⟩ := List.mem_flatMap.1 met
  obtain ⟨target, enters, here⟩ := field.mem_links underway onward link inField
  obtain ⟨state, result, compiled⟩ := Outcome.exists_of_foldlM_eq_ok _ _ _ _ succeeded field member
  obtain ⟨start, outcome, collected⟩ :=
    field.exists_entered enter owner state result compiled target enters
  obtain ⟨apart, below⟩ := entered target start outcome collected
  rcases here with rfl | deeper
  · exact (Link.returns_eq_false _).2 apart
  · exact below link deeper

/-- A walk over a type that is collected meets no link that returns. -/
theorem quiet_of_collect (trail : Trail count) (type : Fin count) (draft after : Draft)
    (succeeded : schema.collect scalars trail type draft = .ok after) :
    type ∉ trail.visited ∧ ∀ link ∈ schema.walk scalars trail type, link.returns = false := by
  induction trail, type, draft using collect.induct generalizing after with
  | case1 trail type draft repeated =>
    rw [collect, dif_pos repeated] at succeeded
    cases succeeded
  | case2 trail type draft fresh inductionHypothesis =>
    rw [collect, dif_neg fresh] at succeeded
    rw [walk, dif_neg fresh]
    exact ⟨fresh, quiet_of_foldlM _ _ _ _ inductionHypothesis _ _ _ succeeded⟩

/-- A reported cycle is closed by the type itself or by the first link of the walk that returns. -/
theorem find?_walk_of_collect (trail : Trail count) (type : Fin count) (draft : Draft)
    (names : List String)
    (failed : schema.collect scalars trail type draft = .error (.cyclicSchema names)) :
    ∃ link, (type ∈ trail.visited ∧ link = ⟨trail.visited, type⟩ ∨ type ∉ trail.visited ∧
        (schema.walk scalars trail type).find? Link.returns = some link) ∧
      names = schema.closedNames link.cycle := by
  induction trail, type, draft using collect.induct with
  | case1 trail type draft repeated =>
    rw [collect, dif_pos repeated] at failed
    cases failed
    exact ⟨_, .inl ⟨repeated, rfl⟩, cycleNames_eq trail type⟩
  | case2 trail type draft fresh inductionHypothesis =>
    rw [collect, dif_neg fresh] at failed
    obtain ⟨before, field, after, state, split, passed, met⟩ :=
      Outcome.exists_split_of_foldlM_eq_error _ _ _ _ failed
    obtain ⟨target, enters, inner, entered⟩ := field.exists_cyclic _ _ state names met
    obtain ⟨link, closes, equal⟩ := inductionHypothesis target inner entered
    refine ⟨link, .inr ⟨fresh, ?_⟩, equal⟩
    -- the earlier fields were collected, so none of their links returns
    have quiet := quiet_of_foldlM _ _ (type :: trail.visited)
      (fun target => schema.walk scalars (trail.push type fresh) target)
      (quiet_of_collect (trail.push type fresh)) before draft state passed
    have silent := List.find?_eq_none.2 fun earlier among =>
      Bool.eq_false_iff.1 (quiet earlier among)
    rw [walk, dif_neg fresh, split, List.flatMap_append, List.flatMap_cons, List.find?_append,
      silent, Option.none_or, field.links_of_enters _ _ target enters, List.cons_append,
      List.find?_cons]
    rcases closes with ⟨repeated, rfl⟩ | ⟨apart, found⟩
    · have returns : Link.returns ⟨type :: trail.visited, target⟩ = true :=
        (Link.returns_eq_true _).2 repeated
      rw [returns]
      rfl
    · have onward : Link.returns ⟨type :: trail.visited, target⟩ = false :=
        (Link.returns_eq_false _).2 apart
      rw [onward, List.find?_append, found]
      rfl

/-- Types are under way from a root if each is reached from it, none is twice among them and each
leads to the one before it, the latest to the target. -/
structure Link.From (schema : Schema count) (scalars : Scalars count) (root : Fin count)
    (link : Link count) : Prop where
  reached : ∀ type ∈ link.underway, schema.Reaches scalars root type
  distinct : link.underway.Nodup
  joined : (link.target :: link.underway).IsChain fun later earlier =>
    schema.Leads scalars earlier later

/-- Every link of a walk continues the types that were under way when the walk began. -/
theorem from_of_mem_walk (root : Fin count) (trail : Trail count) (type : Fin count)
    (reached : ∀ visited ∈ type :: trail.visited, schema.Reaches scalars root visited)
    (joined : (type :: trail.visited).IsChain fun later earlier =>
      schema.Leads scalars earlier later)
    (link : Link count) (met : link ∈ schema.walk scalars trail type) :
    link.From schema scalars root := by
  induction trail, type using walk.induct with
  | case1 trail type repeated =>
    rw [walk, dif_pos repeated] at met
    cases met
  | case2 trail type fresh inductionHypothesis =>
    rw [walk, dif_neg fresh, List.mem_flatMap] at met
    obtain ⟨field, member, inField⟩ := met
    obtain ⟨target, enters, here⟩ := field.mem_links _ _ link inField
    have leads : schema.Leads scalars type target := ⟨field, member, enters⟩
    have onward : (target :: type :: trail.visited).IsChain fun later earlier =>
        schema.Leads scalars earlier later := List.isChain_cons_cons.2 ⟨leads, joined⟩
    rcases here with rfl | deeper
    · exact ⟨reached, (trail.push type fresh).distinct, onward⟩
    · apply inductionHypothesis target _ onward deeper
      intro visited among
      rcases List.mem_cons.1 among with rfl | earlier
      · exact (reached type (.head _)).tail leads
      · exact reached visited earlier

/-- A cycle closes through distinct types that lead to one another, and the root reaches it. -/
structure IsCycle (schema : Schema count) (scalars : Scalars count) (root first : Fin count)
    (rest : List (Fin count)) : Prop where
  reached : schema.Reaches scalars root first
  distinct : (first :: rest).Nodup
  closed : (first :: rest ++ [first]).IsChain (schema.Leads scalars)

/-- The types from the target to the latest one make a cycle if a link returns. -/
theorem Link.From.exists_cycle {root : Fin count} {link : Link count}
    (fromRoot : link.From schema scalars root) (returns : link.returns = true) :
    ∃ rest outer, link.underway = (link.target :: rest).reverse ++ outer ∧
      link.cycle = link.target :: rest ∧ schema.IsCycle scalars root link.target rest := by
  obtain ⟨underway, target⟩ := link
  obtain ⟨reached, distinct, joined⟩ := fromRoot
  have among : target ∈ underway := (Link.returns_eq_true _).1 returns
  obtain ⟨inner, outer, rfl, absent⟩ := List.eq_append_cons_of_mem among
  have taken : (inner ++ target :: outer).takeWhile (· != target) = inner := by
    rw [List.takeWhile_append_of_pos]
    · simp
    · intro type member
      simpa using fun same : type = target => absent (same ▸ member)
  refine ⟨inner.reverse, outer, by simp, by simp [Link.cycle, taken], reached target among, ?_, ?_⟩
  · have inside := (List.nodup_append.1 (List.append_cons inner target outer ▸ distinct)).1
    have turned := (List.reverse_perm _).nodup_iff.2 inside
    rwa [List.reverse_concat] at turned
  · have whole : ((target :: inner ++ [target]) ++ outer).IsChain fun later earlier =>
        schema.Leads scalars earlier later := by
      simpa using joined
    have turned := List.isChain_reverse.2 whole.left_of_append
    simpa using turned

/-- The wrapper of a root can not close a cycle. -/
theorem collect_of_compile_cyclic (root : Fin count) (names : List String)
    (failed : schema.compile scalars root = .error (.cyclicSchema names)) :
    schema.collect scalars .empty root (schema.startOf root) = .error (.cyclicSchema names) := by
  rw [compile_eq, Outcome.bind_eq_error] at failed
  rcases failed with collecting | ⟨draft, -, finishing⟩
  · exact collecting
  rcases (Outcome.bind_eq_error _ _ _).1 finishing with rejected | ⟨arguments, -, impossible⟩
  · rw [ObjectType.wrapperArguments] at rejected
    split at rejected
    · cases rejected
    · obtain ⟨name, text, kind, other⟩ := eq_notCoercible_of_mapM _ _ rejected
      cases other
  · cases impossible

/-- The cycle of a report is one of the schema: distinct types, reached from the root, that lead to
one another and back to the first. The report joins their names, and the link that closes the cycle
is the first one of the walk below the root that returns to a type under way. Since types are told
apart by their places, no schema without such a cycle is reported, whatever names its types share. -/
theorem compile_reports_cycle (schema : Schema count) (scalars : Scalars count) (root : Fin count)
    (names : List String)
    (failed : schema.compile scalars root = .error (.cyclicSchema names)) :
    ∃ first rest outer, schema.IsCycle scalars root first rest ∧
      names = (first :: rest ++ [first]).map (fun type => (schema.typeAt type).name) ∧
      (Failure.cyclicSchema names).message =
        "Cyclic schema: " ++ Text.joinedStrings " -> " names ++
          "; mark the back reference with `ignore` or `scalar`" ∧
      (schema.walk scalars .empty root).find? Link.returns =
        some ⟨(first :: rest).reverse ++ outer, first⟩ ∧
      ¬schema.IsAcyclic scalars root := by
  have collecting := collect_of_compile_cyclic root names failed
  obtain ⟨link, closes, equal⟩ := find?_walk_of_collect .empty root _ names collecting
  rcases closes with ⟨visited, -⟩ | ⟨-, found⟩
  · cases visited
  have met := List.mem_of_find?_eq_some found
  have returns := List.find?_some found
  have fromRoot : link.From schema scalars root := by
    apply from_of_mem_walk root .empty root _ (List.isChain_singleton root) link met
    intro visited among
    rw [List.mem_singleton.1 among]
    exact .refl
  obtain ⟨rest, outer, underway, cycle, isCycle⟩ := fromRoot.exists_cycle returns
  refine ⟨link.target, rest, outer, isCycle, ?_, rfl, ?_, ?_⟩
  · rw [equal, closedNames, cycle]
    rfl
  · rw [found, ← underway]
  · exact fun acyclic => compile_ne_cyclicSchema acyclic names failed

/-- The second and the third type share their name, and only the latter leads back to itself. -/
def forum : Schema 6 where
  types := #v[
    { name := "Forum"
      fields := [
        { name := "pinned", type := ⟨false, .object 1⟩ },
        { name := "thread", type := ⟨false, .object 2⟩, flattened := true }] },
    { name := "Post", fields := [{ name := "text", type := ⟨false, .builtin "str"⟩ }] },
    { name := "Post"
      fields := [
        { name := "first", type := ⟨false, .object 1⟩ },
        { name := "author", type := ⟨false, .object 3⟩ }] },
    { name := "User"
      fields := [
        { name := "profile", type := ⟨false, .object 4⟩ },
        { name := "groups", type := ⟨true, .object 5⟩ }] },
    { name := "Profile", fields := [{ name := "text", type := ⟨false, .builtin "str"⟩ }] },
    { name := "Group", fields := [{ name := "posts", type := ⟨true, .object 2⟩ }] }]

theorem compile_reports_cycle_forum :
    forum.compile .empty 0 = .error (.cyclicSchema ["Post", "User", "Group", "Post"]) ∧
      ∃ first rest outer, forum.IsCycle .empty 0 first rest ∧
        ["Post", "User", "Group", "Post"] =
          (first :: rest ++ [first]).map (fun type => (forum.typeAt type).name) ∧
        (forum.walk .empty .empty 0).find? Link.returns =
          some ⟨(first :: rest).reverse ++ outer, first⟩ := by
  have failed :
      forum.compile .empty 0 = .error (.cyclicSchema ["Post", "User", "Group", "Post"]) := by
    with_unfolding_all rfl
  obtain ⟨first, rest, outer, isCycle, names, -, found, -⟩ := compile_reports_cycle _ _ _ _ failed
  exact ⟨failed, first, rest, outer, isCycle, names, found⟩

example : (forum.walk .empty .empty 0).find? Link.returns = some ⟨[5, 3, 2, 0], 2⟩ := by
  decide +kernel

end GraphQuery.Schema
