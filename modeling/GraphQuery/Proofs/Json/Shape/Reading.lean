import GraphQuery.Proofs.Json.Shape.Leaf
import GraphQuery.Proofs.Json.Shape.Unrepeated
import GraphQuery.Proofs.Json.Skip

/-
This file shows that data of a shape is read from a text exactly if it is decoded from its value.
-/

namespace GraphQuery.Json

mutual

/-- Every object in the place of a record has each name at most once. -/
def Shape.Distinct : Shape → Tree → Prop
  | .optional shape, tree => shape.Distinct tree
  | .list item, .array items => ∀ tree ∈ items, item.Distinct tree
  | .record _ fields, .object members =>
    (members.map Prod.fst).Nodup ∧ ∀ member ∈ members, fields.DistinctMember member
  | .record _ fields, .array items => fields.DistinctItems items
  | _, _ => True

def Fields.DistinctMember : Fields → String × Tree → Prop
  | .empty, _ => True
  | .field name _ shape rest, member =>
    (name = member.1 → shape.Distinct member.2) ∧ rest.DistinctMember member

def Fields.DistinctItems : Fields → List Tree → Prop
  | .field _ _ shape rest, tree :: trees => shape.Distinct tree ∧ rest.DistinctItems trees
  | _, _ => True

end

mutual

def Shape.decideDistinct : (shape : Shape) → (tree : Tree) → Decidable (shape.Distinct tree)
  | .any, _ | .text, _ | .flag, _ | .integer _, _ => .isTrue trivial
  | .optional shape, tree => shape.decideDistinct tree
  | .list item, .array items =>
    let _ : DecidablePred item.Distinct := item.decideDistinct
    inferInstanceAs (Decidable (∀ tree ∈ items, item.Distinct tree))
  | .list _, .scalar _ _ | .list _, .object _ | .record _ _, .scalar _ _ => .isTrue trivial
  | .record _ fields, .object members =>
    let _ : DecidablePred fields.DistinctMember := fields.decideDistinctMember
    inferInstanceAs (Decidable ((members.map Prod.fst).Nodup ∧
      ∀ member ∈ members, fields.DistinctMember member))
  | .record _ fields, .array items => fields.decideDistinctItems items

def Fields.decideDistinctMember : (fields : Fields) → (member : String × Tree) →
    Decidable (fields.DistinctMember member)
  | .empty, _ => .isTrue trivial
  | .field name _ shape rest, member =>
    let _ := shape.decideDistinct member.2
    let _ := rest.decideDistinctMember member
    inferInstanceAs (Decidable ((name = member.1 → shape.Distinct member.2) ∧
      rest.DistinctMember member))

def Fields.decideDistinctItems : (fields : Fields) → (trees : List Tree) →
    Decidable (fields.DistinctItems trees)
  | .empty, _ | .field _ _ _ _, [] => .isTrue trivial
  | .field _ _ shape rest, tree :: trees =>
    let _ := shape.decideDistinct tree
    let _ := rest.decideDistinctItems trees
    inferInstanceAs (Decidable (shape.Distinct tree ∧ rest.DistinctItems trees))

end

instance (shape : Shape) (tree : Tree) : Decidable (shape.Distinct tree) :=
  shape.decideDistinct tree

mutual

/-- Where no name is repeated, no field is. -/
theorem Shape.Distinct.unrepeated : (shape : Shape) → (tree : Tree) → shape.Distinct tree →
    shape.Unrepeated tree
  | .any, _, _ | .text, _, _ | .flag, _, _ | .integer _, _, _ => trivial
  | .optional shape, tree, distinct => Shape.Distinct.unrepeated shape tree distinct
  | .list item, .array _, distinct => fun tree inside =>
    Shape.Distinct.unrepeated item tree (distinct tree inside)
  | .list _, .scalar _ _, _ | .list _, .object _, _ | .record _ _, .scalar _ _, _ => trivial
  | .record _ fields, .object members, distinct =>
    ⟨fields.once_of_nodup members distinct.1, fun member inside =>
      Fields.DistinctMember.unrepeated fields member (distinct.2 member inside)⟩
  | .record _ fields, .array items, distinct =>
    Fields.DistinctItems.unrepeated fields items distinct

theorem Fields.DistinctMember.unrepeated : (fields : Fields) → (member : String × Tree) →
    fields.DistinctMember member → fields.UnrepeatedMember member
  | .empty, _, _ => trivial
  | .field _ _ shape rest, member, distinct =>
    ⟨fun same => Shape.Distinct.unrepeated shape member.2 (distinct.1 same),
      Fields.DistinctMember.unrepeated rest member distinct.2⟩

theorem Fields.DistinctItems.unrepeated : (fields : Fields) → (trees : List Tree) →
    fields.DistinctItems trees → fields.UnrepeatedItems trees
  | .empty, _, _ | .field _ _ _ _, [], _ => trivial
  | .field _ _ shape rest, tree :: trees, distinct =>
    ⟨Shape.Distinct.unrepeated shape tree distinct.1,
      Fields.DistinctItems.unrepeated rest trees distinct.2⟩

end

/-- The order of members does not matter where no field is repeated. -/
theorem Fields.toOption_foldlM_toMembers (fields : Fields) (proper : fields.IsProper)
    (members : List (String × Tree)) (once : fields.Once members) :
    ((Tree.toMembers members).foldlM (fun slots member => fields.decodeMember member slots)
        fields.blank).toOption =
      ((members.map fun member => (member.1, member.2.toJson)).foldlM
        (fun slots member => fields.decodeMember member slots) fields.blank).toOption := by
  have onceJson := (fields.once_map members Tree.toJson).2 once
  have sorted : ((Tree.toMembers members).map Prod.fst).Nodup := (isSorted_sortMembers _).nodup
  rw [fields.toOption_foldlM_decodeMember proper _ onceJson,
    fields.toOption_foldlM_decodeMember proper _ (fields.once_of_nodup _ sorted)]
  exact fields.fill_congr _ _ fun name known => valueAt?_sortMembers _ name (onceJson name known)

theorem closeRecord_of_bracket (cursor : Cursor)
    (bracket : cursor.skipBlanks.peek? = some 0x5D) :
    closeRecord cursor = .ok cursor.skipBlanks.next := by
  rw [closeRecord, (peekAfterBlanks_eq_ok _ _ _ _).2 ⟨rfl, bracket⟩]
  rfl

theorem closeRecord_of_more (cursor : Cursor) (byte : UInt8)
    (found : cursor.skipBlanks.peek? = some byte) (opened : byte ≠ 0x5D) :
    ∃ fault, closeRecord cursor = .error fault := by
  rw [closeRecord, (peekAfterBlanks_eq_ok _ _ _ _).2 ⟨rfl, found⟩]
  simp only [bind, Except.bind, if_neg opened]
  split
  · split <;> exact ⟨_, rfl⟩
  · exact ⟨_, rfl⟩

/-- A record ends behind its brace, unless a field has no value. -/
theorem finish_agrees (fields : Fields) {read : Except Fault (fields.Partial × Cursor)}
    (decoded : Except Mismatch fields.Partial) (stop : Cursor)
    (agrees : Agrees read decoded stop) :
    Agrees
      (do
        let (slots, cursor) ← read
        match fields.finish slots with
        | .ok values => return (values, cursor.next)
        | .error mismatch => throw (.ofMismatch mismatch cursor.ahead))
      (decoded >>= fields.finish) stop.next := by
  rcases agrees.cases with ⟨fault, mismatch, rfl, rfl⟩ | ⟨slots, rfl, rfl⟩
  · rfl
  · change Agrees (match fields.finish slots with
      | .ok values => .ok (values, stop.next)
      | .error mismatch => .error (.ofMismatch mismatch stop.ahead)) (fields.finish slots) stop.next
    cases fields.finish slots <;> rfl

mutual

-- The induction is on the shape. Members and items are followed in the tree that the same text has,
-- so both sides see the same values in the same order.
theorem Shape.read_agrees : (shape : Shape) → (depth : Nat) → (cursor stop : Cursor) →
    (tree : Tree) → Tree.read depth cursor = .ok (tree, stop) → shape.IsProper →
    shape.Unrepeated tree → Agrees (shape.read depth cursor) (shape.decode tree.toJson) stop
  | .any, depth, cursor, stop, tree, read, _, _ => any_agrees depth cursor stop tree read
  | .text, depth, cursor, stop, tree, read, _, _ => text_agrees depth cursor stop tree read
  | .flag, depth, cursor, stop, tree, read, _, _ => flag_agrees depth cursor stop tree read
  | .integer range, depth, cursor, stop, tree, read, _, _ =>
    integer_agrees range depth cursor stop tree read
  | .optional shape, depth, cursor, stop, tree, read, proper, unrepeated =>
    optional_agrees shape depth cursor stop tree read
      (shape.read_agrees depth cursor.skipBlanks stop tree
        (by rwa [Tree.read_skipBlanks]) proper unrepeated)
  | .list item, depth, cursor, stop, tree, read, proper, unrepeated => by
    cases Tree.reads_of_read _ _ _ _ read with
    | scalar byte start stop json plain first notList notObject content =>
      refine agrees_of_peek first (agrees_else notList ?_)
      rw [Tree.toJson_scalar]
      cases json with
      | array _ | object _ => cases plain
      | null | boolean _ | integer _ | real _ | string _ => exact agrees_error _ _ _
    | array inner start stop items deep first content =>
      subst deep
      refine agrees_of_peek first (agrees_if rfl ?_)
      rw [Tree.toJson_array]
      have listed := readItems_agrees _ (item.read inner) item.decode item.Unrepeated
        (fun cursor stop tree read => item.read_agrees inner cursor stop tree read proper) _ _ _ _ _
        content unrepeated
      exact listed.closed
    | object inner start stop members deep first content =>
      rw [Tree.toJson_object]
      exact agrees_of_peek first (agrees_error _ _ _)
  | .record name fields, depth, cursor, stop, tree, read, proper, unrepeated => by
    cases Tree.reads_of_read _ _ _ _ read with
    | scalar byte start stop json plain first notList notObject content =>
      refine agrees_of_peek first (agrees_else (not_or.2 ⟨notList, notObject⟩) ?_)
      rw [Tree.toJson_scalar]
      cases json with
      | array _ | object _ => cases plain
      | null | boolean _ | integer _ | real _ | string _ => exact agrees_error _ _ _
    | array inner start stop items deep first content =>
      subst deep
      refine agrees_of_peek first (agrees_if (.inl rfl) (agrees_if rfl ?_))
      rw [Tree.toJson_array]
      exact fields.readItems_agrees inner _ _ 0 _ true start.next stop items content proper
        unrepeated
    | object inner start stop members deep first content =>
      subst deep
      refine agrees_of_peek first (agrees_if (.inr rfl) (agrees_else (by decide) ?_))
      have listed := readMembers_agrees (Tree.read inner)
        (fun slots cursor => do
          let (key, cursor) ← readString cursor
          fields.readMember inner key slots cursor)
        (fun slots member => fields.decodeMember member slots) (· ∈ fields.names)
        -- Only members that have been read fill slots, so a new name finds its slot free.
        (fun slots before => ∀ key, key ∉ before.map Prod.fst → fields.Free key slots)
        fields.UnrepeatedMember
        (fun before slots name tree cursor stop free unrepeated absent member => by
          obtain ⟨other, middle, opened, found, string, colon, inside, same⟩ :=
            (Tree.readMember_eq_ok _ _ _ _ _).1 member
          cases List.append_cancel_left same
          rw [string]
          have unfilled : fields.Free name slots := by
            by_cases known : name ∈ fields.names
            · exact free name (absent known)
            · exact fields.free_of_not_mem name slots known
          exact fields.readMember_agrees inner name slots middle opened stop tree colon inside
            proper unrepeated unfilled)
        (fun before slots name tree next free decoded key absent => by
          rw [List.map_append, List.mem_append, not_or] at absent
          exact fields.free_decodeMember key _ _ _ (free key absent.1) decoded
            (by simpa using absent.2))
        _ true start.next stop [] members fields.blank (fun key _ => fields.free_blank key)
        content unrepeated.1 unrepeated.2
      rw [Tree.toJson_object]
      exact finish_agrees fields _ stop
        (listed.congr (fields.toOption_foldlM_toMembers proper members unrepeated.1).symm)

theorem Fields.readMember_agrees : (fields : Fields) → (depth : Nat) → (key : String) →
    (slots : fields.Partial) → (cursor start stop : Cursor) → (tree : Tree) →
    readColon cursor = .ok start → Tree.read depth start = .ok (tree, stop) → fields.IsProper →
    fields.UnrepeatedMember (key, tree) → fields.Free key slots →
    Agrees (fields.readMember depth key slots cursor) (fields.decodeMember (key, tree.toJson) slots)
      stop
  | .empty, depth, key, slots, cursor, start, stop, tree, colon, read, _, _, _ => by
    rw [Fields.readMember, colon]
    simp only [bind, Except.bind, skipValue_of_read _ _ _ _ read]
    rfl
  | .field name omissible shape rest, depth, key, (slot, slots), cursor, start, stop, tree, colon,
      read, proper, unrepeated, free => by
    by_cases same : name = key
    · obtain rfl : slot = none := free.1 same
      subst same
      rw [Fields.decodeMember_here omissible (name, tree.toJson) none slots rfl,
        Fields.readMember_here, colon]
      exact (shape.read_agrees depth start stop tree read proper.2.1 (unrepeated.1 rfl)).bind
        fun _ _ => agrees_ok _ _
    · rw [Fields.readMember_later _ _ _ _ _ _ same, Fields.decodeMember_later _ _ _ _ same]
      exact (rest.readMember_agrees depth key slots cursor start stop tree colon read proper.2.2
        unrepeated.2 free.2).bind fun _ _ => agrees_ok _ _

theorem Fields.readItems_agrees : (fields : Fields) → (depth : Nat) → (expected : String) →
    (total index fuel : Nat) → (first : Bool) → (cursor stop : Cursor) → (trees : List Tree) →
    Json.readItems (Tree.read depth) fuel first cursor = .ok (trees, stop) → fields.IsProper →
    fields.UnrepeatedItems trees →
    Agrees
      (do
        let (values, cursor) ← fields.readItems depth expected index first cursor
        return (values, ← closeRecord cursor))
      (fields.decodeItems expected total index (trees.map Tree.toJson)) stop.next
  | .empty, depth, expected, total, index, fuel, first, cursor, stop, trees, read, _, _ => by
    rw [Fields.readItems]
    cases fuel with
    | zero => cases read
    | succ fuel =>
    rw [Json.readItems, Outcome.bind_eq_ok] at read
    obtain ⟨⟨more, start⟩, next, read⟩ := read
    cases nextItem_eq_ok _ _ _ _ next with
    | closed first bracket =>
      cases read
      simp only [bind, Except.bind, closeRecord_of_bracket _ bracket]
      exact agrees_ok _ _
    | head byte found opened =>
      obtain ⟨⟨tree, middle⟩, head, read⟩ := (Outcome.bind_eq_ok _ _ _).1 read
      obtain ⟨⟨others, last⟩, tail, equal⟩ := (Outcome.bind_eq_ok _ _ _).1 read
      cases equal
      obtain ⟨fault, failed⟩ := closeRecord_of_more _ _ found opened
      simp only [bind, Except.bind, failed]
      exact agrees_error _ _ _
    | later byte comma found opened =>
      obtain ⟨⟨tree, middle⟩, head, read⟩ := (Outcome.bind_eq_ok _ _ _).1 read
      obtain ⟨⟨others, last⟩, tail, equal⟩ := (Outcome.bind_eq_ok _ _ _).1 read
      cases equal
      obtain ⟨fault, failed⟩ := closeRecord_of_more _ _ comma (by decide)
      simp only [bind, Except.bind, failed]
      exact agrees_error _ _ _
  | .field name omissible shape rest, depth, expected, total, index, fuel, first, cursor, stop,
      trees, read, proper, unrepeated => by
    cases fuel with
    | zero => cases read
    | succ fuel =>
    rw [Json.readItems, Outcome.bind_eq_ok] at read
    obtain ⟨⟨more, start⟩, next, read⟩ := read
    rw [Fields.readItems, next]
    cases more with
    | false =>
      cases read
      cases nextItem_eq_ok _ _ _ _ next with
      | closed first bracket =>
      rw [List.map_nil, Fields.decodeItems]
      simp only [bind, Except.bind]
      cases (if omissible = true then shape.absent? else none) with
      | none => exact agrees_error _ _ _
      | some value =>
        rw [← nextItem_skipBlanks] at next
        have onward := rest.readItems_agrees depth expected total (index + 1) (fuel + 1) first
          cursor.skipBlanks cursor.skipBlanks [] (by rw [Json.readItems, next]; rfl) proper.2.2
          rest.unrepeatedItems_nil
        exact onward.before value
    | true =>
      obtain ⟨⟨tree, middle⟩, head, read⟩ := (Outcome.bind_eq_ok _ _ _).1 read
      obtain ⟨⟨others, last⟩, tail, equal⟩ := (Outcome.bind_eq_ok _ _ _).1 read
      cases equal
      rw [List.map_cons, Fields.decodeItems]
      have first := shape.read_agrees depth start middle tree head proper.2.1 unrepeated.1
      have onward := rest.readItems_agrees depth expected total (index + 1) fuel false
        middle stop others tail proper.2.2 unrepeated.2
      simp only [bind, Except.bind]
      rcases first.cases with ⟨fault, mismatch, failed, refused⟩ | ⟨value, found, taken⟩
      · rw [failed, refused]
        exact agrees_error _ _ _
      · rw [found, taken]
        exact onward.before value

end

/-- A text that is well-formed holds data of a shape exactly if its value does. -/
theorem Shape.toOption_parse (shape : Shape) (proper : shape.IsProper) (text : List UInt8)
    (tree : Tree) (parsed : Tree.parse text = .ok tree) (unrepeated : shape.Unrepeated tree) :
    (shape.parse text).toOption = (shape.decode tree.toJson).toOption := by
  obtain ⟨⟨found, stop⟩, read, ended⟩ := (Outcome.bind_eq_ok _ _ _).1 parsed
  obtain ⟨_, finished, equal⟩ := (Outcome.bind_eq_ok _ _ _).1 ended
  cases equal
  have agrees := shape.read_agrees depthLimit _ stop tree read proper unrepeated
  rw [Shape.parse]
  rcases agrees.cases with ⟨fault, mismatch, failed, refused⟩ | ⟨data, taken, given⟩
  · rw [failed, refused]
    rfl
  · rw [taken, given]
    simp only [bind, Except.bind, finished]
    rfl

end GraphQuery.Json
