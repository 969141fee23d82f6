import GraphQuery.Proofs.Json.Shape.Meaning

/-
This file shows that data that has been read can be written and decoded again.
-/

namespace GraphQuery.Json

mutual

/-- Numbers lie in their ranges, and present content is not written as null. -/
def Shape.Sound : (shape : Shape) → shape.Carrier → Prop
  | .any, _ | .text, _ | .flag, _ => True
  | .integer range, value => range.contains value = true
  | .optional _, none => True
  | .optional shape, some content => shape.Sound content ∧ shape.encode content ≠ .null
  | .list item, items => ∀ data ∈ (show List item.Carrier from items), item.Sound data
  | .record _ fields, values => fields.Sound values

def Fields.Sound : (fields : Fields) → fields.Carrier → Prop
  | .empty, _ => True
  | .field _ _ shape rest, (value, values) => shape.Sound value ∧ rest.Sound values

end

theorem Fields.names_encode : (fields : Fields) → (values : fields.Carrier) →
    (fields.encode values).map Prod.fst = fields.names
  | .empty, _ => rfl
  | .field name _ _ rest, (_, values) => congrArg (name :: ·) (rest.names_encode values)

theorem Fields.nodup_names : (fields : Fields) → fields.IsProper → fields.names.Nodup
  | .empty, _ => List.nodup_nil
  | .field _ _ _ rest, proper => List.nodup_cons.2 ⟨proper.1, rest.nodup_names proper.2.2⟩

mutual

-- The induction is on the shape: what is written for each part is decoded to the part.
theorem Shape.decode_encode : (shape : Shape) → shape.IsProper → (data : shape.Carrier) →
    shape.Sound data → shape.decode (shape.encode data) = .ok data
  | .any, _, _, _ | .text, _, _, _ | .flag, _, _, _ => rfl
  | .integer _, _, _, sound => if_pos sound
  | .optional _, _, none, _ => rfl
  | .optional shape, proper, some content, sound => by
    rw [Shape.encode, decode_optional shape _ sound.2, shape.decode_encode proper content sound.1]
    rfl
  | .list item, proper, items, sound => by
    refine (Outcome.mapM_eq_ok item.decode _ _).2 (List.forall₂_map_left_iff.2 ?_)
    exact List.forall₂_same.2 fun data inside =>
      item.decode_encode proper data (sound data inside)
  | .record name fields, proper, values, sound => by
    have distinct : ((fields.encode values).map Prod.fst).Nodup :=
      (fields.names_encode values).symm ▸ fields.nodup_names proper
    rw [← Outcome.toOption_eq_some]
    exact (Shape.toOption_decode_ofMembers name fields proper _
      (fields.once_of_nodup _ distinct)).trans
      (fields.take_encode proper values sound)

theorem Fields.take_encode : (fields : Fields) → fields.IsProper → (values : fields.Carrier) →
    fields.Sound values → fields.take (Keyed.valueAt? (fields.encode values)) = some values
  | .empty, _, _, _ => rfl
  | .field name omissible shape rest, proper, (value, values), sound => by
    have tail : rest.take (Keyed.valueAt? ((name, shape.encode value) :: rest.encode values)) =
        rest.take (Keyed.valueAt? (rest.encode values)) :=
      rest.take_congr _ _ fun other member =>
        if_neg fun equal : name = other => proper.1 (equal ▸ member)
    have head : shape.take (some (shape.encode value)) = some value :=
      (Outcome.toOption_eq_some _ _).2 (shape.decode_encode proper.2.1 value sound.1)
    have here : Keyed.valueAt? ((name, shape.encode value) :: rest.encode values) name =
        some (shape.encode value) := if_pos rfl
    refine (both_eq_some _ _ _ _).2 ⟨?_, tail.trans ?_⟩
    · exact (congrArg shape.take here).trans head
    · exact rest.take_encode proper.2.2 values sound.2

end

/-- A slot is free or holds sound data. -/
def Fields.SoundSlots : (fields : Fields) → fields.Partial → Prop
  | .empty, _ => True
  | .field _ _ shape rest, (slot, slots) =>
    (∀ value, slot = some value → shape.Sound value) ∧ rest.SoundSlots slots

theorem Fields.soundSlots_blank : (fields : Fields) → fields.SoundSlots fields.blank
  | .empty => trivial
  | .field _ _ _ rest => ⟨nofun, rest.soundSlots_blank⟩

theorem Shape.sound_of_absent? (shape : Shape) (value : shape.Carrier)
    (absent : shape.absent? = some value) : shape.Sound value := by
  cases shape with
  | optional shape =>
    cases absent
    exact trivial
  | any | text | flag | integer _ | list _ | record _ _ => cases absent

theorem Fields.sound_of_finish : (fields : Fields) → (slots : fields.Partial) →
    (values : fields.Carrier) → fields.SoundSlots slots → fields.finish slots = .ok values →
    fields.Sound values
  | .empty, _, _, _, _ => trivial
  | .field name omissible shape rest, (slot, slots), (value, values), sound, finished => by
    have taken := congrArg Except.toOption finished
    rw [Fields.toOption_finish] at taken
    obtain ⟨first, later⟩ := (both_eq_some _ _ _ _).1 taken
    constructor
    · cases slot with
      | none => exact shape.sound_of_absent? value first
      | some content =>
        cases first
        exact sound.1 _ rfl
    · exact rest.sound_of_finish slots values sound.2 ((Outcome.toOption_eq_some _ _).1 later)

section Readers

variable {Item State : Type}

theorem readItems_forall (item : Cursor → Except Fault (Item × Cursor)) (Proper : Item → Prop)
    (each : ∀ cursor stop data, item cursor = .ok (data, stop) → Proper data)
    (budget : Nat) (first : Bool) (cursor stop : Cursor) (items : List Item)
    (read : readItems item budget first cursor = .ok (items, stop)) :
    ∀ data ∈ items, Proper data := by
  induction budget generalizing first cursor items with
  | zero => cases read
  | succ budget inductionHypothesis =>
    rw [readItems, Outcome.bind_eq_ok] at read
    obtain ⟨⟨more, start⟩, next, read⟩ := read
    cases more with
    | false =>
      cases read
      exact List.forall_mem_nil _
    | true =>
      obtain ⟨⟨data, middle⟩, head, read⟩ := (Outcome.bind_eq_ok _ _ _).1 read
      obtain ⟨⟨rest, last⟩, tail, equal⟩ := (Outcome.bind_eq_ok _ _ _).1 read
      cases equal
      exact List.forall_mem_cons.2 ⟨each _ _ _ head, inductionHypothesis _ _ _ tail⟩

/-- What every step keeps holds after all members. -/
theorem readMembers_keeps (step : State → Cursor → Except Fault (State × Cursor))
    (Proper : State → Prop)
    (each : ∀ state cursor next stop, Proper state → step state cursor = .ok (next, stop) →
      Proper next)
    (budget : Nat) (first : Bool) (state last : State) (cursor stop : Cursor)
    (start : Proper state) (read : readMembers step budget first state cursor = .ok (last, stop)) :
    Proper last := by
  induction budget generalizing first state cursor with
  | zero => cases read
  | succ budget inductionHypothesis =>
    rw [readMembers, Outcome.bind_eq_ok] at read
    obtain ⟨⟨more, begin⟩, next, read⟩ := read
    cases more with
    | false =>
      cases read
      exact start
    | true =>
      obtain ⟨⟨after, middle⟩, head, tail⟩ := (Outcome.bind_eq_ok _ _ _).1 read
      exact inductionHypothesis _ _ _ (each _ _ _ _ start head) tail

end Readers

theorem readValue_ne_null (depth : Nat) (cursor stop : Cursor) (json : Json)
    (read : readValue depth cursor = .ok (json, stop))
    (letter : cursor.skipBlanks.peek? ≠ some 0x6E) : json ≠ .null := by
  rw [readValue_eq, Outcome.map_eq_ok] at read
  obtain ⟨⟨tree, last⟩, read, equal⟩ := read
  cases equal
  rcases isNull_iff _ _ _ _ read with ⟨found, -, -⟩ | ⟨-, notNull⟩
  · exact absurd found letter
  · exact notNull

/-- A text that does not start with the letter of null holds data that is not written as null. -/
theorem Shape.encode_ne_null : (shape : Shape) → (depth : Nat) → (cursor stop : Cursor) →
    (data : shape.Carrier) → shape.read depth cursor = .ok (data, stop) →
    cursor.skipBlanks.peek? ≠ some 0x6E → shape.encode data ≠ .null
  | .any, depth, cursor, stop, json, read, letter =>
    readValue_ne_null depth cursor stop json read letter
  | .text, _, _, _, _, _, _ | .flag, _, _, _, _, _, _ | .integer _, _, _, _, _, _, _
  | .list _, _, _, _, _, _, _ | .record _ _, _, _, _, _, _, _ => nofun
  | .optional shape, depth, cursor, stop, data, read, letter => by
    rw [Shape.read, if_neg letter, Outcome.bind_eq_ok] at read
    obtain ⟨⟨content, last⟩, inside, equal⟩ := read
    cases equal
    exact shape.encode_ne_null depth cursor.skipBlanks stop content inside
      (by rwa [Cursor.skipBlanks_skipBlanks])

mutual

-- The induction is on the shape; readers of lists and objects only put sound parts together.
theorem Shape.sound_of_read : (shape : Shape) → (depth : Nat) → (cursor stop : Cursor) →
    (data : shape.Carrier) → shape.read depth cursor = .ok (data, stop) → shape.Sound data
  | .any, _, _, _, _, _ | .text, _, _, _, _, _ | .flag, _, _, _, _, _ => trivial
  | .integer range, depth, cursor, stop, value, read => by
    rw [Shape.read, Outcome.bind_eq_ok] at read
    obtain ⟨⟨byte, start⟩, first, read⟩ := read
    dsimp only at read
    split at read
    · obtain ⟨⟨number, last⟩, digits, read⟩ := (Outcome.bind_eq_ok _ _ _).1 read
      dsimp only at read
      split at read
      · next selected =>
        cases read
        exact ((Shape.take_integer range (some number.toJson) value).1
          ((Outcome.toOption_eq_some _ _).2 selected)).2
      · cases read
    · cases read
  | .optional shape, depth, cursor, stop, data, read => by
    rw [Shape.read] at read
    dsimp only at read
    split at read
    · obtain ⟨last, word, equal⟩ := (Outcome.bind_eq_ok _ _ _).1 read
      cases equal
      exact trivial
    · next letter =>
      obtain ⟨⟨content, last⟩, inside, equal⟩ := (Outcome.bind_eq_ok _ _ _).1 read
      cases equal
      refine ⟨shape.sound_of_read depth cursor.skipBlanks last content inside, ?_⟩
      exact shape.encode_ne_null depth cursor.skipBlanks last content inside
        (by rwa [Cursor.skipBlanks_skipBlanks])
  | .list item, depth, cursor, stop, items, read => by
    rw [Shape.read, Outcome.bind_eq_ok] at read
    obtain ⟨⟨byte, start⟩, first, read⟩ := read
    dsimp only at read
    split at read
    · cases depth with
      | zero => cases read
      | succ inner =>
        obtain ⟨⟨listed, last⟩, content, equal⟩ := (Outcome.bind_eq_ok _ _ _).1 read
        cases equal
        exact readItems_forall _ item.Sound
          (fun cursor stop data read => item.sound_of_read inner cursor stop data read) _ _ _ _ _
          content
    · cases read
  | .record name fields, depth, cursor, stop, values, read => by
    rw [Shape.read, Outcome.bind_eq_ok] at read
    obtain ⟨⟨byte, start⟩, first, read⟩ := read
    dsimp only at read
    split at read
    · cases depth with
      | zero => cases read
      | succ inner =>
        dsimp only at read
        split at read
        · obtain ⟨⟨taken, last⟩, content, equal⟩ := (Outcome.bind_eq_ok _ _ _).1 read
          obtain ⟨closed, -, equal⟩ := (Outcome.bind_eq_ok _ _ _).1 equal
          cases equal
          exact fields.sound_of_readItems inner _ 0 true _ last taken content
        · obtain ⟨⟨slots, last⟩, content, read⟩ := (Outcome.bind_eq_ok _ _ _).1 read
          have sound : fields.SoundSlots slots := readMembers_keeps _ fields.SoundSlots
            (fun slots cursor next stop sound step => by
              obtain ⟨⟨key, middle⟩, string, member⟩ := (Outcome.bind_eq_ok _ _ _).1 step
              exact fields.soundSlots_of_readMember inner key slots next middle stop sound member)
            _ true fields.blank slots _ last fields.soundSlots_blank content
          dsimp only at read
          split at read
          · next finished =>
            cases read
            exact fields.sound_of_finish slots values sound finished
          · cases read
    · cases read

theorem Fields.soundSlots_of_readMember : (fields : Fields) → (depth : Nat) → (key : String) →
    (slots next : fields.Partial) → (cursor stop : Cursor) → fields.SoundSlots slots →
    fields.readMember depth key slots cursor = .ok (next, stop) → fields.SoundSlots next
  | .empty, _, _, _, _, _, _, _, _ => trivial
  | .field name omissible shape rest, depth, key, (slot, slots), next, cursor, stop, sound,
      read => by
    rw [Fields.readMember] at read
    split at read
    · split at read
      · cases read
      · obtain ⟨start, colon, read⟩ := (Outcome.bind_eq_ok _ _ _).1 read
        obtain ⟨⟨value, last⟩, content, equal⟩ := (Outcome.bind_eq_ok _ _ _).1 read
        cases equal
        refine ⟨?_, sound.2⟩
        intro found same
        cases same
        exact shape.sound_of_read depth start stop value content
    · obtain ⟨⟨others, last⟩, later, equal⟩ := (Outcome.bind_eq_ok _ _ _).1 read
      cases equal
      exact ⟨sound.1,
        rest.soundSlots_of_readMember depth key slots others cursor stop sound.2 later⟩

theorem Fields.sound_of_readItems : (fields : Fields) → (depth : Nat) → (expected : String) →
    (index : Nat) → (first : Bool) → (cursor stop : Cursor) → (values : fields.Carrier) →
    fields.readItems depth expected index first cursor = .ok (values, stop) → fields.Sound values
  | .empty, _, _, _, _, _, _, _, _ => trivial
  | .field name omissible shape rest, depth, expected, index, first, cursor, stop, values,
      read => by
    rw [Fields.readItems, Outcome.bind_eq_ok] at read
    obtain ⟨⟨more, start⟩, next, read⟩ := read
    cases more with
    | true =>
      obtain ⟨⟨value, middle⟩, head, read⟩ := (Outcome.bind_eq_ok _ _ _).1 read
      obtain ⟨⟨others, last⟩, tail, equal⟩ := (Outcome.bind_eq_ok _ _ _).1 read
      cases equal
      exact ⟨shape.sound_of_read depth start middle value head,
        rest.sound_of_readItems depth expected (index + 1) false middle stop others tail⟩
    | false =>
      dsimp only at read
      rw [if_neg Bool.false_ne_true] at read
      split at read
      · cases read
      · next value absent =>
        obtain ⟨⟨others, last⟩, tail, equal⟩ := (Outcome.bind_eq_ok _ _ _).1 read
        cases equal
        refine ⟨shape.sound_of_absent? value ?_,
          rest.sound_of_readItems depth expected (index + 1) first start last others tail⟩
        split at absent
        · exact absent
        · cases absent

end

end GraphQuery.Json
