import GraphQuery.Proofs.Json.Shape.Reading

/-
This file says what a record takes from the members of an object or the items of a list.
-/

namespace GraphQuery.Json

/-- The members of a record; the items of a list stand for members in the order of the names. -/
def Tree.members? (names : List String) : Tree → Option (List (String × Tree))
  | .object members => some members
  | .array items => if items.length ≤ names.length then some (names.zip items) else none
  | .scalar _ _ => none

/-- Exactly the fields that may be absent are omissible. -/
def Fields.IsUniform : Fields → Prop
  | .empty => True
  | .field _ omissible shape rest => omissible = shape.absent?.isSome ∧ rest.IsUniform

/-- What a field takes from a member that may be found. -/
def Shape.take (shape : Shape) : Option Json → Option shape.Carrier
  | none => shape.absent?
  | some json => (shape.decode json).toOption

/-- What all fields take from the members that can be found. -/
def Fields.take (find : String → Option Json) : (fields : Fields) → Option fields.Carrier
  | .empty => some ()
  | .field name _ shape rest => both (shape.take (find name)) (rest.take find)

theorem Fields.take_field (find : String → Option Json) (name : String) (omissible : Bool)
    (shape : Shape) (rest : Fields) :
    (Fields.field name omissible shape rest).take find =
      both (shape.take (find name)) (rest.take find) :=
  rfl

theorem Fields.take_congr (find other : String → Option Json) : (fields : Fields) →
    (∀ name ∈ fields.names, find name = other name) → fields.take find = fields.take other
  | .empty, _ => rfl
  | .field name _ shape rest, same => by
    have head : find name = other name := same name List.mem_cons_self
    have tail := take_congr find other rest fun key member =>
      same key (List.mem_cons_of_mem _ member)
    rw [take_field, take_field, head, tail]

theorem Fields.toOption_finish (name : String) (omissible : Bool) (shape : Shape) (rest : Fields)
    (slot : Option shape.Carrier) (slots : rest.Partial) :
    ((Fields.field name omissible shape rest).finish (slot, slots)).toOption =
      both (slot <|> shape.absent?) (rest.finish slots).toOption := by
  rw [finish]
  cases slot <|> shape.absent? with
  | none => rfl
  | some value => cases rest.finish slots <;> rfl

theorem Shape.bind_slot (shape : Shape) (found : Option Json) :
    ((shape.slot found).bind fun slot => slot <|> shape.absent?) = shape.take found := by
  cases found with
  | none => rfl
  | some json =>
    rw [slot, take]
    cases (shape.decode json).toOption <;> rfl

/-- Slots that are filled give what the fields take. -/
theorem Fields.bind_fill (find : String → Option Json) : (fields : Fields) →
    ((fields.fill find).bind fun slots => (fields.finish slots).toOption) = fields.take find
  | .empty => rfl
  | .field name omissible shape rest => by
    rw [fill_field, take_field]
    calc
      _ = (both (shape.slot (find name)) (rest.fill find)).bind fun slots =>
            both (slots.1 <|> shape.absent?) (rest.finish slots.2).toOption :=
        congrArg _ (funext fun slots => toOption_finish name omissible shape rest slots.1 slots.2)
      _ = both ((shape.slot (find name)).bind fun slot => slot <|> shape.absent?)
            ((rest.fill find).bind fun slots => (rest.finish slots).toOption) :=
        both_bind_both _ _ (fun slot => slot <|> shape.absent?)
          fun slots => (rest.finish slots).toOption
      _ = _ := by rw [shape.bind_slot, bind_fill find rest]

theorem toOption_pair {First Rest : Type} (first : Except Mismatch First)
    (rest : Except Mismatch Rest) :
    (do return (← first, ← rest)).toOption = both first.toOption rest.toOption := by
  cases first with
  | error mismatch => rfl
  | ok value => cases rest <;> rfl

/-- The items of a list give what the fields take from them in order. -/
theorem Fields.toOption_decodeItems (expected : String) (total : Nat) : (fields : Fields) →
    fields.IsProper → fields.IsUniform → (index : Nat) → (items : List Json) →
    (fields.decodeItems expected total index items).toOption =
      if items.length ≤ fields.names.length then
        fields.take (Keyed.valueAt? (fields.names.zip items))
      else none
  | .empty, _, _, _, [] => rfl
  | .empty, _, _, _, _ :: _ => rfl
  | .field name omissible shape rest, proper, uniform, index, [] => by
    have onward := (toOption_decodeItems expected total rest proper.2.2 uniform.2 (index + 1)
      []).trans (if_pos (Nat.zero_le _))
    have absent : (if omissible = true then shape.absent? else none) = shape.absent? := by
      split
      · rfl
      · next required =>
        rw [uniform.1] at required
        exact (Option.not_isSome_iff_eq_none.1 required).symm
    refine Eq.trans ?_ (if_pos (Nat.zero_le _)).symm
    rw [List.zip_nil_right] at onward ⊢
    rw [take_field, ← onward, decodeItems, absent]
    change _ = both shape.absent? _
    cases shape.absent? with
    | none => rfl
    | some value => exact toOption_pair (.ok value) _
  | .field name omissible shape rest, proper, uniform, index, item :: items => by
    have onward := toOption_decodeItems expected total rest proper.2.2 uniform.2 (index + 1) items
    refine (toOption_pair _ _).trans ?_
    rw [onward]
    by_cases fits : items.length ≤ rest.names.length
    · refine Eq.trans ?_ (if_pos (Nat.succ_le_succ fits)).symm
      have tail : rest.take (Keyed.valueAt? (rest.names.zip items)) =
          rest.take (Keyed.valueAt? ((name, item) :: rest.names.zip items)) :=
        take_congr _ _ _ fun other member =>
          (if_neg fun equal : name = other => proper.1 (equal ▸ member)).symm
      have head : Keyed.valueAt? ((name, item) :: rest.names.zip items) name = some item :=
        if_pos rfl
      rw [if_pos fits, tail, names_field, List.zip_cons_cons, take_field, head]
      rfl
    · refine Eq.trans ?_ (if_neg (mt Nat.le_of_succ_le_succ fits)).symm
      rw [if_neg fits]
      cases (shape.decode item).toOption <;> rfl

/-- A record takes its data from the members of an object. -/
theorem Shape.toOption_decode_ofMembers (name : String) (fields : Fields) (proper : fields.IsProper)
    (members : List (String × Json)) (once : fields.Once members) :
    ((Shape.record name fields).decode (.ofMembers members)).toOption =
      fields.take (Keyed.valueAt? members) := by
  have sorted : ((sortMembers members).map Prod.fst).Nodup := (isSorted_sortMembers _).nodup
  refine (Outcome.toOption_bind _ _).trans ?_
  rw [fields.toOption_foldlM_decodeMember proper _ (fields.once_of_nodup _ sorted)]
  refine (fields.bind_fill _).trans (fields.take_congr _ _ fun key known => ?_)
  exact valueAt?_sortMembers members key (once key known)

theorem Shape.toOption_decode_object (name : String) (fields : Fields) (proper : fields.IsProper)
    (members : List (String × Tree)) (once : fields.Once members) :
    ((Shape.record name fields).decode (Tree.object members).toJson).toOption =
      fields.take fun key => (Keyed.valueAt? members key).map Tree.toJson := by
  rw [Tree.toJson, Shape.toOption_decode_ofMembers name fields proper _
    ((fields.once_map members Tree.toJson).2 once)]
  exact fields.take_congr _ _ fun key _ => Keyed.valueAt?_map Tree.toJson members key

/-- A record takes its data from the members that it stands for. -/
theorem Shape.toOption_decode_record (name : String) (fields : Fields) (proper : fields.IsProper)
    (uniform : fields.IsUniform) (tree : Tree)
    (unrepeated : (Shape.record name fields).Unrepeated tree) :
    ((Shape.record name fields).decode tree.toJson).toOption =
      (tree.members? fields.names).bind fun members =>
        fields.take fun key => (Keyed.valueAt? members key).map Tree.toJson := by
  cases tree with
  | scalar json plain =>
    rw [Tree.toJson_scalar]
    cases json with
    | array _ | object _ => cases plain
    | null | boolean _ | integer _ | real _ | string _ => rfl
  | array items =>
    rw [Tree.toJson_array, Tree.members?]
    refine (fields.toOption_decodeItems _ _ proper uniform 0 _).trans ?_
    rw [List.length_map, List.zip_map_right]
    split
    · refine fields.take_congr _ _ fun key _ => ?_
      exact Keyed.valueAt?_map Tree.toJson (fields.names.zip items) key
    · rfl
  | object members =>
    exact Shape.toOption_decode_object name fields proper members unrepeated.1

theorem Fields.distinctMember_of_not_mem (tree : Tree) (name : String) : (fields : Fields) →
    name ∉ fields.names → fields.DistinctMember (name, tree)
  | .empty, _ => trivial
  | .field other _ shape rest, absent => by
    rw [names_field, List.mem_cons, not_or] at absent
    exact ⟨fun same => absurd same.symm absent.1,
      distinctMember_of_not_mem tree name rest absent.2⟩

theorem Fields.distinctMember_of_items : (fields : Fields) → fields.IsProper →
    (items : List Tree) → fields.DistinctItems items →
    ∀ member ∈ fields.names.zip items, fields.DistinctMember member
  | .empty, _, _, _ => fun _ inside => absurd inside List.not_mem_nil
  | .field name _ shape rest, _, [], _ => by simp
  | .field name _ shape rest, proper, item :: items, distinct => by
    rw [names_field, List.zip_cons_cons, List.forall_mem_cons]
    refine ⟨⟨fun _ => distinct.1, distinctMember_of_not_mem item name rest proper.1⟩, ?_⟩
    intro member inside
    refine ⟨fun same => ?_, distinctMember_of_items rest proper.2.2 items distinct.2 member inside⟩
    exact absurd (same ▸ (List.of_mem_zip inside).1) proper.1

/-- What is distinct in a record is distinct in each of its members. -/
theorem Fields.distinctMember_of_members? (name : String) (fields : Fields)
    (proper : fields.IsProper) (tree : Tree) (members : List (String × Tree))
    (found : tree.members? fields.names = some members)
    (distinct : (Shape.record name fields).Distinct tree) (key : String) (member : Tree)
    (inside : Keyed.valueAt? members key = some member) : fields.DistinctMember (key, member) := by
  have listed := Keyed.mem_of_valueAt? members key member inside
  cases tree with
  | scalar json plain => cases found
  | object _ =>
    cases found
    exact distinct.2 _ listed
  | array items =>
    rw [Tree.members?] at found
    split at found
    · cases found
      exact fields.distinctMember_of_items proper items distinct _ listed
    · cases found

end GraphQuery.Json
