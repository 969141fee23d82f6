import GraphQuery.Proofs.Json.Shape.Record
import Mathlib.Logic.Relation

/-
This file shows that members of unknown name and the order of members do not change the data that
is taken from a tree.
-/

namespace GraphQuery.Json

/-- The shape of the field of a name. -/
def Fields.shape? : Fields → String → Option Shape
  | .empty, _ => none
  | .field name _ shape rest, key => if name = key then some shape else rest.shape? key

/-- The shape of the field at a place of the list form. -/
def Fields.shapeAt? : Fields → Nat → Option Shape
  | .empty, _ => none
  | .field _ _ shape _, 0 => some shape
  | .field _ _ _ rest, index + 1 => rest.shapeAt? index

/-- One edit of a tree that is read as data of a shape.
In an object in the place of a record a member of unknown name is added or the members are
reordered; the object may lie as deep in the tree as the shape has records. -/
inductive Shape.Edit : Shape → Tree → Tree → Prop
  | added (record : String) (fields : Fields) (front back : List (String × Tree)) (name : String)
      (tree : Tree) (unknown : name ∉ fields.names) :
    Edit (.record record fields) (.object (front ++ back)) (.object (front ++ (name, tree) :: back))
  | reordered (record : String) (fields : Fields) (before after : List (String × Tree))
      (moved : before.Perm after) : Edit (.record record fields) (.object before) (.object after)
  | optional (shape : Shape) (before after : Tree) (edit : Edit shape before after) :
    Edit (.optional shape) before after
  | item (shape : Shape) (front back : List Tree) (before after : Tree)
      (edit : Edit shape before after) :
    Edit (.list shape) (.array (front ++ before :: back)) (.array (front ++ after :: back))
  | member (record : String) (fields : Fields) (front back : List (String × Tree)) (name : String)
      (shape : Shape) (before after : Tree) (field : fields.shape? name = some shape)
      (edit : Edit shape before after) :
    Edit (.record record fields) (.object (front ++ (name, before) :: back))
      (.object (front ++ (name, after) :: back))
  | place (record : String) (fields : Fields) (front back : List Tree) (shape : Shape)
      (before after : Tree) (field : fields.shapeAt? front.length = some shape)
      (edit : Edit shape before after) :
    Edit (.record record fields) (.array (front ++ before :: back))
      (.array (front ++ after :: back))

namespace Fields

variable {fields : Fields} {name : String} {shape : Shape}

theorem shape?_field (key : String) (omissible : Bool) (rest : Fields) :
    (Fields.field name omissible shape rest).shape? key =
      if name = key then some shape else rest.shape? key :=
  rfl

theorem mem_names_of_shape? (key : String) : (fields : Fields) →
    fields.shape? key = some shape → key ∈ fields.names
  | .field name _ first rest, found => by
    rw [shape?_field] at found
    split at found
    · next same => exact same ▸ List.mem_cons_self
    · exact List.mem_cons_of_mem _ (mem_names_of_shape? key rest found)

theorem isProper_of_shape? : (fields : Fields) → fields.IsProper →
    fields.shape? name = some shape → shape.IsProper
  | .field other _ first rest, proper, found => by
    rw [shape?_field] at found
    split at found
    · cases found
      exact proper.2.1
    · exact isProper_of_shape? rest proper.2.2 found

theorem isProper_of_shapeAt? : (fields : Fields) → (index : Nat) → fields.IsProper →
    fields.shapeAt? index = some shape → shape.IsProper
  | .field _ _ first rest, 0, proper, found => by
    cases found
    exact proper.2.1
  | .field _ _ first rest, index + 1, proper, found =>
    isProper_of_shapeAt? rest index proper.2.2 found

theorem unrepeatedMember_iff (name : String) (tree : Tree) : (fields : Fields) → fields.IsProper →
    (fields.UnrepeatedMember (name, tree) ↔
      ∀ shape, fields.shape? name = some shape → shape.Unrepeated tree)
  | .empty, _ => iff_of_true trivial nofun
  | .field other _ shape rest, proper => by
    rw [unrepeatedMember_field, shape?_field]
    by_cases same : other = name
    · subst same
      have tail := rest.unrepeatedMember_of_not_mem tree other proper.1
      simp [tail]
    · simp [same, unrepeatedMember_iff name tree rest proper.2.2]

theorem unrepeatedItems_iff (shape : Shape) (before after : Tree)
    (same : shape.Unrepeated before ↔ shape.Unrepeated after) (back : List Tree) :
    (fields : Fields) → (front : List Tree) → fields.shapeAt? front.length = some shape →
    (fields.UnrepeatedItems (front ++ before :: back) ↔
      fields.UnrepeatedItems (front ++ after :: back))
  | .field _ _ first rest, [], found => by
    cases found
    exact and_congr_left' same
  | .field _ _ first rest, tree :: front, found =>
    and_congr_right' (unrepeatedItems_iff shape before after same back rest front found)

theorem unrepeated_of_shapeAt? (shape : Shape) (tree : Tree) (back : List Tree) :
    (fields : Fields) → (front : List Tree) → fields.shapeAt? front.length = some shape →
    fields.UnrepeatedItems (front ++ tree :: back) → shape.Unrepeated tree
  | .field _ _ first rest, [], found, unrepeated => by
    cases found
    exact unrepeated.1
  | .field _ _ first rest, item :: front, found, unrepeated =>
    unrepeated_of_shapeAt? shape tree back rest front found unrepeated.2

/-- Data of the fields depends only on what each of them takes. -/
theorem take_congr_shape (find other : String → Option Json) : (fields : Fields) →
    fields.IsProper → (∀ name shape, fields.shape? name = some shape →
      shape.take (find name) = shape.take (other name)) → fields.take find = fields.take other
  | .empty, _, _ => rfl
  | .field name _ shape rest, proper, same => by
    have head : shape.take (find name) = shape.take (other name) := same name shape (if_pos rfl)
    have tail := take_congr_shape find other rest proper.2.2 fun key shape found => by
      have apart : name ≠ key := fun equal =>
        proper.1 (equal ▸ mem_names_of_shape? key rest found)
      exact same key shape ((if_neg apart).trans found)
    rw [take_field, take_field, head, tail]

/-- Objects agree in their data if every field takes the same from both. -/
theorem agree_decode_object (record : String) (fields : Fields) (proper : fields.IsProper)
    (before after : List (String × Tree)) (once : fields.Once before) (still : fields.Once after)
    (same : ∀ name shape, fields.shape? name = some shape →
      shape.take ((Keyed.valueAt? before name).map Tree.toJson) =
        shape.take ((Keyed.valueAt? after name).map Tree.toJson)) :
    Outcome.Agree ((Shape.record record fields).decode (Tree.object before).toJson)
      ((Shape.record record fields).decode (Tree.object after).toJson) := by
  rw [Outcome.agree_iff, Shape.toOption_decode_object record fields proper _ once,
    Shape.toOption_decode_object record fields proper _ still]
  exact take_congr_shape _ _ fields proper same

theorem agree_decodeItems (expected : String) (total : Nat) (shape : Shape) (before after : Json)
    (agree : Outcome.Agree (shape.decode before) (shape.decode after)) (back : List Json) :
    (fields : Fields) → (index : Nat) → (front : List Json) →
    fields.shapeAt? front.length = some shape →
    Outcome.Agree (fields.decodeItems expected total index (front ++ before :: back))
      (fields.decodeItems expected total index (front ++ after :: back))
  | .field _ _ first rest, index, [], found => by
    cases found
    exact agree.bind fun _ => rfl
  | .field _ _ first rest, index, item :: front, found =>
    (Outcome.Alike.refl (first.decode item)).bind fun _ =>
      (agree_decodeItems expected total shape before after agree back rest (index + 1) front
        found).bind fun _ => rfl

end Fields

namespace Shape.Edit

variable {shape : Shape} {before after : Tree}

theorem ne_null (edit : shape.Edit before after) :
    before.toJson ≠ .null ∧ after.toJson ≠ .null := by
  induction edit with
  | added | reordered | member => simp [Tree.toJson_object]
  | item | place => simp [Tree.toJson_array]
  | optional shape before after edit inductionHypothesis => exact inductionHypothesis

/-- An edit repeats no field. -/
theorem unrepeated_iff (edit : shape.Edit before after) (proper : shape.IsProper) :
    shape.Unrepeated before ↔ shape.Unrepeated after := by
  induction edit with
  | added record fields front back name tree unknown =>
    rw [Shape.unrepeated_object, Shape.unrepeated_object]
    have extra := fields.unrepeatedMember_of_not_mem tree name unknown
    refine and_congr (forall₂_congr fun key known => ?_) ?_
    · have apart : name ≠ key := fun equal => unknown (equal ▸ known)
      simp [apart]
    · simp [or_imp, forall_and, extra]
  | reordered record fields before after moved =>
    rw [Shape.unrepeated_object, Shape.unrepeated_object]
    refine and_congr (forall₂_congr fun key known => ?_) ?_
    · rw [(moved.map Prod.fst).count_eq]
    · simp only [moved.mem_iff]
  | optional shape before after edit inductionHypothesis => exact inductionHypothesis proper
  | item shape front back before after edit inductionHypothesis =>
    rw [Shape.unrepeated_list, Shape.unrepeated_list]
    simp [or_imp, forall_and, inductionHypothesis proper]
  | member record fields front back name shape before after field edit inductionHypothesis =>
    rw [Shape.unrepeated_object, Shape.unrepeated_object]
    refine and_congr (forall₂_congr fun key known => by simp) ?_
    have inside := inductionHypothesis (fields.isProper_of_shape? proper field)
    have here : fields.UnrepeatedMember (name, before) ↔ fields.UnrepeatedMember (name, after) := by
      simp [fields.unrepeatedMember_iff name _ proper, field, inside]
    simp [or_imp, forall_and, here]
  | place record fields front back shape before after field edit inductionHypothesis =>
    exact fields.unrepeatedItems_iff shape before after
      (inductionHypothesis (fields.isProper_of_shapeAt? _ proper field)) back front field

/-- An edit leaves the data as it is. -/
theorem agree (edit : shape.Edit before after) (proper : shape.IsProper)
    (unrepeated : shape.Unrepeated before) :
    Outcome.Agree (shape.decode before.toJson) (shape.decode after.toJson) := by
  -- Without repetition an object is compared by what each field takes from it, and not by the
  -- slots that its members fill in turn, whose order the edit may change.
  have still := (edit.unrepeated_iff proper).1 unrepeated
  induction edit with
  | added record fields front back name tree unknown =>
    refine fields.agree_decode_object record proper _ _ unrepeated.1 still.1 fun key _ field => ?_
    have apart : name ≠ key := fun equal => unknown (equal ▸ fields.mem_names_of_shape? key field)
    rw [Keyed.valueAt?_middle_of_ne front back name key tree apart]
  | reordered record fields before after moved =>
    refine fields.agree_decode_object record proper _ _ unrepeated.1 still.1 fun key _ field => ?_
    rw [Keyed.valueAt?_perm moved key (unrepeated.1 key (fields.mem_names_of_shape? key field))]
  | optional shape before after edit inductionHypothesis =>
    obtain ⟨notNull, stillNotNull⟩ := edit.ne_null
    rw [decode_optional shape _ notNull, decode_optional shape _ stillNotNull]
    exact (inductionHypothesis proper unrepeated still).map some
  | item shape front back before after edit inductionHypothesis =>
    have inside := inductionHypothesis proper (unrepeated before (by simp)) (still after (by simp))
    rw [Tree.toJson_array, Tree.toJson_array, List.map_append, List.map_append]
    have others (items : List Json) : List.Forall₂
        (fun item other => Outcome.Agree (shape.decode item) (shape.decode other)) items items :=
      List.forall₂_same.2 fun _ _ => rfl
    exact Outcome.Alike.mapM (List.rel_append (others _) (.cons inside (others _)))
  | member record fields front back name shape before after field edit inductionHypothesis =>
    have inside := inductionHypothesis (fields.isProper_of_shape? proper field)
      ((fields.unrepeatedMember_iff name before proper).1 (unrepeated.2 _ (by simp)) shape field)
      ((fields.unrepeatedMember_iff name after proper).1 (still.2 _ (by simp)) shape field)
    refine fields.agree_decode_object record proper _ _ unrepeated.1 still.1
      fun key found known => ?_
    by_cases same : name = key
    · subst same
      cases field.symm.trans known
      rw [Keyed.valueAt?_append, Keyed.valueAt?_append]
      cases Keyed.valueAt? front name with
      | some earlier => rfl
      | none => simpa [Keyed.valueAt?_cons, Shape.take] using (Outcome.agree_iff _ _).1 inside
    · rw [Keyed.valueAt?_middle_of_ne _ _ _ _ _ same, Keyed.valueAt?_middle_of_ne _ _ _ _ _ same]
  | place record fields front back shape before after field edit inductionHypothesis =>
    have inside := inductionHypothesis (fields.isProper_of_shapeAt? _ proper field)
      (fields.unrepeated_of_shapeAt? shape before back front field unrepeated)
      (fields.unrepeated_of_shapeAt? shape after back front field still)
    rw [Tree.toJson_array, Tree.toJson_array, List.map_append, List.map_append, List.map_cons,
      List.map_cons]
    have length : (front.map Tree.toJson ++ after.toJson :: back.map Tree.toJson).length =
        (front.map Tree.toJson ++ before.toJson :: back.map Tree.toJson).length := by simp
    change Outcome.Agree (fields.decodeItems _ (List.length _) 0 _)
      (fields.decodeItems _ (List.length _) 0 _)
    rw [length]
    exact fields.agree_decodeItems _ _ shape _ _ inside _ 0 _ (by rwa [List.length_map])

end Shape.Edit

end GraphQuery.Json
