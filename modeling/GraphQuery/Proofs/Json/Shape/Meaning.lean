import GraphQuery.Proofs.Json.Shape.Record

/-
This file relates the trees that a shape accepts with the data that they mean.
-/

namespace GraphQuery.Json

variable {Content : Type}

namespace Tree

/-- Data that stays as it is. -/
def IsValue (tree : Tree) (json : Json) : Prop := tree.toJson = json

/-- A list whose items have the given meanings in their order. -/
def IsList (Is : Tree → Content → Prop) (tree : Tree) (contents : List Content) : Prop :=
  ∃ items, tree = .array items ∧ List.Forall₂ Is items contents

/-- A member that is missing or null has no content. -/
inductive Optionally (Is : Tree → Content → Prop) : Option Tree → Option Content → Prop
  | missing : Optionally Is none none
  | null (tree : Tree) (isNull : tree.toJson = .null) : Optionally Is (some tree) none
  | given (tree : Tree) (content : Content) (notNull : tree.toJson ≠ .null)
      (is : Is tree content) : Optionally Is (some tree) (some content)

end Tree

/-- The data that a shape takes from a tree is what the tree means. -/
def Shape.Means (shape : Shape) (image : shape.Carrier → Content)
    (Is : Tree → Content → Prop) : Prop :=
  ∀ tree, shape.Distinct tree → ∀ content,
    (shape.decode tree.toJson).toOption.map image = some content ↔ Is tree content

theorem Shape.means_any : Shape.any.Means id Tree.IsValue := by
  intro tree _ content
  exact ⟨fun same => Option.some.inj same, fun same => congrArg some same⟩

theorem mapM_means {Item : Type} (decode : Json → Except Mismatch Item) (image : Item → Content)
    (Is : Tree → Content → Prop) (items : List Tree) (contents : List Content)
    (each : ∀ tree ∈ items, ∀ content,
      (decode tree.toJson).toOption.map image = some content ↔ Is tree content) :
    ((items.map Tree.toJson).mapM decode).toOption.map (List.map image) = some contents ↔
      List.Forall₂ Is items contents := by
  simp only [Option.map_eq_some_iff, Outcome.toOption_eq_some] at each ⊢
  simp only [Outcome.mapM_eq_ok, List.forall₂_map_left_iff]
  induction items generalizing contents with
  | nil => simp [eq_comm]
  | cons tree items inductionHypothesis =>
    obtain ⟨head, tail⟩ := List.forall_mem_cons.1 each
    rw [List.forall₂_cons_left_iff]
    simp only [← head, ← inductionHypothesis _ tail, List.forall₂_cons_left_iff]
    constructor
    · rintro ⟨_, ⟨datum, data, first, rest, rfl⟩, rfl⟩
      exact ⟨_, _, ⟨datum, first, rfl⟩, ⟨data, rest, rfl⟩, rfl⟩
    · rintro ⟨_, _, ⟨datum, first, rfl⟩, ⟨data, rest, rfl⟩, rfl⟩
      exact ⟨_, ⟨datum, data, first, rest, rfl⟩, rfl⟩

theorem Shape.Means.list {item : Shape} {image : item.Carrier → Content}
    {Is : Tree → Content → Prop} (means : item.Means image Is) :
    (Shape.list item).Means (List.map image) (Tree.IsList Is) := by
  intro tree distinct contents
  cases tree with
  | scalar json plain =>
    refine iff_of_false ?_ fun ⟨items, impossible, _⟩ => nomatch impossible
    rw [Tree.toJson_scalar]
    cases json with
    | array _ | object _ => cases plain
    | null | boolean _ | integer _ | real _ | string _ => exact nofun
  | object members =>
    refine iff_of_false ?_ fun ⟨items, impossible, _⟩ => nomatch impossible
    rw [Tree.toJson_object]
    exact nofun
  | array items =>
    rw [Tree.toJson_array]
    have each := mapM_means item.decode image Is items contents fun tree member =>
      means tree (distinct tree member)
    refine each.trans ⟨fun all => ⟨items, rfl, all⟩, ?_⟩
    rintro ⟨others, same, all⟩
    cases same
    exact all

/-- An optional field takes nothing from a member that is missing or null. -/
theorem Shape.Means.take_optional {shape : Shape} {image : shape.Carrier → Content}
    {Is : Tree → Content → Prop} (means : shape.Means image Is) (found : Option Tree)
    (distinct : ∀ tree, found = some tree → shape.Distinct tree) (content : Option Content) :
    ((Shape.optional shape).take (found.map Tree.toJson)).map (Option.map image) = some content ↔
      Tree.Optionally Is found content := by
  cases found with
  | none =>
    constructor
    · intro same
      cases same
      exact .missing
    · rintro ⟨⟩
      rfl
  | some tree =>
    by_cases isNull : tree.toJson = .null
    · have nothing : ((Shape.optional shape).take ((some tree).map Tree.toJson)).map
          (Option.map image) = some none := by
        rw [Option.map_some, isNull]
        rfl
      rw [nothing]
      constructor
      · intro same
        cases same
        exact .null tree isNull
      · intro optionally
        cases optionally with
        | null => rfl
        | given tree content notNull is => exact absurd isNull notNull
    · have something : ((Shape.optional shape).take ((some tree).map Tree.toJson)).map
          (Option.map image) = ((shape.decode tree.toJson).toOption.map image).map some := by
        rw [Option.map_some, take, decode_optional shape _ isNull]
        cases shape.decode tree.toJson <;> rfl
      rw [something, Option.map_eq_some_iff]
      simp only [means tree (distinct tree rfl)]
      constructor
      · rintro ⟨content, is, rfl⟩
        exact .given tree content isNull is
      · intro optionally
        cases optionally with
        | null _ same => exact absurd same isNull
        | given _ content _ is => exact ⟨content, is, rfl⟩

theorem Shape.means_values : (Shape.list .any).Means id (Tree.IsList Tree.IsValue) := by
  have means := Shape.Means.list Shape.means_any
  rw [List.map_id_fun] at means
  exact means

/-- Data that is kept as it is. -/
theorem Shape.Means.take_kept {shape : Shape} {Is : Tree → shape.Carrier → Prop}
    (means : shape.Means id Is) (found : Option Tree)
    (distinct : ∀ tree, found = some tree → shape.Distinct tree)
    (content : Option shape.Carrier) :
    (Shape.optional shape).take (found.map Tree.toJson) = some content ↔
      Tree.Optionally Is found content := by
  have taken := means.take_optional found distinct content
  rw [Option.map_id, Option.map_id] at taken
  exact taken

theorem Shape.take_text (found : Option Json) (content : String) :
    Shape.text.take found = some content ↔ found = some (.string content) := by
  cases found with
  | none => exact iff_of_false nofun nofun
  | some json =>
    cases json with
    | string other =>
      rw [Option.some.injEq, Json.string.injEq]
      exact ⟨fun same => Option.some.inj same, fun same => congrArg some same⟩
    | null | boolean _ | integer _ | real _ | array _ | object _ => exact iff_of_false nofun nofun

theorem Shape.take_integer (range : IntegerRange) (found : Option Json) (value : Int) :
    (Shape.integer range).take found = some value ↔
      found = some (.integer value) ∧ range.contains value = true := by
  cases found with
  | none => exact iff_of_false nofun nofun
  | some json =>
    cases json with
    | integer other =>
      change (range.select (.integer other)).toOption = some value ↔ _
      rw [IntegerRange.select, Option.some.injEq, Json.integer.injEq]
      split
      · next inside =>
        refine ⟨fun same => ?_, fun both => congrArg some both.1⟩
        cases Option.some.inj same
        exact ⟨rfl, inside⟩
      · next outside =>
        refine iff_of_false nofun ?_
        rintro ⟨rfl, inside⟩
        exact outside inside
    | null | boolean _ | real _ | string _ | array _ | object _ =>
      exact iff_of_false nofun nofun

/-- What a record means is what its members mean. -/
theorem Shape.means_record (name : String) (fields : Fields)
    (image : (Shape.record name fields).Carrier → Content)
    (Is : List (String × Tree) → Content → Prop) (proper : fields.IsProper)
    (uniform : fields.IsUniform)
    (means : ∀ members : List (String × Tree),
      (∀ key member, Keyed.valueAt? members key = some member →
        fields.DistinctMember (key, member)) →
      ∀ content, (∃ data, (fields.take fun key => (Keyed.valueAt? members key).map Tree.toJson) =
        some data ∧ image data = content) ↔ Is members content) :
    (Shape.record name fields).Means image fun tree content =>
      ∃ members, tree.members? fields.names = some members ∧ Is members content := by
  intro tree distinct content
  have taken : ((Shape.record name fields).decode tree.toJson).toOption.map image =
      (tree.members? fields.names).bind fun members =>
        (fields.take fun key => (Keyed.valueAt? members key).map Tree.toJson).map image := by
    rw [Shape.toOption_decode_record name fields proper uniform tree
      (distinct.unrepeated _ tree)]
    exact Option.map_bind
  rw [taken, Option.bind_eq_some_iff]
  refine exists_congr fun members => and_congr_right fun found => ?_
  exact Option.map_eq_some_iff.trans (means members
    (fields.distinctMember_of_members? name proper tree members found distinct) content)

end GraphQuery.Json
