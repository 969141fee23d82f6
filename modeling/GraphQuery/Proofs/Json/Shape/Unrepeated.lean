import GraphQuery.Proofs.Json.Shape.Fields
import GraphQuery.Proofs.Json.Tree

/-
This file says when no field of a record is given twice, while members of other names may be.
-/

namespace GraphQuery.Json

mutual

/-- Every object in the place of a record has a member for each field at most once. -/
def Shape.Unrepeated : Shape → Tree → Prop
  | .optional shape, tree => shape.Unrepeated tree
  | .list item, .array items => ∀ tree ∈ items, item.Unrepeated tree
  | .record _ fields, .object members =>
    fields.Once members ∧ ∀ member ∈ members, fields.UnrepeatedMember member
  | .record _ fields, .array items => fields.UnrepeatedItems items
  | _, _ => True

def Fields.UnrepeatedMember : Fields → String × Tree → Prop
  | .empty, _ => True
  | .field name _ shape rest, member =>
    (name = member.1 → shape.Unrepeated member.2) ∧ rest.UnrepeatedMember member

def Fields.UnrepeatedItems : Fields → List Tree → Prop
  | .field _ _ shape rest, tree :: trees => shape.Unrepeated tree ∧ rest.UnrepeatedItems trees
  | _, _ => True

end

theorem Shape.unrepeated_list (item : Shape) (items : List Tree) :
    (Shape.list item).Unrepeated (.array items) ↔ ∀ tree ∈ items, item.Unrepeated tree :=
  .rfl

theorem Shape.unrepeated_object (name : String) (fields : Fields)
    (members : List (String × Tree)) :
    (Shape.record name fields).Unrepeated (.object members) ↔
      fields.Once members ∧ ∀ member ∈ members, fields.UnrepeatedMember member :=
  .rfl

theorem Fields.unrepeatedMember_field (name : String) (omissible : Bool) (shape : Shape)
    (rest : Fields) (member : String × Tree) :
    (Fields.field name omissible shape rest).UnrepeatedMember member ↔
      (name = member.1 → shape.Unrepeated member.2) ∧ rest.UnrepeatedMember member :=
  .rfl

theorem Fields.unrepeatedItems_nil (fields : Fields) : fields.UnrepeatedItems [] := by
  cases fields <;> exact trivial

theorem Fields.unrepeatedMember_of_not_mem (tree : Tree) (name : String) : (fields : Fields) →
    name ∉ fields.names → fields.UnrepeatedMember (name, tree)
  | .empty, _ => trivial
  | .field other _ shape rest, absent => by
    rw [names_field, List.mem_cons, not_or] at absent
    exact ⟨fun same => absurd same.symm absent.1,
      unrepeatedMember_of_not_mem tree name rest absent.2⟩

end GraphQuery.Json
