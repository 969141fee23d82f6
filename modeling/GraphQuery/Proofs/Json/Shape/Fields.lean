import GraphQuery.Json.Shape.Reader
import GraphQuery.Proofs.Json.Members
import GraphQuery.Proofs.Outcome
import Mathlib.Data.List.Nodup

/-
This file says which slots of a record its members fill.
-/

namespace GraphQuery.Json

def Fields.names : Fields → List String
  | .empty => []
  | .field name _ _ rest => name :: rest.names

mutual

/-- The fields of every record have distinct names. -/
def Shape.IsProper : Shape → Prop
  | .any | .text | .flag | .integer _ => True
  | .optional shape => shape.IsProper
  | .list item => item.IsProper
  | .record _ fields => fields.IsProper

def Fields.IsProper : Fields → Prop
  | .empty => True
  | .field name _ shape rest => name ∉ rest.names ∧ shape.IsProper ∧ rest.IsProper

end

theorem Fields.names_field (name : String) (omissible : Bool) (shape : Shape) (rest : Fields) :
    (Fields.field name omissible shape rest).names = name :: rest.names :=
  rfl

/-- The slot of a name is still free. -/
def Fields.Free (key : String) : (fields : Fields) → fields.Partial → Prop
  | .empty, _ => True
  | .field name _ _ rest, (slot, slots) => (name = key → slot = none) ∧ rest.Free key slots

theorem Fields.free_blank (key : String) : (fields : Fields) → fields.Free key fields.blank
  | .empty => trivial
  | .field _ _ _ rest => ⟨fun _ => rfl, rest.free_blank key⟩

section Pairs

variable {First Rest : Type}

/-- Two results that are both needed. -/
def both (first : Option First) (rest : Option Rest) : Option (First × Rest) :=
  first.bind fun value => rest.map fun values => (value, values)

theorem both_eq_some (first : Option First) (rest : Option Rest) (value : First)
    (values : Rest) :
    both first rest = some (value, values) ↔ first = some value ∧ rest = some values := by
  cases first <;> cases rest <;> simp [both]

theorem both_bind_both {Other Last : Type} (first : Option First) (rest : Option Rest)
    (change : First → Option Other) (next : Rest → Option Last) :
    ((both first rest).bind fun pair => both (change pair.1) (next pair.2)) =
      both (first.bind change) (rest.bind next) := by
  cases first <;> cases rest <;> simp [both]

end Pairs

section Members

variable {name : String} {shape : Shape} {rest : Fields}

theorem Fields.decodeMember_here (omissible : Bool) (member : String × Json)
    (slot : Option shape.Carrier) (slots : rest.Partial) (same : name = member.1) :
    (Fields.field name omissible shape rest).decodeMember member (slot, slots) =
      shape.decode member.2 >>= fun value => pure (some value, slots) :=
  if_pos same

theorem Fields.decodeMember_later (omissible : Bool) (member : String × Json)
    (slot : Option shape.Carrier) (slots : rest.Partial) (apart : name ≠ member.1) :
    (Fields.field name omissible shape rest).decodeMember member (slot, slots) =
      rest.decodeMember member slots >>= fun others => pure (slot, others) :=
  if_neg apart

theorem Fields.readMember_here (omissible : Bool) (depth : Nat) (slots : rest.Partial)
    (cursor : Cursor) :
    (Fields.field name omissible shape rest).readMember depth name (none, slots) cursor = do
      let (value, cursor) ← shape.read depth (← readColon cursor)
      return ((some value, slots), cursor) :=
  if_pos rfl

theorem Fields.readMember_later (omissible : Bool) (depth : Nat) (key : String)
    (slot : Option shape.Carrier) (slots : rest.Partial) (cursor : Cursor) (apart : name ≠ key) :
    (Fields.field name omissible shape rest).readMember depth key (slot, slots) cursor = do
      let (others, cursor) ← rest.readMember depth key slots cursor
      return ((slot, others), cursor) :=
  if_neg apart

/-- The slot for a member that may be found. -/
def Shape.slot (shape : Shape) : Option Json → Option (Option shape.Carrier)
  | none => some none
  | some json => (shape.decode json).toOption.map some

/-- The slots for the members that can be found. -/
def Fields.fill (find : String → Option Json) : (fields : Fields) → Option fields.Partial
  | .empty => some ()
  | .field name _ shape rest => both (shape.slot (find name)) (rest.fill find)

theorem Fields.fill_field (find : String → Option Json) (omissible : Bool) :
    (Fields.field name omissible shape rest).fill find =
      both (shape.slot (find name)) (rest.fill find) :=
  rfl

theorem Fields.fill_congr (find other : String → Option Json) : (fields : Fields) →
    (∀ name ∈ fields.names, find name = other name) → fields.fill find = fields.fill other
  | .empty, _ => rfl
  | .field name _ shape rest, same => by
    have head : find name = other name := same name List.mem_cons_self
    have tail := fill_congr find other rest fun key member =>
      same key (List.mem_cons_of_mem _ member)
    rw [fill_field, fill_field, head, tail]

theorem Fields.fill_blank : (fields : Fields) → fields.fill (fun _ => none) = some fields.blank
  | .empty => rfl
  | .field _ _ _ rest => by
    rw [fill_field, fill_blank rest]
    rfl

theorem Fields.toOption_decodeMember_here (omissible : Bool) (json : Json)
    (slot : Option shape.Carrier) (slots : rest.Partial) :
    ((Fields.field name omissible shape rest).decodeMember (name, json) (slot, slots)).toOption =
      both (shape.slot (some json)) (some slots) := by
  rw [decodeMember_here omissible (name, json) slot slots rfl, Shape.slot]
  cases shape.decode json <;> rfl

theorem Fields.toOption_decodeMember_later (omissible : Bool) (key : String) (json : Json)
    (slot : Option shape.Carrier) (slots : rest.Partial) (apart : name ≠ key) :
    ((Fields.field name omissible shape rest).decodeMember (key, json) (slot, slots)).toOption =
      both (some slot) (rest.decodeMember (key, json) slots).toOption := by
  rw [decodeMember_later omissible (key, json) slot slots apart]
  cases rest.decodeMember (key, json) slots <;> rfl

/-- One more member fills one more slot, and a member of unknown name fills none. -/
theorem Fields.fill_insert (find : String → Option Json) (key : String) (json : Json) :
    (fields : Fields) → fields.IsProper → (key ∈ fields.names → find key = none) →
    ((fields.fill find).bind fun slots => (fields.decodeMember (key, json) slots).toOption) =
      fields.fill fun name => if key = name then some json else find name
  | .empty, _, _ => rfl
  | .field name omissible shape rest, proper, absent => by
    rw [fill_field, fill_field]
    by_cases same : name = key
    · subst same
      have others : rest.fill find =
          rest.fill fun other => if name = other then some json else find other :=
        fill_congr _ _ _ fun other member =>
          (if_neg fun equal : name = other => proper.1 (equal ▸ member)).symm
      rw [absent List.mem_cons_self, if_pos rfl, ← others]
      calc
        _ = (both (shape.slot none) (rest.fill find)).bind fun slots =>
              both (shape.slot (some json)) (some slots.2) :=
          congrArg _ (funext fun slots =>
            toOption_decodeMember_here omissible json slots.1 slots.2)
        _ = both (shape.slot (some json)) ((rest.fill find).bind some) :=
          both_bind_both (shape.slot none) _ (fun _ => shape.slot (some json)) some
        _ = _ := by rw [Option.bind_fun_some]
    · have apart : ¬key = name := fun equal => same equal.symm
      have onward := fill_insert find key json rest proper.2.2 fun inside =>
        absent (List.mem_cons_of_mem _ inside)
      rw [if_neg apart, ← onward]
      calc
        _ = (both (shape.slot (find name)) (rest.fill find)).bind fun slots =>
              both (some slots.1) (rest.decodeMember (key, json) slots.2).toOption :=
          congrArg _ (funext fun slots =>
            toOption_decodeMember_later omissible key json slots.1 slots.2 same)
        _ = both ((shape.slot (find name)).bind some)
              ((rest.fill find).bind fun slots => (rest.decodeMember (key, json) slots).toOption) :=
          both_bind_both _ _ some fun slots => (rest.decodeMember (key, json) slots).toOption
        _ = _ := by rw [Option.bind_fun_some]

/-- No name of a field occurs twice; other names may. -/
def Fields.Once {Content : Type} (fields : Fields) (members : List (String × Content)) : Prop :=
  ∀ name ∈ fields.names, (members.map Prod.fst).count name ≤ 1

theorem Fields.once_of_nodup {Content : Type} (fields : Fields) (members : List (String × Content))
    (distinct : (members.map Prod.fst).Nodup) : fields.Once members :=
  fun name _ => List.nodup_iff_count_le_one.1 distinct name

theorem Fields.once_map {Content Other : Type} (fields : Fields)
    (members : List (String × Content)) (change : Content → Other) :
    fields.Once (members.map fun member => (member.1, change member.2)) ↔ fields.Once members := by
  simp only [Once, List.map_map, Function.comp_def]

theorem Fields.Once.of_append {Content : Type} {fields : Fields}
    {before after : List (String × Content)} (once : fields.Once (before ++ after)) :
    fields.Once before := by
  intro name known
  have most := once name known
  rw [List.map_append, List.count_append] at most
  omega

theorem Fields.toOption_foldlM_decodeMember (fields : Fields) (proper : fields.IsProper)
    (members : List (String × Json)) (once : fields.Once members) :
    (members.foldlM (fun slots member => fields.decodeMember member slots)
        fields.blank).toOption = fields.fill (Keyed.valueAt? members) := by
  induction members using List.reverseRecOn with
  | nil => exact fields.fill_blank.symm
  | append_singleton members member inductionHypothesis =>
    obtain ⟨key, json⟩ := member
    have absent : key ∈ fields.names → Keyed.valueAt? members key = none := fun known =>
      (Keyed.valueAt?_eq_none _ _).2 (not_mem_of_count_le_one _ _ key json (once key known))
    have last := fields.fill_insert (Keyed.valueAt? members) key json proper absent
    rw [← inductionHypothesis once.of_append] at last
    rw [List.foldlM_append, Outcome.toOption_bind]
    simp only [List.foldlM_cons, List.foldlM_nil, bind_pure]
    rw [last]
    refine fields.fill_congr _ _ fun name known => ?_
    rw [Keyed.valueAt?_append]
    by_cases same : key = name
    · subst same
      simp [absent known, Keyed.valueAt?_cons]
    · simp [same, Keyed.valueAt?_cons, Keyed.valueAt?_nil]

end Members

theorem Fields.free_of_not_mem (key : String) : (fields : Fields) → (slots : fields.Partial) →
    key ∉ fields.names → fields.Free key slots
  | .empty, _, _ => trivial
  | .field name _ _ rest, (_, slots), unknown => by
    rw [names_field, List.mem_cons, not_or] at unknown
    exact ⟨fun same => absurd same.symm unknown.1, free_of_not_mem key rest slots unknown.2⟩

theorem Fields.free_decodeMember (key : String) : (fields : Fields) → (member : String × Json) →
    (slots next : fields.Partial) → fields.Free key slots →
    fields.decodeMember member slots = .ok next → key ≠ member.1 → fields.Free key next
  | .empty, _, _, _, _, _, _ => trivial
  | .field name _ shape rest, member, (slot, slots), next, free, decoded, apart => by
    by_cases same : name = member.1
    · rw [Fields.decodeMember_here _ _ _ _ same] at decoded
      obtain ⟨value, -, equal⟩ := (Outcome.bind_eq_ok _ _ _).1 decoded
      cases equal
      exact ⟨fun found => absurd (found.symm.trans same) apart, free.2⟩
    · rw [Fields.decodeMember_later _ _ _ _ same] at decoded
      obtain ⟨others, taken, equal⟩ := (Outcome.bind_eq_ok _ _ _).1 decoded
      cases equal
      exact ⟨free.1, rest.free_decodeMember key member slots others free.2 taken apart⟩

end GraphQuery.Json
