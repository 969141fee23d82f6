import GraphQuery.Proofs.Text.Name
import GraphQuery.Proofs.Text.Nesting
import GraphQuery.Value.Literal

/-
This file shows that literals close what they open.
-/

namespace GraphQuery.Value

open Text Text.Nesting

/-- A lawful value has names where the language wants names, no reals, and no text that goes out
as it stands. -/
inductive Lawful : Value → Prop
  | null : Lawful .null
  | text (content : String) (quoted : content.toList.head? ≠ some '$') : Lawful (.text content)
  | integer (value : Int) : Lawful (.integer value)
  | boolean (value : Bool) : Lawful (.boolean value)
  | symbol (name : String) (lawful : isName name = true) : Lawful (.symbol name)
  | list (items : List Value) (each : ∀ item ∈ items, Lawful item) : Lawful (.list items)
  | object (fields : List (String × Value)) (names : ∀ field ∈ fields, isName field.1 = true)
      (each : ∀ field ∈ fields, Lawful field.2) : Lawful (.object fields)
  | reference (name : String) (lawful : isName name = true) : Lawful (.reference name)

/-- The key of a field, a colon and the literal of its value. -/
def fieldChars (field : String × Value) : List Char :=
  field.1.toList ++ ':' :: field.2.chars

theorem itemsChars_eq (items : List Value) :
    itemsChars items = joined [','] (items.map chars) := by
  induction items with
  | nil => rfl
  | cons item rest inductionHypothesis =>
    cases rest with
    | nil => rfl
    | cons next others =>
      rw [itemsChars, inductionHypothesis]
      simp [joined_cons_cons]

theorem fieldsChars_eq (fields : List (String × Value)) :
    fieldsChars fields = joined [','] (fields.map fieldChars) := by
  induction fields with
  | nil => rfl
  | cons field rest inductionHypothesis =>
    cases rest with
    | nil => rfl
    | cons next others =>
      rw [fieldsChars, inductionHypothesis]
      simp [joined_cons_cons, fieldChars]

theorem textChars_eq (content : List Char) (quoted : content.head? ≠ some '$') :
    textChars content = Quoted.encode content := by
  unfold textChars
  split
  · simp at quoted
  · rfl

theorem isPlain_of_continuesName (char : Char) (continues : continuesName char = true) :
    isPlain char = true := by
  have apart := fun other => ne_of_class continuesName char other continues
  simp [isPlain, apart '"' rfl, apart '[' rfl, apart ']' rfl, apart '{' rfl, apart '}' rfl,
    apart ' ' rfl, apart ',' rfl]

theorem solid_name (name : String) (lawful : isName name = true) : Solid 0 name.toList := by
  apply Solid.of_plain
  rw [List.all_eq_true]
  intro char member
  exact isPlain_of_continuesName char (continuesName_of_mem name lawful char member)

theorem all_isPlain_digitChars (number : Nat) :
    (Decimal.digitChars number).all isPlain = true := by
  rw [List.all_eq_true]
  intro char member
  have digit := Nat.isDigit_of_mem_toDigits (by decide) (by decide) member
  apply isPlain_of_continuesName
  simp [continuesName, Char.isAlphanum, digit]

theorem solid_integer (number : Int) : Solid 0 (Decimal.integerChars number) := by
  apply Solid.of_plain
  unfold Decimal.integerChars
  split
  · exact all_isPlain_digitChars number.natAbs
  · exact all_isPlain_digitChars number.natAbs

/-- Within a string only quotes and backslashes count. -/
theorem spans_quoted (depth : Nat) (text : List Char)
    (inert : ∀ char ∈ text, char ≠ '"' ∧ char ≠ '\\') :
    Spans breaks (.quoted depth) text (.quoted depth) := by
  induction text with
  | nil => exact .nil _
  | cons char rest inductionHypothesis =>
    have head := inert char List.mem_cons_self
    have tail := inductionHypothesis fun later member => inert later (List.mem_cons_of_mem _ member)
    refine .cons rfl ?_
    simpa [advance, head] using tail

theorem digit_inert (value : Nat) (bound : value < 16) :
    Hexadecimal.digit value ≠ '"' ∧ Hexadecimal.digit value ≠ '\\' := by
  revert value
  decide

theorem spans_escape (depth : Nat) (char : Char) :
    Spans breaks (.quoted depth) (Quoted.escape char) (.quoted depth) := by
  unfold Quoted.escape
  split
  · exact .cons rfl (.cons rfl (.nil _))
  · next plain =>
    split
    · refine .cons rfl (.cons rfl (spans_quoted depth _ ?_))
      intro digit member
      obtain ⟨weight, -, rfl⟩ := List.mem_map.1 member
      exact digit_inert _ (Nat.mod_lt _ (by decide))
    · apply spans_quoted
      intro other member
      rw [List.mem_singleton.1 member]
      constructor <;> rintro rfl <;> simp [Quoted.escapeLetter?] at plain

theorem solid_encode (content : List Char) : Solid 0 (Quoted.encode content) := by
  intro depth _
  have body : Spans breaks (.quoted depth) (content.flatMap Quoted.escape) (.quoted depth) := by
    induction content with
    | nil => exact .nil _
    | cons char rest inductionHypothesis =>
      exact (spans_escape depth char).append inductionHypothesis
  exact .cons (by cases depth <;> rfl) (body.append (Spans.singleton rfl))

/-- The literal of a lawful value closes its strings and brackets and separates nothing. -/
theorem solid_chars (value : Value) (lawful : value.Lawful) : Solid 0 value.chars := by
  induction lawful with
  | null => exact Solid.of_plain _ rfl
  | text content quoted =>
    rw [chars, textChars_eq _ quoted]
    exact solid_encode _
  | integer number => exact solid_integer number
  | boolean value => cases value <;> exact Solid.of_plain _ rfl
  | symbol name lawful => exact solid_name name lawful
  | list items _ inductionHypothesis =>
    rw [chars, itemsChars_eq]
    refine Solid.enclosed _ _ _ (Or.inl rfl) (Solid.joined _ ?_)
    intro text member
    obtain ⟨item, inside, rfl⟩ := List.mem_map.1 member
    exact (inductionHypothesis item inside).deeper 1 (Nat.zero_le _)
  | object fields names _ inductionHypothesis =>
    rw [chars, fieldsChars_eq]
    refine Solid.enclosed _ _ _ (Or.inr rfl) (Solid.joined _ ?_)
    intro text member
    obtain ⟨field, inside, rfl⟩ := List.mem_map.1 member
    have colon : Solid 0 [':'] := Solid.of_plain _ rfl
    have whole := Solid.append _ _ (solid_name _ (names field inside))
      (Solid.append _ _ colon (inductionHypothesis field inside))
    exact Solid.deeper whole 1 (Nat.zero_le _)
  | reference name lawful =>
    have dollar : Solid 0 ['$'] := Solid.of_plain _ rfl
    exact Solid.append _ _ dollar (solid_name name lawful)

end GraphQuery.Value
