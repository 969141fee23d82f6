import GraphQuery.Proofs.Decimal.Integer
import GraphQuery.Proofs.Value.Printable
import GraphQuery.Proofs.Value.Reader

/-
This file shows that a literal stands for one value only, whatever follows it.
-/

namespace GraphQuery.Value

open Text

/-- These characters end a literal in a document. -/
def boundaries : List Char := [',', ')', ']', '}']

/-- Nothing follows a literal, or a character that ends it. -/
def Bounded (rest : List Char) : Prop := ∀ char ∈ rest.head?, char ∈ boundaries

/-- A bounded rest continues nothing that holds no boundary. -/
theorem Bounded.outside {rest : List Char} (bounded : Bounded rest) (inside : Char → Bool)
    (apart : boundaries.any inside = false) : ∀ char ∈ rest.head?, inside char = false :=
  fun char member => Bool.eq_false_iff.2 (List.any_eq_false.1 apart char (bounded char member))

mutual

/-- The symbols that stand in a value. -/
def symbols : Value → List String
  | symbol name => [name]
  | list items => itemsSymbols items
  | object fields => fieldsSymbols fields
  | _ => []

def itemsSymbols : List Value → List String
  | [] => []
  | item :: rest => item.symbols ++ itemsSymbols rest

def fieldsSymbols : List (String × Value) → List String
  | [] => []
  | (_, value) :: rest => value.symbols ++ fieldsSymbols rest

end

theorem mem_itemsSymbols (items : List Value) (item : Value) (inside : item ∈ items)
    (name : String) (member : name ∈ item.symbols) : name ∈ itemsSymbols items := by
  induction items with
  | nil => cases inside
  | cons first rest inductionHypothesis =>
    rw [itemsSymbols, List.mem_append]
    rcases List.mem_cons.1 inside with rfl | later
    · exact Or.inl member
    · exact Or.inr (inductionHypothesis later)

theorem mem_fieldsSymbols (fields : List (String × Value)) (field : String × Value)
    (inside : field ∈ fields) (name : String) (member : name ∈ field.2.symbols) :
    name ∈ fieldsSymbols fields := by
  induction fields with
  | nil => cases inside
  | cons first rest inductionHypothesis =>
    rw [fieldsSymbols, List.mem_append]
    rcases List.mem_cons.1 inside with rfl | later
    · exact Or.inl member
    · exact Or.inr (inductionHypothesis later)

theorem ofWord_of_not_mem (name : String) (apart : name ∉ words) : ofWord name = .symbol name := by
  simp only [words, List.mem_cons, List.not_mem_nil, or_false, not_or] at apart
  simp [ofWord, apart]

/-- A reader takes this text for this item wherever the text may end. -/
def Reader.Takes {Item : Type} (reader : Reader Item) (written : List Char) (item : Item) : Prop :=
  ∀ rest, Bounded rest → reader (written ++ rest) = some (item, rest)

/-- A text begins with a character that ends no literal. -/
def Begins (written : List Char) : Prop := ∃ first ∈ written.head?, first ∉ boundaries

theorem Begins.length_pos {written : List Char} (begins : Begins written) : 0 < written.length := by
  obtain ⟨first, head, -⟩ := begins
  cases written with
  | nil => cases head
  | cons first rest => simp

/-- What begins a text still does if more follows it. -/
theorem Begins.append {written : List Char} (begins : Begins written) (rest : List Char) :
    Begins (written ++ rest) := by
  obtain ⟨first, head, apart⟩ := begins
  refine ⟨first, ?_, apart⟩
  rw [List.head?_append, Option.mem_def.1 head]
  rfl

/-- Texts with characters in them take at least one character each. -/
theorem length_le_length_joined (texts : List (List Char))
    (present : ∀ text ∈ texts, 0 < text.length) :
    texts.length ≤ (joined [','] texts).length := by
  induction texts with
  | nil => exact Nat.le_refl _
  | cons text rest inductionHypothesis =>
    have head := present text List.mem_cons_self
    have tail := inductionHypothesis fun later member =>
      present later (List.mem_cons_of_mem _ member)
    cases rest with
    | nil => exact head
    | cons next others =>
      simp only [joined_cons_cons, List.length_cons, List.length_append, List.length_nil] at tail ⊢
      omega

/-- Each text is a part of the joined one. -/
theorem length_le_joined (texts : List (List Char)) (text : List Char) (member : text ∈ texts) :
    text.length ≤ (joined [','] texts).length := by
  induction texts with
  | nil => cases member
  | cons first rest inductionHypothesis =>
    cases rest with
    | nil => simp_all [joined_singleton]
    | cons next others =>
      simp only [joined_cons_cons, List.length_append]
      rcases List.mem_cons.1 member with rfl | later
      · omega
      · have tail := inductionHypothesis later
        omega

/-- A row of characters of a class ends where the class does. -/
theorem span_append (inside : Char → Bool) (row rest : List Char) (within : row.all inside = true)
    (ends : ∀ char ∈ rest.head?, inside char = false) :
    (row ++ rest).takeWhile inside = row ∧ (row ++ rest).dropWhile inside = rest := by
  have each := List.all_eq_true.1 within
  rw [List.takeWhile_append_of_pos each, List.dropWhile_append_of_pos each]
  cases rest with
  | nil => simp
  | cons char later => simp [ends char rfl]

namespace Reader

theorem name_append (given : String) (lawful : isName given = true) (rest : List Char)
    (ends : ∀ char ∈ rest.head?, continuesName char = false) :
    name (given.toList ++ rest) = some (given, rest) := by
  have within : given.toList.all continuesName = true := by
    rw [List.all_eq_true]
    exact fun char member => continuesName_of_mem given lawful char member
  obtain ⟨taken, left⟩ := span_append continuesName given.toList rest within ends
  simp only [name, taken, left, String.ofList_toList, lawful, if_true]

theorem takes_name (given : String) (lawful : isName given = true) :
    Takes name given.toList given := by
  intro rest bounded
  exact name_append given lawful rest (bounded.outside continuesName (by decide))

theorem takes_integer (number : Int) : Takes integer (Decimal.integerChars number) number := by
  intro rest bounded
  have digits : (Decimal.digitChars number.natAbs).all continuesNumber = true := by
    rw [List.all_eq_true]
    intro char member
    have digit := Nat.isDigit_of_mem_toDigits (by decide) (by decide) member
    simp [continuesNumber, continuesName, Char.isAlphanum, digit]
  have within : (Decimal.integerChars number).all continuesNumber = true := by
    unfold Decimal.integerChars
    split
    · simpa [continuesNumber] using digits
    · exact digits
  obtain ⟨taken, left⟩ :=
    span_append continuesNumber _ rest within (bounded.outside continuesNumber (by decide))
  rw [integer, taken, left, Decimal.readInteger?_integerChars]
  rfl

/-- A literal without brackets is read at every depth. -/
theorem value_scalar (depth : Nat) (positive : 0 < depth) (first : Char) (rest : List Char)
    (bracket : first ≠ '[') (brace : first ≠ '{') :
    value depth (first :: rest) = scalar (first :: rest) := by
  obtain ⟨fewer, rfl⟩ := Nat.exists_eq_succ_of_ne_zero (Nat.ne_of_gt positive)
  simp [value, bracket, brace]

theorem scalar_starts (first : Char) (rest : List Char) (starts : startsName first = true) :
    scalar (first :: rest) =
      (name (first :: rest)).map fun (name, rest) => (ofWord name, rest) := by
  have quote := ne_of_class startsName first '"' starts (by decide)
  have dollar := ne_of_class startsName first '$' starts (by decide)
  simp [scalar, quote, dollar, starts]

theorem scalar_number (first : Char) (rest : List Char)
    (starts : first = '-' ∨ first.isDigit = true) :
    scalar (first :: rest) =
      (integer (first :: rest)).map fun (number, rest) => (.integer number, rest) := by
  rcases starts with rfl | digit
  · rfl
  · have quote := ne_of_class Char.isDigit first '"' digit (by decide)
    have dollar := ne_of_class Char.isDigit first '$' digit (by decide)
    simp [scalar, quote, dollar, startsName_of_isDigit first digit]

variable {Item : Type}

/-- Items that are joined by commas are found again, up to the closing bracket. -/
theorem entries_joined (closing : Char) (closes : closing ∈ boundaries) (apart : closing ≠ ',')
    (item : Reader Item) (write : Item → List Char) (items : List Item) (present : items ≠ [])
    (each : ∀ entry ∈ items, Takes item (write entry) entry) (budget : Nat)
    (enough : items.length ≤ budget) (rest : List Char) :
    entries closing item budget (joined [','] (items.map write) ++ closing :: rest) =
      some (items, rest) := by
  induction items generalizing budget with
  | nil => exact absurd rfl present
  | cons first later inductionHypothesis =>
    obtain ⟨budget, rfl⟩ : ∃ fewer, budget = fewer + 1 := ⟨budget - 1, by simp at enough; omega⟩
    have head := each first List.mem_cons_self
    cases later with
    | nil =>
      have read := head (closing :: rest) (by simpa [Bounded] using closes)
      simp [entries, joined_singleton, read]
    | cons second others =>
      have tail := inductionHypothesis (by simp)
        (fun entry member => each entry (List.mem_cons_of_mem _ member)) budget
        (by simpa using enough)
      have read := head (',' :: (joined [','] ((second :: others).map write) ++ closing :: rest))
        (by simp [Bounded, boundaries])
      simp only [List.map_cons] at read tail
      simp [entries, joined_cons_cons, read, tail, Ne.symm apart]

/-- A list in brackets is found again, also an empty one. -/
theorem enclosed_joined (closing : Char) (closes : closing ∈ boundaries) (apart : closing ≠ ',')
    (item : Reader Item) (write : Item → List Char) (items : List Item)
    (each : ∀ entry ∈ items, Takes item (write entry) entry)
    (begins : ∀ entry ∈ items, Begins (write entry)) (rest : List Char) :
    enclosed closing item (joined [','] (items.map write) ++ closing :: rest) =
      some (items, rest) := by
  cases items with
  | nil => simp [enclosed, joined]
  | cons entry others =>
    have positive : ∀ text ∈ (entry :: others).map write, 0 < text.length := by
      intro text member
      obtain ⟨other, inside, rfl⟩ := List.mem_map.1 member
      exact (begins other inside).length_pos
    have enough := length_le_length_joined _ positive
    rw [List.length_map] at enough
    have starts : Begins (joined [','] ((entry :: others).map write)) := by
      have first := begins entry List.mem_cons_self
      cases others with
      | nil => exact first
      | cons next more => exact (first.append _).append _
    obtain ⟨first, head, different⟩ := starts.append (closing :: rest)
    have open? : (joined [','] ((entry :: others).map write) ++ closing :: rest).head? ≠
        some closing := by
      rw [Option.mem_def.1 head]
      rintro ⟨⟩
      exact different closes
    rw [enclosed, if_neg open?]
    apply entries_joined closing closes apart item write (entry :: others) (by simp) each
    rw [List.length_append]
    omega

end Reader

theorem begins_name (name : String) (lawful : isName name = true) : Begins name.toList := by
  obtain ⟨first, rest, equal, starts⟩ := exists_of_isName name lawful
  refine ⟨first, by rw [equal]; rfl, ?_⟩
  intro boundary
  have none : boundaries.any startsName = false := by decide
  exact List.any_eq_false.1 none first boundary starts

/-- An integer begins with a minus sign or a digit. -/
theorem exists_integerChars (number : Int) :
    ∃ first rest, Decimal.integerChars number = first :: rest ∧
      (first = '-' ∨ first.isDigit = true) := by
  unfold Decimal.integerChars
  split
  · exact ⟨_, _, rfl, Or.inl rfl⟩
  · obtain ⟨first, rest, equal⟩ := List.exists_cons_of_ne_nil
      (Nat.toDigits_ne_nil (n := number.natAbs) (b := 10))
    have digits := List.all_eq_true.1 (Decimal.all_isDigit_digitChars number.natAbs)
    exact ⟨first, rest, equal, Or.inr (digits first (by rw [Decimal.digitChars, equal]; simp))⟩

theorem begins_chars (value : Value) (lawful : value.Lawful) : Begins value.chars := by
  cases lawful with
  | null => exact ⟨'n', rfl, by decide⟩
  | text content quoted =>
    rw [chars, textChars_eq _ quoted]
    exact ⟨'"', rfl, by decide⟩
  | integer number =>
    obtain ⟨first, rest, equal, starts⟩ := exists_integerChars number
    refine ⟨first, by rw [chars, equal]; rfl, ?_⟩
    intro boundary
    have none : boundaries.any (fun char => char == '-' || char.isDigit) = false := by decide
    have outside := List.any_eq_false.1 none first boundary
    rcases starts with rfl | digit
    · exact outside rfl
    · exact outside (by rw [digit, Bool.or_true])
  | boolean value => cases value <;> exact ⟨_, rfl, by decide⟩
  | symbol name lawful => exact begins_name name lawful
  | list items => exact ⟨'[', rfl, by decide⟩
  | object fields => exact ⟨'{', rfl, by decide⟩
  | reference name => exact ⟨'$', rfl, by decide⟩

namespace Reader

variable (depth : Nat) (positive : 0 < depth)

include positive

/-- A word is read as what it stands for. -/
theorem takes_word (word : String) (lawful : isName word = true) :
    Takes (value depth) word.toList (ofWord word) := by
  intro rest bounded
  have read := takes_name word lawful rest bounded
  obtain ⟨first, later, equal, starts⟩ := exists_of_isName word lawful
  have bracket := ne_of_class startsName first '[' starts (by decide)
  have brace := ne_of_class startsName first '{' starts (by decide)
  rw [equal, List.cons_append] at read ⊢
  rw [value_scalar depth positive first _ bracket brace, scalar_starts first _ starts, read]
  rfl

theorem takes_reference (name : String) (lawful : isName name = true) :
    Takes (value depth) ('$' :: name.toList) (.reference name) := by
  intro rest bounded
  have read := takes_name name lawful rest bounded
  rw [List.cons_append, value_scalar depth positive _ _ (by decide) (by decide)]
  simp [scalar, read]

theorem takes_text (content : String) :
    Takes (value depth) (Quoted.encode content.toList) (.text content) := by
  intro rest _
  have read := Quoted.decode?_encode content.toList rest
  rw [Quoted.encode, List.cons_append, List.cons_append, List.append_assoc,
    value_scalar depth positive _ _ (by decide) (by decide)]
  simp [scalar, read]

theorem takes_number (number : Int) :
    Takes (value depth) (Decimal.integerChars number) (.integer number) := by
  intro rest bounded
  have read := takes_integer number rest bounded
  obtain ⟨first, later, equal, starts⟩ := exists_integerChars number
  have unbracketed : first ≠ '[' ∧ first ≠ '{' := by
    constructor <;> rintro rfl <;> revert starts <;> decide
  rw [equal, List.cons_append] at read ⊢
  rw [value_scalar depth positive _ _ unbracketed.1 unbracketed.2, scalar_number _ _ starts, read]
  rfl

omit positive

theorem takes_field (reader : Reader Value) (given : String × Value)
    (lawful : isName given.1 = true) (takes : Takes reader given.2.chars given.2) :
    Takes (field reader) (fieldChars given) given := by
  intro rest bounded
  have colon : ∀ char ∈ (':' :: (given.2.chars ++ rest)).head?, continuesName char = false := by
    rintro char ⟨⟩
    rfl
  have key := name_append given.1 lawful (':' :: (given.2.chars ++ rest)) colon
  have content := takes rest bounded
  rw [fieldChars, List.append_assoc, List.cons_append, field, key]
  simp [content]

/-- The literal of a lawful value is read back if no symbol in it is one of the words. -/
theorem takes_chars (given : Value) (lawful : given.Lawful)
    (apart : ∀ name ∈ given.symbols, name ∉ words) (enough : given.chars.length ≤ depth) :
    Takes (value depth) given.chars given := by
  have positive := Nat.lt_of_lt_of_le (begins_chars given lawful).length_pos enough
  induction lawful generalizing depth with
  | null => exact takes_word depth positive "null" (by decide)
  | text content quoted =>
    rw [chars, textChars_eq _ quoted]
    exact takes_text depth positive content
  | integer number => exact takes_number depth positive number
  | boolean value =>
    cases value with
    | true => exact takes_word depth positive "true" (by decide)
    | false => exact takes_word depth positive "false" (by decide)
  | symbol name lawful =>
    have read := takes_word depth positive name lawful
    rwa [ofWord_of_not_mem name (apart name (by simp [symbols]))] at read
  | list items each inductionHypothesis =>
    obtain ⟨inner, rfl⟩ := Nat.exists_eq_succ_of_ne_zero (Nat.ne_of_gt positive)
    intro rest bounded
    rw [chars, itemsChars_eq, List.cons_append, List.length_cons, List.length_append] at enough
    have takes : ∀ item ∈ items, Takes (value inner) item.chars item := by
      intro item member
      have shorter := length_le_joined (items.map chars) item.chars (List.mem_map_of_mem member)
      have begins := (begins_chars item (each item member)).length_pos
      exact inductionHypothesis item member inner
        (fun name inside => apart name (mem_itemsSymbols items item member name inside))
        (by omega) (by omega)
    have read := enclosed_joined ']' (by decide) (by decide) (value inner) chars items takes
      (fun item member => begins_chars item (each item member)) rest
    rw [chars, itemsChars_eq]
    simp [value, read]
  | object fields names each inductionHypothesis =>
    obtain ⟨inner, rfl⟩ := Nat.exists_eq_succ_of_ne_zero (Nat.ne_of_gt positive)
    intro rest bounded
    rw [chars, fieldsChars_eq, List.cons_append, List.length_cons, List.length_append] at enough
    have takes : ∀ given ∈ fields, Takes (field (value inner)) (fieldChars given) given := by
      intro given member
      have shorter := length_le_joined (fields.map fieldChars) (fieldChars given)
        (List.mem_map_of_mem member)
      rw [fieldChars, List.length_append, List.length_cons] at shorter
      have begins := (begins_chars given.2 (each given member)).length_pos
      refine takes_field (value inner) given (names given member) ?_
      exact inductionHypothesis given member inner
        (fun name inside => apart name (mem_fieldsSymbols fields given member name inside))
        (by omega) (by omega)
    have read := enclosed_joined '}' (by decide) (by decide) (field (value inner)) fieldChars fields
      takes (fun given member => (begins_name given.1 (names given member)).append _) rest
    rw [chars, fieldsChars_eq]
    simp [value, read]
  | reference name lawful => exact takes_reference depth positive name lawful

end Reader

/-- A legible value is lawful, and none of its symbols is one of the words. -/
structure Legible (value : Value) : Prop where
  lawful : value.Lawful
  apart : ∀ name ∈ value.symbols, name ∉ words

theorem read?_chars (value : Value) (legible : value.Legible) (rest : List Char)
    (bounded : Bounded rest) : read? (value.chars ++ rest) = some (value, rest) := by
  have enough : value.chars.length ≤ (value.chars ++ rest).length := by simp
  exact Reader.takes_chars _ value legible.lawful legible.apart enough rest bounded

/-- The literal of a legible value is read back, and exactly what follows it is left. It holds no
raw control character. No other legible value can stand at the start of the same text, and nothing
else can follow it there, so no content of a string ends its literal early or late. -/
theorem read?_render (value : Value) (legible : value.Legible) (rest : List Char)
    (bounded : Bounded rest) :
    read? (value.render.toList ++ rest) = some (value, rest) ∧
    Printable value.render.toList ∧
    ∀ (other : Value) (otherRest : List Char), other.Legible → Bounded otherRest →
      other.render.toList ++ otherRest = value.render.toList ++ rest →
      other = value ∧ otherRest = rest := by
  have written (given : Value) : given.render.toList = given.chars := by
    rw [render, String.toList_ofList]
  have read := read?_chars value legible rest bounded
  simp only [written]
  refine ⟨read, printable_chars value legible.lawful, ?_⟩
  intro other otherRest otherLegible otherBounded same
  have otherRead := read?_chars other otherLegible otherRest otherBounded
  rw [same, read] at otherRead
  cases otherRead
  exact ⟨rfl, rfl⟩

/-- This value has a text that looks like the end of its literal, and an empty list. -/
def draft : Value :=
  .object [
    ("body", .text "a\",x:1\x7d]) \\ \n\x01 $b"),
    ("marks", .list [.boolean true, .null, .symbol "NEW", .integer (-42), .text ""]),
    ("author", .reference "id"),
    ("parts", .list [])]

theorem draft_legible : draft.Legible where
  lawful := by
    have body : Lawful (.text "a\",x:1\x7d]) \\ \n\x01 $b") := .text _ (by decide)
    have empty : Lawful (.text "") := .text _ (by decide)
    have marks : Lawful (.list [.boolean true, .null, .symbol "NEW", .integer (-42), .text ""]) :=
      .list _ (by simpa using ⟨.boolean true, .null, .symbol _ (by decide), .integer _, empty⟩)
    have author : Lawful (.reference "id") := .reference _ (by decide)
    have parts : Lawful (.list []) := .list _ (by simp)
    exact .object _ (by decide) (by simpa using ⟨body, marks, author, parts⟩)
  apart := by decide

theorem read?_render_draft :
    draft.Legible ∧ Bounded ",y:2) ".toList ∧
      read? (draft.render.toList ++ ",y:2) ".toList) = some (draft, ",y:2) ".toList) ∧
      Printable draft.render.toList ∧
      ∀ (other : Value) (otherRest : List Char), other.Legible → Bounded otherRest →
        other.render.toList ++ otherRest = draft.render.toList ++ ",y:2) ".toList →
        other = draft ∧ otherRest = ",y:2) ".toList := by
  have bounded : Bounded ",y:2) ".toList := by
    rintro char ⟨⟩
    decide
  exact ⟨draft_legible, bounded, read?_render draft draft_legible _ bounded⟩

end GraphQuery.Value
