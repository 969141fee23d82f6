import GraphQuery.Proofs.Document.Outline
import GraphQuery.Proofs.Value.Literal

/-
This file shows that the reader finds what stands before the selection of a document.
-/

namespace GraphQuery.Outline

open Text Text.Nesting

theorem readPair_append (key : String) (text : List Char) (absent : ':' ∉ key.toList) :
    readPair (key.toList ++ ':' :: text) = (key, String.ofList text) := by
  have inside : ∀ char ∈ key.toList, (char != ':') = true := by
    intro char member
    rw [bne_iff_ne]
    intro equal
    rw [equal] at member
    exact absent member
  rw [readPair, List.takeWhile_append_of_pos inside, List.dropWhile_append_of_pos inside]
  simp

theorem head_continuesName (name : String) (lawful : isName name = true) {first : Char}
    {rest : List Char} (equal : name.toList = first :: rest) : continuesName first = true :=
  continuesName_of_mem name lawful first (equal ▸ List.mem_cons_self)

theorem colon_not_mem (name : String) (lawful : isName name = true) : ':' ∉ name.toList := by
  intro member
  have continues := continuesName_of_mem name lawful ':' member
  exact absurd continues (by decide)

theorem word_name (name : String) (lawful : isName name = true) : Word name.toList :=
  (Value.solid_name name lawful).word

theorem readHeader?_name (name : String) (lawful : isName name = true) :
    readHeader? name.toList = none := by
  unfold readHeader?
  split
  · next equal => exact absurd (head_continuesName name lawful equal) (by decide)
  · next equal => exact absurd (head_continuesName name lawful equal) (by decide)
  · rfl

theorem readMethod?_keyword (method : Method) :
    readMethod? method.keyword.toList = some method := by
  cases method <;> rfl

theorem continuesType_of_continuesName (char : Char) (continues : continuesName char = true) :
    continuesType char = true := by
  simp [continuesType, continues]

/-- A declaration holds the characters of its name and of its type, a dollar sign and a colon. -/
theorem mem_declarationChars (declaration : String × String)
    (lawful : isName declaration.1 = true ∧ isType declaration.2 = true) (char : Char)
    (member : char ∈ Property.declarationChars declaration) :
    char = '$' ∨ char = ':' ∨ continuesType char = true := by
  rw [Property.declarationChars, List.cons_append, List.mem_cons, List.mem_append,
    List.mem_cons] at member
  rcases member with dollar | name | colon | type
  · exact Or.inl dollar
  · have continues := continuesName_of_mem _ lawful.1 char name
    exact Or.inr (Or.inr (continuesType_of_continuesName char continues))
  · exact Or.inr (Or.inl colon)
  · have all := lawful.2
    rw [isType, Bool.and_eq_true, List.all_eq_true] at all
    exact Or.inr (Or.inr (all.2 char type))

theorem not_mem_declarationChars (declaration : String × String)
    (lawful : isName declaration.1 = true ∧ isType declaration.2 = true) (char : Char)
    (outside : char ≠ '$' ∧ char ≠ ':' ∧ continuesType char = false) :
    char ∉ Property.declarationChars declaration := by
  intro member
  rcases mem_declarationChars declaration lawful char member with dollar | colon | type
  · exact outside.1 dollar
  · exact outside.2.1 colon
  · rw [outside.2.2] at type
    exact Bool.false_ne_true type

theorem word_declaration (declaration : String × String)
    (lawful : isName declaration.1 = true ∧ isType declaration.2 = true) :
    Word (Property.declarationChars declaration) := by
  apply word_of_unquoted
  exact ⟨not_mem_declarationChars declaration lawful '"' (by decide),
    not_mem_declarationChars declaration lawful ' ' (by decide)⟩

theorem readDeclarations_joined (types : List (String × String)) (present : types ≠ [])
    (declared : ∀ declaration ∈ types,
      isName declaration.1 = true ∧ isType declaration.2 = true) :
    readDeclarations (joined [','] (types.map Property.declarationChars)) = types := by
  have absent : ∀ text ∈ types.map Property.declarationChars, ',' ∉ text := by
    intro text member
    obtain ⟨declaration, inside, rfl⟩ := List.mem_map.1 member
    exact not_mem_declarationChars declaration (declared declaration inside) ',' (by decide)
  rw [readDeclarations, pieces_joined ',' _ (by simpa using present) absent, List.map_map]
  calc
    _ = types.map id := by
      apply List.map_congr_left
      intro declaration inside
      change readPair (declaration.1.toList ++ ':' :: declaration.2.toList) = declaration
      rw [readPair_append _ _ (colon_not_mem _ (declared declaration inside).1),
        String.ofList_toList]
    _ = types := List.map_id types

/-- The declared variables and the opening brace stand together without a blank. -/
def headerChars (types : List (String × String)) : List Char :=
  Property.declarationsChars types ++ ['{']

theorem word_header (types : List (String × String))
    (declared : ∀ declaration ∈ types,
      isName declaration.1 = true ∧ isType declaration.2 = true) : Word (headerChars types) := by
  refine Word.append _ _ ?_ (word_of_unquoted _ (by decide))
  unfold Property.declarationsChars
  split
  · exact word_nil
  · have inner := joined_closed [','] word_nil Word.append (word_of_unquoted _ (by decide))
      (types.map Property.declarationChars) (by
        intro text member
        obtain ⟨declaration, inside, rfl⟩ := List.mem_map.1 member
        exact word_declaration declaration (declared declaration inside))
    exact Word.append ['('] _ (word_of_unquoted _ (by decide))
      (Word.append _ [')'] inner (word_of_unquoted _ (by decide)))

theorem readHeader?_header (types : List (String × String))
    (declared : ∀ declaration ∈ types,
      isName declaration.1 = true ∧ isType declaration.2 = true) :
    readHeader? (headerChars types) = some types := by
  cases types with
  | nil => rfl
  | cons first rest =>
    have found := readDeclarations_joined (first :: rest) (by simp) declared
    have shape : headerChars (first :: rest) =
        '(' :: (joined [','] ((first :: rest).map Property.declarationChars) ++ [')'] ++ ['{']) := by
      simp [headerChars, Property.declarationsChars]
    rw [shape, readHeader?, List.dropLast_concat, List.dropLast_concat, found]

theorem readHead?_append (name : Option String) (renamed : ∀ given ∈ name, isName given = true)
    (types : List (String × String))
    (declared : ∀ declaration ∈ types,
      isName declaration.1 = true ∧ isType declaration.2 = true) (body : List (List Char)) :
    readHead? (name.toList.map String.toList ++ headerChars types :: body) =
      some (name, types, body) := by
  have header := readHeader?_header types declared
  cases name with
  | none => simp [readHead?, header]
  | some given =>
    have first := readHeader?_name given (renamed given rfl)
    simp [readHead?, first, header]

end GraphQuery.Outline
