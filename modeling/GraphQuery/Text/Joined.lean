/-
This file joins pieces of text with a separator.
-/

namespace GraphQuery.Text

/-- The separator stands between neighbours and nowhere else. -/
def joined (separator : List Char) : List (List Char) → List Char
  | [] => []
  | [piece] => piece
  | piece :: next :: rest => piece ++ separator ++ joined separator (next :: rest)

def joinedStrings (separator : String) (pieces : List String) : String :=
  String.ofList (joined separator.toList (pieces.map String.toList))

/-- The pieces between the separators; a text without one is a single piece. -/
def pieces (separator : Char) : List Char → List (List Char)
  | [] => [[]]
  | char :: rest =>
    if char = separator then [] :: pieces separator rest
    else match pieces separator rest with
      | [] => [[char]]
      | first :: others => (char :: first) :: others

theorem joined_singleton (separator piece : List Char) : joined separator [piece] = piece := rfl

theorem joined_cons_cons (separator piece next : List Char) (rest : List (List Char)) :
    joined separator (piece :: next :: rest) =
      piece ++ separator ++ joined separator (next :: rest) :=
  rfl

theorem pieces_nil (separator : Char) : pieces separator [] = [[]] := rfl

theorem pieces_separator (separator : Char) (rest : List Char) :
    pieces separator (separator :: rest) = [] :: pieces separator rest :=
  if_pos rfl

/-- Another character than the separator belongs to the first piece of what follows. -/
theorem pieces_cons_of_ne {separator char : Char} {rest first : List Char}
    {others : List (List Char)} (different : char ≠ separator)
    (equal : pieces separator rest = first :: others) :
    pieces separator (char :: rest) = (char :: first) :: others :=
  (if_neg different).trans (by rw [equal])

theorem exists_pieces (separator : Char) (text : List Char) :
    ∃ first others, pieces separator text = first :: others := by
  induction text with
  | nil => exact ⟨[], [], rfl⟩
  | cons char rest inductionHypothesis =>
    obtain ⟨first, others, equal⟩ := inductionHypothesis
    by_cases same : char = separator
    · subst same
      exact ⟨[], pieces char rest, pieces_separator char rest⟩
    · exact ⟨char :: first, others, pieces_cons_of_ne same equal⟩

/-- What holds of the pieces and of the separator holds of the joined text if texts keep it. -/
theorem joined_closed {Holds : List Char → Prop} (separator : List Char) (empty : Holds [])
    (append : ∀ first second, Holds first → Holds second → Holds (first ++ second))
    (between : Holds separator) (texts : List (List Char)) (each : ∀ text ∈ texts, Holds text) :
    Holds (joined separator texts) := by
  induction texts with
  | nil => exact empty
  | cons text rest inductionHypothesis =>
    have head := each text List.mem_cons_self
    have tail := inductionHypothesis fun later member => each later (List.mem_cons_of_mem _ member)
    cases rest with
    | nil => exact head
    | cons next others => exact append _ _ (append _ _ head between) tail

/-- Cutting at the separators and joining again changes nothing. -/
theorem joined_pieces (separator : Char) (text : List Char) :
    joined [separator] (pieces separator text) = text := by
  induction text with
  | nil => rfl
  | cons char rest inductionHypothesis =>
    obtain ⟨first, others, equal⟩ := exists_pieces separator rest
    rw [equal] at inductionHypothesis
    by_cases same : char = separator
    · subst same
      rw [pieces_separator, equal, joined_cons_cons, inductionHypothesis]
      rfl
    · rw [pieces_cons_of_ne same equal]
      cases others with
      | nil => exact congrArg (char :: ·) inductionHypothesis
      | cons second more =>
        rw [joined_cons_cons] at inductionHypothesis ⊢
        exact congrArg (char :: ·) inductionHypothesis

theorem pieces_of_not_mem (separator : Char) (text : List Char) (absent : separator ∉ text) :
    pieces separator text = [text] := by
  induction text with
  | nil => rfl
  | cons char rest inductionHypothesis =>
    rw [List.mem_cons, not_or] at absent
    exact pieces_cons_of_ne (Ne.symm absent.1) (inductionHypothesis absent.2)

theorem pieces_append (separator : Char) (text rest : List Char) (absent : separator ∉ text) :
    pieces separator (text ++ separator :: rest) = text :: pieces separator rest := by
  induction text with
  | nil => exact pieces_separator separator rest
  | cons char text inductionHypothesis =>
    rw [List.mem_cons, not_or] at absent
    exact pieces_cons_of_ne (Ne.symm absent.1) (inductionHypothesis absent.2)

/-- Joining texts without the separator and cutting again changes nothing. -/
theorem pieces_joined (separator : Char) (texts : List (List Char)) (present : texts ≠ [])
    (absent : ∀ text ∈ texts, separator ∉ text) :
    pieces separator (joined [separator] texts) = texts := by
  induction texts with
  | nil => exact absurd rfl present
  | cons text rest inductionHypothesis =>
    have head := absent text List.mem_cons_self
    cases rest with
    | nil => exact pieces_of_not_mem separator text head
    | cons next others =>
      have tail := inductionHypothesis (by simp)
        fun later member => absent later (List.mem_cons_of_mem _ member)
      rw [joined_cons_cons, List.append_assoc, List.singleton_append, pieces_append _ _ _ head,
        tail]

end GraphQuery.Text
