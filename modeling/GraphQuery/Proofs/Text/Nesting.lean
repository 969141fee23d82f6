import GraphQuery.Text.Joined

/-
This file cuts texts at separators that stand outside of strings and brackets.
-/

namespace GraphQuery.Text.Nesting

/-- A position counts the open brackets and says whether it lies in a string. -/
inductive Position where
  | bare (depth : Nat)
  | quoted (depth : Nat)
  | escaped (depth : Nat)
deriving DecidableEq, Repr

/-- Brackets count outside of strings, and a backslash takes the next character with it. -/
def advance : Position → Char → Position
  | .bare depth, char =>
    if char = '"' then .quoted depth
    else if char = '[' ∨ char = '{' then .bare (depth + 1)
    else if char = ']' ∨ char = '}' then .bare (depth - 1)
    else .bare depth
  | .quoted depth, char =>
    if char = '\\' then .escaped depth else if char = '"' then .bare depth else .quoted depth
  | .escaped depth, _ => .quoted depth

/-- A rule says which characters separate at which positions. -/
abbrev Rule := Position → Char → Bool

/-- Blanks separate outside of strings. -/
def blanks : Rule
  | .bare _, char => char == ' '
  | _, _ => false

/-- Commas separate outside of strings and brackets. -/
def commas : Rule
  | .bare 0, char => char == ','
  | _, _ => false

/-- The pieces between the separators; a text without one is a single piece. -/
def cut (rule : Rule) : Position → List Char → List (List Char)
  | _, [] => [[]]
  | position, char :: rest =>
    let pieces := cut rule (advance position char) rest
    if rule position char then [] :: pieces
    else (char :: pieces.headD []) :: pieces.tail

section Cut

variable {rule : Rule} {position : Position} {char : Char}

theorem cut_of_separates (separates : rule position char = true) (rest : List Char) :
    cut rule position (char :: rest) = [] :: cut rule (advance position char) rest :=
  if_pos separates

theorem cut_of_joins (joins : rule position char = false) {rest first : List Char}
    {others : List (List Char)}
    (equal : cut rule (advance position char) rest = first :: others) :
    cut rule position (char :: rest) = (char :: first) :: others := by
  refine (if_neg (Bool.eq_false_iff.1 joins)).trans ?_
  rw [equal]
  rfl

end Cut

/-- A text leads from one position to another, and no character of it separates. -/
inductive Spans (rule : Rule) : Position → List Char → Position → Prop
  | nil (position : Position) : Spans rule position [] position
  | cons {position last : Position} {char : Char} {rest : List Char}
      (joins : rule position char = false) (later : Spans rule (advance position char) rest last) :
      Spans rule position (char :: rest) last

namespace Spans

variable {rule : Rule}

theorem append {first middle last : Position} {text rest : List Char}
    (before : Spans rule first text middle) (after : Spans rule middle rest last) :
    Spans rule first (text ++ rest) last := by
  induction before with
  | nil => exact after
  | cons joins _ inductionHypothesis => exact .cons joins (inductionHypothesis after)

theorem singleton {position : Position} {char : Char} (joins : rule position char = false) :
    Spans rule position [char] (advance position char) := .cons joins (.nil _)

/-- Fewer separators leave a span whole. -/
theorem weaken {weaker : Rule} (fewer : ∀ position char, weaker position char = true →
      rule position char = true) {first last : Position} {text : List Char}
    (spans : Spans rule first text last) : Spans weaker first text last := by
  induction spans with
  | nil => exact .nil _
  | @cons position _ char _ joins _ inductionHypothesis =>
    refine .cons ?_ inductionHypothesis
    cases equal : weaker position char with
    | false => rfl
    | true => rw [fewer position char equal] at joins; exact joins

/-- A text without separators is a single piece. -/
theorem cut_eq {first last : Position} {text : List Char} (spans : Spans rule first text last) :
    cut rule first text = [text] := by
  induction spans with
  | nil => rfl
  | cons joins _ inductionHypothesis => exact cut_of_joins joins inductionHypothesis

/-- The first piece ends at the first separator. -/
theorem cut_append {first last : Position} {text : List Char} (spans : Spans rule first text last)
    (separator : Char) (separates : rule last separator = true) (rest : List Char) :
    cut rule first (text ++ separator :: rest) = text :: cut rule (advance last separator) rest := by
  induction spans with
  | nil => exact cut_of_separates separates rest
  | cons joins _ inductionHypothesis => exact cut_of_joins joins (inductionHypothesis separates)

end Spans

/-- A word leads from one bare position to another without a blank between them. -/
def Word (text : List Char) : Prop :=
  ∀ depth, ∃ last, Spans blanks (.bare depth) text (.bare last)

theorem Word.append (text rest : List Char) (before : Word text) (after : Word rest) :
    Word (text ++ rest) := by
  intro depth
  obtain ⟨middle, first⟩ := before depth
  obtain ⟨last, second⟩ := after middle
  exact ⟨last, first.append second⟩

theorem word_nil : Word [] := fun depth => ⟨depth, .nil _⟩

/-- Without quotes and blanks a text is a word, whatever its brackets are. -/
theorem word_of_unquoted (text : List Char) (unquoted : '"' ∉ text ∧ ' ' ∉ text) : Word text := by
  induction text with
  | nil => exact word_nil
  | cons char rest inductionHypothesis =>
    obtain ⟨quote, blank⟩ := unquoted
    rw [List.mem_cons, not_or] at quote blank
    refine Word.append [char] rest (fun depth => ?_) (inductionHypothesis ⟨quote.2, blank.2⟩)
    have joins : blanks (.bare depth) char = false := by simpa [blanks] using Ne.symm blank.1
    have single := Spans.singleton joins
    simp only [advance, if_neg (Ne.symm quote.1)] at single
    split at single
    · exact ⟨_, single⟩
    · split at single <;> exact ⟨_, single⟩

/-- Words that are each followed by a blank are found again, and an empty piece after them. -/
theorem cut_words (words : List (List Char)) (each : ∀ word ∈ words, Word word) (depth : Nat) :
    cut blanks (.bare depth) (words.flatMap (· ++ [' '])) = words ++ [[]] := by
  induction words generalizing depth with
  | nil => rfl
  | cons word rest inductionHypothesis =>
    obtain ⟨last, spans⟩ := each word List.mem_cons_self depth
    have tail := inductionHypothesis
      (fun later member => each later (List.mem_cons_of_mem _ member)) last
    have found := spans.cut_append ' ' rfl (rest.flatMap (· ++ [' ']))
    have stays : advance (.bare last) ' ' = .bare last := by simp [advance]
    rw [stays, tail] at found
    simpa using found

/-- Blanks and commas together. -/
def breaks : Rule := fun position char => blanks position char || commas position char

def isPlain (char : Char) : Bool :=
  !(['"', '[', ']', '{', '}', ' ', ','].contains char)

theorem advance_of_isPlain (depth : Nat) (char : Char) (plain : isPlain char = true) :
    advance (.bare depth) char = .bare depth := by
  simp [isPlain] at plain
  simp [advance, plain]

theorem breaks_of_isPlain (depth : Nat) (char : Char) (plain : isPlain char = true) :
    breaks (.bare depth) char = false := by
  simp [isPlain] at plain
  cases depth <;> simp [breaks, blanks, commas, plain]

/-- A solid text closes what it opens and keeps blanks and commas inside, from some depth on. -/
def Solid (least : Nat) (text : List Char) : Prop :=
  ∀ depth, least ≤ depth → Spans breaks (.bare depth) text (.bare depth)

namespace Solid

variable {least : Nat}

theorem append (text rest : List Char) (before : Solid least text) (after : Solid least rest) :
    Solid least (text ++ rest) :=
  fun depth within => (before depth within).append (after depth within)

theorem nil : Solid least [] := fun _ _ => .nil _

theorem deeper {text : List Char} (solid : Solid least text) (larger : Nat)
    (le : least ≤ larger) : Solid larger text :=
  fun depth within => solid depth (Nat.le_trans le within)

theorem word {text : List Char} (solid : Solid 0 text) : Word text := by
  intro depth
  refine ⟨depth, (solid depth (Nat.zero_le _)).weaken ?_⟩
  intro position char separates
  simp [breaks, separates]

/-- Plain characters open nothing, close nothing and separate nothing. -/
theorem of_plain (text : List Char) (plain : text.all isPlain = true) : Solid least text := by
  induction text with
  | nil => exact nil
  | cons char rest inductionHypothesis =>
    rw [List.all_cons, Bool.and_eq_true] at plain
    intro depth within
    refine .cons (breaks_of_isPlain _ char plain.1) ?_
    rw [advance_of_isPlain depth char plain.1]
    exact inductionHypothesis plain.2 depth within

/-- A pair of brackets makes a text solid everywhere that is solid within them. -/
theorem enclosed (opening closing : Char) (text : List Char)
    (pair : (opening, closing) = ('[', ']') ∨ (opening, closing) = ('{', '}'))
    (inside : Solid 1 text) : Solid 0 (opening :: text ++ [closing]) := by
  intro depth _
  have within := inside (depth + 1) (by omega)
  have ends (char : Char) (closes : char = ']' ∨ char = '}') :
      Spans breaks (.bare (depth + 1)) [char] (.bare depth) := by
    rcases closes with rfl | rfl <;> exact Spans.singleton rfl
  rcases pair with equal | equal <;> cases equal
  · exact .cons (by cases depth <;> rfl) (within.append (ends ']' (Or.inl rfl)))
  · exact .cons (by cases depth <;> rfl) (within.append (ends '}' (Or.inr rfl)))

/-- A comma does not separate within brackets. -/
theorem comma : Solid 1 [','] := by
  intro depth within
  obtain ⟨outer, rfl⟩ : ∃ outer, depth = outer + 1 := ⟨depth - 1, by omega⟩
  exact Spans.singleton rfl

theorem joined (texts : List (List Char)) (each : ∀ text ∈ texts, Solid 1 text) :
    Solid 1 (Text.joined [','] texts) :=
  joined_closed [','] nil append comma texts each

end Solid

/-- Solid texts that are joined by commas are found again. -/
theorem cut_joined (texts : List (List Char)) (present : texts ≠ [])
    (each : ∀ text ∈ texts, Solid 0 text) :
    cut commas (.bare 0) (Text.joined [','] texts) = texts := by
  have fewer : ∀ position char, commas position char = true → breaks position char = true := by
    intro position char separates
    simp [breaks, separates]
  induction texts with
  | nil => exact absurd rfl present
  | cons text rest inductionHypothesis =>
    have head := (each text List.mem_cons_self 0 (Nat.le_refl _)).weaken fewer
    cases rest with
    | nil => exact head.cut_eq
    | cons next others =>
      have tail := inductionHypothesis (by simp)
        fun later member => each later (List.mem_cons_of_mem _ member)
      rw [Text.joined_cons_cons, List.append_assoc, List.singleton_append,
        head.cut_append ',' rfl]
      exact congrArg (text :: ·) tail

end GraphQuery.Text.Nesting
