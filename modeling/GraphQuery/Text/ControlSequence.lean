import GraphQuery.Text.Utf8

/-
This file drops what a terminal would obey instead of show.
-/

namespace GraphQuery.Text

/-- A control sequence starts with an escape character, and its kind says where it ends. -/
inductive ControlSequence where
  | none
  /-- One more character ends it. -/
  | short
  /-- Blanks and marks may come before the last character. -/
  | shortMarked
  /-- Numbers and marks come before the last character. -/
  | parameters
  /-- Parameters come before a text for the device. -/
  | deviceParameters
  /-- A text up to the next escape. -/
  | device
  /-- A text up to a bell or the next escape. -/
  | system
deriving DecidableEq, Repr

namespace ControlSequence

/-- A byte by which a text for the device ends. -/
def deviceEnd : UInt8 := 0x9C

/-- The sequence that is under way after one more character. -/
def after (sequence : ControlSequence) (char : Char) : ControlSequence :=
  let code := char.toNat
  if code = 0x1B then short
  else if code = 0x18 ∨ code = 0x1A then none
  else match sequence with
    | none => none
    | short =>
      if code < 0x20 ∨ 0x7F ≤ code then short
      else if code < 0x30 then shortMarked
      else match char with
        | '[' => parameters
        | ']' => system
        | 'P' => deviceParameters
        | 'X' | '^' | '_' => device
        | _ => none
    | shortMarked => if code < 0x30 ∨ 0x7F ≤ code then shortMarked else none
    | parameters => if code < 0x40 ∨ 0x7F ≤ code then parameters else none
    | deviceParameters => if code < 0x40 ∨ 0x7F ≤ code then deviceParameters else device
    | device => if deviceEnd ∈ Utf8.bytes (String.singleton char) then none else device
    | system => if code = 0x07 then none else system

/-- These controls move within the text, so that they belong to it. -/
def isLayout (char : Char) : Bool :=
  char == '\t' || char == '\n' || char == '\x0c' || char == '\r'

def isPrinted (char : Char) : Bool :=
  isLayout char || (0x20 ≤ char.toNat && char.toNat ≠ 0x7F)

/-- Whether a character is printed where a sequence is under way. -/
def prints (sequence : ControlSequence) (char : Char) : Bool :=
  match sequence with
  | none => isPrinted char
  | short | shortMarked | parameters => isLayout char
  | _ => false

/-- The printed characters.
Layout within a sequence sets it aside: it goes on at the next character that is not printed. -/
def strip : (printing : Bool) → ControlSequence → List Char → List Char
  | _, _, [] => []
  | printing, sequence, char :: rest =>
    if printing && isPrinted char then
      char :: strip true (if char.toNat < 0x80 then sequence else none) rest
    else if sequence.prints char then char :: strip true sequence rest
    else strip false (sequence.after char) rest

end ControlSequence

/-- The text without control sequences and other controls. -/
def visible (text : List Char) : List Char := ControlSequence.strip false .none text

/-- A text without controls stays as it is. -/
theorem visible_of_isPrinted {text : List Char}
    (printed : ∀ char ∈ text, ControlSequence.isPrinted char) : visible text = text := by
  suffices every : ∀ printing, ControlSequence.strip printing .none text = text from every false
  induction text with
  | nil => intro printing; rfl
  | cons char rest inductionHypothesis =>
    intro printing
    have first : ControlSequence.isPrinted char := printed char List.mem_cons_self
    have others := inductionHypothesis fun other member =>
      printed other (List.mem_cons_of_mem char member)
    cases printing <;>
      simp [ControlSequence.strip, ControlSequence.prints, first, others]

end GraphQuery.Text
