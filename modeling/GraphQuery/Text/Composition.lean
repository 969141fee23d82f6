import GraphQuery.Text.Composition.Class
import GraphQuery.Text.Composition.Pair
import GraphQuery.Text.Composition.Syllable

/-
This file brings letters and their marks into one form, in which they are composed.
-/

namespace GraphQuery.Text.Composition

/-- No character below is made of others, and none below is the second part of another. -/
def firstComposed : Nat := 0xC0

def firstMark : Nat := 0x300

/-- The parts of a character; `depth` bounds how often a part has parts itself. -/
def parts : (depth : Nat) → Nat → List Nat
  | 0, code => [code]
  | depth + 1, code =>
    if code < firstComposed then [code]
    else if Syllable.lies code then Syllable.parts code
    else match pairs.find? (·.whole == code) with
      | some pair => parts depth pair.first ++ [pair.second]
      | none => [code]

/-- A character has at most three parts. -/
def decomposed (text : List Char) : List Char :=
  text.flatMap fun char => (parts 2 char.toNat).map Char.ofNat

def compose? (first second : Char) : Option Char :=
  if second.toNat < firstMark then none
  else match Syllable.compose? first.toNat second.toNat with
    | some code => some (Char.ofNat code)
    | none =>
      (pairs.find? fun pair => pair.first == first.toNat && pair.second == second.toNat).map
        fun pair => Char.ofNat pair.whole

/-- A mark goes before those of higher classes that follow the same letter. -/
def insertMark (mark : Char) : List Char → List Char
  | [] => [mark]
  | char :: rest =>
    if classOf char ≠ 0 ∧ classOf char < classOf mark then char :: insertMark mark rest
    else mark :: char :: rest

/-- The marks of each letter by their classes; marks of one class keep their order. -/
def ordered : List Char → List Char
  | [] => []
  | char :: rest =>
    if classOf char = 0 then char :: ordered rest else insertMark char (ordered rest)

/-- A character joins the last letter unless a mark of its class, or one that comes later, stands
between them; the marks that have been kept run backwards. -/
def composeFrom (letter : Char) (kept : List Char) : List Char → List Char
  | [] => letter :: kept.reverse
  | char :: rest =>
    let isBlocked := match kept with
      | [] => false
      | last :: _ => classOf char ≤ classOf last
    match if isBlocked then none else compose? letter char with
    | some whole => composeFrom whole kept rest
    | none =>
      if classOf char = 0 then letter :: kept.reverse ++ composeFrom char [] rest
      else composeFrom letter (char :: kept) rest

/-- The composed form of a text. -/
def composed (text : List Char) : List Char :=
  match ordered (decomposed text) with
  | [] => []
  | first :: rest => composeFrom first [] rest

end GraphQuery.Text.Composition
