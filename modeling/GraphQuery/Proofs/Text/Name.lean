/-
This file holds the words that the query language accepts as names and as types.
-/

namespace GraphQuery.Text

def startsName (char : Char) : Bool := char.isAlpha || char == '_'

def continuesName (char : Char) : Bool := char.isAlphanum || char == '_'

/-- A name is a letter or an underscore, and letters, digits and underscores after it. -/
def isName (name : String) : Bool :=
  match name.toList with
  | [] => false
  | first :: rest => startsName first && rest.all continuesName

def continuesType (char : Char) : Bool :=
  continuesName char || char == '[' || char == ']' || char == '!'

/-- The type of a variable is written with names, brackets and exclamation marks. -/
def isType (type : String) : Bool := !type.toList.isEmpty && type.toList.all continuesType

theorem continuesName_of_startsName (char : Char) (starts : startsName char = true) :
    continuesName char = true := by
  simp only [startsName, continuesName, Char.isAlphanum, Bool.or_eq_true] at starts ⊢
  rcases starts with letter | underscore
  · exact Or.inl (Or.inl letter)
  · exact Or.inr underscore

theorem continuesName_of_mem (name : String) (lawful : isName name = true) (char : Char)
    (member : char ∈ name.toList) : continuesName char = true := by
  unfold isName at lawful
  split at lawful
  · simp at lawful
  · next first rest equal =>
    rw [equal] at member
    rw [Bool.and_eq_true, List.all_eq_true] at lawful
    rcases List.mem_cons.1 member with rfl | later
    · exact continuesName_of_startsName _ lawful.1
    · exact lawful.2 char later

/-- No digit starts a name. -/
theorem startsName_of_isDigit (char : Char) (digit : char.isDigit = true) :
    startsName char = false := by
  have letter : ¬char.isAlpha = true := by
    intro letter
    have least : 'A'.toNat ≤ char.toNat := by
      rcases Bool.or_eq_true_iff.1 letter with upper | lower
      · exact UInt32.le_iff_toNat_le.1 (of_decide_eq_true upper).1
      · have small := UInt32.le_iff_toNat_le.1 (of_decide_eq_true (Bool.and_eq_true_iff.1 lower).1)
        exact Nat.le_trans (by decide) small
    have greatest := (Char.isDigit_iff_toNat.1 digit).2
    exact absurd (Nat.le_trans least greatest) (by decide)
  have underscore : char ≠ '_' := by
    rintro rfl
    cases digit
  simp [startsName, letter, underscore]

theorem exists_of_isName (name : String) (lawful : isName name = true) :
    ∃ first rest, name.toList = first :: rest ∧ startsName first = true := by
  unfold isName at lawful
  split at lawful
  · cases lawful
  · next first rest equal => exact ⟨first, rest, equal, (Bool.and_eq_true_iff.1 lawful).1⟩

/-- A character outside of a class differs from every character within it. -/
theorem ne_of_class (inside : Char → Bool) (char other : Char) (within : inside char = true)
    (without : inside other = false) : char ≠ other := by
  intro equal
  rw [equal, without] at within
  exact Bool.false_ne_true within

end GraphQuery.Text
