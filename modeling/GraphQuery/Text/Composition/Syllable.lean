/-
This file takes Korean syllables apart and puts them together.
-/

namespace GraphQuery.Text.Composition.Syllable

/-- The first syllable; all that start with the same two letters follow one another. -/
def base : Nat := 0xAC00

def firstLetter : Nat := 0x1100

def firstVowel : Nat := 0x1161

/-- The code before the first letter that can close a syllable. -/
def beforeClosing : Nat := 0x11A7

def letterCount : Nat := 19

def vowelCount : Nat := 21

/-- A syllable may stay open. -/
def closingCount : Nat := 28

def lies (code : Nat) : Bool :=
  base ≤ code && code < base + letterCount * vowelCount * closingCount

/-- A letter, a vowel and perhaps a letter that closes the syllable. -/
def parts (code : Nat) : List Nat :=
  let start := (code - base) / closingCount
  let closing := (code - base) % closingCount
  [firstLetter + start / vowelCount, firstVowel + start % vowelCount] ++
    if closing = 0 then [] else [beforeClosing + closing]

/-- A letter takes a vowel, and an open syllable takes a letter that closes it. -/
def compose? (first second : Nat) : Option Nat :=
  if firstLetter ≤ first ∧ first < firstLetter + letterCount ∧
      firstVowel ≤ second ∧ second < firstVowel + vowelCount then
    some (base + ((first - firstLetter) * vowelCount + (second - firstVowel)) * closingCount)
  else if lies first ∧ (first - base) % closingCount = 0 ∧
      beforeClosing < second ∧ second < beforeClosing + closingCount then
    some (first + (second - beforeClosing))
  else none

/-- A letter and a vowel make the open syllable that they are the parts of. -/
theorem parts_of_compose? {first second : Nat} {code : Nat}
    (letter : firstLetter ≤ first ∧ first < firstLetter + letterCount)
    (vowel : firstVowel ≤ second ∧ second < firstVowel + vowelCount)
    (composed : compose? first second = some code) : parts code = [first, second] := by
  simp only [compose?, letter, vowel, and_self, ↓reduceIte, Option.some.injEq] at composed
  subst composed
  simp only [firstLetter, firstVowel, letterCount, vowelCount] at letter vowel
  have start : (((first - 0x1100) * 21 + (second - 0x1161)) * 28) / 28 =
      (first - 0x1100) * 21 + (second - 0x1161) := by omega
  simp only [parts, base, firstLetter, firstVowel, vowelCount, closingCount,
    Nat.add_sub_cancel_left, start, Nat.mul_mod_left]
  simp only [↓reduceIte, List.append_nil, List.cons.injEq, and_true]
  omega

end GraphQuery.Text.Composition.Syllable
