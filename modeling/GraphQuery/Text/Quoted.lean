import GraphQuery.Text.Hexadecimal

/-
This file writes string literals of the query language.
-/

namespace GraphQuery.Text.Quoted

/-- The four digits of one 16-bit unit. -/
def hexUnit (code : Nat) : List Char :=
  [4096, 256, 16, 1].map fun weight => Hexadecimal.digit (code / weight % 16)

/-- The letter that stands for a character after a backslash. -/
def escapeLetter? : Char → Option Char
  | '"' => some '"'
  | '\\' => some '\\'
  | '\n' => some 'n'
  | '\r' => some 'r'
  | '\t' => some 't'
  | '\x08' => some 'b'
  | '\x0c' => some 'f'
  | _ => none

/-- Quotes, backslashes and control characters are escaped; the others stand for themselves. -/
def escape (char : Char) : List Char :=
  match escapeLetter? char with
  | some letter => ['\\', letter]
  | none => if char.toNat < 0x20 then '\\' :: 'u' :: hexUnit char.toNat else [char]

def encode (content : List Char) : List Char :=
  '"' :: content.flatMap escape ++ ['"']

theorem hexUnit_ge (code : Nat) (digit : Char) (member : digit ∈ hexUnit code) :
    0x20 ≤ digit.toNat := by
  obtain ⟨weight, -, equal⟩ := List.mem_map.1 member
  rw [← equal]
  exact Hexadecimal.digit_ge _ (Nat.mod_lt _ (by decide))

theorem escapeLetter?_ge (char letter : Char) (equal : escapeLetter? char = some letter) :
    0x20 ≤ letter.toNat := by
  unfold escapeLetter? at equal
  split at equal <;> cases equal <;> decide

/-- No raw control character is written. -/
theorem escape_ge (char written : Char) (member : written ∈ escape char) :
    0x20 ≤ written.toNat := by
  unfold escape at member
  split at member
  next letter equal =>
    rcases List.mem_cons.1 member with rfl | rest
    · decide
    · exact List.mem_singleton.1 rest ▸ escapeLetter?_ge _ _ equal
  next =>
    split at member
    next =>
      rcases List.mem_cons.1 member with rfl | rest
      · decide
      rcases List.mem_cons.1 rest with rfl | digits
      · decide
      · exact hexUnit_ge _ _ digits
    next large => exact List.mem_singleton.1 member ▸ Nat.le_of_not_lt large

end GraphQuery.Text.Quoted
