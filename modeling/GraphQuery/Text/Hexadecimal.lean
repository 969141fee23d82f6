/-
This file writes and reads hexadecimal digits.
-/

namespace GraphQuery.Text.Hexadecimal

/-- Letters are written as capitals. -/
def digit (value : Nat) : Char := (Nat.digitChar value).toUpper

/-- Letters are read in either case. -/
def value? (byte : UInt8) : Option Nat :=
  if 0x30 ≤ byte && byte ≤ 0x39 then some (byte.toNat - 0x30)
  else if 0x41 ≤ byte && byte ≤ 0x46 then some (byte.toNat - 0x41 + 10)
  else if 0x61 ≤ byte && byte ≤ 0x66 then some (byte.toNat - 0x61 + 10)
  else none

def number? (digits : List UInt8) : Option Nat :=
  digits.foldl (fun value digit => do return 16 * (← value) + (← value? digit)) (some 0)

def charValue? (char : Char) : Option Nat :=
  if char.toNat < 128 then value? (UInt8.ofNat char.toNat) else none

/-- Characters that are no digits count as zeros. -/
def number (digits : List Char) : Nat :=
  digits.foldl (fun value digit => 16 * value + (charValue? digit).getD 0) 0

/-- The number at the start of a text and what follows it. -/
def readNumber (text : List Char) : Nat × List Char :=
  (number (text.takeWhile fun char => (charValue? char).isSome),
    text.dropWhile fun char => (charValue? char).isSome)

theorem digit_ge (value : Nat) (bound : value < 16) : 0x20 ≤ (digit value).toNat := by
  revert value
  decide

end GraphQuery.Text.Hexadecimal
