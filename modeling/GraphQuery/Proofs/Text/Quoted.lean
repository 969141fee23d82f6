import GraphQuery.Text.Quoted

/-
This file reads string literals and shows that they hold the content that they were written for.
-/

namespace GraphQuery.Text.Quoted

/-- The character that a letter stands for after a backslash; a slash may be escaped as well. -/
def escaped? : Char → Option Char
  | '"' => some '"'
  | '\\' => some '\\'
  | '/' => some '/'
  | 'n' => some '\n'
  | 'r' => some '\r'
  | 't' => some '\t'
  | 'b' => some '\x08'
  | 'f' => some '\x0c'
  | _ => none

/-- The number of a row of hexadecimal digits. -/
def unit? (digits : List Char) : Option Nat :=
  digits.foldl (fun value digit => do return 16 * (← value) + (← Hexadecimal.charValue? digit))
    (some 0)

/-- Half of a surrogate pair is no character. -/
def charOfUnit? (unit : Nat) : Option Char :=
  if unit.isValidChar then some (Char.ofNat unit) else none

/-- The content of a string whose opening quote has been read, and what follows its closing one.
Raw control characters are refused. -/
def decode? : List Char → Option (List Char × List Char)
  | [] => none
  | '"' :: rest => some ([], rest)
  | '\\' :: 'u' :: first :: second :: third :: fourth :: rest => do
    let char ← charOfUnit? (← unit? [first, second, third, fourth])
    let (content, rest) ← decode? rest
    return (char :: content, rest)
  | '\\' :: letter :: rest => do
    let char ← escaped? letter
    let (content, rest) ← decode? rest
    return (char :: content, rest)
  | char :: rest => do
    if char = '\\' ∨ char.toNat < 0x20 then none
    else
      let (content, rest) ← decode? rest
      return (char :: content, rest)

theorem charValue?_digit (value : Nat) (bound : value < 16) :
    Hexadecimal.charValue? (Hexadecimal.digit value) = some value := by
  revert value
  decide

theorem hexUnit_eq (code : Nat) :
    hexUnit code =
      [Hexadecimal.digit (code / 4096 % 16), Hexadecimal.digit (code / 256 % 16),
        Hexadecimal.digit (code / 16 % 16), Hexadecimal.digit (code % 16)] := by
  simp [hexUnit]

/-- Four digits are enough for every 16-bit unit. -/
theorem unit?_hexUnit (code : Nat) (bound : code < 65536) : unit? (hexUnit code) = some code := by
  have digit (number : Nat) := charValue?_digit (number % 16) (Nat.mod_lt _ (by decide))
  simp only [unit?, hexUnit_eq, List.foldl_cons, List.foldl_nil, digit, Option.bind_eq_bind,
    Option.bind_some, Option.pure_def, Option.some.injEq]
  omega

theorem charOfUnit?_toNat (char : Char) : charOfUnit? char.toNat = some char := by
  have valid : char.toNat.isValidChar := char.valid
  rw [charOfUnit?, if_pos valid, Char.ofNat_toNat]

theorem decode?_plain (char : Char) (rest : List Char) (apart : char ≠ '"' ∧ char ≠ '\\')
    (large : ¬char.toNat < 0x20) :
    decode? (char :: rest) =
      (decode? rest).map fun (content, rest) => (char :: content, rest) := by
  cases found : decode? rest <;> simp [decode?, apart, large, found]

/-- One character is read back from what was written for it. -/
theorem decode?_escape (char : Char) (rest : List Char) :
    decode? (escape char ++ rest) =
      (decode? rest).map fun (content, rest) => (char :: content, rest) := by
  unfold escape
  split
  · next letter named =>
    unfold escapeLetter? at named
    split at named <;> cases named <;>
      cases found : decode? rest <;> simp [decode?, escaped?, found]
  · next plain =>
    split
    · next small =>
      have unit := unit?_hexUnit char.toNat (by omega)
      have read := charOfUnit?_toNat char
      rw [hexUnit_eq] at unit ⊢
      cases found : decode? rest <;> simp [decode?, unit, read, found]
    · next large =>
      refine decode?_plain char rest ⟨?_, ?_⟩ large <;>
        rintro rfl <;> simp [escapeLetter?] at plain

/-- A string ends at the quote that was written for its end, whatever its content is. -/
theorem decode?_encode (content rest : List Char) :
    decode? (content.flatMap escape ++ '"' :: rest) = some (content, rest) := by
  induction content with
  | nil => rfl
  | cons char others inductionHypothesis =>
    rw [List.flatMap_cons, List.append_assoc, decode?_escape, inductionHypothesis]
    rfl

end GraphQuery.Text.Quoted
