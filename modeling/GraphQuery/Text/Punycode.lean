/-
This file writes labels with characters beyond ASCII in ASCII letters and digits.
-/

namespace GraphQuery.Text.Punycode

/-- The values below 26 are letters, and the other ten are digits. -/
def digitChar (value : Nat) : Char :=
  if value < 26 then Char.ofNat ('a'.toNat + value) else Char.ofNat ('0'.toNat + value - 26)

def threshold (place bias : Nat) : Nat :=
  if place ≤ bias then 1 else if bias + 26 ≤ place then 26 else place - bias

theorem threshold_bounds (place bias : Nat) :
    1 ≤ threshold place bias ∧ threshold place bias ≤ 26 := by
  unfold threshold
  split
  · omega
  · split <;> omega

/-- The digits of a difference, least significant first. -/
def differenceChars (bias place value : Nat) : List Char :=
  let least := threshold place bias
  if value < least then [digitChar value]
  else
    digitChar (least + (value - least) % (36 - least)) ::
      differenceChars bias (place + 36) ((value - least) / (36 - least))
termination_by value
decreasing_by
  have bounds := threshold_bounds place bias
  exact Nat.lt_of_le_of_lt (Nat.div_le_self _ _) (by omega)

/-- The reduced difference and the number of reductions, times 36. -/
def reduce (difference rounds : Nat) : Nat × Nat :=
  if 455 < difference then reduce (difference / 35) (rounds + 36) else (difference, rounds)
termination_by difference
decreasing_by exact Nat.div_lt_self (by omega) (by omega)

def adapt (difference count : Nat) (first : Bool) : Nat :=
  let damped := if first then difference / 700 else difference / 2
  let (reduced, rounds) := reduce (damped + damped / count) 0
  rounds + 36 * reduced / (reduced + 38)

/-- The state of an encoder that has written all characters below a code. -/
structure Encoder where
  written : List Char
  difference : Nat
  bias : Nat
  handled : Nat

/-- A smaller character counts, an equal one is written, and a larger one waits. -/
def Encoder.visit (basic code : Nat) (encoder : Encoder) (char : Char) : Encoder :=
  if char.toNat < code then { encoder with difference := encoder.difference + 1 }
  else if char.toNat = code then
    { written := encoder.written ++ differenceChars encoder.bias 36 encoder.difference
      difference := 0
      bias := adapt encoder.difference (encoder.handled + 1) (encoder.handled == basic)
      handled := encoder.handled + 1 }
  else encoder

/-- The codes are written in ascending order; `next` is the least code that may follow. -/
def Encoder.run (label : List Char) (basic : Nat) : List Nat → Nat → Encoder → Encoder
  | [], _, encoder => encoder
  | code :: rest, next, encoder =>
    let skipped :=
      { encoder with difference := encoder.difference + (code - next) * (encoder.handled + 1) }
    let visited := label.foldl (Encoder.visit basic code) skipped
    Encoder.run label basic rest (code + 1) { visited with difference := visited.difference + 1 }

/-- The ASCII characters come first, and a hyphen ends them. -/
def encode (label : List Char) : List Char :=
  let basic := label.filter fun char => char.toNat < 128
  let codes := ((label.filter fun char => 128 ≤ char.toNat).map Char.toNat).mergeSort.eraseDups
  let encoder := Encoder.run label basic.length codes 128 ⟨[], 0, 72, basic.length⟩
  basic ++ (if basic.isEmpty then [] else ['-']) ++ encoder.written

def digitValue? (char : Char) : Option Nat :=
  if 'a' ≤ char ∧ char ≤ 'z' then some (char.toNat - 'a'.toNat)
  else if '0' ≤ char ∧ char ≤ '9' then some (char.toNat - '0'.toNat + 26)
  else none

/-- The state of a decoder within the digits of a difference. -/
structure Decoder where
  label : List Char
  code : Nat
  /-- The index at which the next character goes in. -/
  index : Nat
  /-- The index before the difference under way. -/
  start : Nat
  bias : Nat
  place : Nat
  weight : Nat

/-- A digit below the threshold ends its difference, and a character goes in. -/
def Decoder.read? (decoder : Decoder) (char : Char) : Option Decoder := do
  let digit ← digitValue? char
  let index := decoder.index + digit * decoder.weight
  let least := threshold decoder.place decoder.bias
  if least ≤ digit then
    return { decoder with
      index
      place := decoder.place + 36
      weight := decoder.weight * (36 - least) }
  else
    let count := decoder.label.length + 1
    let code := decoder.code + index / count
    let place := index % count
    if code.isValidChar then
      return {
        label := decoder.label.take place ++ Char.ofNat code :: decoder.label.drop place
        code
        index := place + 1
        start := place + 1
        bias := adapt (index - decoder.start) count (decoder.start == 0)
        place := 36
        weight := 1 }
    else none

/-- The label that a row of ASCII characters stands for; its last hyphen has to follow others. -/
def decode? (text : List Char) : Option (List Char) := do
  let digits := (text.reverse.takeWhile (· != '-')).reverse
  if text.length = digits.length + 1 then none
  let basic := text.take (text.length - digits.length - 1)
  let decoder ← digits.foldlM Decoder.read? ⟨basic, 128, 0, 0, 72, 36, 1⟩
  if decoder.place = 36 then return decoder.label else none

end GraphQuery.Text.Punycode
