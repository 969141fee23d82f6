import GraphQuery.Text.Hexadecimal
import GraphQuery.Text.Joined

/-
This file holds spans of character codes and reads them from tables.
-/

namespace GraphQuery.Text

/-- The codes from `first` to `last` at a fixed distance. -/
structure CodeSpan where
  first : Nat
  last : Nat
  step : Nat

namespace CodeSpan

def contains (span : CodeSpan) (code : Nat) : Bool :=
  span.first ≤ code && code ≤ span.last && (code - span.first) % span.step == 0

def anyContains (spans : List CodeSpan) (char : Char) : Bool :=
  spans.any (·.contains char.toNat)

/-- The span at the start of a word and what follows it.
A hyphen stands between the first code and the last one, and a tilde does so where only every
second code belongs to the span. -/
def read (word : List Char) : CodeSpan × List Char :=
  let (first, rest) := Hexadecimal.readNumber word
  match rest with
  | '-' :: more =>
    let (last, rest) := Hexadecimal.readNumber more
    (⟨first, last, 1⟩, rest)
  | '~' :: more =>
    let (last, rest) := Hexadecimal.readNumber more
    (⟨first, last, 2⟩, rest)
  | _ => (⟨first, first, 1⟩, rest)

/-- The words of a table; a blank stands between those of a line. -/
def tableWords (lines : List String) : List (List Char) :=
  lines.flatMap fun line => pieces ' ' line.toList

def table (lines : List String) : List CodeSpan := (tableWords lines).map fun word => (read word).1

end CodeSpan

end GraphQuery.Text
