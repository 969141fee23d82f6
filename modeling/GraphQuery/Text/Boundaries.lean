/-
This file holds classes of characters that are given by boundaries.
-/

namespace GraphQuery.Text

/-- The class starts at the first boundary, ends before the second one and so on.
A code belongs to the class exactly when an odd number of boundaries lie at or below it. -/
def liesWithin (boundaries : List Nat) (code : Nat) : Bool :=
  match boundaries with
  | [] => false
  | [start] => start ≤ code
  | start :: stop :: rest =>
    if code < start then false else if code < stop then true else liesWithin rest code

end GraphQuery.Text
