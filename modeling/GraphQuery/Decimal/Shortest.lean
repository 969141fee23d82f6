import GraphQuery.Decimal.Binary

/-
This file holds the fewest decimal digits that read back as the same binary number.
-/

namespace GraphQuery.Decimal

/-- This rule settles a value that lies halfway between two candidates. -/
inductive Tie where
  | away
  | even
deriving DecidableEq, Repr

/-- The value of `coefficient` and `exponent` is `coefficient * 10 ^ exponent`. -/
structure Scaled where
  coefficient : Nat
  exponent : Int
deriving DecidableEq, Repr

/-- The reals that round to one magnitude, in quarters of its last place.
The ends belong to the interval exactly when the significand is even. -/
structure Interval where
  value : Nat
  low : Nat
  high : Nat
  closed : Bool
  exponent : Int
deriving DecidableEq, Repr

/-- Below a power of two the neighbours are half as far apart. -/
def BinaryFormat.interval (format : BinaryFormat) (magnitude : Magnitude) : Interval :=
  let significand := magnitude.significand
  let narrow := significand = Nat.pow 2 (format.precision - 1) ∧
    format.leastExponent < magnitude.exponent
  { value := 4 * significand
    low := if narrow then 4 * significand - 1 else 4 * significand - 2
    high := 4 * significand + 2
    closed := significand % 2 = 0
    exponent := magnitude.exponent - 2 }

namespace Interval

/-- One decimal grid point and one quarter count, brought to a common unit. -/
def gridUnit (interval : Interval) (exponent : Int) : Nat :=
  Nat.pow 10 exponent.toNat * Nat.pow 2 (-interval.exponent).toNat

def quarterUnit (interval : Interval) (exponent : Int) : Nat :=
  Nat.pow 2 interval.exponent.toNat * Nat.pow 10 (-exponent).toNat

def contains (interval : Interval) (candidate : Scaled) : Bool :=
  let point := candidate.coefficient * interval.gridUnit candidate.exponent
  let low := interval.low * interval.quarterUnit candidate.exponent
  let high := interval.high * interval.quarterUnit candidate.exponent
  if interval.closed then low ≤ point && point ≤ high else low < point && point < high

/-- The value's nearest neighbour on one decimal grid, if a neighbour lies in the interval. -/
def hit? (interval : Interval) (tie : Tie) (exponent : Int) : Option Scaled :=
  let unit := interval.gridUnit exponent
  let value := interval.value * interval.quarterUnit exponent
  let below : Scaled := ⟨value / unit, exponent⟩
  let above : Scaled := ⟨value / unit + 1, exponent⟩
  let twice := 2 * (value % unit)
  let upward := unit < twice ||
    (unit == twice && (tie == .away || below.coefficient % 2 == 1))
  match interval.contains below, interval.contains above with
  | true, true => some (if upward then above else below)
  | true, false => some below
  | false, true => some above
  | false, false => none

/-- The grids are tried from coarse to fine, and the first hit wins. -/
def search (interval : Interval) (tie : Tie) : Nat → Int → Scaled
  | 0, exponent =>
    ⟨interval.value * interval.quarterUnit exponent / interval.gridUnit exponent, exponent⟩
  | steps + 1, exponent =>
    match interval.hit? tie exponent with
    | some candidate => candidate
    | none => interval.search tie steps (exponent - 1)

end Interval

/-- A power of ten that exceeds the magnitude, from the position of its first bit. -/
def Magnitude.decimalBound (magnitude : Magnitude) : Int :=
  ((magnitude.significand.log2 : Int) + magnitude.exponent + 1) * 30103 / 100000 + 1

/-- The shortest decimal of a positive magnitude; twenty grids below the bound always suffice. -/
def BinaryFormat.shortest (format : BinaryFormat) (tie : Tie) (magnitude : Magnitude) : Scaled :=
  (format.interval magnitude).search tie 20 magnitude.decimalBound

end GraphQuery.Decimal
