import GraphQuery.Decimal.Shortest

/-
This file writes doubles as text.
-/

namespace GraphQuery.Decimal

/-- A layout chooses how the digits are placed. -/
structure Layout where
  tie : Tie
  /-- The first digit's power of ten is written positionally within these bounds. -/
  leastPositional : Int
  greatestPositional : Int
  /-- The sign of an exponent that is not negative. -/
  plus : List Char
  infinity : List Char
  notANumber : List Char
deriving DecidableEq, Repr

def digitChars (number : Nat) : List Char := Nat.toDigits 10 number

def integerChars (number : Int) : List Char :=
  if number < 0 then '-' :: digitChars number.natAbs else digitChars number.natAbs

/-- The digits without the zeros at their end, which the exponent absorbs. -/
def trimmedDigits (coefficient : Nat) : List Char :=
  ((digitChars coefficient).reverse.dropWhile (· == '0')).reverse

/-- The point stands after the digit of power zero, and both sides of it have a digit. -/
def positional (digits : List Char) (leading : Int) : List Char :=
  if leading < 0 then
    '0' :: '.' :: (List.replicate (-leading - 1).toNat '0' ++ digits)
  else
    let whole := leading.toNat + 1
    let integral := digits.take whole ++ List.replicate (whole - digits.length) '0'
    let decimals := digits.drop whole
    integral ++ '.' :: (if decimals.isEmpty then ['0'] else decimals)

def scientific (plus : List Char) (digits : List Char) (leading : Int) : List Char :=
  let mantissa := match digits with
    | [] => ['0']
    | [digit] => [digit]
    | digit :: rest => digit :: '.' :: rest
  mantissa ++ 'e' :: ((if leading < 0 then [] else plus) ++ integerChars leading)

namespace Layout

/-- The text of a magnitude without its sign. -/
def magnitudeChars (layout : Layout) (magnitude : Magnitude) : List Char :=
  if magnitude.significand = 0 then ['0', '.', '0']
  else
    let shortest := binary64.shortest layout.tie magnitude
    let leading := shortest.exponent + ((digitChars shortest.coefficient).length : Int) - 1
    let digits := trimmedDigits shortest.coefficient
    if layout.leastPositional ≤ leading ∧ leading ≤ layout.greatestPositional then
      positional digits leading
    else scientific layout.plus digits leading

def chars (layout : Layout) (value : Float) : List Char :=
  match Reading.ofFloat value with
  | .notANumber => layout.notANumber
  | .infinite negative => if negative then '-' :: layout.infinity else layout.infinity
  | .finite negative magnitude =>
    let text := layout.magnitudeChars magnitude
    if negative then '-' :: text else text

end Layout

end GraphQuery.Decimal
