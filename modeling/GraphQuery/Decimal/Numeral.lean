import GraphQuery.Decimal.Binary
import GraphQuery.Decimal.Shortest

/-
This file reads decimal numerals.
-/

namespace GraphQuery.Decimal

def digitValue (digit : Char) : Nat := digit.toNat - '0'.toNat

/-- The value of a row of decimal digits. -/
def digitsValue (digits : List Char) : Nat :=
  digits.foldl (fun value digit => 10 * value + digitValue digit) 0

/-- The sign of a numeral and what follows it. -/
def splitSign : List Char → Bool × List Char
  | '-' :: rest => (true, rest)
  | '+' :: rest => (false, rest)
  | rest => (false, rest)

/-- An optional sign is followed by one or more ASCII digits and nothing else. -/
def readInteger? (text : List Char) : Option Int :=
  let (negative, digits) := splitSign text
  if !digits.isEmpty && digits.all Char.isDigit then
    let value : Int := digitsValue digits
    some (if negative then -value else value)
  else none

/-- A mark `e` or `E` is followed by an integer; no mark stands for exponent zero. -/
def readExponent? : List Char → Option Int
  | [] => some 0
  | mark :: rest => if mark = 'e' ∨ mark = 'E' then readInteger? rest else none

/-- Digits, an optional point among them and an optional exponent; at least one digit is there. -/
def readScaled? (text : List Char) : Option Scaled :=
  let integral := text.takeWhile Char.isDigit
  let afterIntegral := text.dropWhile Char.isDigit
  let (decimals, afterDecimals) := match afterIntegral with
    | '.' :: rest => (rest.takeWhile Char.isDigit, rest.dropWhile Char.isDigit)
    | rest => ([], rest)
  let digits := integral ++ decimals
  if digits.isEmpty then none
  else (readExponent? afterDecimals).map fun exponent =>
    ⟨digitsValue digits, exponent - decimals.length⟩

def asciiLower (text : List Char) : List Char := text.map Char.toLower

/-- A numeral, or one of the words for the values that are not finite, in any ASCII case. -/
def readNumeral? (text : List Char) : Option (Bool × Option Scaled) :=
  let (negative, rest) := splitSign text
  match readScaled? rest with
  | some scaled => some (negative, some scaled)
  | none =>
    if asciiLower rest ∈ ["inf".toList, "infinity".toList] then some (negative, none) else none

/-- The nearest double of a numeral. -/
def readFloat? (text : List Char) : Option Float :=
  if asciiLower (splitSign text).2 = "nan".toList then some Reading.notANumber.toFloat
  else (readNumeral? text).map fun
    | (negative, some scaled) =>
      (Reading.ofDecimal negative scaled.coefficient scaled.exponent).toFloat
    | (negative, none) => (Reading.infinite negative).toFloat

/-- A single-precision number is widened through its shortest decimal, so that `1.1` stays `1.1`. -/
def widenSingle (negative : Bool) (scaled : Scaled) : Float :=
  match binary32.nearest scaled.coefficient scaled.exponent with
  | none => (Reading.infinite negative).toFloat
  | some magnitude =>
    if magnitude.significand = 0 then (Reading.finite negative ⟨0, -1074⟩).toFloat
    else
      let shortest := binary32.shortest .away magnitude
      (Reading.ofDecimal negative shortest.coefficient shortest.exponent).toFloat

def readSingle? (text : List Char) : Option Float :=
  if asciiLower (splitSign text).2 = "nan".toList then some Reading.notANumber.toFloat
  else (readNumeral? text).map fun
    | (negative, some scaled) => widenSingle negative scaled
    | (negative, none) => (Reading.infinite negative).toFloat

end GraphQuery.Decimal
