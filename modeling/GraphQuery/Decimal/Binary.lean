/-
This file holds the binary floating-point formats and exact rounding into them.
-/

namespace GraphQuery.Decimal

/-- The value of `significand` and `exponent` is `significand * 2 ^ exponent`. -/
structure Magnitude where
  significand : Nat
  exponent : Int
deriving DecidableEq, Repr

/-- A format keeps `precision` significant bits and bounds the exponent of the last one. -/
structure BinaryFormat where
  precision : Nat
  leastExponent : Int
  greatestExponent : Int
deriving DecidableEq, Repr

def binary64 : BinaryFormat := ⟨53, -1074, 971⟩

def binary32 : BinaryFormat := ⟨24, -149, 104⟩

/-- The numerator and denominator of `coefficient * base ^ exponent`. -/
def fraction (coefficient base : Nat) (exponent : Int) : Nat × Nat :=
  (coefficient * base.pow exponent.toNat, base.pow (-exponent).toNat)

/-- The quotient is rounded to the nearest integer, and a half goes to the even neighbour. -/
def divideToEven (numerator denominator : Nat) : Nat :=
  let quotient := numerator / denominator
  let twice := 2 * (numerator % denominator)
  if denominator < twice ∨ (denominator = twice ∧ quotient % 2 = 1) then quotient + 1 else quotient

/-- The largest integer whose power of two does not exceed the fraction. -/
def floorLog2 (numerator denominator : Nat) : Int :=
  let estimate : Int := (numerator.log2 : Int) - (denominator.log2 : Int)
  if denominator * Nat.pow 2 estimate.toNat ≤ numerator * Nat.pow 2 (-estimate).toNat then
    estimate
  else estimate - 1

namespace BinaryFormat

/-- The nearest value of the format; `none` stands for a magnitude beyond every finite one. -/
def nearestFraction (format : BinaryFormat) (numerator denominator : Nat) : Option Magnitude :=
  let exponent := max format.leastExponent
    (floorLog2 numerator denominator - ((format.precision : Int) - 1))
  let significand := divideToEven (numerator * Nat.pow 2 (-exponent).toNat)
    (denominator * Nat.pow 2 exponent.toNat)
  let rounded : Magnitude :=
    if significand = Nat.pow 2 format.precision then
      ⟨Nat.pow 2 (format.precision - 1), exponent + 1⟩
    else ⟨significand, exponent⟩
  if format.greatestExponent < rounded.exponent then none else some rounded

/-- The nearest value to `coefficient * 10 ^ exponent`.
Exponents far outside every format are settled before any power is formed. -/
def nearest (format : BinaryFormat) (coefficient : Nat) (exponent : Int) : Option Magnitude :=
  let digits : Int := (Nat.toDigits 10 coefficient).length
  if coefficient = 0 ∨ exponent + digits < -400 then some ⟨0, format.leastExponent⟩
  else if 400 < exponent then none
  else
    let (numerator, denominator) := fraction coefficient 10 exponent
    format.nearestFraction numerator denominator

end BinaryFormat

/-- The sign and magnitude of a finite number, and the values that are not finite. -/
inductive Reading where
  | finite (negative : Bool) (magnitude : Magnitude)
  | infinite (negative : Bool)
  | notANumber
deriving DecidableEq, Repr

namespace Reading

/-- This function reads the bits of a double. -/
def ofFloat (value : Float) : Reading :=
  let bits : Nat := value.toBits.toNat
  let negative := bits / Nat.pow 2 63 == 1
  let field : Nat := bits / Nat.pow 2 52 % 2048
  let fractionBits : Nat := bits % Nat.pow 2 52
  if field = 2047 then
    if fractionBits = 0 then .infinite negative else .notANumber
  else if field = 0 then .finite negative ⟨fractionBits, -1074⟩
  else .finite negative ⟨Nat.pow 2 52 + fractionBits, (field : Int) - 1075⟩

/-- The double of a sign and a magnitude of the binary64 format. -/
def assemble (negative : Bool) (magnitude : Magnitude) : Float :=
  let sign := if negative then Nat.pow 2 63 else 0
  let bits :=
    if magnitude.significand < Nat.pow 2 52 then magnitude.significand
    else (magnitude.exponent + 1075).toNat * Nat.pow 2 52 +
      (magnitude.significand - Nat.pow 2 52)
  Float.ofBits (UInt64.ofNat (sign + bits))

def toFloat : Reading → Float
  | .finite negative magnitude => assemble negative magnitude
  | .infinite negative => Float.ofBits (if negative then 0xFFF0000000000000 else 0x7FF0000000000000)
  | .notANumber => Float.ofBits 0x7FF8000000000000

/-- The sign applies to the nearest double of the decimal. -/
def ofDecimal (negative : Bool) (coefficient : Nat) (exponent : Int) : Reading :=
  match binary64.nearest coefficient exponent with
  | some magnitude => .finite negative magnitude
  | none => .infinite negative

end Reading

end GraphQuery.Decimal
