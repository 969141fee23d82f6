import GraphQuery.Json.Fault
import GraphQuery.Decimal.Binary

/-
This file reads the numbers of a JSON text.
-/

namespace GraphQuery.Json

/-- A number of a JSON text is an exact integer or a double. -/
inductive Number where
  | integer (value : Int)
  | real (value : Float)

def Number.toJson : Number → Json
  | integer value => .integer value
  | real value => .real value

/-- The digits of a numeral without its sign, as they stand in the text. -/
structure Numeral where
  whole : List UInt8
  /-- These are the digits after the point, if there is one. -/
  decimals : Option (List UInt8)
  /-- The sign and the digits of the exponent, with the position of its second digit. -/
  exponent : Option (Bool × List UInt8 × Position)

namespace Numeral

def isDigit (byte : UInt8) : Bool := 0x30 ≤ byte && byte ≤ 0x39

def digitValue (byte : UInt8) : Nat := byte.toNat - 0x30

/-- A number starts with a digit, and no digit follows a leading zero. -/
def scanWhole (atEnd : Flaw) (cursor : Cursor) : Except Fault (List UInt8 × Cursor) :=
  let (digits, stop) := cursor.span isDigit
  match digits with
  | [] =>
    if cursor.rest.isEmpty then .error (.ofFlaw atEnd cursor.position)
    else .error (.ofFlaw .invalidNumber cursor.ahead)
  | 0x30 :: _ :: _ => .error (.ofFlaw .invalidNumber cursor.next.ahead)
  | digits => .ok (digits, stop)

/-- A point is followed by at least one digit. -/
def scanDecimals (atEnd : Flaw) (cursor : Cursor) :
    Except Fault (Option (List UInt8) × Cursor) :=
  if cursor.peek? = some 0x2E then
    let (digits, stop) := cursor.next.span isDigit
    if digits.isEmpty then
      .error (.ofFlaw (if stop.rest.isEmpty then atEnd else .invalidNumber) stop.ahead)
    else .ok (some digits, stop)
  else .ok (none, cursor)

/-- The mark of an exponent is followed by an optional sign and at least one digit. -/
def scanExponent (atEnd : Flaw) (cursor : Cursor) :
    Except Fault (Option (Bool × List UInt8 × Position) × Cursor) :=
  if cursor.peek? = some 0x65 ∨ cursor.peek? = some 0x45 then
    let signed := cursor.next
    let negative := signed.peek? == some 0x2D
    let start := if negative || signed.peek? == some 0x2B then signed.next else signed
    let (digits, stop) := start.span isDigit
    if digits.isEmpty then
      if start.rest.isEmpty then .error (.ofFlaw atEnd start.position)
      else .error (.ofFlaw .invalidNumber start.ahead)
    else .ok (some (negative, digits, start.ahead), stop)
  else .ok (none, cursor)

/-- The numeral at the cursor, which stands behind the sign.
`atEnd` is the flaw of a text that stops where a digit is needed. -/
def scan (atEnd : Flaw) (cursor : Cursor) : Except Fault (Numeral × Cursor) := do
  let (whole, cursor) ← scanWhole atEnd cursor
  let (decimals, cursor) ← scanDecimals atEnd cursor
  let (exponent, cursor) ← scanExponent atEnd cursor
  return (⟨whole, decimals, exponent⟩, cursor)

/-- The digits that are kept of a long numeral and the power of ten that scales them. -/
structure Significand where
  value : Nat
  scale : Int
  full : Bool

/-- A digit is kept while the value stays below `2 ^ 64`; the first that does not fit ends this. -/
def Significand.append (kept dropped : Int) (significand : Significand) (digit : UInt8) :
    Significand :=
  let value := 10 * significand.value + digitValue digit
  if significand.full = true ∨ Nat.pow 2 64 ≤ value then
    { significand with scale := significand.scale + dropped, full := true }
  else { significand with value, scale := significand.scale + kept }

def wholeSignificand (digits : List UInt8) : Significand :=
  digits.foldl (Significand.append 0 1) ⟨0, 0, false⟩

/-- The digits after the point continue the significand. -/
def significand (numeral : Numeral) : Significand :=
  (numeral.decimals.getD []).foldl (Significand.append (-1) 0)
    { wholeSignificand numeral.whole with full := false }

/-- The exponent, or the position of the digit with which it leaves the 32-bit range. -/
def exponentValue : Nat → List UInt8 → Position → Except Position Nat
  | value, [], _ => .ok value
  | value, digit :: rest, position =>
    let next := 10 * value + digitValue digit
    if Nat.pow 2 31 ≤ next then .error position
    else exponentValue next rest ⟨position.line, position.column + 1⟩

def powerOfTen (exponent : Nat) : Float := (Decimal.Reading.ofDecimal false 1 exponent).toFloat

/-- A very small scale is divided off in steps; three steps bring every significand to zero. -/
def divideDown : Nat → Float → Nat → Float
  | 0, value, _ => value
  | steps + 1, value, exponent =>
    if exponent ≤ 308 then value / powerOfTen exponent
    else if value == 0 then value
    else divideDown steps (value / powerOfTen 308) (exponent - 308)

/-- The double of a scaled significand; `none` means that it is too large.
One rounding happens in the conversion and one in each scaling step. -/
def scaled (significand : Nat) (exponent : Int) : Option Float :=
  let value := (UInt64.ofNat significand).toFloat
  if exponent < 0 then some (divideDown 4 value exponent.natAbs)
  else if exponent ≤ 308 then
    let product := value * powerOfTen exponent.natAbs
    if product.isInf then none else some product
  else if significand = 0 then some value
  else none

def signed (negative : Bool) (value : Float) : Float := if negative then -value else value

/-- An integer that fits its 64-bit range is exact; the negative zero is a double. -/
def integerNumber (negative : Bool) (value : Nat) : Number :=
  if negative then
    if 0 < value ∧ value ≤ Nat.pow 2 63 then .integer (-(value : Int))
    else .real (-(UInt64.ofNat value).toFloat)
  else .integer value

/-- The value of a numeral that ends at the given position. -/
def value (negative : Bool) (numeral : Numeral) (stop : Position) : Except Fault Number :=
  let whole := wholeSignificand numeral.whole
  let significand := numeral.significand
  let real (exponent : Int) : Except Fault Number :=
    match scaled significand.value exponent with
    | some value => .ok (.real (signed negative value))
    | none => .error (.ofFlaw .numberOutOfRange stop)
  match numeral.exponent with
  | some (negativeExponent, digits, second) =>
    match exponentValue 0 digits ⟨second.line, second.column⟩ with
    | .ok exponent =>
      real (if negativeExponent then significand.scale - exponent else significand.scale + exponent)
    | .error position =>
      if significand.value = 0 ∨ negativeExponent then .ok (.real (signed negative 0))
      else .error (.ofFlaw .numberOutOfRange position)
  | none =>
    if numeral.decimals.isNone ∧ whole.full = false then
      .ok (integerNumber negative whole.value)
    else real significand.scale

end Numeral

/-- The number at the cursor, which stands at the sign or the first digit. -/
def readNumber (cursor : Cursor) : Except Fault (Number × Cursor) := do
  let negative := cursor.peek? == some 0x2D
  let (numeral, stop) ← Numeral.scan .endInValue (if negative then cursor.next else cursor)
  let number ← numeral.value negative stop.position
  return (number, stop)

end GraphQuery.Json
