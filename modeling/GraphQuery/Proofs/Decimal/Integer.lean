import GraphQuery.Decimal.Layout
import GraphQuery.Decimal.Numeral
import Mathlib.Data.List.Induction
import Mathlib.Data.Nat.Digits.Defs

/-
This file says which texts are integers, and shows that integers are read back from their digits.
-/

namespace GraphQuery.Decimal

/-- One or more ASCII digits, the last of which counts ones; zeros may stand in front. -/
structure HasDigits (digits : List Char) (number : Nat) : Prop where
  present : digits ≠ []
  each : ∀ digit ∈ digits, digit.isDigit = true
  value : Nat.ofDigits 10 (digits.reverse.map digitValue) = number

/-- At most one sign stands before the digits. -/
inductive IsInteger : List Char → Int → Prop
  | unsigned (digits : List Char) (number : Nat) (is : HasDigits digits number) :
    IsInteger digits number
  | plus (digits : List Char) (number : Nat) (is : HasDigits digits number) :
    IsInteger ('+' :: digits) number
  | minus (digits : List Char) (number : Nat) (is : HasDigits digits number) :
    IsInteger ('-' :: digits) (-number)

theorem digitsValue_eq (digits : List Char) :
    digitsValue digits = Nat.ofDigits 10 (digits.reverse.map digitValue) := by
  induction digits using List.reverseRecOn with
  | nil => rfl
  | append_singleton digits digit inductionHypothesis =>
    rw [digitsValue, List.foldl_append, ← digitsValue, inductionHypothesis, List.reverse_concat,
      List.map_cons, Nat.ofDigits_cons, List.foldl_cons, List.foldl_nil]
    exact Nat.add_comm _ _

theorem hasDigits_iff (digits : List Char) (number : Nat) :
    HasDigits digits number ↔
      (!digits.isEmpty && digits.all Char.isDigit) = true ∧ digitsValue digits = number := by
  rw [Bool.and_eq_true, List.all_eq_true, Bool.not_eq_true', List.isEmpty_eq_false_iff,
    digitsValue_eq]
  constructor
  · rintro ⟨present, each, value⟩
    exact ⟨⟨present, each⟩, value⟩
  · rintro ⟨⟨present, each⟩, value⟩
    exact ⟨present, each, value⟩

/-- The digits behind the sign of a text make its number. -/
theorem readInteger?_eq_some_iff (text : List Char) (value : Int) :
    readInteger? text = some value ↔
      ∃ number : Nat, HasDigits (splitSign text).2 number ∧
        value = if (splitSign text).1 then -(number : Int) else number := by
  simp only [readInteger?, hasDigits_iff]
  split
  · next digits =>
    simp only [digits, Option.some.injEq, true_and, exists_eq_left']
    exact eq_comm
  · next other => simp [other]

/-- A digit is no sign. -/
theorem HasDigits.splitSign_eq {digits : List Char} {number : Nat} (is : HasDigits digits number) :
    splitSign digits = (false, digits) := by
  unfold splitSign
  split
  · exact absurd (is.each '-' List.mem_cons_self) (by decide)
  · exact absurd (is.each '+' List.mem_cons_self) (by decide)
  · rfl

/-- Exactly the integers are read, and each of them as its own value. -/
theorem readInteger?_eq_some (text : List Char) (value : Int) :
    readInteger? text = some value ↔ IsInteger text value := by
  rw [readInteger?_eq_some_iff]
  constructor
  · rintro ⟨number, is, rfl⟩
    revert is
    fun_cases splitSign text with
    | case1 rest => exact fun is => .minus rest number is
    | case2 rest => exact fun is => .plus rest number is
    | case3 => exact fun is => .unsigned text number is
  · intro integer
    cases integer with
    | unsigned digits number is =>
      rw [is.splitSign_eq]
      exact ⟨number, is, rfl⟩
    | plus digits number is => exact ⟨number, is, rfl⟩
    | minus digits number is => exact ⟨number, is, rfl⟩

theorem digitsValue_digitChars (number : Nat) : digitsValue (digitChars number) = number := by
  have read := Nat.ofDigitChars_ten_toDigits (n := number)
  rwa [Nat.ofDigitChars_eq_foldl] at read

theorem all_isDigit_digitChars (number : Nat) : (digitChars number).all Char.isDigit = true := by
  rw [List.all_eq_true]
  exact fun digit member => Nat.isDigit_of_mem_toDigits (by decide) (by decide) member

theorem hasDigits_digitChars (number : Nat) : HasDigits (digitChars number) number := by
  refine ⟨Nat.toDigits_ne_nil, List.all_eq_true.1 (all_isDigit_digitChars number), ?_⟩
  rw [← digitsValue_eq]
  exact digitsValue_digitChars number

theorem isInteger_integerChars (number : Int) : IsInteger (integerChars number) number := by
  have digits := hasDigits_digitChars number.natAbs
  rw [integerChars]
  split
  · next negative =>
    have magnitude : -(number.natAbs : Int) = number := by omega
    have signed := IsInteger.minus _ _ digits
    rwa [magnitude] at signed
  · next positive =>
    have magnitude : (number.natAbs : Int) = number := by omega
    have plain := IsInteger.unsigned _ _ digits
    rwa [magnitude] at plain

theorem readInteger?_integerChars (number : Int) :
    readInteger? (integerChars number) = some number :=
  (readInteger?_eq_some _ _).2 (isInteger_integerChars number)

end GraphQuery.Decimal
