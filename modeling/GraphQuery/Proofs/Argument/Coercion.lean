import GraphQuery.Argument.Coercion
import GraphQuery.Proofs.Decimal.Integer
import GraphQuery.Proofs.Text.Blank
import GraphQuery.Value.Literal

/-
This file says which texts are coerced into integers.
-/

namespace GraphQuery.ArgumentKind

open Decimal Text

/-- Blanks may stand around an integer of 64 bits. -/
structure Spells (text : String) (value : Int) : Prop where
  padded : ∃ numeral, IsPadded numeral text.toList ∧ IsInteger numeral value
  least : -2 ^ 63 ≤ value
  most : value ≤ 2 ^ 63 - 1

theorem inRange_iff (value : Int) :
    inRange value = true ↔ -2 ^ 63 ≤ value ∧ value ≤ 2 ^ 63 - 1 := by
  rw [inRange, Bool.and_eq_true]
  exact and_congr decide_eq_true_iff decide_eq_true_iff

theorem isBlank_of_isDigit (char : Char) (digit : char.isDigit = true) : isBlank char = false := by
  obtain ⟨least, most⟩ : 48 ≤ char.toNat ∧ char.toNat ≤ 57 := by
    simpa [Char.isDigit, UInt32.le_iff_toNat_le] using digit
  simp only [isBlank, Bool.or_eq_false_iff, Bool.and_eq_false_iff, beq_eq_false_iff_ne,
    decide_eq_false_iff_not]
  omega

/-- No blank stands inside an integer. -/
theorem isBlank_of_isInteger (numeral : List Char) (value : Int) (is : IsInteger numeral value) :
    numeral ≠ [] ∧ ∀ char ∈ numeral, isBlank char = false := by
  have digits {digits : List Char} {number : Nat} (has : HasDigits digits number) :
      ∀ char ∈ digits, isBlank char = false :=
    fun char inside => isBlank_of_isDigit char (has.each char inside)
  cases is with
  | unsigned numeral number has => exact ⟨has.present, digits has⟩
  | plus numeral number has =>
    exact ⟨List.cons_ne_nil _ _, List.forall_mem_cons.2 ⟨by decide, digits has⟩⟩
  | minus numeral number has =>
    exact ⟨List.cons_ne_nil _ _, List.forall_mem_cons.2 ⟨by decide, digits has⟩⟩

theorem readInteger?_eq_some (text : String) (value : Int) :
    readInteger? text.toList = some value ↔ Spells text value := by
  rw [readInteger?, Option.filter_eq_some_iff, Decimal.readInteger?_eq_some, inRange_iff]
  constructor
  · rintro ⟨is, least, most⟩
    exact ⟨⟨_, isPadded_trim _, is⟩, least, most⟩
  · rintro ⟨⟨numeral, padded, is⟩, least, most⟩
    obtain ⟨present, solid⟩ := isBlank_of_isInteger numeral value is
    rw [padded.trim_eq present solid]
    exact ⟨is, least, most⟩

theorem coerce_integer_of_spells (argument text : String) (value : Int)
    (spells : Spells text value) :
    integer.coerce argument (some text) = .ok (.integer value) := by
  rw [coerce, read?, (readInteger?_eq_some text value).2 spells]
  rfl

theorem coerce_integer_of_not_spells (argument text : String)
    (nothing : ¬∃ value, Spells text value) :
    integer.coerce argument (some text) = .error (.notCoercible argument text .integer) := by
  have unread : readInteger? text.toList = none := by
    rw [Option.eq_none_iff_forall_ne_some]
    exact fun value read => nothing ⟨value, (readInteger?_eq_some text value).1 read⟩
  rw [coerce, read?, unread]
  rfl

/-- A text is coerced into an integer exactly if it spells one, and into this one; every other text
is named in the failure as it was given. The literal of an integer spells it, whatever blanks are
put around. -/
theorem coerce_integer (argument text : String) :
    (∀ value, integer.coerce argument (some text) = .ok value ↔
      ∃ number, Spells text number ∧ value = .integer number) ∧
    ((¬∃ number, Spells text number) →
      integer.coerce argument (some text) = .error (.notCoercible argument text .integer)) ∧
    ∀ number : Int, -2 ^ 63 ≤ number → number ≤ 2 ^ 63 - 1 →
      IsPadded (Value.integer number).render.toList text.toList →
      integer.coerce argument (some text) = .ok (.integer number) := by
  refine ⟨fun value => ⟨fun coerced => ?_, ?_⟩, coerce_integer_of_not_spells argument text, ?_⟩
  · by_cases spells : ∃ number, Spells text number
    · obtain ⟨number, spells⟩ := spells
      rw [coerce_integer_of_spells argument text number spells] at coerced
      exact ⟨number, spells, (Except.ok.inj coerced).symm⟩
    · rw [coerce_integer_of_not_spells argument text spells] at coerced
      cases coerced
  · rintro ⟨number, spells, rfl⟩
    exact coerce_integer_of_spells argument text number spells
  · intro number least most padded
    rw [Value.render, String.toList_ofList, Value.chars] at padded
    exact coerce_integer_of_spells argument text number
      ⟨⟨_, padded, isInteger_integerChars number⟩, least, most⟩

/-- The least integer is accepted in a long form, the greatest one is read back between blanks, and
the one beyond it is refused. -/
theorem coerce_integer_extremes :
    integer.coerce "first" (some "\u00A0-0009223372036854775808\n") =
        .ok (.integer (-9223372036854775808)) ∧
      integer.coerce "first" (some "\t9223372036854775807\u3000") =
        .ok (.integer 9223372036854775807) ∧
      integer.coerce "first" (some " 9223372036854775808") =
        .error (.notCoercible "first" " 9223372036854775808" .integer) := by
  have least : Spells "\u00A0-0009223372036854775808\n" (-9223372036854775808) :=
    (readInteger?_eq_some _ _).1 (by decide +kernel)
  have greatest : IsPadded (Value.integer 9223372036854775807).render.toList
      "\t9223372036854775807\u3000".toList :=
    .around ['\t'] ['\u3000'] (List.forall_mem_singleton.2 rfl) (List.forall_mem_singleton.2 rfl)
  have beyond : ¬∃ number, Spells " 9223372036854775808" number := by
    rintro ⟨number, spells⟩
    have unread : readInteger? " 9223372036854775808".toList = none := by decide +kernel
    rw [(readInteger?_eq_some _ _).2 spells] at unread
    cases unread
  exact ⟨((coerce_integer "first" _).1 _).2 ⟨_, least, rfl⟩,
    (coerce_integer "first" _).2.2 _ (by decide) (by decide) greatest,
    (coerce_integer "first" _).2.1 beyond⟩

end GraphQuery.ArgumentKind
