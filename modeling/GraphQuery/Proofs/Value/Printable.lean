import GraphQuery.Proofs.Decimal.Integer
import GraphQuery.Proofs.Value.Literal

/-
This file shows that literals hold no raw control characters.
-/

namespace GraphQuery.Value

open Text

/-- No raw control character stands in a printable text. -/
def Printable (written : List Char) : Prop := ∀ char ∈ written, 0x20 ≤ char.toNat

namespace Printable

theorem nil : Printable [] := fun _ member => by cases member

theorem append (first second : List Char) (before : Printable first) (after : Printable second) :
    Printable (first ++ second) := by
  intro char member
  rcases List.mem_append.1 member with early | late
  · exact before char early
  · exact after char late

theorem singleton (char : Char) (large : 0x20 ≤ char.toNat) : Printable [char] := by
  intro other member
  rw [List.mem_singleton.1 member]
  exact large

theorem joined (texts : List (List Char)) (each : ∀ text ∈ texts, Printable text) :
    Printable (Text.joined [','] texts) :=
  joined_closed [','] nil append (singleton ',' (by decide)) texts each

/-- The first 32 characters are outside of every class that holds none of them. -/
theorem of_class (inside : Char → Bool)
    (outside : ∀ code < 0x20, inside (Char.ofNat code) = false) (row : List Char)
    (within : ∀ char ∈ row, inside char = true) : Printable row := by
  intro char member
  refine Nat.le_of_not_lt fun small => ?_
  have apart := outside char.toNat small
  rw [Char.ofNat_toNat, within char member] at apart
  cases apart

theorem name (name : String) (lawful : isName name = true) : Printable name.toList :=
  of_class continuesName (by decide) _ (continuesName_of_mem name lawful)

theorem integer (number : Int) : Printable (Decimal.integerChars number) := by
  have digits := of_class Char.isDigit (by decide) (Decimal.digitChars number.natAbs)
    (List.all_eq_true.1 (Decimal.all_isDigit_digitChars number.natAbs))
  unfold Decimal.integerChars
  split
  · exact append ['-'] _ (singleton '-' (by decide)) digits
  · exact digits

theorem encode (content : List Char) : Printable (Quoted.encode content) := by
  have quote : Printable ['"'] := singleton '"' (by decide)
  have body : Printable (content.flatMap Quoted.escape) := by
    intro written member
    obtain ⟨char, -, inside⟩ := List.mem_flatMap.1 member
    exact Quoted.escape_ge char written inside
  exact append ['"'] _ quote (append _ ['"'] body quote)

theorem enclosed (opening closing : Char) (written : List Char)
    (large : 0x20 ≤ opening.toNat ∧ 0x20 ≤ closing.toNat) (inside : Printable written) :
    Printable (opening :: written ++ [closing]) := by
  have last := append written [closing] inside (singleton closing large.2)
  exact append [opening] _ (singleton opening large.1) last

end Printable

theorem printable_chars (value : Value) (lawful : value.Lawful) : Printable value.chars := by
  induction lawful with
  | null => exact Printable.name "null" (by decide)
  | text content quoted =>
    rw [chars, textChars_eq _ quoted]
    exact Printable.encode content.toList
  | integer number => exact Printable.integer number
  | boolean value =>
    cases value with
    | true => exact Printable.name "true" (by decide)
    | false => exact Printable.name "false" (by decide)
  | symbol name lawful => exact Printable.name name lawful
  | list items _ inductionHypothesis =>
    rw [chars, itemsChars_eq]
    refine Printable.enclosed _ _ _ (by decide) (Printable.joined _ ?_)
    intro text member
    obtain ⟨item, inside, rfl⟩ := List.mem_map.1 member
    exact inductionHypothesis item inside
  | object fields names _ inductionHypothesis =>
    rw [chars, fieldsChars_eq]
    refine Printable.enclosed _ _ _ (by decide) (Printable.joined _ ?_)
    intro text member
    obtain ⟨field, inside, rfl⟩ := List.mem_map.1 member
    have colon : Printable [':'] := Printable.singleton ':' (by decide)
    exact Printable.append _ _ (Printable.name _ (names field inside))
      (Printable.append _ _ colon (inductionHypothesis field inside))
  | reference name lawful =>
    have dollar : Printable ['$'] := Printable.singleton '$' (by decide)
    exact Printable.append _ _ dollar (Printable.name name lawful)

end GraphQuery.Value
