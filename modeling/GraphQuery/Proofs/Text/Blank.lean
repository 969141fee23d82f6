import GraphQuery.Text.Blank
import Mathlib.Data.List.DropRight

/-
This file says what trimming leaves of a text.
-/

namespace GraphQuery.Text

/-- Only blanks stand around the core of a text. -/
inductive IsPadded (core : List Char) : List Char → Prop
  | around (before after : List Char) (left : ∀ char ∈ before, isBlank char = true)
      (right : ∀ char ∈ after, isBlank char = true) : IsPadded core (before ++ core ++ after)

theorem trim_eq (text : List Char) : trim text = (text.dropWhile isBlank).rdropWhile isBlank := rfl

theorem isPadded_trim (text : List Char) : IsPadded (trim text) text := by
  have padded : IsPadded (trim text) _ := .around (text.takeWhile isBlank)
    ((text.dropWhile isBlank).rtakeWhile isBlank) (fun _ => List.mem_takeWhile_imp)
    (fun _ => List.mem_rtakeWhile_imp)
  rwa [List.append_assoc, trim_eq, List.rdropWhile_append_rtakeWhile,
    List.takeWhile_append_dropWhile] at padded

theorem dropWhile_isBlank (before core rest : List Char)
    (blank : ∀ char ∈ before, isBlank char = true) (present : core ≠ [])
    (solid : ∀ char ∈ core, isBlank char = false) :
    (before ++ (core ++ rest)).dropWhile isBlank = core ++ rest := by
  obtain ⟨first, others, rfl⟩ := List.exists_cons_of_ne_nil present
  rw [List.dropWhile_append_of_pos blank, List.cons_append, List.dropWhile_cons_of_neg]
  rw [solid first List.mem_cons_self]
  decide

/-- A core without blanks is what trimming leaves. -/
theorem IsPadded.trim_eq {core text : List Char} (padded : IsPadded core text)
    (present : core ≠ []) (solid : ∀ char ∈ core, isBlank char = false) : trim text = core := by
  obtain ⟨before, after, left, right⟩ := padded
  have right : ∀ char ∈ after.reverse, isBlank char = true := by simpa using right
  have solid' : ∀ char ∈ core.reverse, isBlank char = false := by simpa using solid
  have stripped := dropWhile_isBlank after.reverse core.reverse [] right (by simpa) solid'
  rw [List.append_nil] at stripped
  rw [trim, List.append_assoc, dropWhile_isBlank before core after left present solid,
    List.reverse_append, stripped, List.reverse_reverse]

end GraphQuery.Text
