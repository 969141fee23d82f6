import GraphQuery.Proofs.Json.Shape.Meaning
import GraphQuery.Response

/-
This file says which trees are envelopes, and what they mean.
-/

namespace GraphQuery

open Json

/-- The numbers of a place are integers without sign that fit 32 bits. -/
def Location.HasNumber (members : List (String × Tree)) (name : String) (number : Nat) : Prop :=
  (Keyed.valueAt? members name).map Tree.toJson = some (.integer number) ∧ number ≤ 4294967295

structure Location.HasMembers (members : List (String × Tree)) (location : Location) : Prop where
  line : HasNumber members "line" location.line
  column : HasNumber members "column" location.column

def Location.Is (tree : Tree) (location : Location) : Prop :=
  ∃ members, tree.members? ["line", "column"] = some members ∧
    HasMembers members location

/-- Null locations are no locations, and members of other names say nothing. -/
structure ServerError.HasMembers (members : List (String × Tree)) (error : ServerError) :
    Prop where
  message : (Keyed.valueAt? members "message").map Tree.toJson = some (.string error.message)
  locations : ∃ locations, Tree.Optionally (Tree.IsList Location.Is)
    (Keyed.valueAt? members "locations") locations ∧ locations.getD [] = error.locations
  path : Tree.Optionally (Tree.IsList Tree.IsValue) (Keyed.valueAt? members "path") error.path
  extensions : Tree.Optionally Tree.IsValue (Keyed.valueAt? members "extensions") error.extensions

def ServerError.Is (tree : Tree) (error : ServerError) : Prop :=
  ∃ members, tree.members? ["message", "locations", "path", "extensions"] = some members ∧
    HasMembers members error

structure Envelope.HasMembers (members : List (String × Tree)) (envelope : Envelope) : Prop where
  data : Tree.Optionally Tree.IsValue (Keyed.valueAt? members "data") envelope.data
  errors : Tree.Optionally (Tree.IsList ServerError.Is) (Keyed.valueAt? members "errors")
    envelope.errors

def Envelope.Is (tree : Tree) (envelope : Envelope) : Prop :=
  ∃ members, tree.members? ["data", "errors"] = some members ∧ HasMembers members envelope

namespace ServerError

/-- The place of a line and a column. -/
def location : (Shape.record "Location" locationFields).Carrier → Location
  | (line, column, ()) => ⟨line.toNat, column.toNat⟩

theorem contains_unsigned32 (value : Int) :
    IntegerRange.unsigned32.contains value = true ↔ 0 ≤ value ∧ value ≤ 4294967295 := by
  rw [IntegerRange.contains, Bool.and_eq_true]
  exact and_congr decide_eq_true_iff decide_eq_true_iff

theorem take_number (members : List (String × Tree)) (name : String) (number : Nat) :
    (∃ value : Int, (Shape.integer .unsigned32).take
        ((Keyed.valueAt? members name).map Tree.toJson) = some value ∧ value.toNat = number) ↔
      Location.HasNumber members name number := by
  simp only [Shape.take_integer, Location.HasNumber, contains_unsigned32]
  constructor
  · rintro ⟨value, ⟨found, least, most⟩, rfl⟩
    rw [Int.toNat_of_nonneg least]
    exact ⟨found, by omega⟩
  · rintro ⟨found, most⟩
    exact ⟨number, ⟨found, by omega⟩, rfl⟩

theorem isProper_locationFields : locationFields.IsProper :=
  ⟨by decide, trivial, by decide, trivial, trivial⟩

theorem isProper_fields : fields.IsProper :=
  ⟨by decide, trivial, by decide, isProper_locationFields, by decide, trivial, by decide, trivial,
    trivial⟩

theorem means_location :
    (Shape.record "Location" locationFields).Means location Location.Is := by
  refine Shape.means_record "Location" locationFields location Location.HasMembers
    isProper_locationFields ⟨rfl, rfl, trivial⟩ fun members _ content => ?_
  constructor
  · rintro ⟨⟨line, column, ⟨⟩⟩, taken, rfl⟩
    obtain ⟨first, rest⟩ := (both_eq_some _ _ _ _).1 taken
    obtain ⟨second, -⟩ := (both_eq_some _ _ _ _).1 rest
    exact ⟨(take_number _ _ _).1 ⟨line, first, rfl⟩, (take_number _ _ _).1 ⟨column, second, rfl⟩⟩
  · rintro ⟨line, column⟩
    obtain ⟨line, first, sameLine⟩ := (take_number _ _ _).2 line
    obtain ⟨column, second, sameColumn⟩ := (take_number _ _ _).2 column
    refine ⟨(line, column, ()), (both_eq_some _ _ _ _).2
      ⟨first, (both_eq_some _ _ _ _).2 ⟨second, rfl⟩⟩, ?_⟩
    simp [location, sameLine, sameColumn]

theorem means_shape : shape.Means ofData Is := by
  refine Shape.means_record "GraphQLError" fields ofData HasMembers isProper_fields
    ⟨rfl, rfl, rfl, rfl, trivial⟩ fun members distinct error => ?_
  have locations := (Shape.Means.list means_location).take_optional
    (Keyed.valueAt? members "locations")
    fun tree found => (distinct _ _ found).2.1 rfl
  have path := Shape.means_values.take_kept (Keyed.valueAt? members "path")
    fun tree found => (distinct _ _ found).2.2.1 rfl
  have extensions := Shape.means_any.take_kept (Keyed.valueAt? members "extensions")
    fun tree found => (distinct _ _ found).2.2.2.1 rfl
  constructor
  · rintro ⟨⟨message, places, steps, extra, ⟨⟩⟩, taken, rfl⟩
    obtain ⟨first, rest⟩ := (both_eq_some _ _ _ _).1 taken
    obtain ⟨second, rest⟩ := (both_eq_some _ _ _ _).1 rest
    obtain ⟨third, rest⟩ := (both_eq_some _ _ _ _).1 rest
    obtain ⟨fourth, -⟩ := (both_eq_some _ _ _ _).1 rest
    refine ⟨(Shape.take_text _ _).1 first,
      ⟨_, (locations _).1 (congrArg (Option.map _) second), ?_⟩, (path _).1 third,
      (extensions _).1 fourth⟩
    cases places <;> rfl
  · rintro ⟨message, ⟨places, meant, same⟩, steps, extra⟩
    obtain ⟨listed, second, rfl⟩ := Option.map_eq_some_iff.1 ((locations _).2 meant)
    refine ⟨(error.message, listed, error.path, error.extensions, ()), ?_, ?_⟩
    · exact (both_eq_some _ _ _ _).2 ⟨(Shape.take_text _ _).2 message, (both_eq_some _ _ _ _).2
        ⟨second, (both_eq_some _ _ _ _).2 ⟨(path _).2 steps, (both_eq_some _ _ _ _).2
          ⟨(extensions _).2 extra, rfl⟩⟩⟩⟩
    · obtain ⟨message, locations, path, extensions⟩ := error
      cases same
      cases listed <;> rfl

end ServerError

namespace Envelope

theorem isProper_fields : fields.IsProper :=
  ⟨by decide, trivial, by decide, ServerError.isProper_fields, trivial⟩

theorem means_shape : shape.Means ofData Is := by
  refine Shape.means_record "Envelope" fields ofData HasMembers isProper_fields
    ⟨rfl, rfl, trivial⟩ fun members distinct envelope => ?_
  have data := Shape.means_any.take_kept (Keyed.valueAt? members "data")
    fun tree found => (distinct _ _ found).1 rfl
  have errors := (Shape.Means.list ServerError.means_shape).take_optional
    (Keyed.valueAt? members "errors")
    fun tree found => (distinct _ _ found).2.1 rfl
  constructor
  · rintro ⟨⟨content, listed, ⟨⟩⟩, taken, rfl⟩
    obtain ⟨first, rest⟩ := (both_eq_some _ _ _ _).1 taken
    obtain ⟨second, -⟩ := (both_eq_some _ _ _ _).1 rest
    exact ⟨(data _).1 first, (errors _).1 (congrArg (Option.map _) second)⟩
  · rintro ⟨content, meant⟩
    obtain ⟨listed, second, same⟩ := Option.map_eq_some_iff.1 ((errors _).2 meant)
    refine ⟨(envelope.data, listed, ()), ?_, ?_⟩
    · exact (both_eq_some _ _ _ _).2 ⟨(data _).2 content, (both_eq_some _ _ _ _).2 ⟨second, rfl⟩⟩
    · obtain ⟨data, errors⟩ := envelope
      cases same
      rfl

end Envelope

end GraphQuery
