import GraphQuery.Text.CodeSpan
import GraphQuery.Url.Domain.Table

/-
This file maps the characters of a host to those in which hosts are compared.
-/

namespace GraphQuery.Url.Domain

/-- What becomes of the characters of a span; `none` forbids them. -/
structure Mapping where
  span : Text.CodeSpan
  targets : Option (List Nat)
  /-- The targets move along with the character. -/
  moving : Bool

def Mapping.read (word : List Char) : Mapping :=
  let (span, rest) := Text.CodeSpan.read word
  let codes (targets : List Char) : List Nat :=
    if targets.isEmpty then [] else (Text.pieces '.' targets).map Text.Hexadecimal.number
  match rest with
  | '=' :: targets => ⟨span, some (codes targets), false⟩
  | '+' :: targets => ⟨span, some (codes targets), true⟩
  | _ => ⟨span, none, false⟩

def Mapping.image? (mapping : Mapping) (code : Nat) : Option (List Nat) :=
  let distance := if mapping.moving then code - mapping.span.first else 0
  mapping.targets.map (·.map (· + distance))

def mappings : List Mapping := (Text.CodeSpan.tableWords mappingTable).map Mapping.read

/-- The characters that stand for a character in a host; `none` means that it is forbidden.
Letters are small, and most characters beyond the table stand for themselves. -/
def mapped? (char : Char) : Option (List Char) :=
  if char.toNat < 0x80 then some [char.toLower]
  else match mappings.find? (·.span.contains char.toNat) with
    | some mapping => (mapping.image? char.toNat).map (·.map Char.ofNat)
    | none => some [char]

/-- A character that stands for itself. -/
def isStable (char : Char) : Bool := mapped? char == some [char]

end GraphQuery.Url.Domain
