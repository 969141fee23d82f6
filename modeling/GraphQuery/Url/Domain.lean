import GraphQuery.Text.Composition
import GraphQuery.Text.Direction
import GraphQuery.Text.Joining
import GraphQuery.Text.Punycode
import GraphQuery.Url.Domain.Mapping

/-
This file writes the names of hosts in ASCII characters.
-/

namespace GraphQuery.Url.Domain

def isAscii (text : List Char) : Bool := text.all (·.toNat < 0x80)

/-- The mark of a label that is written in Punycode. -/
def punycodeMark : List Char := "xn--".toList

/-- Longer labels are not read from Punycode. -/
def writtenLimit : Nat := 2000

/-- Longer labels are not written in Punycode. -/
def labelLimit : Nat := 1000

/-- The label that a text in Punycode stands for; it has to be in its final form. -/
def decodeLabel? (written : List Char) : Option (List Char) := do
  if written.getLast?.getD '-' = '-' ∨ !isAscii written ∨ writtenLimit < written.length then none
  else
    let label ← Text.Punycode.decode? written
    if label.all isStable ∧ Text.Composition.composed label = label ∧
        !punycodeMark.isPrefixOf label then return label
    else none

/-- A label does not start with a mark, its joiners have an effect, and it is not too long. -/
def isSound (label : List Char) : Bool :=
  isAscii label ||
    !(label.head?.map Text.isMark).getD false && Text.Joining.isSound [] label &&
      label.length ≤ labelLimit

/-- The label that a text stands for. -/
def readLabel? (text : List Char) : Option (List Char) := do
  let label ←
    if punycodeMark.isPrefixOf text then decodeLabel? (text.drop punycodeMark.length)
    else some text
  if isSound label then return label else none

/-- Once a character asks for it, the order of the characters matters in all labels. -/
def areOrdered (labels : List (List Char)) : Bool :=
  let directions := labels.map (·.map Text.Direction.ofChar)
  !directions.any (·.any Text.Direction.isFromRight) || directions.all Text.Direction.isOrdered

/-- The labels of a name between its dots. -/
def labels? (name : List Char) : Option (List (List Char)) := do
  let mapped := (← name.mapM mapped?).flatten
  let labels ← (Text.pieces '.' (Text.Composition.composed mapped)).mapM readLabel?
  if areOrdered labels then return labels else none

/-- A label with characters beyond ASCII is written in Punycode. -/
def writeLabel (label : List Char) : List Char :=
  if isAscii label then label else punycodeMark ++ Text.Punycode.encode label

/-- These ASCII characters never stand in a name. -/
def isDenied (char : Char) : Bool :=
  char.toNat ≤ 0x20 || char.toNat = 0x7F ||
    char ∈ ['#', '%', '/', ':', '<', '>', '?', '@', '[', '\\', ']', '^', '|']

/-- The written form of a name. -/
def ascii? (name : List Char) : Option (List Char) := do
  let ascii := Text.joined ['.'] ((← labels? name).map writeLabel)
  if ascii.any isDenied then none else return ascii

end GraphQuery.Url.Domain
