import GraphQuery.Text.Utf8

/-
This file holds places in a JSON text.
-/

namespace GraphQuery.Json

/-- Lines count from one, and a column counts the bytes of its line that lie before. -/
structure Position where
  line : Nat
  column : Nat
deriving DecidableEq, Repr, Inhabited

namespace Position

def start : Position := ⟨1, 0⟩

def after (position : Position) (byte : UInt8) : Position :=
  if byte = 0x0A then ⟨position.line + 1, 0⟩ else ⟨position.line, position.column + 1⟩

/-- The position so many bytes earlier on the same line. -/
def before (position : Position) (count : Nat) : Position :=
  ⟨position.line, position.column - count⟩

end Position

/-- A cursor holds the bytes that are left and the position of the first of them. -/
structure Cursor where
  rest : List UInt8
  position : Position
deriving Inhabited

namespace Cursor

def ofBytes (bytes : List UInt8) : Cursor := ⟨bytes, .start⟩

def peek? (cursor : Cursor) : Option UInt8 := cursor.rest.head?

/-- The cursor after one more byte; at the end it stays. -/
def next (cursor : Cursor) : Cursor :=
  match cursor.rest with
  | [] => cursor
  | byte :: rest => ⟨rest, cursor.position.after byte⟩

/-- The position after the byte that is looked at. -/
def ahead (cursor : Cursor) : Position := cursor.next.position

def skip (cursor : Cursor) : Nat → Cursor
  | 0 => cursor
  | count + 1 => cursor.next.skip count

def isBlank (byte : UInt8) : Bool := byte == 0x20 || byte == 0x0A || byte == 0x09 || byte == 0x0D

/-- The bytes up to the first one outside the class, and the cursor there. -/
def span (accepts : UInt8 → Bool) (cursor : Cursor) : List UInt8 × Cursor :=
  go cursor.rest cursor.position
where
  go : List UInt8 → Position → List UInt8 × Cursor
    | [], position => ([], ⟨[], position⟩)
    | byte :: rest, position =>
      if accepts byte then
        let (taken, stop) := go rest (position.after byte)
        (byte :: taken, stop)
      else ([], ⟨byte :: rest, position⟩)

def skipBlanks (cursor : Cursor) : Cursor := (cursor.span isBlank).2

end Cursor

end GraphQuery.Json
