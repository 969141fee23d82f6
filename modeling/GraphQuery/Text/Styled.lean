import GraphQuery.Text.ControlSequence

/-
This file holds texts with emphasis.
-/

namespace GraphQuery.Text

inductive Emphasis where
  | alarm
  | literal
  | fault
deriving DecidableEq, Repr

structure Span where
  content : String
  emphasis : Option Emphasis
deriving DecidableEq, Repr

/-- An escape and the numbers of an appearance. -/
def appearance (numbers : String) : String := "\x1b[" ++ numbers ++ "m"

/-- An alarm is bold and red, a literal is bold and a fault is yellow. -/
def Emphasis.start : Emphasis → String
  | alarm => appearance "1" ++ appearance "31"
  | literal => appearance "1"
  | fault => appearance "33"

namespace Span

def plain (content : String) : Span := ⟨content, none⟩

def literal (content : String) : Span := ⟨content, some .literal⟩

def fault (content : String) : Span := ⟨content, some .fault⟩

def alarm (content : String) : Span := ⟨content, some .alarm⟩

/-- An emphasis is taken back behind its content. -/
def render (span : Span) : String :=
  match span.emphasis with
  | none => span.content
  | some emphasis => emphasis.start ++ span.content ++ appearance "0"

end Span

/-- What is left of the text where nothing can be emphasized. -/
def unstyled (spans : List Span) : String :=
  String.ofList (visible (String.join (spans.map Span.render)).toList)

end GraphQuery.Text
