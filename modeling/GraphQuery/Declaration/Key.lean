import GraphQuery.Declaration.Annotation
import GraphQuery.Text.Alphanumeric
import GraphQuery.Text.Blank

/-
This file reads the keys of annotations.
-/

namespace GraphQuery.Declaration.Key

/-- An identifier goes on with these. -/
def isWordChar (char : Char) : Bool := char == '_' || Text.isAlphanumeric char

def isWordStart (char : Char) : Bool := isWordChar char && !char.isDigit

def skipBlanks (text : List Char) : List Char := text.dropWhile Text.isBlank

/-- Whether these letters and the text behind them start a quoted literal. -/
def startsQuoted (letters rest : List Char) : Bool :=
  match letters with
  | ['b'] => rest.head? == some '"' || rest.head? == some '\''
  | ['c'] => rest.head? == some '"'
  | ['r'] | ['b', 'r'] | ['c', 'r'] => (rest.dropWhile (· == '#')).head? == some '"'
  | _ => false

/-- A number may have a sign, a character stands between apostrophes and a text between quotes. -/
def startsLiteral (text : List Char) : Bool :=
  match text with
  | '"' :: _ | '\'' :: '\\' :: _ | '\'' :: _ :: '\'' :: _ => true
  | '-' :: rest => ((skipBlanks rest).head?.map Char.isDigit).getD false
  | first :: _ =>
    first.isDigit || startsQuoted (text.takeWhile isWordChar) (text.dropWhile isWordChar)
  | [] => false

/-- The identifier at the start of a text and what follows it; a mark may come before its word. -/
def word? (text : List Char) : Option (List Char × List Char) :=
  let (mark, rest) := match text with
    | 'r' :: '#' :: rest => (['r', '#'], rest)
    | _ => ([], text)
  if (rest.head?.map isWordStart).getD false then
    some (mark ++ rest.takeWhile isWordChar, rest.dropWhile isWordChar)
  else none

/-- The rest of a path, whose words are joined by double colons; `budget` bounds their number. -/
def pathFrom : (budget : Nat) → List Char → List Char → List Char × List Char
  | 0, path, rest => (path, rest)
  | budget + 1, path, rest =>
    match skipBlanks rest with
    | ':' :: ':' :: after =>
      match word? (skipBlanks after) with
      | some (word, last) => pathFrom budget (path ++ [':', ':'] ++ word) last
      | none => (path, rest)
    | _ => (path, rest)

/-- The key at the start of a text and whether more than blanks follow it. -/
def read (text : String) : Key × Bool :=
  let start := skipBlanks text.toList
  let (joint, rest) := match start with
    | ':' :: ':' :: rest => ([':', ':'], skipBlanks rest)
    | _ => ([], start)
  if startsLiteral rest then (.literal, false)
  else match word? rest with
    | none => (.symbol, false)
    | some (word, after) =>
      let (path, last) := pathFrom after.length (joint ++ word) after
      (.name (String.ofList path), !(skipBlanks last).isEmpty)

end GraphQuery.Declaration.Key
