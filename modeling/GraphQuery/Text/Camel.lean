import GraphQuery.Text.Alphanumeric
import GraphQuery.Text.LetterCase

/-
This file turns identifiers into camel case.
-/

namespace GraphQuery.Text

/-- What the letters read since the last boundary say about the next one. -/
inductive Hump where
  | fresh
  | lower
  | upper
deriving DecidableEq

/-- A character without case leaves the state as it is. -/
def Hump.after (hump : Hump) (char : Char) : Hump :=
  if isLowercase char then lower else if isUppercase char then upper else hump

/-- A run of letters and digits is cut before a capital that follows a small letter,
and before the last capital of a row that a small letter follows. -/
def humps : Hump → List Char → List Char → List (List Char)
  | _, _, [] => []
  | _, read, [last] => [(last :: read).reverse]
  | hump, read, char :: next :: rest =>
    if hump.after char = .lower ∧ isUppercase next then
      (char :: read).reverse :: humps .fresh [] (next :: rest)
    else if hump = .upper ∧ isUppercase char ∧ isLowercase next then
      read.reverse :: humps .fresh [char] (next :: rest)
    else humps (hump.after char) (char :: read) (next :: rest)

/-- The runs of letters and digits; runs that touch no letter are empty. -/
def alphanumericRuns : List Char → List (List Char)
  | [] => [[]]
  | char :: rest =>
    if isAlphanumeric char then
      match alphanumericRuns rest with
      | [] => [[char]]
      | first :: others => (char :: first) :: others
    else [] :: alphanumericRuns rest

def words (text : List Char) : List (List Char) :=
  (alphanumericRuns text).flatMap (humps .fresh [])

/-- A capital sigma at the end of a word becomes a final sigma. -/
def lowercaseWord : List Char → List Char
  | [] => []
  | ['Σ'] => ['ς']
  | char :: rest => lowercase char ++ lowercaseWord rest

def capitalizedWord : List Char → List Char
  | [] => []
  | char :: rest => uppercase char ++ lowercaseWord rest

/-- The first word is in small letters, and each later one starts with a capital. -/
def lowerCamel (text : List Char) : List Char :=
  match words text with
  | [] => []
  | first :: rest => lowercaseWord first ++ rest.flatMap capitalizedWord

end GraphQuery.Text
