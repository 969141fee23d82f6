import GraphQuery.Keyed

/-
This file holds the headers of messages.
-/

namespace GraphQuery.Http

/-- Headers are listed in their order; a name may occur more than once. -/
abbrev Headers := List (String × String)

namespace Header

/-- The characters of a token. -/
def isTokenChar (char : Char) : Bool :=
  char.isAlphanum ||
    char ∈ ['!', '#', '$', '%', '&', '\'', '*', '+', '-', '.', '^', '_', Char.ofNat 0x60, '|', '~']

def isValidName (name : String) : Bool := !name.isEmpty && name.toList.all isTokenChar

/-- The tab is the only control character that a value may hold. -/
def isValueChar (char : Char) : Bool :=
  char == '\t' || (0x20 ≤ char.toNat && char.toNat ≠ 0x7F)

def isValidValue (value : String) : Bool := value.toList.all isValueChar

def isValid (header : String × String) : Bool := isValidName header.1 && isValidValue header.2

/-- Names are compared ignoring case, and so they are kept in small letters. -/
def canonicalName (name : String) : String := String.ofList (name.toList.map Char.toLower)

def canonical (header : String × String) : String × String := (canonicalName header.1, header.2)

/-- Blanks around a value do not belong to it. -/
def trimValue (value : String) : String :=
  let isBlank (char : Char) : Bool := char == ' ' || char == '\t'
  String.ofList ((value.toList.dropWhile isBlank).reverse.dropWhile isBlank).reverse

/-- Only values in visible ASCII characters are read. -/
def isReadable (value : String) : Bool :=
  value.toList.all fun char => char == '\t' || (0x20 ≤ char.toNat && char.toNat < 0x7F)

end Header

namespace Headers

def contains (headers : Headers) (name : String) : Bool := headers.any (·.1 == name)

/-- The values that headers give for a name, in their order. -/
def values (headers : Headers) (name : String) : List String :=
  (headers.filter (·.1 == name)).map Prod.snd

/-- Defaults are used only for names that are not given. -/
def withDefaults (headers defaults : Headers) : Headers :=
  headers ++ defaults.filter fun header => !headers.contains header.1

/-- The headers of a reply by their names; the last readable value of a name counts. -/
def received (headers : Headers) : Keyed String :=
  Keyed.ofPairs ((headers.map fun header =>
    (Header.canonicalName header.1, Header.trimValue header.2)).filter (Header.isReadable ·.2))

end Headers

end GraphQuery.Http
