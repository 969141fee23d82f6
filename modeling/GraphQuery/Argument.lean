import GraphQuery.Argument.Kind
import GraphQuery.Value.Literal

/-
This file holds the arguments of a field.
-/

namespace GraphQuery

/-- An optional argument is left out of the document while its value is null. -/
structure Argument where
  key : String
  value : Value
  optional : Bool
deriving Inhabited

namespace Argument

/-- The argument `key:$name` is never optional. -/
def bound (key name : String) : Argument := ⟨key, .reference name, false⟩

def isRendered (argument : Argument) : Bool := !(argument.optional && argument.value.isNull)

def chars (argument : Argument) : List Char :=
  argument.key.toList ++ ':' :: argument.value.chars

def render (argument : Argument) : String := String.ofList argument.chars

/-- Keys are compared ignoring the case of ASCII letters. -/
def sameKey (first second : String) : Bool :=
  first.toList.map Char.toLower == second.toList.map Char.toLower

/-- The value of the first argument with the given key is replaced; `none` means no such key. -/
def assign? : List Argument → String → Value → Option (List Argument)
  | [], _, _ => none
  | declared :: rest, key, value =>
    if sameKey declared.key key then some ({ declared with value } :: rest)
    else (assign? rest key value).map (declared :: ·)

/-- The given values are assigned in order up to the first unknown key, which is returned. -/
def assignAll : List Argument → List Argument → List Argument × Option String
  | declared, [] => (declared, none)
  | declared, given :: rest =>
    match assign? declared given.key given.value with
    | some updated => assignAll updated rest
    | none => (declared, some given.key)

end Argument

end GraphQuery
