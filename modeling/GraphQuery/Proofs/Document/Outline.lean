import GraphQuery.Operation
import GraphQuery.Proofs.Text.Nesting

/-
This file holds what a document shows and a reader that finds it.
-/

namespace GraphQuery

/-- A node shows a property: its key, its alias, the literals of its arguments and its selection. -/
structure Node where
  key : String
  aliasName : Option String := none
  arguments : List (String × String) := []
  children : List Node := []
deriving Inhabited

/-- An outline shows an operation. -/
structure Outline where
  method : Method
  name : Option String
  variableTypes : List (String × String)
  nodes : List Node

mutual

/-- An argument shows unless it is optional and null; no list is like an empty one. -/
def Property.node (key : String) : Property → Node
  | ⟨aliasName, _, arguments, _, children⟩ =>
    { key
      aliasName
      arguments := ((arguments.getD []).filter fun argument =>
        !(argument.optional && argument.value.isNull)).map fun argument =>
          (argument.key, argument.value.render)
      children := match children with
        | none => []
        | some selection => Property.nodes selection }

def Property.nodes : List (String × Property) → List Node
  | [] => []
  | (key, child) :: rest => child.node key :: Property.nodes rest

end

theorem Property.nodes_cons (key : String) (child : Property) (rest : List (String × Property)) :
    Property.nodes ((key, child) :: rest) = child.node key :: Property.nodes rest :=
  rfl

def Operation.outline (operation : Operation) (method : Method) : Outline :=
  ⟨method, operation.name, operation.variableTypes, Property.nodes (operation.children.getD [])⟩

namespace Outline

open Text Text.Nesting

/-- A key and a text stand on the two sides of the first colon. -/
def readPair (text : List Char) : String × String :=
  (String.ofList (text.takeWhile (· != ':')), String.ofList (text.dropWhile (· != ':')).tail)

/-- The arguments between two parentheses. -/
def readArguments (text : List Char) : List (String × String) :=
  (cut commas (.bare 0) text).map readPair

/-- The declared variables between two parentheses; each name follows a dollar sign. -/
def readDeclarations (text : List Char) : List (String × String) :=
  (pieces ',' text).map fun declaration => readPair declaration.tail

/-- The words of a document are marks of its structure, lists of arguments or names. -/
inductive Mark where
  | opening
  | closing
  | colon
  | arguments (given : List (String × String))
  | word (content : String)

def Mark.ofWord : List Char → Mark
  | ['{'] => .opening
  | ['}'] => .closing
  | [':'] => .colon
  | '(' :: inside => .arguments (readArguments inside.dropLast)
  | content => .word (String.ofList content)

/-- The nodes of the current selection and of each one around it stand with the latest first.
The text ends with the brace that closes the outermost selection and a blank. -/
def readNodes : List Mark → List Node → List (List Node) → Option (List Node)
  | .word key :: rest, current, around => readNodes rest ({ key } :: current) around
  | .colon :: .word aliasName :: rest, latest :: current, around =>
    readNodes rest ({ latest with aliasName := some aliasName } :: current) around
  | .arguments given :: rest, latest :: current, around =>
    readNodes rest ({ latest with arguments := given } :: current) around
  | .opening :: rest, current, around => readNodes rest [] (current :: around)
  | .closing :: rest, current, (parent :: before) :: around =>
    readNodes rest ({ parent with children := current.reverse } :: before) around
  | [.closing, .word ""], current, [] => some current.reverse
  | _, _, _ => none

section Equations

variable (rest : List Mark) (current before : List Node) (around : List (List Node))

theorem readNodes_opening :
    readNodes (.opening :: rest) current around = readNodes rest [] (current :: around) :=
  rfl

theorem readNodes_closing (parent : Node) :
    readNodes (.closing :: rest) current ((parent :: before) :: around) =
      readNodes rest ({ parent with children := current.reverse } :: before) around :=
  rfl

theorem readNodes_end : readNodes [.closing, .word ""] current [] = some current.reverse := rfl

theorem Mark.ofWord_opening : ofWord ['{'] = .opening := rfl

theorem Mark.ofWord_closing : ofWord ['}'] = .closing := rfl

theorem Mark.ofWord_nil : ofWord [] = .word "" := rfl

theorem Mark.ofWord_arguments (inside : List Char) :
    ofWord ('(' :: inside) = .arguments (readArguments inside.dropLast) :=
  rfl

end Equations

def readMethod? (word : List Char) : Option Method :=
  [Method.query, Method.mutation].find? fun method => method.keyword.toList == word

/-- The variables are declared before the brace that opens the selection. -/
def readHeader? : List Char → Option (List (String × String))
  | ['{'] => some []
  | '(' :: inside => some (readDeclarations inside.dropLast.dropLast)
  | _ => none

/-- The name, the declared variables and the words of the selection. -/
def readHead? : List (List Char) → Option (Option String × List (String × String) × List (List Char))
  | [] => none
  | first :: rest =>
    match readHeader? first, rest with
    | some types, body => some (none, types, body)
    | none, header :: body =>
      (readHeader? header).map fun types => (some (String.ofList first), types, body)
    | none, [] => none

/-- This function reads a document that starts with its verb. -/
def read? (document : String) : Option Outline :=
  match cut blanks (.bare 0) document.toList with
  | [] => none
  | verb :: words => do
    let method ← readMethod? verb
    let (name, variableTypes, body) ← readHead? words
    let nodes ← readNodes (body.map Mark.ofWord) [] []
    return ⟨method, name, variableTypes, nodes⟩

end Outline

end GraphQuery
