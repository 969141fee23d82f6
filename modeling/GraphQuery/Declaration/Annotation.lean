/-
This file holds the annotations of declarations and what can be wrong with them.
-/

namespace GraphQuery.Declaration

/-- A literal that is neither a text nor a flag fits nowhere. -/
inductive Literal where
  | text (content : String)
  | flag (value : Bool)
  | other
deriving DecidableEq, Repr

/-- An entry of an annotation list starts with a name; anything else in its place is a fault. -/
inductive Key where
  | name (name : String)
  | literal
  | symbol
deriving DecidableEq, Repr

/-- An annotation is a key with nothing, a literal or a list of annotations after it.
What else may follow a key belongs to no annotation. -/
inductive Annotation where
  | bare (key : Key)
  | assigned (key : Key) (value : Literal)
  | group (key : Key) (entries : List Annotation)
  | followed (key : Key)

def Annotation.key : Annotation → Key
  | bare key => key
  | assigned key _ => key
  | group key _ => key
  | followed key => key

/-- A list of annotations admits the names of its owner. -/
inductive Owner where
  | type
  | field
  | argument
  | arguments
  | variableEntry
  | variableList
  | property
  | operation
deriving DecidableEq, Repr

/-- What is said of a name that the owner does not admit. -/
def Owner.refusal : Owner → String
  | type => "expected `property(...)` or `operation(...)`"
  | field => "unsupported graphql field attribute"
  | argument => "expected one of `name`, `value`, `kind`, `optional`, `variable`"
  | arguments => "expected `argument(...)`"
  | variableEntry => "expected `name` or `scalar`"
  | variableList => "expected `variable(...)`"
  | property => "expected `name` or `argument(...)`"
  | operation => "expected one of `name`, `method`, `variable`, `variables`, `property`"

def Owner.name : Owner → String
  | type => "type"
  | field => "field"
  | argument => "argument"
  | arguments => "arguments"
  | variableEntry => "variable"
  | variableList => "variables"
  | property => "property"
  | operation => "operation"

/-- These are the faults of a declaration. -/
inductive Fault where
  | unnamedFields
  | noStruct
  | bareAttribute
  | assignedAttribute
  | literalKey
  | symbolKey
  | unknownName (owner : Owner)
  | missing (owner : Owner) (member : String)
  | repeated (owner : Owner)
  | unknownKind (word : String)
  | unknownMethod (word : String)
  | expectedAssignment
  | expectedText
  | expectedFlag
  | expectedGroup
  | endBeforeGroup
  | emptyGroup
  | expectedSeparator
deriving DecidableEq, Repr

def Fault.message : Fault → String
  | unnamedFields => "GraphQLObject can only be derived on structs with named fields"
  | noStruct => "GraphQLObject can only be derived on structs; use GraphQLScalar for enums"
  | bareAttribute => "expected attribute arguments in parentheses: #[graphql(...)]"
  | assignedAttribute => "expected parentheses: #[graphql(...)]"
  | literalKey => "unexpected literal in nested attribute, expected ident"
  | symbolKey => "unexpected token in nested attribute, expected ident"
  | unknownName owner => owner.refusal
  | missing owner member => owner.name ++ " requires `" ++ member ++ " = \"...\"`"
  | repeated owner =>
    "duplicate `" ++ owner.name ++ "`; use `" ++ owner.name ++ "s(...)` to declare several"
  | unknownKind word =>
    "unknown argument kind `" ++ word ++ "`, expected Boolean, Integer, Float or String"
  | unknownMethod word => "unknown method `" ++ word ++ "`, expected query or mutation"
  | expectedAssignment => "expected `=`"
  | expectedText => "expected string literal"
  | expectedFlag => "expected boolean literal"
  | expectedGroup => "expected parentheses"
  | endBeforeGroup => "unexpected end of input, expected parentheses"
  | emptyGroup => "unexpected end of input, expected nested attribute"
  | expectedSeparator => "expected `,`"

namespace Annotation

/-- The text that is assigned to a name. -/
def text : Annotation → Except Fault String
  | assigned _ (.text content) => .ok content
  | assigned _ _ => .error .expectedText
  | _ => .error .expectedAssignment

/-- A bare name sets its flag, and an assigned one takes the given value. -/
def flag : Annotation → Except Fault Bool
  | bare _ => .ok true
  | assigned _ (.flag value) => .ok value
  | assigned _ _ => .error .expectedFlag
  | group _ _ | followed _ => .error .expectedSeparator

/-- The entries of a list that must not be empty.
The flag `last` says that nothing follows the annotation. -/
def entries (last : Bool) : Annotation → Except Fault (List Annotation)
  | group _ [] => .error .emptyGroup
  | group _ (first :: rest) => .ok (first :: rest)
  | bare _ => .error (if last then .endBeforeGroup else .expectedGroup)
  | assigned _ _ | followed _ => .error .expectedGroup

/-- The entries change a state one after another.
A step gets the name of an entry, the entry and whether it is the last one. -/
def readEntries {State : Type} (step : State → String → Bool → Annotation → Except Fault State) :
    State → List Annotation → Except Fault State
  | state, [] => .ok state
  | state, entry :: rest =>
    match entry.key with
    | .literal => .error .literalKey
    | .symbol => .error .symbolKey
    | .name name => do
      let next ← step state name rest.isEmpty entry
      readEntries step next rest

end Annotation

end GraphQuery.Declaration
