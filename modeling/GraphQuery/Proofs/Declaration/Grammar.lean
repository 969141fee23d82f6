import GraphQuery.Declaration

/-
This file holds the grammar of attributes.
-/

namespace GraphQuery.Declaration

/-- These are the forms that an entry can have to take behind its name. -/
inductive Form where
  | text
  | kind
  | method
  | flag
  | list (owner : Owner)
  /-- A property is a text or a list. -/
  | property
deriving DecidableEq, Repr

/-- The names that an owner admits, each with the form of its entry. -/
def Owner.forms : Owner → Keyed Form
  | type => [("property", .property), ("operation", .list .operation)]
  | field =>
    [("rename", .text), ("property", .property), ("arguments", .list .arguments),
      ("argument", .list .argument), ("variables", .list .variableList),
      ("variable", .list .variableEntry), ("ignore", .flag), ("scalar", .flag),
      ("flatten", .flag)]
  | argument =>
    [("name", .text), ("value", .text), ("kind", .kind), ("optional", .flag), ("variable", .text)]
  | arguments => [("argument", .list .argument)]
  | variableEntry => [("name", .text), ("scalar", .text)]
  | variableList => [("variable", .list .variableEntry)]
  | property => [("name", .text), ("argument", .list .argument)]
  | operation =>
    [("name", .text), ("method", .method), ("variable", .list .variableEntry),
      ("variables", .list .variableList), ("property", .property)]

/-- The names that a list of an owner has to contain. -/
def Owner.required : Owner → List String
  | argument | property | operation => ["name"]
  | variableEntry => ["name", "scalar"]
  | type | field | arguments | variableList => []

/-- The names that may occur only once, and what they name. -/
def Owner.single : Owner → Keyed Owner
  | field => [("argument", .argument), ("variable", .variableEntry)]
  | _ => []

def kindWords : List String := ["boolean", "bool", "integer", "int", "float", "string"]

def methodWords : List String := ["query", "mutation", "mutate"]

/-- No name occurs again, here or after the earlier keys, that the owner admits only once. -/
def Owner.Unrepeated (owner : Owner) (earlier keys : List Key) : Prop :=
  ∀ name ∈ Keyed.keys owner.single,
    keys.count (.name name) ≤ if Key.name name ∈ earlier then 0 else 1

mutual

/-- An annotation fits a form if all that it holds does. -/
inductive Fits : Form → Annotation → Prop
  | text (key : Key) (content : String) : Fits .text (.assigned key (.text content))
  | kind (key : Key) (word : String) (known : lowered word ∈ kindWords) :
    Fits .kind (.assigned key (.text word))
  | method (key : Key) (word : String) (known : lowered word ∈ methodWords) :
    Fits .method (.assigned key (.text word))
  | bareFlag (key : Key) : Fits .flag (.bare key)
  | setFlag (key : Key) (value : Bool) : Fits .flag (.assigned key (.flag value))
  | list (owner : Owner) (key : Key) (entries : List Annotation) (present : entries ≠ [])
      (each : ∀ entry ∈ entries, Admitted owner entry)
      (unrepeated : owner.Unrepeated [] (entries.map Annotation.key))
      (complete : ∀ name ∈ owner.required, Key.name name ∈ entries.map Annotation.key) :
    Fits (.list owner) (.group key entries)
  | propertyName (key : Key) (content : String) :
    Fits .property (.assigned key (.text content))
  | propertyList (key : Key) (entries : List Annotation)
      (list : Fits (.list .property) (.group key entries)) : Fits .property (.group key entries)

/-- An owner admits the entries whose names it knows and whose forms they have. -/
inductive Admitted : Owner → Annotation → Prop
  | entry (owner : Owner) (entry : Annotation) (name : String) (form : Form)
      (named : entry.key = .name name) (known : Keyed.valueAt? owner.forms name = some form)
      (fits : Fits form entry) : Admitted owner entry

end

/-- The entries that the attributes list together. -/
def listed (attributes : List Annotation) : List Annotation :=
  attributes.flatMap fun annotation =>
    match annotation with
    | .group key entries => if key = .name attributeName then entries else []
    | _ => []

/-- Attributes follow the grammar if they are lists of admitted entries, and no entry occurs again
in any of them that may occur only once. -/
structure Follow (owner : Owner) (attributes : List Annotation) : Prop where
  grouped : ∀ annotation ∈ attributes, annotation.key = .name attributeName →
    ∃ key entries, annotation = .group key entries
  admitted : ∀ entry ∈ listed attributes, Admitted owner entry
  unrepeated : owner.Unrepeated [] ((listed attributes).map Annotation.key)

variable {Kind : Type}

/-- A grammatical declaration has named fields, and all attributes follow the grammar. -/
structure IsGrammatical (declaration : Declaration Kind) : Prop where
  named : declaration.form = .namedFields
  type : Follow .type declaration.attributes
  fields : ∀ field ∈ declaration.fields, Follow .field field.attributes

end GraphQuery.Declaration
