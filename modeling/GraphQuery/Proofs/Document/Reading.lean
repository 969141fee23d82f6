import GraphQuery.Proofs.Document.Header

/-
This file shows that the reader finds in a document what its operation shows.
-/

namespace GraphQuery

open Text Text.Nesting Outline

/-- A readable property has the shape that compilation gives: no verb and no variables of its own.
Its names are names and its values are lawful, and so are those below it. -/
inductive Property.Readable : Property → Prop
  | intro {aliasName : Option String} {arguments : Option (List Argument)}
      {variableTypes : Option (Keyed String)} {children : Option (List (String × Property))}
      (undeclared : variableTypes.getD [] = [])
      (renamed : ∀ name ∈ aliasName, isName name = true)
      (keys : ∀ argument ∈ arguments.getD [], isName argument.key = true)
      (values : ∀ argument ∈ arguments.getD [], argument.value.Lawful)
      (named : ∀ entry ∈ children.getD [], isName entry.1 = true)
      (below : ∀ entry ∈ children.getD [], Readable entry.2) :
      Readable ⟨aliasName, none, arguments, variableTypes, children⟩

structure Operation.Readable (operation : Operation) : Prop where
  present : operation.children.isSome = true
  renamed : ∀ name ∈ operation.name, isName name = true
  declared : ∀ declaration ∈ operation.variableTypes,
    isName declaration.1 = true ∧ isType declaration.2 = true
  named : ∀ entry ∈ operation.children.getD [], isName entry.1 = true
  below : ∀ entry ∈ operation.children.getD [], entry.2.Readable

namespace Outline

/-- A name is no mark of structure and opens no list of arguments. -/
theorem ofWord_name (name : String) (lawful : isName name = true) :
    Mark.ofWord name.toList = .word name := by
  unfold Mark.ofWord
  split
  · next equal => exact absurd (head_continuesName name lawful equal) (by decide)
  · next equal => exact absurd (head_continuesName name lawful equal) (by decide)
  · next equal => exact absurd (head_continuesName name lawful equal) (by decide)
  · next equal => exact absurd (head_continuesName name lawful equal) (by decide)
  · rw [String.ofList_toList]

theorem solid_argument (argument : Argument) (named : isName argument.key = true)
    (lawful : argument.value.Lawful) : Solid 0 argument.chars := by
  have colon : Solid 0 [':'] := Solid.of_plain _ rfl
  exact Solid.append _ _ (Value.solid_name _ named)
    (Solid.append _ _ colon (Value.solid_chars _ lawful))

/-- A text leads the reader from one selection to another, word by word. -/
def Leads (text : List Char) (before after : List Node) : Prop :=
  ∃ words : List (List Char), text = words.flatMap (· ++ [' ']) ∧ (∀ word ∈ words, Word word) ∧
    ∀ rest around,
      readNodes (words.map Mark.ofWord ++ rest) before around = readNodes rest after around

namespace Leads

theorem nil (nodes : List Node) : Leads [] nodes nodes :=
  ⟨[], rfl, by simp, fun _ _ => rfl⟩

theorem append {text rest : List Char} {before middle after : List Node}
    (first : Leads text before middle) (second : Leads rest middle after) :
    Leads (text ++ rest) before after := by
  obtain ⟨words, rfl, lawful, read⟩ := first
  obtain ⟨others, rfl, lawfulOthers, readOthers⟩ := second
  refine ⟨words ++ others, by rw [List.flatMap_append], ?_, ?_⟩
  · intro word member
    rcases List.mem_append.1 member with early | late
    · exact lawful word early
    · exact lawfulOthers word late
  · intro remaining around
    rw [List.map_append, List.append_assoc, read, readOthers]

theorem key (name : String) (lawful : isName name = true) (current : List Node) :
    Leads (name.toList ++ [' ']) current ({ key := name } :: current) := by
  refine ⟨[name.toList], by simp, ?_, ?_⟩
  · intro word member
    rw [List.mem_singleton.1 member]
    exact word_name name lawful
  · intro rest around
    rw [List.map_singleton, ofWord_name name lawful]
    rfl

theorem colon (name : String) (lawful : isName name = true) (latest : Node)
    (current : List Node) :
    Leads (':' :: ' ' :: name.toList ++ [' ']) (latest :: current)
      ({ latest with aliasName := some name } :: current) := by
  refine ⟨[[':'], name.toList], by simp, ?_, ?_⟩
  · intro word member
    rcases List.mem_cons.1 member with rfl | later
    · exact word_of_unquoted _ (by decide)
    · rw [List.mem_singleton.1 later]
      exact word_name name lawful
  · intro rest around
    rw [List.map_cons, List.map_singleton, ofWord_name name lawful]
    rfl

theorem arguments (given : List Argument) (present : given ≠ [])
    (keys : ∀ argument ∈ given, isName argument.key = true)
    (values : ∀ argument ∈ given, argument.value.Lawful) (latest : Node) (current : List Node) :
    Leads ('(' :: joined [','] (given.map Argument.chars) ++ [')', ' ']) (latest :: current)
      ({ latest with
          arguments := given.map fun argument => (argument.key, argument.value.render) } ::
        current) := by
  have solid : ∀ text ∈ given.map Argument.chars, Solid 0 text := by
    intro text member
    obtain ⟨argument, inside, rfl⟩ := List.mem_map.1 member
    exact solid_argument argument (keys argument inside) (values argument inside)
  have separated := cut_joined (given.map Argument.chars) (by simpa using present) solid
  have found : readArguments (joined [','] (given.map Argument.chars)) =
      given.map fun argument => (argument.key, argument.value.render) := by
    rw [readArguments, separated, List.map_map]
    apply List.map_congr_left
    intro argument inside
    exact readPair_append _ _ (colon_not_mem _ (keys argument inside))
  refine ⟨['(' :: joined [','] (given.map Argument.chars) ++ [')']], by simp, ?_, ?_⟩
  · intro word member
    rw [List.mem_singleton.1 member]
    have inner := joined_closed [','] word_nil Word.append (word_of_unquoted _ (by decide)) _
      fun text member => (solid text member).word
    exact Word.append ['('] _ (word_of_unquoted _ (by decide))
      (Word.append _ [')'] inner (word_of_unquoted _ (by decide)))
  · intro rest around
    have mark : Mark.ofWord ('(' :: joined [','] (given.map Argument.chars) ++ [')']) =
        .arguments (given.map fun argument => (argument.key, argument.value.render)) := by
      rw [← found, List.cons_append, Mark.ofWord_arguments, List.dropLast_concat]
    rw [List.map_singleton, mark]
    rfl

/-- A selection in braces becomes the selection of the latest node. -/
theorem block {text : List Char} {nodes : List Node} (inside : Leads text [] nodes.reverse)
    (latest : Node) (current : List Node) :
    Leads ('{' :: ' ' :: text ++ ['}', ' ']) (latest :: current)
      ({ latest with children := nodes } :: current) := by
  obtain ⟨words, rfl, lawful, read⟩ := inside
  refine ⟨['{'] :: words ++ [['}']], by simp, ?_, ?_⟩
  · intro word member
    rw [List.cons_append, List.mem_cons, List.mem_append, List.mem_singleton] at member
    rcases member with rfl | inner | rfl
    · exact word_of_unquoted _ (by decide)
    · exact lawful word inner
    · exact word_of_unquoted _ (by decide)
  · intro rest around
    have opened := read (.closing :: rest) ((latest :: current) :: around)
    have marks : (['{'] :: words ++ [['}']]).map Mark.ofWord ++ rest =
        .opening :: (words.map Mark.ofWord ++ .closing :: rest) := by
      simp [Mark.ofWord_opening, Mark.ofWord_closing]
    rw [marks, readNodes_opening, opened, readNodes_closing, List.reverse_reverse]

/-- The arguments of a property show as the rendered ones do. -/
theorem argumentsChars (given : List Argument)
    (keys : ∀ argument ∈ given, isName argument.key = true)
    (values : ∀ argument ∈ given, argument.value.Lawful) (key : String)
    (aliasName : Option String) (current : List Node) :
    Leads (Property.argumentsChars given) ({ key, aliasName } :: current)
      ({ key, aliasName,
         arguments := (given.filter Argument.isRendered).map fun argument =>
           (argument.key, argument.value.render) } :: current) := by
  unfold Property.argumentsChars
  cases equal : given.filter Argument.isRendered with
  | nil => exact nil _
  | cons first rest =>
    have inside : ∀ argument ∈ first :: rest, argument ∈ given := by
      intro argument member
      rw [← equal] at member
      exact (List.mem_filter.1 member).1
    exact arguments (first :: rest) (by simp) (fun argument member => keys _ (inside _ member))
      (fun argument member => values _ (inside _ member)) { key, aliasName } current

theorem selectionChars (selection : List (String × Property))
    (each : ∀ entry ∈ selection, ∀ current,
      Leads (entry.2.chars (some entry.1)) current (entry.2.node entry.1 :: current))
    (current : List Node) :
    Leads (Property.selectionChars selection) current
      ((Property.nodes selection).reverse ++ current) := by
  induction selection generalizing current with
  | nil => exact nil current
  | cons entry rest inductionHypothesis =>
    have head := each entry List.mem_cons_self current
    have tail := inductionHypothesis (fun later member => each later (List.mem_cons_of_mem _ member))
      (entry.2.node entry.1 :: current)
    have whole := head.append tail
    rw [Property.nodes_cons, List.reverse_cons, List.append_assoc]
    exact whole

end Leads

/-- The key, the alias and the arguments of a readable property make a node without selection. -/
theorem leads_head {aliasName : Option String} {arguments : Option (List Argument)}
    {variableTypes : Option (Keyed String)} (children : Option (List (String × Property)))
    (undeclared : variableTypes.getD [] = [])
    (renamed : ∀ name ∈ aliasName, isName name = true)
    (keys : ∀ argument ∈ arguments.getD [], isName argument.key = true)
    (values : ∀ argument ∈ arguments.getD [], argument.value.Lawful)
    (key : String) (named : isName key = true) (current : List Node) :
    Leads
      (Property.headChars (some key) ⟨aliasName, none, arguments, variableTypes, children⟩ ++
        Property.argumentsChars (arguments.getD []))
      current
      ({ key, aliasName,
         arguments := ((arguments.getD []).filter Argument.isRendered).map fun argument =>
           (argument.key, argument.value.render) } :: current) := by
  have first := Leads.key key named current
  have second : Leads (Property.aliasChars aliasName) ({ key } :: current)
      ({ key, aliasName } :: current) := by
    cases aliasName with
    | none => exact Leads.nil _
    | some aliasName => exact Leads.colon aliasName (renamed aliasName rfl) { key } current
  have third := Leads.argumentsChars (arguments.getD []) keys values key aliasName current
  have head : Property.headChars (some key)
      ⟨aliasName, none, arguments, variableTypes, children⟩ =
      (key.toList ++ [' ']) ++ Property.aliasChars aliasName := by
    simp [Property.headChars, Property.wordChars, undeclared, Property.declarationsChars]
  rw [head]
  exact (first.append second).append third

/-- A readable property leads the reader to one more node, which is the one that it shows. -/
theorem leads_property (property : Property) (readable : property.Readable) (key : String)
    (named : isName key = true) (current : List Node) :
    Leads (property.chars (some key)) current (property.node key :: current) := by
  induction readable generalizing key current with
  | @intro aliasName arguments variableTypes children undeclared renamed keys values names below
      inductionHypothesis =>
    have head := leads_head children undeclared renamed keys values key named current
    match children with
    | none =>
      rw [Property.chars]
      exact head.append (Leads.nil _)
    | some [] =>
      rw [Property.chars]
      exact head.append (Leads.nil _)
    | some (child :: rest) =>
      have inside := Leads.selectionChars (child :: rest)
        (fun entry member current =>
          inductionHypothesis entry member entry.1 (names entry member) current) []
      rw [List.append_nil] at inside
      rw [Property.chars]
      exact head.append (Leads.block inside _ current)

/-- What precedes the brace of the selection is the verb, the name and the variables. -/
theorem charsAs_eq (operation : Operation) (method : Method) (selection : Selection)
    (inner : List (List Char))
    (equal : Property.selectionChars selection = inner.flatMap (· ++ [' '])) :
    operation.charsAs (some method) selection =
      (method.keyword.toList :: (operation.name.toList.map String.toList ++
        headerChars operation.variableTypes :: (inner ++ [['}']]))).flatMap (· ++ [' ']) := by
  cases named : operation.name <;>
    simp [Operation.charsAs, Operation.headChars, Operation.selectionChars, Property.wordChars,
      headerChars, equal, named]

/-- The last brace ends the reading, and nothing follows it. -/
theorem readNodes_body (inner : List (List Char)) (nodes : List Node)
    (read : ∀ rest around, readNodes (inner.map Mark.ofWord ++ rest) [] around =
      readNodes rest nodes.reverse around) :
    readNodes ((inner ++ [['}'], []]).map Mark.ofWord) [] [] = some nodes := by
  have marks : (inner ++ [['}'], []]).map Mark.ofWord =
      inner.map Mark.ofWord ++ [.closing, .word ""] := by
    simp [Mark.ofWord_closing, Mark.ofWord_nil]
  rw [marks, read, readNodes_end, List.reverse_reverse]

theorem read?_charsAs (operation : Operation) (selection : Selection)
    (present : operation.children = some selection) (readable : operation.Readable)
    (method : Method) :
    read? (String.ofList (operation.charsAs (some method) selection)) =
      some (operation.outline method) := by
  have named := readable.named
  have below := readable.below
  rw [present, Option.getD_some] at named below
  have leads := Leads.selectionChars selection
    (fun entry member => leads_property entry.2 (below entry member) entry.1 (named entry member)) []
  rw [List.append_nil] at leads
  obtain ⟨inner, equal, lawful, read⟩ := leads
  have words : ∀ word ∈ method.keyword.toList :: (operation.name.toList.map String.toList ++
      headerChars operation.variableTypes :: (inner ++ [['}']])), Word word := by
    intro word member
    rw [List.mem_cons, List.mem_append, List.mem_cons, List.mem_append,
      List.mem_singleton] at member
    rcases member with rfl | name | rfl | inside | rfl
    · cases method <;> exact word_of_unquoted _ (by decide)
    · obtain ⟨given, inName, rfl⟩ := List.mem_map.1 name
      exact word_name given (readable.renamed given (by simpa using inName))
    · exact word_header _ readable.declared
    · exact lawful word inside
    · exact word_of_unquoted _ (by decide)
  have head := readHead?_append operation.name readable.renamed operation.variableTypes
    readable.declared (inner ++ [['}'], []])
  have body := readNodes_body inner (Property.nodes selection) read
  have method? := readMethod?_keyword method
  rw [read?, String.toList_ofList, charsAs_eq operation method selection inner equal,
    cut_words _ words]
  simp only [List.cons_append, List.append_assoc, List.nil_append, method?, head, body,
    Option.bind_eq_bind, Option.bind_some, Operation.outline, present, Option.getD_some]
  rfl

end Outline

/-- The reader finds in the document of a readable operation exactly what the operation shows, so
operations that show different things have different documents. -/
theorem Operation.read_renderAs (operation : Operation) (readable : operation.Readable)
    (method : Method) :
    ∃ document, operation.renderAs (some method) = .ok document ∧
      Outline.read? document = some (operation.outline method) ∧
      ∀ (other : Operation) (otherMethod : Method), other.Readable →
        other.renderAs (some otherMethod) = .ok document →
        other.outline otherMethod = operation.outline method := by
  have found (given : Operation) (verb : Method) (lawful : given.Readable) :
      ∃ document, given.renderAs (some verb) = .ok document ∧
        Outline.read? document = some (given.outline verb) := by
    obtain ⟨selection, present⟩ := Option.isSome_iff_exists.1 lawful.present
    refine ⟨String.ofList (given.charsAs (some verb) selection), ?_, ?_⟩
    · rw [Operation.renderAs, present]
    · exact Outline.read?_charsAs given selection present lawful verb
  obtain ⟨document, rendered, read⟩ := found operation method readable
  refine ⟨document, rendered, read, ?_⟩
  intro other otherMethod lawful same
  obtain ⟨text, otherRendered, otherRead⟩ := found other otherMethod lawful
  rw [same] at otherRendered
  cases otherRendered
  rw [read] at otherRead
  exact (Option.some.inj otherRead).symm

namespace Operation

/-- This operation has an alias, a left out argument, separators in a string and empty lists. -/
def search : Operation :=
  { name := some "Search"
    variableTypes := [("ids", "[ID!]!"), ("text", "String")]
    children := some
      [("user",
        { Property.leaf with
          aliasName := some "person"
          arguments := some
            [⟨"name", .text "a \" ,)\x7b", false⟩, ⟨"limit", .null, true⟩,
              ⟨"filter", .object [("ids", .list [.reference "ids", .symbol "NEW"])], false⟩]
          children := some
            [("id", .leaf), ("tags", { Property.leaf with arguments := some [], children := some [] })] }),
        ("total", .leaf)] }

theorem search_readable : search.Readable where
  present := rfl
  renamed := by decide
  declared := by decide
  named := by decide
  below := by
    have leaf : Property.leaf.Readable :=
      .intro rfl (by decide) (by decide) (by simp) (by decide) (by simp)
    have empty : Property.Readable
        { Property.leaf with arguments := some [], children := some [] } :=
      .intro rfl (by decide) (by decide) (by simp) (by decide) (by simp)
    have items : Value.Lawful (.list [.reference "ids", .symbol "NEW"]) :=
      .list _ (by simpa using ⟨.reference _ (by decide), .symbol _ (by decide)⟩)
    have filter : Value.Lawful (.object [("ids", .list [.reference "ids", .symbol "NEW"])]) :=
      .object _ (by decide) (by simpa using items)
    have text : Value.Lawful (.text "a \" ,)\x7b") := .text _ (by decide)
    have user : Property.Readable
        ⟨some "person", none, some
          [⟨"name", .text "a \" ,)\x7b", false⟩, ⟨"limit", .null, true⟩,
            ⟨"filter", .object [("ids", .list [.reference "ids", .symbol "NEW"])], false⟩],
          none, some
          [("id", .leaf), ("tags", { Property.leaf with arguments := some [], children := some [] })]⟩ :=
      .intro rfl (by decide) (by decide) (by simpa using ⟨text, .null, filter⟩) (by decide)
        (by simpa using ⟨leaf, empty⟩)
    simpa [search] using ⟨user, leaf⟩

theorem read_renderAs_search :
    search.Readable ∧ ∃ document, search.renderAs (some .mutation) = .ok document ∧
      Outline.read? document = some (search.outline .mutation) ∧
      ∀ (other : Operation) (otherMethod : Method), other.Readable →
        other.renderAs (some otherMethod) = .ok document →
        other.outline otherMethod = search.outline .mutation :=
  ⟨search_readable, read_renderAs search search_readable .mutation⟩

end Operation

end GraphQuery
