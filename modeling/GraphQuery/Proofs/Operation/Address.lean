import GraphQuery.Proofs.Keyed
import GraphQuery.Proofs.Operation.Context

/-
This file shows which property a dotted path names.
-/

namespace GraphQuery

/-- A key can stand between the dots of a path if it is not empty and has no dot. -/
def IsSegment (key : String) : Prop := key ≠ "" ∧ '.' ∉ key.toList

instance (key : String) : Decidable (IsSegment key) :=
  inferInstanceAs (Decidable (key ≠ "" ∧ '.' ∉ key.toList))

/-- The path that names a chain of keys. -/
def dotted (chain : List String) : String := Text.joinedStrings "." chain

/-- A path is gapped if it has other characters than dots and an empty segment. -/
structure IsGapped (path : String) : Prop where
  named : ∃ char ∈ path.toList, char ≠ '.'
  gap : ['.'] <+: path.toList ∨ ['.'] <:+ path.toList ∨ ['.', '.'] <:+: path.toList

namespace Selection

/-- A chain of keys reaches a property through the children of those before it. -/
inductive Reaches : Selection → List String → Property → Prop
  | here (selection : Selection) (key : String) (property : Property)
      (present : Keyed.valueAt? selection key = some property) :
    Reaches selection [key] property
  | within (selection children : Selection) (key : String) (parent property : Property)
      (chain : List String) (present : Keyed.valueAt? selection key = some parent)
      (inner : parent.children = some children) (rest : Reaches children chain property) :
    Reaches selection (key :: chain) property

/-- A selection is addressable if the keys of all its properties are segments, at every depth. -/
inductive Addressable : Selection → Prop
  | intro (selection : Selection) (segments : ∀ entry ∈ selection, IsSegment entry.1)
      (below : ∀ entry ∈ selection, ∀ children, entry.2.children = some children →
        Addressable children) :
    Addressable selection

theorem follow?_cons (key : String) (rest : List String) (selection : Selection) :
    follow? (key :: rest) selection =
      (Keyed.valueAt? selection key).bind (Property.descend? rest) := by
  induction rest generalizing key selection with
  | nil => simp [follow?, Property.descend?]
  | cons next others inductionHypothesis =>
    simp [follow?, Property.descend?, inductionHypothesis]

theorem follow?_eq_some (chain : List String) (selection : Selection) (property : Property) :
    follow? chain selection = some property ↔ selection.Reaches chain property := by
  induction chain generalizing selection with
  | nil =>
    refine iff_of_false (by simp [follow?]) fun reaches => ?_
    cases reaches
  | cons key rest inductionHypothesis =>
    cases rest with
    | nil =>
      refine ⟨.here selection key property, fun reaches => ?_⟩
      cases reaches with
      | here _ _ _ present => exact present
      | within _ _ _ _ _ _ _ _ below => cases below
    | cons next others =>
      simp only [follow?, Option.bind_eq_bind, Option.bind_eq_some_iff, inductionHypothesis]
      constructor
      · rintro ⟨parent, present, children, inner, rest⟩
        exact .within selection children key parent property _ present inner rest
      · rintro (_ | ⟨_, children, _, parent, _, _, present, inner, rest⟩)
        exact ⟨parent, present, children, inner, rest⟩

/-- The keys on the way to a property of an addressable selection are segments. -/
theorem Reaches.isSegment {selection : Selection} {chain : List String} {property : Property}
    (reaches : selection.Reaches chain property) (addressable : selection.Addressable) :
    ∀ key ∈ chain, IsSegment key := by
  induction reaches with
  | here selection key property present =>
    obtain ⟨_, segments, -⟩ := addressable
    exact List.forall_mem_singleton.2 (segments _ (Keyed.mem_of_valueAt? _ _ _ present))
  | within selection children key parent property chain present inner _ inductionHypothesis =>
    obtain ⟨_, segments, below⟩ := addressable
    have member := Keyed.mem_of_valueAt? _ _ _ present
    exact List.forall_mem_cons.2
      ⟨segments _ member, inductionHypothesis (below _ member children inner)⟩

end Selection

namespace Text

theorem head?_pieces (separator : Char) (text : List Char) :
    (pieces separator text).head? = some [] ↔ text = [] ∨ [separator] <+: text := by
  cases text with
  | nil => simp [pieces_nil]
  | cons char rest =>
    obtain ⟨first, others, cut⟩ := exists_pieces separator rest
    by_cases same : char = separator
    · subst same
      simp [pieces_separator]
    · simp [pieces_cons_of_ne same cut, Ne.symm same]

/-- Behind the first piece an empty one stands at the end or between two separators. -/
theorem nil_mem_tail_pieces (separator : Char) (text : List Char) :
    [] ∈ (pieces separator text).tail ↔
      [separator] <:+ text ∨ [separator, separator] <:+: text := by
  induction text with
  | nil => simp [pieces_nil]
  | cons char rest inductionHypothesis =>
    have head := head?_pieces separator rest
    obtain ⟨first, others, cut⟩ := exists_pieces separator rest
    rw [cut, List.tail_cons] at inductionHypothesis
    rw [cut, List.head?_cons, Option.some_inj] at head
    by_cases same : char = separator
    · subst same
      rw [pieces_separator, cut, List.tail_cons, List.mem_cons, inductionHypothesis, eq_comm,
        head, List.suffix_cons_iff, List.infix_cons_iff, List.cons_prefix_cons]
      simp only [List.cons.injEq, true_and, eq_comm]
      tauto
    · rw [pieces_cons_of_ne same cut, List.tail_cons, inductionHypothesis, List.suffix_cons_iff,
        List.infix_cons_iff, List.cons_prefix_cons]
      simp [Ne.symm same]

/-- A text has an empty piece exactly if it is empty or a separator starts it, ends it or follows
another one. -/
theorem nil_mem_pieces (separator : Char) (text : List Char) :
    [] ∈ pieces separator text ↔
      text = [] ∨ [separator] <+: text ∨ [separator] <:+ text ∨
        [separator, separator] <:+: text := by
  have head := head?_pieces separator text
  have tail := nil_mem_tail_pieces separator text
  obtain ⟨first, others, cut⟩ := exists_pieces separator text
  rw [cut, List.head?_cons, Option.some_inj] at head
  rw [cut, List.tail_cons] at tail
  rw [cut, List.mem_cons, eq_comm, head, tail, or_assoc]

end Text

namespace Operation

/-- A path that is not made of dots is cut into the keys to follow. -/
theorem property_eq (operation : Operation) (children : Selection)
    (present : operation.children = some children) (path : String) :
    operation.property path =
      if namesTopLevel path.toList then onlyProperty children
      else
        match Selection.follow? ((Text.pieces '.' path.toList).map String.ofList) children with
        | some node => .ok node
        | none => .error (.invalidPath path) := by
  rw [property, present]
  obtain ⟨first, others, cut⟩ := Text.exists_pieces '.' path.toList
  cases reached : (Keyed.valueAt? children (String.ofList first)).bind
      (Property.descend? (others.map String.ofList)) <;>
    simp [cut, Selection.follow?_cons, reached]

theorem namesTopLevel_eq_true (path : String) :
    namesTopLevel path.toList = true ↔ path ≠ "" ∧ ∀ char ∈ path.toList, char = '.' := by
  simp [namesTopLevel]

/-- The keys of a dotted chain are found again by cutting. -/
theorem pieces_dotted (chain : List String) (present : chain ≠ [])
    (segments : ∀ key ∈ chain, IsSegment key) :
    (Text.pieces '.' (dotted chain).toList).map String.ofList = chain := by
  have undotted : ∀ text ∈ chain.map String.toList, '.' ∉ text :=
    List.forall_mem_map.2 fun key member => (segments key member).2
  have cut := Text.pieces_joined '.' (chain.map String.toList) (by simpa using present) undotted
  rw [dotted, Text.joinedStrings, String.toList_ofList]
  exact (congrArg (List.map String.ofList) cut).trans (by simp)

/-- The first key of a dotted chain has a character that is no dot. -/
theorem namesTopLevel_dotted (chain : List String) (present : chain ≠ [])
    (segments : ∀ key ∈ chain, IsSegment key) :
    namesTopLevel (dotted chain).toList = false := by
  obtain ⟨key, rest, rfl⟩ := List.exists_cons_of_ne_nil present
  obtain ⟨named, undotted⟩ := segments key List.mem_cons_self
  obtain ⟨char, chars, spelled⟩ :=
    List.exists_cons_of_ne_nil (mt String.toList_eq_nil_iff.1 named)
  have apart : char ≠ '.' := by
    rintro rfl
    exact undotted (spelled ▸ List.mem_cons_self)
  obtain ⟨others, starts⟩ : ∃ others, (dotted (key :: rest)).toList = char :: others := by
    cases rest <;> simp [dotted, Text.joinedStrings, Text.joined, spelled]
  simp [namesTopLevel, starts, apart]

/-- A chain that leads nowhere makes an invalid path. -/
theorem property_of_keys (operation : Operation) (children : Selection)
    (present : operation.children = some children) (path : String) (chain : List String)
    (ordinary : namesTopLevel path.toList = false)
    (cut : (Text.pieces '.' path.toList).map String.ofList = chain) :
    (∀ node, operation.property path = .ok node ↔ children.Reaches chain node) ∧
      ((∀ node, ¬children.Reaches chain node) →
        operation.property path = .error (.invalidPath path)) := by
  simp only [property_eq operation children present, ordinary, cut, ← Selection.follow?_eq_some]
  cases Selection.follow? chain children <;> simp

/-- Paths address the properties of an operation whose keys can all be segments: a dotted chain
names the property that its keys reach, and no other chain makes the same path. A path that is empty
or gapped is invalid, and dots alone name the only property. -/
theorem property_addresses (operation : Operation) (children : Selection)
    (present : operation.children = some children) (addressable : children.Addressable) :
    (∀ chain : List String, chain ≠ [] → (∀ key ∈ chain, IsSegment key) →
      (∀ node, operation.property (dotted chain) = .ok node ↔ children.Reaches chain node) ∧
      ((∀ node, ¬children.Reaches chain node) →
        operation.property (dotted chain) = .error (.invalidPath (dotted chain))) ∧
      ∀ other : List String, other ≠ [] → (∀ key ∈ other, IsSegment key) →
        other ≠ chain → dotted other ≠ dotted chain) ∧
    (∀ path, path = "" ∨ IsGapped path →
      operation.property path = .error (.invalidPath path)) ∧
    ∀ path, path ≠ "" → (∀ char ∈ path.toList, char = '.') →
      match children with
      | [] => operation.property path = .error (.invalidPath ".")
      | [(_, node)] => operation.property path = .ok node
      | _ :: _ :: _ => operation.property path = .error (.build .severalProperties) := by
  refine ⟨fun chain nonempty segments => ?_, fun path bad => ?_, fun path nonempty dots => ?_⟩
  · have cut := pieces_dotted chain nonempty segments
    obtain ⟨reached, unreached⟩ := property_of_keys operation children present (dotted chain) chain
      (namesTopLevel_dotted chain nonempty segments) cut
    refine ⟨reached, unreached, fun other filled each apart same => apart ?_⟩
    rw [← pieces_dotted other filled each, same, cut]
  · have ordinary : namesTopLevel path.toList = false := by
      rw [← Bool.not_eq_true, namesTopLevel_eq_true]
      rintro ⟨nonempty, dots⟩
      rcases bad with rfl | ⟨⟨char, member, apart⟩, -⟩
      · exact nonempty rfl
      · exact apart (dots char member)
    have empty : [] ∈ Text.pieces '.' path.toList := by
      rw [Text.nil_mem_pieces]
      rcases bad with rfl | gapped
      · exact .inl rfl
      · exact .inr gapped.gap
    apply (property_of_keys operation children present path _ ordinary rfl).2
    -- An addressable selection has no key for the empty segment.
    intro node reaches
    exact (reaches.isSegment addressable "" (List.mem_map_of_mem empty)).1 rfl
  · have top := (namesTopLevel_eq_true path).2 ⟨nonempty, dots⟩
    rw [property_eq operation children present, if_pos top]
    match children with
    | [] => rfl
    | [_] => rfl
    | _ :: _ :: _ => rfl

/-- An author with books, each of them with a title. -/
def authored : Selection :=
  [("author", { Property.leaf with
    children := some [("books", { Property.leaf with children := some [("title", .leaf)] })] })]

theorem addressable_authored : authored.Addressable := by
  have leafless (key : String) (segment : IsSegment key) :
      Selection.Addressable [(key, Property.leaf)] :=
    .intro _ (by simpa using segment) (by simp [Property.leaf])
  have wrapped (key : String) (inner : Selection) (segment : IsSegment key)
      (addressable : inner.Addressable) :
      Selection.Addressable [(key, { Property.leaf with children := some inner })] :=
    .intro _ (by simpa using segment) (by simpa using addressable)
  exact wrapped _ _ (by decide) (wrapped _ _ (by decide) (leafless _ (by decide)))

theorem property_addresses_authored :
    authored.Addressable ∧
      Operation.property { children := some authored } "author.books.title" = .ok .leaf ∧
      Operation.property { children := some authored } "author..title" =
        .error (.invalidPath "author..title") ∧
      dotted ["author", "books"] ≠ dotted ["author", "title"] := by
  obtain ⟨chains, gaps, -⟩ := property_addresses { children := some authored } authored rfl
    addressable_authored
  have title := chains ["author", "books", "title"] (by decide) (by decide)
  have books := chains ["author", "title"] (by decide) (by decide)
  refine ⟨addressable_authored, (title.1 .leaf).2 ?_, gaps _ (.inr ?_), ?_⟩
  · exact .within _ _ _ _ _ _ rfl rfl (.within _ _ _ _ _ _ rfl rfl (.here _ _ _ rfl))
  · exact ⟨⟨'a', by decide, by decide⟩, .inr (.inr ⟨"author".toList, "title".toList, by decide⟩)⟩
  · exact books.2.2 ["author", "books"] (by decide) (by decide) (by decide)

end Operation

end GraphQuery
