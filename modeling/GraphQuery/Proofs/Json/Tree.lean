import GraphQuery.Json.Reader
import GraphQuery.Proofs.Json.Members
import GraphQuery.Proofs.Outcome

/-
This file reads JSON texts into trees, which keep every member in its place.
-/

namespace GraphQuery.Json

/-- A value without items or members. -/
def IsScalar : Json → Prop
  | .array _ | .object _ => False
  | _ => True

/-- The first byte of a scalar says whether it is a word, a number or a string. -/
inductive ReadsScalar (byte : UInt8) (cursor : Cursor) : Json → Cursor → Prop
  | word (word : Word) (stop : Cursor) (first : Word.ofFirst? byte = some word)
      (letters : word.read cursor = .ok stop) : ReadsScalar byte cursor word.toJson stop
  | number (number : Number) (stop : Cursor) (noWord : Word.ofFirst? byte = none)
      (starts : startsNumber byte = true) (digits : readNumber cursor = .ok (number, stop)) :
    ReadsScalar byte cursor number.toJson stop
  | string (content : String) (stop : Cursor) (quote : byte = 0x22)
      (body : readString cursor.next = .ok (content, stop)) :
    ReadsScalar byte cursor (.string content) stop

theorem readsScalar_of_readScalar (byte : UInt8) (cursor stop : Cursor) (json : Json)
    (read : readScalar byte cursor = .ok (json, stop)) : ReadsScalar byte cursor json stop := by
  rw [readScalar] at read
  split at read
  · next word first =>
    obtain ⟨last, letters, equal⟩ := (Outcome.map_eq_ok _ _ _).1 read
    cases equal
    exact .word word stop first letters
  · next noWord =>
    split at read
    · next starts =>
      obtain ⟨⟨number, last⟩, digits, equal⟩ := (Outcome.map_eq_ok _ _ _).1 read
      cases equal
      exact .number number stop noWord starts digits
    · split at read
      · next quote =>
        obtain ⟨⟨content, last⟩, body, equal⟩ := (Outcome.map_eq_ok _ _ _).1 read
        cases equal
        exact .string content stop quote body
      · cases read

theorem isScalar_of_readScalar (byte : UInt8) (cursor stop : Cursor) (json : Json)
    (read : readScalar byte cursor = .ok (json, stop)) : json.IsScalar := by
  cases readsScalar_of_readScalar _ _ _ _ read with
  | word word => cases word <;> trivial
  | number number => cases number <;> trivial
  | string => trivial

/-- The members of an object stand as in the text, where a name may occur again. -/
inductive Tree where
  | scalar (json : Json) (plain : json.IsScalar)
  | array (items : List Tree)
  | object (members : List (String × Tree))

namespace Tree

mutual

def decideEq : (first second : Tree) → Decidable (first = second)
  | scalar json _, second => match second with
    | scalar other _ => decidable_of_iff (json = other) (by simp)
    | array _ | object _ => .isFalse (by simp)
  | array items, second => match second with
    | array others => @decidable_of_iff _ (items = others) (by simp) (decideItemsEq items others)
    | scalar _ _ | object _ => .isFalse (by simp)
  | object members, second => match second with
    | object others =>
      @decidable_of_iff _ (members = others) (by simp) (decideMembersEq members others)
    | scalar _ _ | array _ => .isFalse (by simp)

def decideItemsEq : (items others : List Tree) → Decidable (items = others)
  | [], [] => .isTrue rfl
  | [], _ :: _ | _ :: _, [] => .isFalse nofun
  | item :: items, other :: others =>
    let _ := decideEq item other
    let _ := decideItemsEq items others
    decidable_of_iff (item = other ∧ items = others) (by simp)

def decideMembersEq : (members others : List (String × Tree)) → Decidable (members = others)
  | [], [] => .isTrue rfl
  | [], _ :: _ | _ :: _, [] => .isFalse nofun
  | (name, tree) :: members, (other, content) :: others =>
    let _ := decideEq tree content
    let _ := decideMembersEq members others
    decidable_of_iff ((name = other ∧ tree = content) ∧ members = others) (by simp)

end

instance : DecidableEq Tree := decideEq

/-- Of members with one name the last one counts. -/
def toJson : Tree → Json
  | scalar json _ => json
  | array items => .array (items.map toJson)
  | object members => .ofMembers (members.map fun member => (member.1, member.2.toJson))
decreasing_by
  · next inside =>
    have := List.sizeOf_lt_of_mem inside
    simp only [array.sizeOf_spec]
    omega
  · next inside =>
    have := List.sizeOf_lt_of_mem inside
    have : sizeOf member.2 < sizeOf member := by cases member; simp
    simp only [object.sizeOf_spec]
    omega

theorem toJson_scalar (json : Json) (plain : json.IsScalar) :
    (scalar json plain).toJson = json := by
  rw [toJson]

theorem toJson_array (items : List Tree) : (array items).toJson = .array (items.map toJson) := by
  rw [toJson]

/-- One more member with its value. -/
def readMember (value : Cursor → Except Fault (Tree × Cursor)) (members : List (String × Tree))
    (cursor : Cursor) : Except Fault (List (String × Tree) × Cursor) := do
  let (name, cursor) ← readString cursor
  let (tree, cursor) ← value (← readColon cursor)
  return (members ++ [(name, tree)], cursor)

theorem readMember_eq_ok (value : Cursor → Except Fault (Tree × Cursor))
    (before members : List (String × Tree)) (cursor stop : Cursor) :
    readMember value before cursor = .ok (members, stop) ↔
      ∃ name middle start tree, readString cursor = .ok (name, middle) ∧
        readColon middle = .ok start ∧ value start = .ok (tree, stop) ∧
        before ++ [(name, tree)] = members := by
  simp only [readMember, Outcome.bind_eq_ok, Prod.exists, pure, Except.pure, Except.ok.injEq,
    Prod.mk.injEq]
  constructor
  · rintro ⟨name, middle, string, start, colon, tree, stop, content, rfl, rfl⟩
    exact ⟨name, middle, start, tree, string, colon, content, rfl⟩
  · rintro ⟨name, middle, start, tree, string, colon, content, rfl⟩
    exact ⟨name, middle, string, start, colon, tree, stop, content, rfl, rfl⟩

def readLeaf (byte : UInt8) (cursor : Cursor) : Except Fault (Tree × Cursor) :=
  match content : readScalar byte cursor with
  | .ok (json, stop) =>
    .ok (scalar json (isScalar_of_readScalar byte cursor stop json content), stop)
  | .error fault => .error fault

theorem readScalar_eq (byte : UInt8) (cursor : Cursor) :
    readScalar byte cursor =
      (readLeaf byte cursor).map fun read => (read.1.toJson, read.2) := by
  rw [readLeaf]
  split
  · next json stop content => rw [Except.map, toJson_scalar, ← content]
  · next fault content => rw [Except.map, ← content]

theorem readLeaf_eq_ok (byte : UInt8) (cursor stop : Cursor) (tree : Tree)
    (read : readLeaf byte cursor = .ok (tree, stop)) :
    ∃ json plain, tree = scalar json plain ∧ readScalar byte cursor = .ok (json, stop) := by
  rw [readLeaf] at read
  split at read
  · next json last content =>
    cases read
    exact ⟨json, _, rfl, content⟩
  · cases read

/-- At most `depth` containers lie around any point of the value. -/
def read : (depth : Nat) → Cursor → Except Fault (Tree × Cursor)
  | 0, cursor => do
    let (byte, cursor) ← peekAfterBlanks .endInValue cursor
    if byte = 0x5B ∨ byte = 0x7B then throw (.ofFlaw .tooDeep cursor.ahead)
    else readLeaf byte cursor
  | depth + 1, cursor => do
    let (byte, cursor) ← peekAfterBlanks .endInValue cursor
    if byte = 0x5B then
      let (items, cursor) ← readList (read depth) cursor
      return (array items, cursor)
    else if byte = 0x7B then
      let (members, cursor) ← readObject (readMember (read depth)) [] cursor
      return (object members, cursor.next)
    else readLeaf byte cursor

/-- The tree of a whole text. -/
def parse (text : List UInt8) : Except Fault Tree := do
  let (tree, cursor) ← read depthLimit (.ofBytes text)
  readEnd cursor
  return tree

end Tree

theorem readItems_map {Item Image : Type} (item : Cursor → Except Fault (Item × Cursor))
    (other : Cursor → Except Fault (Image × Cursor)) (image : Item → Image)
    (each : ∀ cursor, other cursor = (item cursor).map fun read => (image read.1, read.2))
    (budget : Nat) (first : Bool) (cursor : Cursor) :
    readItems other budget first cursor =
      (readItems item budget first cursor).map fun read => (read.1.map image, read.2) := by
  induction budget generalizing first cursor with
  | zero => rfl
  | succ budget inductionHypothesis =>
    rw [readItems, readItems]
    cases next : nextItem first cursor with
    | error fault => rfl
    | ok found =>
      obtain ⟨more, cursor⟩ := found
      cases more with
      | false => rfl
      | true =>
        simp only [bind, Except.bind, each]
        cases head : item cursor with
        | error fault => rfl
        | ok found =>
          simp only [Except.map, inductionHypothesis]
          cases readItems item budget false found.2 <;> rfl

theorem readMembers_map {State Image : Type}
    (step : State → Cursor → Except Fault (State × Cursor))
    (other : Image → Cursor → Except Fault (Image × Cursor)) (image : State → Image)
    (each : ∀ state cursor,
      other (image state) cursor = (step state cursor).map fun read => (image read.1, read.2))
    (budget : Nat) (first : Bool) (state : State) (cursor : Cursor) :
    readMembers other budget first (image state) cursor =
      (readMembers step budget first state cursor).map fun read => (image read.1, read.2) := by
  induction budget generalizing first state cursor with
  | zero => rfl
  | succ budget inductionHypothesis =>
    rw [readMembers, readMembers]
    cases next : nextMember first cursor with
    | error fault => rfl
    | ok found =>
      obtain ⟨more, cursor⟩ := found
      cases more with
      | false => rfl
      | true =>
        simp only [bind, Except.bind, each]
        cases head : step state cursor with
        | error fault => rfl
        | ok found => exact inductionHypothesis false found.1 found.2

namespace Tree

/-- The members of an object as a value keeps them. -/
def toMembers (members : List (String × Tree)) : List (String × Json) :=
  sortMembers (members.map fun member => (member.1, member.2.toJson))

theorem toJson_object (members : List (String × Tree)) :
    (object members).toJson = .object (toMembers members) := by
  rw [toJson]
  rfl

theorem toMembers_concat (members : List (String × Tree)) (name : String) (tree : Tree) :
    toMembers (members ++ [(name, tree)]) = insertMember name tree.toJson (toMembers members) := by
  rw [toMembers, List.map_append]
  exact sortMembers_concat _ _

theorem readMember_map (value : Cursor → Except Fault (Json × Cursor))
    (tree : Cursor → Except Fault (Tree × Cursor))
    (each : ∀ cursor, value cursor = (tree cursor).map fun read => (read.1.toJson, read.2))
    (members : List (String × Tree)) (cursor : Cursor) :
    Json.readMember value (toMembers members) cursor =
      (readMember tree members cursor).map fun read => (toMembers read.1, read.2) := by
  rw [Json.readMember, readMember]
  cases readString cursor with
  | error fault => rfl
  | ok found =>
    obtain ⟨name, cursor⟩ := found
    simp only [bind, Except.bind]
    cases readColon cursor with
    | error fault => rfl
    | ok cursor =>
      simp only [each]
      cases tree cursor with
      | error fault => rfl
      | ok read => simp only [Except.map, pure, Except.pure, toMembers_concat]

end Tree

/-- The value of a text is that of its tree. -/
theorem readValue_eq (depth : Nat) (cursor : Cursor) :
    readValue depth cursor =
      (Tree.read depth cursor).map fun read => (read.1.toJson, read.2) := by
  induction depth generalizing cursor with
  | zero =>
    rw [readValue, Tree.read]
    cases peekAfterBlanks .endInValue cursor with
    | error fault => rfl
    | ok found =>
      obtain ⟨byte, cursor⟩ := found
      simp only [bind, Except.bind]
      split
      · rfl
      · exact Tree.readScalar_eq byte cursor
  | succ depth inductionHypothesis =>
    rw [readValue, Tree.read]
    cases peekAfterBlanks .endInValue cursor with
    | error fault => rfl
    | ok found =>
      obtain ⟨byte, cursor⟩ := found
      simp only [bind, Except.bind]
      split
      · rw [readList, readList, readItems_map _ _ Tree.toJson inductionHypothesis]
        cases readItems (Tree.read depth) (cursor.rest.length + 1) true cursor.next <;>
          simp [bind, Except.bind, Except.map, pure, Except.pure, Tree.toJson_array]
      · split
        · have members := readMembers_map _ _ Tree.toMembers
            (Tree.readMember_map _ _ inductionHypothesis) (cursor.rest.length + 1) true []
            cursor.next
          rw [readObject, readObject, show ([] : List (String × Json)) = Tree.toMembers [] from rfl,
            members]
          cases readMembers (Tree.readMember (Tree.read depth)) (cursor.rest.length + 1) true []
              cursor.next <;>
            simp [Except.map, pure, Except.pure, Tree.toJson_object]
        · exact Tree.readScalar_eq byte cursor

theorem parse_eq (text : List UInt8) : parse text = (Tree.parse text).map Tree.toJson := by
  rw [parse, parseWithin, Tree.parse, readValue_eq]
  cases Tree.read depthLimit (.ofBytes text) with
  | error fault => rfl
  | ok found =>
    simp only [bind, Except.bind, Except.map]
    cases readEnd found.2 <;> rfl

/-- The value at a cursor is a scalar or a container, as its first byte says. -/
inductive Tree.Reads (depth : Nat) (cursor : Cursor) : Tree → Cursor → Prop
  | scalar (byte : UInt8) (start stop : Cursor) (json : Json) (plain : json.IsScalar)
      (first : peekAfterBlanks .endInValue cursor = .ok (byte, start))
      (notList : byte ≠ 0x5B) (notObject : byte ≠ 0x7B)
      (content : readScalar byte start = .ok (json, stop)) :
    Reads depth cursor (.scalar json plain) stop
  | array (inner : Nat) (start stop : Cursor) (items : List Tree) (deep : depth = inner + 1)
      (first : peekAfterBlanks .endInValue cursor = .ok (0x5B, start))
      (content : readItems (Tree.read inner) (start.rest.length + 1) true start.next =
        .ok (items, stop)) :
    Reads depth cursor (.array items) stop.next
  | object (inner : Nat) (start stop : Cursor) (members : List (String × Tree))
      (deep : depth = inner + 1)
      (first : peekAfterBlanks .endInValue cursor = .ok (0x7B, start))
      (content : readMembers (Tree.readMember (Tree.read inner)) (start.rest.length + 1) true []
        start.next = .ok (members, stop)) :
    Reads depth cursor (.object members) stop.next

theorem Tree.reads_of_read (depth : Nat) (cursor stop : Cursor) (tree : Tree)
    (read : Tree.read depth cursor = .ok (tree, stop)) : Tree.Reads depth cursor tree stop := by
  cases depth with
  | zero =>
    rw [Tree.read, Outcome.bind_eq_ok] at read
    obtain ⟨⟨byte, start⟩, first, read⟩ := read
    dsimp only at read
    split at read
    · cases read
    · next bare =>
      obtain ⟨json, plain, rfl, content⟩ := Tree.readLeaf_eq_ok _ _ _ _ read
      exact .scalar byte start stop json plain first (fun equal => bare (.inl equal))
        (fun equal => bare (.inr equal)) content
  | succ inner =>
    rw [Tree.read, Outcome.bind_eq_ok] at read
    obtain ⟨⟨byte, start⟩, first, read⟩ := read
    dsimp only at read
    split at read
    · next list =>
      subst list
      obtain ⟨⟨items, last⟩, listed, equal⟩ := (Outcome.bind_eq_ok _ _ _).1 read
      cases equal
      obtain ⟨⟨items, last⟩, content, equal⟩ := (Outcome.bind_eq_ok _ _ _).1 listed
      cases equal
      exact .array inner start last items rfl first content
    · next notList =>
      split at read
      · next object =>
        subst object
        obtain ⟨⟨members, last⟩, content, equal⟩ := (Outcome.bind_eq_ok _ _ _).1 read
        cases equal
        exact .object inner start last members rfl first content
      · next notObject =>
        obtain ⟨json, plain, rfl, content⟩ := Tree.readLeaf_eq_ok _ _ _ _ read
        exact .scalar byte start stop json plain first notList notObject content

theorem isSorted_of_parse (text : List UInt8) (members : List (String × Json))
    (read : parse text = .ok (.object members)) : IsSorted members := by
  rw [parse_eq] at read
  cases parsed : Tree.parse text with
  | error fault =>
    rw [parsed] at read
    cases read
  | ok tree =>
    rw [parsed, Except.map, Except.ok.injEq] at read
    obtain ⟨⟨found, last⟩, begun, ended⟩ := (Outcome.bind_eq_ok _ _ _).1 parsed
    obtain ⟨-, -, equal⟩ := (Outcome.bind_eq_ok _ _ _).1 ended
    cases equal
    cases Tree.reads_of_read _ _ _ _ begun with
    | scalar byte start stop json plain first notList notObject content =>
      rw [Tree.toJson_scalar] at read
      subst read
      cases plain
    | array inner start stop items deep first content =>
      rw [Tree.toJson_array] at read
      cases read
    | object inner start stop listed deep first content =>
      rw [Tree.toJson_object, Json.object.injEq] at read
      rw [← read]
      exact isSorted_sortMembers _

end GraphQuery.Json
