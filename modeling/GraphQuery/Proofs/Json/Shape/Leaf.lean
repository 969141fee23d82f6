import GraphQuery.Json.Shape.Reader
import GraphQuery.Proofs.Json.Agreement
import GraphQuery.Proofs.Json.Cursor

/-
This file shows that data without items or fields is read as it is decoded.
-/

namespace GraphQuery.Json

theorem ofFirst?_of_startsNumber (byte : UInt8) (starts : startsNumber byte = true) :
    Word.ofFirst? byte = none := by
  rw [Word.ofFirst?]
  split
  · next letter => subst letter; cases starts
  · split
    · next letter => subst letter; cases starts
    · split
      · next letter => subst letter; cases starts
      · rfl

/-- A reader that refuses containers agrees with a decoder if it does so for every scalar. -/
theorem leaf_agrees {Item : Type} (next : UInt8 × Cursor → Except Fault (Item × Cursor))
    (decode : Json → Except Mismatch Item) (depth : Nat) (cursor stop : Cursor) (tree : Tree)
    (read : Tree.read depth cursor = .ok (tree, stop))
    (scalars : ∀ byte start json, ReadsScalar byte start json stop →
      Agrees (next (byte, start)) (decode json) stop)
    (lists : ∀ start items, Agrees (next (0x5B, start)) (decode (.array items)) stop)
    (objects : ∀ start members, Agrees (next (0x7B, start)) (decode (.object members)) stop) :
    Agrees (peekAfterBlanks .endInValue cursor >>= next) (decode tree.toJson) stop := by
  cases Tree.reads_of_read _ _ _ _ read with
  | scalar byte start stop json plain first notList notObject content =>
    rw [Tree.toJson_scalar]
    exact agrees_of_peek first (scalars byte start json (readsScalar_of_readScalar _ _ _ _ content))
  | array inner start stop items deep first content =>
    rw [Tree.toJson_array]
    exact agrees_of_peek first (lists start _)
  | object inner start stop members deep first content =>
    rw [Tree.toJson_object]
    exact agrees_of_peek first (objects start _)

theorem text_agrees (depth : Nat) (cursor stop : Cursor) (tree : Tree)
    (read : Tree.read depth cursor = .ok (tree, stop)) :
    Agrees (Shape.text.read depth cursor) (Shape.text.decode tree.toJson) stop := by
  refine leaf_agrees _ Shape.text.decode depth cursor stop tree read ?_
    (fun _ _ => agrees_error _ _ _) (fun _ _ => agrees_error _ _ _)
  intro byte start json content
  cases content with
  | word word stop letter letters =>
    refine agrees_else (fun quote => by subst quote; cases letter) ?_
    cases word <;> exact agrees_error _ _ _
  | number number stop noWord starts digits =>
    refine agrees_else (fun quote => by subst quote; cases starts) ?_
    cases number <;> exact agrees_error _ _ _
  | string content stop quote body => exact agrees_if quote (agrees_of_eq body rfl)

theorem flag_agrees (depth : Nat) (cursor stop : Cursor) (tree : Tree)
    (read : Tree.read depth cursor = .ok (tree, stop)) :
    Agrees (Shape.flag.read depth cursor) (Shape.flag.decode tree.toJson) stop := by
  refine leaf_agrees _ Shape.flag.decode depth cursor stop tree read ?_
    (fun _ _ => agrees_error _ _ _) (fun _ _ => agrees_error _ _ _)
  intro byte start json content
  cases content with
  | word word stop letter letters =>
    cases word <;> simp only [letter, letters]
    · exact agrees_error _ _ _
    · exact agrees_ok _ _
    · exact agrees_ok _ _
  | number number stop noWord starts digits =>
    simp only [noWord]
    cases number <;> exact agrees_error _ _ _
  | string content stop quote body =>
    subst quote
    exact agrees_error _ _ _

theorem select_agrees (range : IntegerRange) (start stop : Cursor) (number : Number)
    (digits : readNumber start = .ok (number, stop)) :
    Agrees
      (do
        let (number, stop) ← readNumber start
        match range.select number.toJson with
        | .ok value => return (value, stop)
        | .error mismatch => throw (.ofMismatch mismatch stop.position))
      (range.select number.toJson) stop := by
  rw [digits]
  change Agrees (match range.select number.toJson with
    | .ok value => .ok (value, stop)
    | .error mismatch => .error (.ofMismatch mismatch stop.position)) _ _
  cases range.select number.toJson <;> rfl

theorem integer_agrees (range : IntegerRange) (depth : Nat) (cursor stop : Cursor) (tree : Tree)
    (read : Tree.read depth cursor = .ok (tree, stop)) :
    Agrees ((Shape.integer range).read depth cursor) ((Shape.integer range).decode tree.toJson)
      stop := by
  refine leaf_agrees _ (Shape.integer range).decode depth cursor stop tree read ?_
    (fun _ _ => agrees_error _ _ _) (fun _ _ => agrees_error _ _ _)
  intro byte start json content
  cases content with
  | word word stop letter letters =>
    refine agrees_else (fun starts => ?_) ?_
    · simp [ofFirst?_of_startsNumber byte starts] at letter
    · cases word <;> exact agrees_error _ _ _
  | number number stop noWord starts digits =>
    exact agrees_if starts (select_agrees range start stop number digits)
  | string content stop quote body =>
    subst quote
    exact agrees_error _ _ _

theorem any_agrees (depth : Nat) (cursor stop : Cursor) (tree : Tree)
    (read : Tree.read depth cursor = .ok (tree, stop)) :
    Agrees (Shape.any.read depth cursor) (Shape.any.decode tree.toJson) stop := by
  have found : readValue depth cursor = .ok (tree.toJson, stop) := by
    rw [readValue_eq, read]
    rfl
  exact agrees_of_eq found rfl

/-- Only the null value starts with its letter. -/
theorem isNull_iff (depth : Nat) (cursor stop : Cursor) (tree : Tree)
    (read : Tree.read depth cursor = .ok (tree, stop)) :
    cursor.skipBlanks.peek? = some 0x6E ∧ tree.toJson = .null ∧
        Word.null.read cursor.skipBlanks = .ok stop ∨
      cursor.skipBlanks.peek? ≠ some 0x6E ∧ tree.toJson ≠ .null := by
  cases Tree.reads_of_read _ _ _ _ read with
  | scalar byte start stop json plain first notList notObject content =>
    obtain ⟨rfl, found⟩ := (peekAfterBlanks_eq_ok _ _ _ _).1 first
    rw [found, Option.some.injEq, Tree.toJson_scalar]
    by_cases letter : byte = 0x6E
    · subst letter
      cases readsScalar_of_readScalar _ _ _ _ content with
      | word word stop letter letters =>
        cases letter
        exact .inl ⟨rfl, rfl, letters⟩
      | number number stop noWord starts digits => cases starts
      | string content stop quote body => cases quote
    · refine .inr ⟨fun equal => letter (Option.some.inj equal), ?_⟩
      cases readsScalar_of_readScalar _ _ _ _ content with
      | word word stop first letters =>
        cases word with
        | null =>
          rw [Word.ofFirst?, if_neg letter] at first
          split at first
          · cases first
          · split at first <;> cases first
        | true | false => simp [Word.toJson]
      | number number => cases number <;> simp [Number.toJson]
      | string => simp
  | array inner start stop items deep first content =>
    obtain ⟨rfl, found⟩ := (peekAfterBlanks_eq_ok _ _ _ _).1 first
    rw [found, Tree.toJson_array]
    exact .inr ⟨by decide, by simp⟩
  | object inner start stop members deep first content =>
    obtain ⟨rfl, found⟩ := (peekAfterBlanks_eq_ok _ _ _ _).1 first
    rw [found, Tree.toJson_object]
    exact .inr ⟨by decide, by simp⟩

theorem decode_optional (shape : Shape) (json : Json) (notNull : json ≠ .null) :
    (Shape.optional shape).decode json = (shape.decode json).map some := by
  cases json with
  | null => exact absurd rfl notNull
  | boolean _ | integer _ | real _ | string _ | array _ | object _ => rfl

theorem Tree.read_skipBlanks (depth : Nat) (cursor : Cursor) :
    Tree.read depth cursor.skipBlanks = Tree.read depth cursor := by
  cases depth <;> rw [Tree.read, Tree.read, peekAfterBlanks_skipBlanks]

theorem optional_agrees (shape : Shape) (depth : Nat) (cursor stop : Cursor) (tree : Tree)
    (read : Tree.read depth cursor = .ok (tree, stop))
    (agrees : Agrees (shape.read depth cursor.skipBlanks) (shape.decode tree.toJson) stop) :
    Agrees ((Shape.optional shape).read depth cursor)
      ((Shape.optional shape).decode tree.toJson) stop := by
  rcases isNull_iff _ _ _ _ read with ⟨found, null, word⟩ | ⟨notFound, notNull⟩
  · refine agrees_if found ?_
    rw [null, word]
    exact agrees_ok _ _
  · refine agrees_else notFound ?_
    rw [decode_optional shape _ notNull]
    rcases agrees.cases with ⟨fault, mismatch, failed, refused⟩ | ⟨data, found, taken⟩
    · rw [failed, refused]
      rfl
    · rw [found, taken]
      rfl

end GraphQuery.Json
