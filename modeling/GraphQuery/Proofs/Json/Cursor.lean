import GraphQuery.Json.Punctuation
import GraphQuery.Proofs.Outcome

/-
This file says how far the readers of punctuation move a cursor.
-/

namespace GraphQuery.Json

namespace Cursor

/-- A cursor whose next byte is known moves by one byte. -/
theorem length_next (cursor : Cursor) (byte : UInt8) (found : cursor.peek? = some byte) :
    cursor.next.rest.length + 1 = cursor.rest.length := by
  obtain ⟨rest, position⟩ := cursor
  cases rest with
  | nil => cases found
  | cons first rest => rfl

theorem length_next_le (cursor : Cursor) : cursor.next.rest.length ≤ cursor.rest.length := by
  obtain ⟨rest, position⟩ := cursor
  cases rest <;> simp [next]

theorem length_skip (cursor : Cursor) (count : Nat) (inside : count ≤ cursor.rest.length) :
    (cursor.skip count).rest.length + count = cursor.rest.length := by
  induction count generalizing cursor with
  | zero => rfl
  | succ count inductionHypothesis =>
    obtain ⟨rest, position⟩ := cursor
    cases rest with
    | nil => cases inside
    | cons first rest =>
      have onward := inductionHypothesis (next ⟨first :: rest, position⟩)
        (Nat.le_of_succ_le_succ inside)
      simp only [skip, next, List.length_cons] at onward ⊢
      omega

theorem go_of_accepted {accepts : UInt8 → Bool} {byte : UInt8} (accepted : accepts byte = true)
    (rest : List UInt8) (position : Position) :
    span.go accepts (byte :: rest) position =
      (byte :: (span.go accepts rest (position.after byte)).1,
        (span.go accepts rest (position.after byte)).2) :=
  if_pos accepted

theorem go_of_refused {accepts : UInt8 → Bool} {byte : UInt8} (refused : ¬accepts byte = true)
    (rest : List UInt8) (position : Position) :
    span.go accepts (byte :: rest) position = ([], ⟨byte :: rest, position⟩) :=
  if_neg refused

theorem length_span (accepts : UInt8 → Bool) (cursor : Cursor) :
    (cursor.span accepts).1.length + (cursor.span accepts).2.rest.length =
      cursor.rest.length := by
  obtain ⟨rest, position⟩ := cursor
  rw [span]
  induction rest generalizing position with
  | nil => rfl
  | cons byte rest inductionHypothesis =>
    by_cases accepted : accepts byte = true
    · have onward := inductionHypothesis (position.after byte)
      dsimp only at onward
      simp only [go_of_accepted accepted, List.length_cons]
      omega
    · simp [go_of_refused accepted]

/-- Nothing is left to take where a span stops. -/
theorem span_span (accepts : UInt8 → Bool) (cursor : Cursor) :
    (cursor.span accepts).2.span accepts = ([], (cursor.span accepts).2) := by
  obtain ⟨rest, position⟩ := cursor
  rw [span, span]
  induction rest generalizing position with
  | nil => rfl
  | cons byte rest inductionHypothesis =>
    by_cases accepted : accepts byte = true
    · simpa only [go_of_accepted accepted] using inductionHypothesis (position.after byte)
    · simp [go_of_refused accepted]

@[simp] theorem skipBlanks_skipBlanks (cursor : Cursor) :
    cursor.skipBlanks.skipBlanks = cursor.skipBlanks := by
  rw [skipBlanks, skipBlanks, span_span]

theorem length_skipBlanks_le (cursor : Cursor) :
    cursor.skipBlanks.rest.length ≤ cursor.rest.length := by
  have taken := length_span isBlank cursor
  rw [skipBlanks]
  omega

end Cursor

theorem peekAfterBlanks_eq_ok (atEnd : Flaw) (cursor start : Cursor) (byte : UInt8) :
    peekAfterBlanks atEnd cursor = .ok (byte, start) ↔
      cursor.skipBlanks = start ∧ start.peek? = some byte := by
  rw [peekAfterBlanks]
  cases found : cursor.skipBlanks.peek? with
  | none =>
    simp only [reduceCtorEq, false_iff]
    rintro ⟨rfl, impossible⟩
    simp [found] at impossible
  | some first =>
    simp only [Except.ok.injEq, Prod.mk.injEq]
    constructor
    · rintro ⟨rfl, rfl⟩
      exact ⟨rfl, found⟩
    · rintro ⟨rfl, same⟩
      exact ⟨Option.some.inj (found.symm.trans same), rfl⟩

/-- Blanks before a value are passed over in any case. -/
theorem peekAfterBlanks_skipBlanks (atEnd : Flaw) (cursor : Cursor) :
    peekAfterBlanks atEnd cursor.skipBlanks = peekAfterBlanks atEnd cursor := by
  rw [peekAfterBlanks, peekAfterBlanks, Cursor.skipBlanks_skipBlanks]

theorem readColon_eq_ok (cursor stop : Cursor) :
    readColon cursor = .ok stop ↔
      cursor.skipBlanks.peek? = some 0x3A ∧ cursor.skipBlanks.next = stop := by
  rw [readColon, Outcome.bind_eq_ok]
  constructor
  · rintro ⟨⟨byte, start⟩, first, read⟩
    obtain ⟨rfl, found⟩ := (peekAfterBlanks_eq_ok _ _ _ _).1 first
    dsimp only at read
    split at read
    · next colon => exact ⟨colon ▸ found, Except.ok.inj read⟩
    · cases read
  · rintro ⟨found, rfl⟩
    exact ⟨_, (peekAfterBlanks_eq_ok _ _ _ _).2 ⟨rfl, found⟩, rfl⟩

/-- A list goes on with its next item or ends at its bracket. -/
inductive NextItem (cursor : Cursor) : (first more : Bool) → Cursor → Prop
  | closed (first : Bool) (bracket : cursor.skipBlanks.peek? = some 0x5D) :
    NextItem cursor first false cursor.skipBlanks
  | head (byte : UInt8) (found : cursor.skipBlanks.peek? = some byte) (opened : byte ≠ 0x5D) :
    NextItem cursor true true cursor.skipBlanks
  | later (byte : UInt8) (comma : cursor.skipBlanks.peek? = some 0x2C)
      (found : cursor.skipBlanks.next.skipBlanks.peek? = some byte) (opened : byte ≠ 0x5D) :
    NextItem cursor false true cursor.skipBlanks.next.skipBlanks

theorem nextItem_eq_ok (first more : Bool) (cursor start : Cursor)
    (next : nextItem first cursor = .ok (more, start)) : NextItem cursor first more start := by
  rw [nextItem, Outcome.bind_eq_ok] at next
  obtain ⟨⟨byte, stop⟩, peeked, next⟩ := next
  obtain ⟨rfl, found⟩ := (peekAfterBlanks_eq_ok _ _ _ _).1 peeked
  dsimp only at next
  split at next
  · next bracket =>
    cases next
    exact .closed first (bracket ▸ found)
  · next opened =>
    split at next
    · next isFirst =>
      cases next
      rw [isFirst]
      exact .head byte found opened
    · next notFirst =>
      rw [Bool.not_eq_true] at notFirst
      split at next
      · next comma =>
        obtain ⟨⟨other, stop⟩, peeked, next⟩ := (Outcome.bind_eq_ok _ _ _).1 next
        obtain ⟨rfl, after⟩ := (peekAfterBlanks_eq_ok _ _ _ _).1 peeked
        dsimp only at next
        split at next
        · cases next
        · next opened =>
          cases next
          rw [notFirst]
          exact .later other (comma ▸ found) after opened
      · cases next

theorem nextItem_skipBlanks (first : Bool) (cursor : Cursor) :
    nextItem first cursor.skipBlanks = nextItem first cursor := by
  rw [nextItem, nextItem, peekAfterBlanks_skipBlanks]

/-- An object goes on behind the quote of its next name or ends at its brace. -/
inductive NextMember (cursor : Cursor) : (first more : Bool) → Cursor → Prop
  | closed (first : Bool) (brace : cursor.skipBlanks.peek? = some 0x7D) :
    NextMember cursor first false cursor.skipBlanks
  | head (quote : cursor.skipBlanks.peek? = some 0x22) :
    NextMember cursor true true cursor.skipBlanks.next
  | later (comma : cursor.skipBlanks.peek? = some 0x2C)
      (quote : cursor.skipBlanks.next.skipBlanks.peek? = some 0x22) :
    NextMember cursor false true cursor.skipBlanks.next.skipBlanks.next

theorem nextMember_eq_ok (first more : Bool) (cursor start : Cursor)
    (next : nextMember first cursor = .ok (more, start)) :
    NextMember cursor first more start := by
  rw [nextMember, Outcome.bind_eq_ok] at next
  obtain ⟨⟨byte, stop⟩, peeked, next⟩ := next
  obtain ⟨rfl, found⟩ := (peekAfterBlanks_eq_ok _ _ _ _).1 peeked
  dsimp only at next
  split at next
  · next brace =>
    cases next
    exact .closed first (brace ▸ found)
  · split at next
    · next isFirst =>
      split at next
      · next quote =>
        cases next
        rw [isFirst]
        exact .head (quote ▸ found)
      · cases next
    · next notFirst =>
      rw [Bool.not_eq_true] at notFirst
      split at next
      · next comma =>
        obtain ⟨⟨other, stop⟩, peeked, next⟩ := (Outcome.bind_eq_ok _ _ _).1 next
        obtain ⟨rfl, after⟩ := (peekAfterBlanks_eq_ok _ _ _ _).1 peeked
        dsimp only at next
        split at next
        · next quote =>
          cases next
          rw [notFirst]
          exact .later (comma ▸ found) (quote ▸ after)
        · split at next <;> cases next
      · cases next

end GraphQuery.Json
