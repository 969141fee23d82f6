import GraphQuery.Json.Skip
import GraphQuery.Proofs.Json.Cursor
import GraphQuery.Proofs.Json.Tree

/-
This file shows that whatever can be read can be passed over.
-/

namespace GraphQuery.Json

theorem Word.length_readLetters_le (letters : List UInt8) (cursor stop : Cursor)
    (read : Word.readLetters letters cursor = .ok stop) :
    stop.rest.length ≤ cursor.rest.length := by
  induction letters generalizing cursor with
  | nil =>
    cases read
    exact le_rfl
  | cons letter letters inductionHypothesis =>
    rw [Word.readLetters] at read
    split at read
    · cases read
    · split at read
      · exact (inductionHypothesis _ read).trans cursor.length_next_le
      · cases read

namespace Numeral

theorem scanWhole_flaw (atEnd other : Flaw) (cursor stop : Cursor) (digits : List UInt8)
    (scanned : scanWhole atEnd cursor = .ok (digits, stop)) :
    scanWhole other cursor = .ok (digits, stop) ∧ stop.rest.length < cursor.rest.length := by
  have taken := cursor.length_span isDigit
  rw [scanWhole] at scanned ⊢
  generalize cursor.span isDigit = span at scanned taken ⊢
  obtain ⟨run, last⟩ := span
  dsimp only at scanned taken ⊢
  split at scanned
  · split at scanned <;> cases scanned
  · cases scanned
  · next nonempty notZero =>
    cases scanned
    refine ⟨rfl, ?_⟩
    cases digits with
    | nil => exact absurd rfl nonempty
    | cons digit digits =>
      rw [List.length_cons] at taken
      omega

theorem scanDecimals_flaw (atEnd other : Flaw) (cursor stop : Cursor)
    (decimals : Option (List UInt8)) (scanned : scanDecimals atEnd cursor = .ok (decimals, stop)) :
    scanDecimals other cursor = .ok (decimals, stop) ∧
      stop.rest.length ≤ cursor.rest.length := by
  have taken := cursor.next.length_span isDigit
  have moved := cursor.length_next_le
  rw [scanDecimals] at scanned ⊢
  split
  · next point =>
    rw [if_pos point] at scanned
    generalize cursor.next.span isDigit = span at scanned taken ⊢
    obtain ⟨run, last⟩ := span
    dsimp only at scanned taken ⊢
    split at scanned
    · cases scanned
    · next nonempty =>
      cases scanned
      exact ⟨by rw [if_neg nonempty], by omega⟩
  · next noPoint =>
    rw [if_neg noPoint] at scanned
    cases scanned
    exact ⟨rfl, le_rfl⟩

theorem scanExponent_flaw (atEnd other : Flaw) (cursor stop : Cursor)
    (exponent : Option (Bool × List UInt8 × Position))
    (scanned : scanExponent atEnd cursor = .ok (exponent, stop)) :
    scanExponent other cursor = .ok (exponent, stop) ∧
      stop.rest.length ≤ cursor.rest.length := by
  rw [scanExponent] at scanned ⊢
  split
  · next mark =>
    rw [if_pos mark] at scanned
    dsimp only at scanned ⊢
    generalize sign : (if (cursor.next.peek? == some 0x2D || cursor.next.peek? == some 0x2B) = true
      then cursor.next.next else cursor.next) = start at scanned ⊢
    have moved : start.rest.length ≤ cursor.rest.length := by
      rw [← sign]
      split
      · exact cursor.next.length_next_le.trans cursor.length_next_le
      · exact cursor.length_next_le
    have taken := start.length_span isDigit
    generalize start.span isDigit = span at scanned taken ⊢
    obtain ⟨run, last⟩ := span
    dsimp only at scanned taken ⊢
    split at scanned
    · split at scanned <;> cases scanned
    · next nonempty =>
      cases scanned
      exact ⟨by rw [if_neg nonempty], by omega⟩
  · next noMark =>
    rw [if_neg noMark] at scanned
    cases scanned
    exact ⟨rfl, le_rfl⟩

/-- What a text lacks at its end does not matter to a number that is complete. -/
theorem scan_flaw (atEnd other : Flaw) (cursor stop : Cursor) (numeral : Numeral)
    (scanned : scan atEnd cursor = .ok (numeral, stop)) :
    scan other cursor = .ok (numeral, stop) ∧ stop.rest.length < cursor.rest.length := by
  simp only [scan, Outcome.bind_eq_ok, Prod.exists] at scanned
  obtain ⟨whole, second, first, decimals, third, point, exponent, last, mark, equal⟩ := scanned
  cases equal
  obtain ⟨wholeAgain, shorter⟩ := scanWhole_flaw atEnd other _ _ _ first
  obtain ⟨decimalsAgain, noLonger⟩ := scanDecimals_flaw atEnd other _ _ _ point
  obtain ⟨exponentAgain, least⟩ := scanExponent_flaw atEnd other _ _ _ mark
  refine ⟨?_, by omega⟩
  simp [scan, wholeAgain, decimalsAgain, exponentAgain, bind, Except.bind, pure, Except.pure]

end Numeral

namespace StringBody

theorem readUnit_eq_ok (cursor stop : Cursor) (unit : Nat)
    (read : readUnit cursor = .ok (unit, stop)) :
    stop.rest.length < cursor.rest.length := by
  rw [readUnit] at read
  split at read
  · cases read
  · next long =>
    have taken := cursor.length_skip 4 (by omega)
    split at read
    · cases read
      omega
    · cases read

theorem readJoint_eq_ok (byte : UInt8) (cursor stop : Cursor)
    (read : readJoint byte cursor = .ok stop) : cursor.peek? = some byte ∧ cursor.next = stop := by
  rw [readJoint] at read
  split at read
  · cases read
  · next found peeked =>
    split at read
    · next same => exact ⟨same ▸ peeked, Except.ok.inj read⟩
    · cases read

/-- An escape is passed over in one step, and a surrogate pair in two. -/
inductive SkipsEscape (cursor stop : Cursor) : Prop
  | once (skipped : skipEscape cursor = .ok stop)
      (shorter : stop.rest.length < cursor.rest.length)
  | twice (middle : Cursor) (first : skipEscape cursor = .ok middle)
      (shorter : middle.rest.length < cursor.rest.length) (joint : middle.peek? = some 0x5C)
      (second : skipEscape middle.next = .ok stop)
      (shortest : stop.rest.length < middle.next.rest.length)

theorem skipEscape_unit (cursor stop : Cursor) (unit : Nat) (letter : cursor.peek? = some 0x75)
    (read : readUnit cursor.next = .ok (unit, stop)) :
    skipEscape cursor = .ok stop ∧ stop.rest.length < cursor.rest.length := by
  have shorter := readUnit_eq_ok _ _ _ read
  have moved := cursor.length_next _ letter
  refine ⟨?_, by omega⟩
  simp [skipEscape, letter, read, Except.map]

theorem skipsEscape_of_readEscape (cursor stop : Cursor) (char : Char)
    (read : readEscape cursor = .ok (char, stop)) : SkipsEscape cursor stop := by
  rw [readEscape] at read
  split at read
  · cases read
  · next byte found =>
    split at read
    · next code =>
      subst code
      rw [readCode, Outcome.bind_eq_ok] at read
      obtain ⟨⟨high, middle⟩, first, read⟩ := read
      obtain ⟨skipped, shorter⟩ := skipEscape_unit _ _ _ found first
      dsimp only at read
      split at read
      · cases read
      · split at read
        · obtain ⟨third, slash, read⟩ := (Outcome.bind_eq_ok _ _ _).1 read
          obtain ⟨fourth, letter, read⟩ := (Outcome.bind_eq_ok _ _ _).1 read
          obtain ⟨⟨low, last⟩, second, paired⟩ := (Outcome.bind_eq_ok _ _ _).1 read
          obtain ⟨joint, rfl⟩ := readJoint_eq_ok _ _ _ slash
          obtain ⟨mark, rfl⟩ := readJoint_eq_ok _ _ _ letter
          obtain ⟨again, shortest⟩ := skipEscape_unit _ _ _ mark second
          dsimp only at paired
          split at paired
          · simp only [pure, Except.pure, Except.ok.injEq, Prod.mk.injEq] at paired
            rw [← paired.2]
            exact .twice middle skipped shorter joint again shortest
          · cases paired
        · cases read
          exact .once skipped shorter
    · next plain =>
      split at read
      · next char short =>
        cases read
        have moved := cursor.length_next _ found
        exact .once (by simp [skipEscape, found, plain, short]) (by omega)
      · cases read

theorem skip_slash (budget : Nat) {cursor middle stop : Cursor}
    (slash : cursor.peek? = some 0x5C) (escape : skipEscape cursor.next = .ok middle)
    (onward : skip budget middle = .ok stop) : skip (budget + 1) cursor = .ok stop := by
  simp [skip, slash, escape, onward, bind, Except.bind]

/-- A budget suffices that is not smaller than the number of bytes that are taken. -/
theorem skip_of_scan (fuel : Nat) (cursor stop : Cursor) (bytes : List UInt8)
    (scanned : scan fuel cursor = .ok (bytes, stop)) :
    stop.rest.length < cursor.rest.length ∧
      ∀ budget, cursor.rest.length ≤ budget + stop.rest.length →
        skip budget cursor = .ok stop := by
  induction fuel generalizing cursor bytes with
  | zero => cases scanned
  | succ fuel inductionHypothesis =>
    rw [scan] at scanned
    split at scanned
    · cases scanned
    · next byte found =>
      have moved := cursor.length_next _ found
      split at scanned
      · next quote =>
        cases scanned
        refine ⟨by omega, fun budget enough => ?_⟩
        cases budget with
        | zero => omega
        | succ budget => simp [skip, found, quote]
      · next body =>
        split at scanned
        · next slash =>
          obtain ⟨⟨char, middle⟩, escape, scanned⟩ := (Outcome.bind_eq_ok _ _ _).1 scanned
          obtain ⟨⟨rest, last⟩, tail, equal⟩ := (Outcome.bind_eq_ok _ _ _).1 scanned
          cases equal
          obtain ⟨shorter, onward⟩ := inductionHypothesis _ _ tail
          rw [slash] at found
          cases skipsEscape_of_readEscape _ _ _ escape with
          | once skipped taken =>
            refine ⟨by omega, fun budget enough => ?_⟩
            cases budget with
            | zero => omega
            | succ budget => exact skip_slash budget found skipped (onward budget (by omega))
          -- A pair of surrogates is one step of the scan and two steps of the budget.
          | twice between first taken joint second least =>
            have between_moved := between.length_next _ joint
            refine ⟨by omega, fun budget enough => ?_⟩
            match budget with
            | 0 | 1 => omega
            | budget + 2 =>
              exact skip_slash _ found first
                (skip_slash budget joint second (onward budget (by omega)))
        · next plain =>
          split at scanned
          · cases scanned
          · next visible =>
            obtain ⟨⟨rest, last⟩, tail, equal⟩ := (Outcome.bind_eq_ok _ _ _).1 scanned
            cases equal
            obtain ⟨shorter, onward⟩ := inductionHypothesis _ _ tail
            refine ⟨by omega, fun budget enough => ?_⟩
            cases budget with
            | zero => omega
            | succ budget =>
              simpa [skip, found, body, plain, visible] using onward budget (by omega)

end StringBody

theorem skipString_of_readString (cursor stop : Cursor) (content : String)
    (read : readString cursor = .ok (content, stop)) :
    skipString cursor = .ok stop ∧ stop.rest.length < cursor.rest.length := by
  rw [readString, Outcome.bind_eq_ok] at read
  obtain ⟨⟨bytes, last⟩, scanned, decoded⟩ := read
  dsimp only at decoded
  split at decoded
  · cases decoded
    obtain ⟨shorter, skipped⟩ := StringBody.skip_of_scan _ _ _ _ scanned
    exact ⟨skipped _ (by omega), shorter⟩
  · cases decoded

theorem skipNumber_of_readNumber (byte : UInt8) (cursor stop : Cursor) (number : Number)
    (found : cursor.peek? = some byte) (read : readNumber cursor = .ok (number, stop)) :
    (Numeral.scan .invalidNumber (if byte = 0x2D then cursor.next else cursor)).map Prod.snd =
        .ok stop ∧
      stop.rest.length < cursor.rest.length := by
  have sign : (cursor.peek? == some 0x2D) = decide (byte = 0x2D) := by
    rw [found]
    rfl
  rw [readNumber, sign] at read
  simp only [decide_eq_true_eq] at read
  obtain ⟨⟨numeral, last⟩, scanned, valued⟩ := (Outcome.bind_eq_ok _ _ _).1 read
  obtain ⟨value, -, equal⟩ := (Outcome.bind_eq_ok _ _ _).1 valued
  cases equal
  obtain ⟨again, shorter⟩ := Numeral.scan_flaw _ .invalidNumber _ _ _ scanned
  have moved : (if byte = 0x2D then cursor.next else cursor).rest.length ≤
      cursor.rest.length := by
    split
    · exact cursor.length_next_le
    · exact le_rfl
  exact ⟨by rw [again]; rfl, shorter.trans_le moved⟩

theorem skipScalar_of_readScalar (byte : UInt8) (cursor stop : Cursor) (json : Json)
    (found : cursor.peek? = some byte) (read : readScalar byte cursor = .ok (json, stop)) :
    Skip.scalar byte cursor = .ok stop ∧ stop.rest.length < cursor.rest.length := by
  have moved := cursor.length_next _ found
  cases readsScalar_of_readScalar _ _ _ _ read with
  | word word stop first letters =>
    have shorter := Word.length_readLetters_le _ _ _ letters
    refine ⟨?_, by omega⟩
    simp only [Skip.scalar, first, letters]
  | number number stop noWord starts digits =>
    obtain ⟨skipped, shorter⟩ := skipNumber_of_readNumber _ _ _ _ found digits
    refine ⟨?_, shorter⟩
    simpa only [Skip.scalar, noWord, if_pos starts] using skipped
  | string content stop quote body =>
    subst quote
    obtain ⟨skipped, shorter⟩ := skipString_of_readString _ _ _ body
    exact ⟨skipped, by omega⟩

/-- A run leads from a cursor to a later one with every budget of twice the bytes between. -/
def Passes (spare : Nat) (run : Nat → Except Fault Cursor) (cursor stop : Cursor) : Prop :=
  stop.rest.length < cursor.rest.length ∧
    ∀ budget, 2 * cursor.rest.length + spare ≤ budget + 2 * stop.rest.length →
      run budget = .ok stop

/-- A budget for at least one byte is not empty. -/
theorem Passes.step {spare : Nat} {run : Nat → Except Fault Cursor} {cursor stop : Cursor}
    (shorter : stop.rest.length < cursor.rest.length)
    (passed : ∀ budget, 2 * cursor.rest.length + spare ≤ budget + 1 + 2 * stop.rest.length →
      run (budget + 1) = .ok stop) : Passes spare run cursor stop := by
  refine ⟨shorter, fun budget enough => ?_⟩
  cases budget with
  | zero => omega
  | succ budget => exact passed budget enough

/-- A value is passed over. -/
def Skips (cursor stop : Cursor) : Prop := Passes 0 (Skip.value · cursor) cursor stop

theorem Skips.of_skipBlanks {cursor stop : Cursor} (skips : Skips cursor.skipBlanks stop) :
    Skips cursor stop := by
  have blanks := cursor.length_skipBlanks_le
  refine ⟨skips.1.trans_le blanks, fun budget enough => ?_⟩
  have skipped := skips.2 budget (by omega)
  dsimp only at skipped ⊢
  cases budget with
  | zero => cases skipped
  | succ budget => rwa [Skip.value, peekAfterBlanks_skipBlanks, ← Skip.value] at skipped

/-- The rest of a list is passed over from one place in it; its end takes a step of its own. -/
def SkipsItems (first : Bool) (cursor stop : Cursor) : Prop :=
  Passes 1 (Skip.items · first cursor) cursor stop

theorem skipsItems_of_readItems (depth : Nat)
    (each : ∀ cursor stop tree, Tree.read depth cursor = .ok (tree, stop) → Skips cursor stop)
    (fuel : Nat) (first : Bool) (cursor stop : Cursor) (items : List Tree)
    (read : readItems (Tree.read depth) fuel first cursor = .ok (items, stop)) :
    SkipsItems first cursor stop.next := by
  induction fuel generalizing first cursor items with
  | zero => cases read
  | succ fuel inductionHypothesis =>
    rw [readItems, Outcome.bind_eq_ok] at read
    obtain ⟨⟨more, start⟩, next, read⟩ := read
    have blanks := cursor.length_skipBlanks_le
    have peeked (byte : UInt8) (found : cursor.skipBlanks.peek? = some byte) :
        peekAfterBlanks .endInList cursor = .ok (byte, cursor.skipBlanks) :=
      (peekAfterBlanks_eq_ok _ _ _ _).2 ⟨rfl, found⟩
    cases nextItem_eq_ok _ _ _ _ next with
    | closed first bracket =>
      cases read
      have moved := cursor.skipBlanks.length_next _ bracket
      refine Passes.step (by omega) fun budget enough => ?_
      simp [Skip.items, peeked _ bracket, bind, Except.bind, pure, Except.pure]
    | head byte found opened =>
      obtain ⟨⟨tree, middle⟩, head, read⟩ := (Outcome.bind_eq_ok _ _ _).1 read
      obtain ⟨⟨rest, last⟩, tail, equal⟩ := (Outcome.bind_eq_ok _ _ _).1 read
      cases equal
      obtain ⟨shorter, skipped⟩ := each _ _ _ head
      obtain ⟨least, onward⟩ := inductionHypothesis _ _ _ tail
      refine Passes.step (by omega) fun budget enough => ?_
      simp [Skip.items, peeked _ found, opened, bind, Except.bind, skipped budget (by omega),
        onward budget (by omega)]
    | later byte comma found opened =>
      obtain ⟨⟨tree, middle⟩, head, read⟩ := (Outcome.bind_eq_ok _ _ _).1 read
      obtain ⟨⟨rest, last⟩, tail, equal⟩ := (Outcome.bind_eq_ok _ _ _).1 read
      cases equal
      have moved := cursor.skipBlanks.length_next _ comma
      obtain ⟨shorter, skipped⟩ := (each _ _ _ head).of_skipBlanks
      obtain ⟨least, onward⟩ := inductionHypothesis _ _ _ tail
      refine Passes.step (by omega) fun budget enough => ?_
      simp [Skip.items, peeked _ comma, bind, Except.bind, skipped budget (by omega),
        onward budget (by omega)]

/-- The rest of an object is passed over likewise. -/
def SkipsMembers (first : Bool) (cursor stop : Cursor) : Prop :=
  Passes 1 (Skip.members · first cursor) cursor stop

/-- A name and its colon are passed over, whatever blanks lie before. -/
theorem skipName (cursor middle stop : Cursor) (name : String)
    (quote : cursor.skipBlanks.peek? = some 0x22)
    (string : readString cursor.skipBlanks.next = .ok (name, middle))
    (colon : readColon middle = .ok stop) :
    Skip.name cursor = .ok stop ∧ stop.rest.length < cursor.rest.length := by
  have blanks := cursor.length_skipBlanks_le
  have moved := cursor.skipBlanks.length_next _ quote
  obtain ⟨skipped, shorter⟩ := skipString_of_readString _ _ _ string
  obtain ⟨found, after⟩ := (readColon_eq_ok _ _).1 colon
  have least := middle.length_skipBlanks_le
  have last := middle.skipBlanks.length_next _ found
  rw [after] at last
  refine ⟨?_, by omega⟩
  have peeked : peekAfterBlanks .endInObject cursor = .ok (0x22, cursor.skipBlanks) :=
    (peekAfterBlanks_eq_ok _ _ _ _).2 ⟨rfl, quote⟩
  simp [Skip.name, peeked, bind, Except.bind, skipped, colon]

theorem skipsMembers_of_readMembers (depth : Nat)
    (each : ∀ cursor stop tree, Tree.read depth cursor = .ok (tree, stop) → Skips cursor stop)
    (fuel : Nat) (first : Bool) (cursor stop : Cursor) (before members : List (String × Tree))
    (read : readMembers (Tree.readMember (Tree.read depth)) fuel first before cursor =
      .ok (members, stop)) :
    SkipsMembers first cursor stop.next := by
  induction fuel generalizing first cursor before with
  | zero => cases read
  | succ fuel inductionHypothesis =>
    rw [readMembers, Outcome.bind_eq_ok] at read
    obtain ⟨⟨more, start⟩, next, read⟩ := read
    have blanks := cursor.length_skipBlanks_le
    have peeked (byte : UInt8) (found : cursor.skipBlanks.peek? = some byte) :
        peekAfterBlanks .endInObject cursor = .ok (byte, cursor.skipBlanks) :=
      (peekAfterBlanks_eq_ok _ _ _ _).2 ⟨rfl, found⟩
    cases nextMember_eq_ok _ _ _ _ next with
    | closed first brace =>
      cases read
      have moved := cursor.skipBlanks.length_next _ brace
      refine Passes.step (by omega) fun budget enough => ?_
      simp [Skip.members, peeked _ brace, bind, Except.bind, pure, Except.pure]
    | head quote =>
      obtain ⟨⟨between, last⟩, member, tail⟩ := (Outcome.bind_eq_ok _ _ _).1 read
      obtain ⟨name, middle, start, tree, string, colon, content, -⟩ :=
        (Tree.readMember_eq_ok _ _ _ _ _).1 member
      obtain ⟨named, shorter⟩ := skipName cursor.skipBlanks middle start name
        (by rwa [Cursor.skipBlanks_skipBlanks]) (by rwa [Cursor.skipBlanks_skipBlanks]) colon
      obtain ⟨least, skipped⟩ := each _ _ _ content
      obtain ⟨last, onward⟩ := inductionHypothesis _ _ _ tail
      refine Passes.step (by omega) fun budget enough => ?_
      simp [Skip.members, peeked _ quote, bind, Except.bind, named, skipped budget (by omega),
        onward budget (by omega)]
    | later comma quote =>
      obtain ⟨⟨between, last⟩, member, tail⟩ := (Outcome.bind_eq_ok _ _ _).1 read
      obtain ⟨name, middle, start, tree, string, colon, content, -⟩ :=
        (Tree.readMember_eq_ok _ _ _ _ _).1 member
      have moved := cursor.skipBlanks.length_next _ comma
      obtain ⟨named, shorter⟩ := skipName _ middle start name quote string colon
      obtain ⟨least, skipped⟩ := each _ _ _ content
      obtain ⟨last, onward⟩ := inductionHypothesis _ _ _ tail
      refine Passes.step (by omega) fun budget enough => ?_
      simp [Skip.members, peeked _ comma, bind, Except.bind, named, skipped budget (by omega),
        onward budget (by omega)]

/-- Whatever can be read can be passed over, up to the same place. -/
theorem skips_of_read (depth : Nat) (cursor stop : Cursor) (tree : Tree)
    (read : Tree.read depth cursor = .ok (tree, stop)) : Skips cursor stop := by
  induction depth using Nat.strong_induction_on generalizing cursor stop tree with
  | h depth inductionHypothesis =>
    have blanks := cursor.length_skipBlanks_le
    cases Tree.reads_of_read _ _ _ _ read with
    | scalar byte start stop json plain first notList notObject content =>
      obtain ⟨rfl, found⟩ := (peekAfterBlanks_eq_ok _ _ _ _).1 first
      obtain ⟨skipped, shorter⟩ := skipScalar_of_readScalar _ _ _ _ found content
      refine Passes.step (by omega) fun budget enough => ?_
      simpa [Skip.value, first, bind, Except.bind, notList, notObject] using skipped
    | array inner start stop items deep first content =>
      obtain ⟨rfl, found⟩ := (peekAfterBlanks_eq_ok _ _ _ _).1 first
      have moved := cursor.skipBlanks.length_next _ found
      obtain ⟨shorter, skipped⟩ := skipsItems_of_readItems inner
        (inductionHypothesis inner (by omega)) _ _ _ _ _ content
      refine Passes.step (by omega) fun budget enough => ?_
      simpa [Skip.value, first, bind, Except.bind] using skipped budget (by omega)
    | object inner start stop members deep first content =>
      obtain ⟨rfl, found⟩ := (peekAfterBlanks_eq_ok _ _ _ _).1 first
      have moved := cursor.skipBlanks.length_next _ found
      obtain ⟨shorter, skipped⟩ := skipsMembers_of_readMembers inner
        (inductionHypothesis inner (by omega)) _ _ _ _ _ _ content
      refine Passes.step (by omega) fun budget enough => ?_
      simpa [Skip.value, first, bind, Except.bind] using skipped budget (by omega)

theorem skipValue_of_read (depth : Nat) (cursor stop : Cursor) (tree : Tree)
    (read : Tree.read depth cursor = .ok (tree, stop)) : skipValue cursor = .ok stop :=
  (skips_of_read depth cursor stop tree read).2 _ (by omega)

end GraphQuery.Json
