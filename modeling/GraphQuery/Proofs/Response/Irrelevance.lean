import GraphQuery.Proofs.Json.Shape.Edit
import GraphQuery.Proofs.Response.Classification

/-
This file shows that what a caller does not ask for in a response does not change its result.
-/

namespace GraphQuery

open Json

/-- A failure without the wording of its description. -/
def Failure.outline : Failure → Failure
  | .http status reason description errors =>
    .http status reason (description.map fun _ => "") errors
  | .protocol status _ => .protocol status ""
  | failure => failure

namespace Envelope

/-- One edit of a body whose data is read under a key.
It is an edit of the envelope, of its errors or of their locations, or it changes members of the
data that do not stand under the key. -/
inductive Edit (key : Option String) : Tree → Tree → Prop
  | unread (before after : Tree) (edit : shape.Edit before after) : Edit key before after
  | data (front back before after : List (String × Tree)) (name : String)
      (selected : key = some name)
      (same : before.filter (·.1 == name) = after.filter (·.1 == name)) :
    Edit key (.object (front ++ ("data", .object before) :: back))
      (.object (front ++ ("data", .object after) :: back))

/-- The data and the errors that a result is made of. -/
def answer (key : Option String) (envelope : Envelope) :
    Option Json × Option (List ServerError) :=
  (Response.payload envelope.data key, envelope.errors)

/-- The answer that stands in a tree, if it is an envelope. -/
def answer? (key : Option String) (tree : Tree) :
    Option (Option Json × Option (List ServerError)) :=
  (shape.decode tree.toJson).toOption.map fun data => (ofData data).answer key

variable {key : Option String} {before after : Tree}

theorem Edit.unrepeated_iff (edit : Edit key before after) :
    shape.Unrepeated before ↔ shape.Unrepeated after := by
  cases edit with
  | unread before after edit => exact Shape.Edit.unrepeated_iff edit isProper_fields
  | data front back before after name selected same =>
    rw [shape, Shape.Unrepeated, Shape.Unrepeated]
    refine and_congr (forall₂_congr fun name known => by simp) ?_
    simp [or_imp, forall_and, fields, Fields.UnrepeatedMember, Shape.Unrepeated]

/-- Only the members of a name say what stands under it. -/
theorem member?_toJson_of_filter (before after : List (String × Tree)) (name : String)
    (same : before.filter (·.1 == name) = after.filter (·.1 == name)) :
    (Tree.object before).toJson.member? name = (Tree.object after).toJson.member? name := by
  have kept (members : List (String × Tree)) :
      (members.map fun member => (member.1, member.2.toJson)).filter (·.1 == name) =
        (members.filter (·.1 == name)).map fun member => (member.1, member.2.toJson) :=
    List.filter_map
  rw [Tree.toJson_object, Tree.toJson_object, member?, member?, Tree.toMembers, Tree.toMembers,
    valueAt?_sortMembers_eq, valueAt?_sortMembers_eq, kept, kept, same]

/-- The answer of an object lies in its members of two names. -/
theorem answer?_object (key : Option String) (members : List (String × Tree))
    (once : fields.Once members) :
    answer? key (.object members) =
      (both ((Shape.optional .any).take ((Keyed.valueAt? members "data").map Tree.toJson))
        ((Shape.optional (.list ServerError.shape)).take
          ((Keyed.valueAt? members "errors").map Tree.toJson))).map fun taken =>
        (ofData (taken.1, taken.2, ())).answer key := by
  have taken := Shape.toOption_decode_object "Envelope" fields isProper_fields members once
  refine (congrArg (Option.map fun data => (ofData data).answer key) taken).trans ?_
  change (both _ (both _ (some ()))).map _ = _
  generalize (Shape.optional .any).take _ = data
  generalize (Shape.optional (.list ServerError.shape)).take _ = errors
  cases data <;> cases errors <;> rfl

/-- Data that has the same under its key gives the same answer. -/
theorem map_answer_both (name : String) (data other : Json) (notNull : data ≠ .null)
    (stillNotNull : other ≠ .null) (same : data.member? name = other.member? name)
    (errors : Option (Shape.optional (.list ServerError.shape)).Carrier) :
    ((both ((Shape.optional .any).take (some data)) errors).map fun taken =>
        (ofData (taken.1, taken.2, ())).answer (some name)) =
      (both ((Shape.optional .any).take (some other)) errors).map fun taken =>
        (ofData (taken.1, taken.2, ())).answer (some name) := by
  have kept (json : Json) (present : json ≠ .null) :
      (Shape.optional .any).take (some json) = some (some json) := by
    rw [Shape.take, decode_optional .any json present]
    rfl
  rw [kept data notNull, kept other stillNotNull]
  cases errors with
  | none => rfl
  | some errors =>
    change some (Response.payload (some data) (some name), _) =
      some (Response.payload (some other) (some name), _)
    rw [Response.payload, Response.payload, Option.bind_some, Option.bind_some, same]
    rfl

theorem Edit.answer?_eq (edit : Edit key before after) (unrepeated : shape.Unrepeated before) :
    answer? key before = answer? key after := by
  have still := edit.unrepeated_iff.1 unrepeated
  cases edit with
  | unread before after edit =>
    rw [answer?, answer?, (Outcome.agree_iff _ _).1 (edit.agree isProper_fields unrepeated)]
  | data front back before after name selected same =>
    rw [shape, Shape.Unrepeated] at unrepeated still
    rw [selected, answer?_object _ _ unrepeated.1, answer?_object _ _ still.1,
      Keyed.valueAt?_middle_of_ne front back "data" "errors" _ (by decide),
      Keyed.valueAt?_middle_of_ne front back "data" "errors" _ (by decide),
      Keyed.valueAt?_append front _ "data", Keyed.valueAt?_append front _ "data"]
    cases Keyed.valueAt? front "data" with
    | some earlier => rfl
    | none =>
      exact map_answer_both name _ _ (by simp [Tree.toJson_object]) (by simp [Tree.toJson_object])
        (member?_toJson_of_filter before after name same) _

theorem unrepeated_iff_of_edits (edits : Relation.EqvGen (Edit key) before after) :
    shape.Unrepeated before ↔ shape.Unrepeated after := by
  induction edits with
  | rel before after edit => exact edit.unrepeated_iff
  | refl tree => exact .rfl
  | symm before after edits inductionHypothesis => exact inductionHypothesis.symm
  | trans before middle after edits further first second => exact first.trans second

/-- Any number of edits in either direction leaves the answer as it is. -/
theorem answer?_eq_of_edits (edits : Relation.EqvGen (Edit key) before after)
    (unrepeated : shape.Unrepeated before) : answer? key before = answer? key after := by
  induction edits with
  | rel before after edit => exact edit.answer?_eq unrepeated
  | refl tree => rfl
  | symm before after edits inductionHypothesis =>
    exact (inductionHypothesis ((unrepeated_iff_of_edits edits).2 unrepeated)).symm
  | trans before middle after edits further first second =>
    exact (first unrepeated).trans (second ((unrepeated_iff_of_edits edits).1 unrepeated))

theorem answer?_of_parse (body : List UInt8) (tree : Tree) (parsed : Tree.parse body = .ok tree)
    (unrepeated : shape.Unrepeated tree) :
    (parse body).toOption.map (answer key) = answer? key tree := by
  have read := shape.toOption_parse isProper_fields body tree parsed unrepeated
  rw [answer?, ← read, parse]
  cases shape.parse body <;> rfl

end Envelope

namespace Response

variable {Payload : Type}

/-- Bodies with the same answer have the same result, up to the wording of what was wrong. -/
theorem alike_unwrap_of_answer (decode : Json → Except Mismatch Payload) (status : Nat)
    (reason : Option String) (headers : Keyed String) (body other : List UInt8)
    (key : Option String)
    (same : (Envelope.parse body).toOption.map (Envelope.answer key) =
      (Envelope.parse other).toOption.map (Envelope.answer key)) :
    Outcome.Alike Failure.outline (unwrap decode status reason headers body key)
      (unwrap decode status reason headers other key) := by
  cases read : Envelope.parse body with
  | error fault =>
    cases again : Envelope.parse other with
    | error problem =>
      rw [unwrap, unwrap, read, again]
      split <;> rfl
    | ok envelope =>
      rw [read, again] at same
      cases same
  | ok envelope =>
    cases again : Envelope.parse other with
    | error problem =>
      rw [read, again] at same
      cases same
    | ok changed =>
      rw [read, again] at same
      obtain ⟨payload, errors⟩ := Prod.mk.inj (Option.some.inj same)
      rw [unwrap, unwrap, read, again]
      simp only [payload, errors]
      rfl

/-- Neither members that nobody reads nor the order of members changes the result. -/
theorem unwrap_ignores_unread (decode : Json → Except Mismatch Payload) (status : Nat)
    (reason : Option String) (headers : Keyed String) (key : Option String)
    (body other : List UInt8) (tree changed : Tree) (parsed : Tree.parse body = .ok tree)
    (reparsed : Tree.parse other = .ok changed) (unrepeated : Envelope.shape.Unrepeated tree)
    (edits : Relation.EqvGen (Envelope.Edit key) tree changed) :
    Outcome.Alike Failure.outline (unwrap decode status reason headers body key)
      (unwrap decode status reason headers other key) := by
  have still := (Envelope.unrepeated_iff_of_edits edits).1 unrepeated
  apply alike_unwrap_of_answer
  rw [Envelope.answer?_of_parse body tree parsed unrepeated,
    Envelope.answer?_of_parse other changed reparsed still]
  exact Envelope.answer?_eq_of_edits edits unrepeated

def integerTree (value : Int) : Tree := .scalar (.integer value) trivial

/-- A body with one error, which names one place and may have further members. -/
def trackedTree (data location further : List (String × Tree)) : Tree :=
  .object [("data", .object data), ("errors", .array [.object
    (("message", .scalar (.string "one") trivial) :: ("locations", .array [.object location]) ::
      further)])]

def plainTree : Tree :=
  trackedTree [("x", integerTree 1), ("y", integerTree 2)]
    [("line", integerTree 3), ("column", integerTree 4)] []

def plainBody : List UInt8 :=
  Text.Utf8.bytes
    "\x7b\"data\":\x7b\"x\":1,\"y\":2\x7d,\"errors\":[\x7b\"message\":\"one\",
      \"locations\":[\x7b\"line\":3,\"column\":4\x7d]\x7d]\x7d"

/-- The data has another member beside the same value, the place is written the other way round,
and the error has one more member. -/
def grownTree : Tree :=
  trackedTree [("z", .scalar .null trivial), ("x", integerTree 1)]
    [("column", integerTree 4), ("line", integerTree 3)] [("hint", .array [])]

def grownBody : List UInt8 :=
  Text.Utf8.bytes
    "\x7b\"data\":\x7b\"z\":null,\"x\":1\x7d,\"errors\":[\x7b\"message\":\"one\",
      \"locations\":[\x7b\"column\":4,\"line\":3\x7d],\"hint\":[]\x7d]\x7d"

theorem trackedTree_edit (data location other further more : List (String × Tree))
    (edit : ServerError.shape.Edit
      (.object (("message", .scalar (.string "one") trivial) ::
        ("locations", .array [.object location]) :: further))
      (.object (("message", .scalar (.string "one") trivial) ::
        ("locations", .array [.object other]) :: more))) (key : Option String) :
    Envelope.Edit key (trackedTree data location further) (trackedTree data other more) :=
  .unread _ _ (.member _ _ [_] [] "errors" _ _ _ rfl (.optional _ _ _ (.item _ [] [] _ _ edit)))

/-- Three edits lead from the plain tree to the grown one. -/
theorem edits_plainTree : Relation.EqvGen (Envelope.Edit (some "x")) plainTree grownTree := by
  have changed (location further : List (String × Tree)) : Envelope.Edit (some "x")
      (trackedTree [("x", integerTree 1), ("y", integerTree 2)] location further)
      (trackedTree [("z", .scalar .null trivial), ("x", integerTree 1)] location further) :=
    .data [] _ _ _ "x" rfl (by decide +kernel)
  have turned (data : List (String × Tree)) (first second : String × Tree) :
      Envelope.Edit (some "x") (trackedTree data [first, second] [])
        (trackedTree data [second, first] []) :=
    trackedTree_edit data _ _ [] [] (.member _ _ [_] [] "locations" _ _ _ rfl
      (.optional _ _ _ (.item _ [] [] _ _ (.reordered _ _ _ _ (.swap _ _ _))))) _
  have added (data location : List (String × Tree)) :
      Envelope.Edit (some "x") (trackedTree data location [])
        (trackedTree data location [("hint", .array [])]) :=
    trackedTree_edit data location location [] _
      (.added _ _ [_, _] [] "hint" (.array []) (by decide +kernel)) _
  exact .trans _ _ _ (.rel _ _ (changed _ _))
    (.trans _ _ _ (.rel _ _ (turned _ _ _)) (.rel _ _ (added _ _)))

/-- What is read of the plain body is read of the grown one. -/
theorem unwrap_ignores_unread_grownBody :
    Tree.parse plainBody = .ok plainTree ∧ Tree.parse grownBody = .ok grownTree ∧
      Envelope.shape.Unrepeated plainTree ∧
      Relation.EqvGen (Envelope.Edit (some "x")) plainTree grownTree ∧
      Outcome.Alike Failure.outline
        (unwrap (Shape.integer .signed32).decode 200 none [] plainBody (some "x"))
        (unwrap (Shape.integer .signed32).decode 200 none [] grownBody (some "x")) := by
  have parsed : Tree.parse plainBody = .ok plainTree :=
    (Outcome.toOption_eq_some _ _).1 (by decide +kernel)
  have reparsed : Tree.parse grownBody = .ok grownTree :=
    (Outcome.toOption_eq_some _ _).1 (by decide +kernel)
  have unrepeated : Envelope.shape.Unrepeated plainTree :=
    Shape.Distinct.unrepeated _ _ (by decide +kernel)
  exact ⟨parsed, reparsed, unrepeated, edits_plainTree,
    unwrap_ignores_unread _ 200 none [] (some "x") plainBody grownBody plainTree grownTree parsed
      reparsed unrepeated edits_plainTree⟩

end Response

end GraphQuery
