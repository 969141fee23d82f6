import GraphQuery.Keyed

/-
This file holds JSON values.
-/

namespace GraphQuery

/-- Integers between `-2 ^ 63` and `2 ^ 64 - 1` are exact, and every other number is a double. -/
inductive Json where
  | null
  | boolean (value : Bool)
  | integer (value : Int)
  | real (value : Float)
  | string (content : String)
  | array (items : List Json)
  /-- The members stand in the order of their names, each name once. -/
  | object (members : List (String × Json))
deriving Inhabited

namespace Json

mutual

def decideEq : (first second : Json) → Decidable (first = second)
  | null, second => match second with
    | null => .isTrue rfl
    | boolean _ | integer _ | real _ | string _ | array _ | object _ => .isFalse nofun
  | boolean value, second => match second with
    | boolean other => decidable_of_iff (value = other) (by simp)
    | null | integer _ | real _ | string _ | array _ | object _ => .isFalse nofun
  | integer value, second => match second with
    | integer other => decidable_of_iff (value = other) (by simp)
    | null | boolean _ | real _ | string _ | array _ | object _ => .isFalse nofun
  | real value, second => match second with
    | real other => decidable_of_iff (value = other) (by simp)
    | null | boolean _ | integer _ | string _ | array _ | object _ => .isFalse nofun
  | string content, second => match second with
    | string other => decidable_of_iff (content = other) (by simp)
    | null | boolean _ | integer _ | real _ | array _ | object _ => .isFalse nofun
  | array items, second => match second with
    | array others => @decidable_of_iff _ (items = others) (by simp) (decideItemsEq items others)
    | null | boolean _ | integer _ | real _ | string _ | object _ => .isFalse nofun
  | object members, second => match second with
    | object others =>
      @decidable_of_iff _ (members = others) (by simp) (decideMembersEq members others)
    | null | boolean _ | integer _ | real _ | string _ | array _ => .isFalse nofun

def decideItemsEq : (items others : List Json) → Decidable (items = others)
  | [], [] => .isTrue rfl
  | [], _ :: _ | _ :: _, [] => .isFalse nofun
  | item :: items, other :: others =>
    let _ := decideEq item other
    let _ := decideItemsEq items others
    decidable_of_iff (item = other ∧ items = others) (by simp)

def decideMembersEq : (members others : List (String × Json)) → Decidable (members = others)
  | [], [] => .isTrue rfl
  | [], _ :: _ | _ :: _, [] => .isFalse nofun
  | (name, value) :: members, (other, content) :: others =>
    let _ := decideEq value content
    let _ := decideMembersEq members others
    decidable_of_iff ((name = other ∧ value = content) ∧ members = others) (by simp)

end

instance : DecidableEq Json := decideEq

/-- A member goes before the first larger name and replaces a member of the same name. -/
def insertMember {α : Type} (name : String) (value : α) :
    List (String × α) → List (String × α)
  | [] => [(name, value)]
  | (other, old) :: rest =>
    if name = other then (name, value) :: rest
    else if name < other then (name, value) :: (other, old) :: rest
    else (other, old) :: insertMember name value rest

/-- The members in the order of their names; of members with one name the last one counts. -/
def sortMembers {α : Type} (members : List (String × α)) : List (String × α) :=
  members.foldl (fun sorted member => insertMember member.1 member.2 sorted) []

def ofMembers (members : List (String × Json)) : Json := object (sortMembers members)

/-- Only an object has members. -/
def member? : Json → String → Option Json
  | object members, name => Keyed.valueAt? members name
  | _, _ => none

def string? : Json → Option String
  | string content => some content
  | _ => none

def isNull : Json → Bool
  | null => true
  | _ => false

end Json

end GraphQuery
