import GraphQuery.Json
import GraphQuery.Proofs.Keyed
import Mathlib.Data.String.Basic

/-
This file says what the members of an object are once they stand in the order of their names.
-/

namespace GraphQuery.Json

variable {α : Type}

/-- Each name is smaller than the names behind it. -/
def IsSorted (members : List (String × α)) : Prop :=
  members.Pairwise fun member later => member.1 < later.1

theorem IsSorted.nodup {members : List (String × α)} (sorted : IsSorted members) :
    (members.map Prod.fst).Nodup := by
  rw [List.Nodup, List.pairwise_map]
  exact sorted.imp fun less => less.ne

theorem isSorted_pair {first second : String} (less : first < second) (value other : α) :
    IsSorted [(first, value), (second, other)] := by
  simpa [IsSorted] using less

theorem insertMember_cons (name other : String) (value old : α) (rest : List (String × α)) :
    insertMember name value ((other, old) :: rest) =
      if name = other then (name, value) :: rest
      else if name < other then (name, value) :: (other, old) :: rest
      else (other, old) :: insertMember name value rest :=
  rfl

theorem mem_insertMember (name : String) (value : α) (members : List (String × α))
    (member : String × α) (inside : member ∈ insertMember name value members) :
    member = (name, value) ∨ member ∈ members := by
  induction members with
  | nil => exact .inl (List.mem_singleton.1 inside)
  | cons first rest inductionHypothesis =>
    obtain ⟨other, old⟩ := first
    rw [insertMember_cons] at inside
    split at inside
    · rcases List.mem_cons.1 inside with now | later
      · exact .inl now
      · exact .inr (List.mem_cons_of_mem _ later)
    · split at inside
      · exact List.mem_cons.1 inside
      · rcases List.mem_cons.1 inside with now | later
        · exact .inr (now ▸ List.mem_cons_self)
        · exact (inductionHypothesis later).imp_right (List.mem_cons_of_mem _)

theorem IsSorted.insertMember {members : List (String × α)} (sorted : IsSorted members)
    (name : String) (value : α) : IsSorted (insertMember name value members) := by
  induction members with
  | nil => exact List.pairwise_singleton _ _
  | cons first rest inductionHypothesis =>
    obtain ⟨other, old⟩ := first
    obtain ⟨least, tail⟩ := List.pairwise_cons.1 sorted
    rw [insertMember_cons]
    split
    · next same =>
      subst same
      exact List.pairwise_cons.2 ⟨least, tail⟩
    · next apart =>
      split
      · next less =>
        refine List.pairwise_cons.2 ⟨?_, sorted⟩
        intro member inside
        rcases List.mem_cons.1 inside with rfl | later
        · exact less
        · exact less.trans (least member later)
      · next notLess =>
        refine List.pairwise_cons.2 ⟨?_, inductionHypothesis tail⟩
        intro member inside
        rcases mem_insertMember name value rest member inside with rfl | later
        · exact lt_of_le_of_ne (not_lt.1 notLess) fun equal => apart equal.symm
        · exact least member later

theorem sortMembers_concat (members : List (String × α)) (member : String × α) :
    sortMembers (members ++ [member]) = insertMember member.1 member.2 (sortMembers members) := by
  rw [sortMembers, List.foldl_append]
  rfl

theorem isSorted_sortMembers (members : List (String × α)) : IsSorted (sortMembers members) := by
  induction members using List.reverseRecOn with
  | nil => exact List.Pairwise.nil
  | append_singleton members member inductionHypothesis =>
    rw [sortMembers_concat]
    exact inductionHypothesis.insertMember member.1 member.2

/-- A member goes behind all smaller names. -/
theorem insertMember_of_forall_lt (name : String) (value : α) (members : List (String × α))
    (smaller : ∀ member ∈ members, member.1 < name) :
    insertMember name value members = members ++ [(name, value)] := by
  induction members with
  | nil => rfl
  | cons first rest inductionHypothesis =>
    obtain ⟨other, old⟩ := first
    have less : other < name := smaller _ List.mem_cons_self
    rw [insertMember_cons, if_neg less.ne', if_neg less.asymm,
      inductionHypothesis fun member inside => smaller member (List.mem_cons_of_mem _ inside)]
    rfl

/-- Sorted members stay as they are. -/
theorem IsSorted.sortMembers {members : List (String × α)} (sorted : IsSorted members) :
    sortMembers members = members := by
  induction members using List.reverseRecOn with
  | nil => rfl
  | append_singleton members member inductionHypothesis =>
    obtain ⟨before, -, smaller⟩ := List.pairwise_append.1 sorted
    rw [sortMembers_concat, inductionHypothesis before]
    apply insertMember_of_forall_lt
    exact fun other inside => smaller other inside member List.mem_cons_self

theorem valueAt?_insertMember (name key : String) (value : α) (members : List (String × α)) :
    Keyed.valueAt? (insertMember name value members) key =
      if name = key then some value else Keyed.valueAt? members key := by
  induction members with
  | nil => rfl
  | cons first rest inductionHypothesis =>
    obtain ⟨other, old⟩ := first
    rw [insertMember_cons]
    split
    · next same =>
      subst same
      by_cases found : name = key <;> simp [Keyed.valueAt?_cons, found]
    · next apart =>
      split
      · rw [Keyed.valueAt?_cons]
      · rw [Keyed.valueAt?_cons, inductionHypothesis, Keyed.valueAt?_cons]
        by_cases found : other = key
        · subst found
          rw [if_pos rfl, if_pos rfl, if_neg apart]
        · rw [if_neg found, if_neg found]

/-- A name that does not occur twice has not come before its member. -/
theorem not_mem_of_count_le_one (before after : List (String × α)) (name : String) (value : α)
    (once : ((before ++ (name, value) :: after).map Prod.fst).count name ≤ 1) :
    name ∉ before.map Prod.fst := by
  rw [List.map_append, List.map_cons, List.count_append, List.count_cons_self] at once
  exact List.count_eq_zero.1 (by omega)

/-- Of members with one name the last one is kept. -/
theorem valueAt?_sortMembers_eq (members : List (String × α)) (key : String) :
    Keyed.valueAt? (sortMembers members) key =
      (members.filter (·.1 == key)).getLast?.map Prod.snd := by
  induction members using List.reverseRecOn with
  | nil => rfl
  | append_singleton members member inductionHypothesis =>
    rw [sortMembers_concat, valueAt?_insertMember, inductionHypothesis, List.filter_append]
    by_cases found : member.1 = key <;> simp [found]

/-- Sorting loses no member whose name does not occur twice. -/
theorem valueAt?_sortMembers (members : List (String × α)) (key : String)
    (once : (members.map Prod.fst).count key ≤ 1) :
    Keyed.valueAt? (sortMembers members) key = Keyed.valueAt? members key := by
  rw [valueAt?_sortMembers_eq, Keyed.valueAt?_eq_head?]
  rcases Keyed.filter_eq_nil_or_singleton members key once with nothing | ⟨member, only⟩
  · rw [nothing]
    rfl
  · rw [only]
    rfl

end GraphQuery.Json
