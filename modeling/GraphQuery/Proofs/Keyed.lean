import GraphQuery.Keyed
import Mathlib.Data.List.Induction

/-
This file says what an insertion-ordered map holds after a row of insertions.
-/

namespace GraphQuery.Keyed

variable {α : Type}

theorem ofPairs_concat (pairs : List (String × α)) (pair : String × α) :
    ofPairs (pairs ++ [pair]) = put (ofPairs pairs) pair.1 pair.2 := by
  rw [ofPairs, List.foldl_append]
  rfl

/-- Each key stands where it was inserted first. -/
theorem keys_ofPairs (pairs : List (String × α)) :
    keys (ofPairs pairs) = (pairs.map Prod.fst).eraseDups := by
  induction pairs using List.reverseRecOn with
  | nil => rfl
  | append_singleton pairs pair inductionHypothesis =>
    rw [ofPairs_concat, keys_put, inductionHypothesis, List.map_append, List.eraseDups_append]
    by_cases present : pair.1 ∈ pairs.map Prod.fst
    · rw [if_pos (List.mem_eraseDups.2 present)]
      simp only [List.map_cons, List.map_nil, List.cons_removeAll, List.contains_iff_mem.2 present]
      simp
    · rw [if_neg (fun member => present (List.mem_eraseDups.1 member))]
      have absent : (pairs.map Prod.fst).contains pair.1 = false := by
        rw [← Bool.not_eq_true, List.contains_iff_mem]
        exact present
      simp only [List.map_cons, List.map_nil, List.cons_removeAll, absent]
      simp [List.eraseDups_cons]

theorem mem_put (entries : Keyed α) (key : String) (value : α) (distinct : (keys entries).Nodup)
    (entry : String × α) (member : entry ∈ put entries key value) :
    entry = (key, value) ∨ entry ∈ entries ∧ entry.1 ≠ key := by
  induction entries with
  | nil => exact Or.inl (List.mem_singleton.1 member)
  | cons first rest inductionHypothesis =>
    obtain ⟨name, old⟩ := first
    simp only [keys, List.map_cons, List.nodup_cons] at distinct
    rw [put_cons] at member
    split at member
    · next same =>
      subst same
      rcases List.mem_cons.1 member with now | later
      · exact Or.inl now
      · refine Or.inr ⟨List.mem_cons_of_mem _ later, ?_⟩
        intro equal
        exact distinct.1 (equal ▸ List.mem_map_of_mem later)
    · next apart =>
      rcases List.mem_cons.1 member with rfl | later
      · exact Or.inr ⟨List.mem_cons_self, apart⟩
      · rcases inductionHypothesis distinct.2 later with now | ⟨inside, different⟩
        · exact Or.inl now
        · exact Or.inr ⟨List.mem_cons_of_mem _ inside, different⟩

/-- Each key has the value that was inserted last. -/
theorem exists_of_mem_ofPairs (pairs : List (String × α)) (entry : String × α)
    (member : entry ∈ ofPairs pairs) :
    ∃ before after, pairs = before ++ entry :: after ∧ ∀ later ∈ after, later.1 ≠ entry.1 := by
  induction pairs using List.reverseRecOn with
  | nil => cases member
  | append_singleton pairs pair inductionHypothesis =>
    rw [ofPairs_concat] at member
    rcases mem_put _ _ _ (nodup_keys_ofPairs pairs) entry member with now | ⟨inside, different⟩
    · exact ⟨pairs, [], by rw [now], by simp⟩
    · obtain ⟨before, after, rfl, last⟩ := inductionHypothesis inside
      refine ⟨before, after ++ [pair], by simp, ?_⟩
      intro later among
      rcases List.mem_append.1 among with early | late
      · exact last later early
      · rw [List.mem_singleton.1 late]
        exact different.symm

theorem forall_mem_ofPairs {holds : String × α → Prop} (pairs : List (String × α))
    (each : ∀ pair ∈ pairs, holds pair) : ∀ entry ∈ ofPairs pairs, holds entry := by
  intro entry member
  obtain ⟨before, after, rfl, -⟩ := exists_of_mem_ofPairs pairs entry member
  exact each entry (List.mem_append_right _ List.mem_cons_self)

theorem valueAt?_ofPairs (pairs : List (String × α)) (key : String) :
    valueAt? (ofPairs pairs) key =
      (pairs.reverse.find? fun pair => pair.1 == key).map Prod.snd := by
  induction pairs using List.reverseRecOn with
  | nil => rfl
  | append_singleton pairs pair inductionHypothesis =>
    rw [ofPairs_concat, valueAt?_put, inductionHypothesis, List.reverse_concat]
    by_cases found : pair.1 = key <;> simp [found]

/-- Of the values that are inserted for a key the last one is kept. -/
theorem valueAt?_ofPairs_eq_getLast? (pairs : List (String × α)) (key : String) :
    valueAt? (ofPairs pairs) key = (pairs.filter (·.1 == key)).getLast?.map Prod.snd := by
  rw [valueAt?_ofPairs, List.getLast?_eq_head?_reverse, ← List.filter_reverse, List.head?_filter]

theorem put_of_not_mem (entries : Keyed α) (key : String) (value : α)
    (absent : key ∉ keys entries) : put entries key value = entries ++ [(key, value)] := by
  induction entries with
  | nil => rfl
  | cons first rest inductionHypothesis =>
    obtain ⟨name, old⟩ := first
    simp only [keys, List.map_cons, List.mem_cons, not_or] at absent
    rw [put_cons, if_neg (Ne.symm absent.1), inductionHypothesis absent.2]
    rfl

/-- Pairs with distinct keys stay as they are. -/
theorem ofPairs_of_nodup (pairs : List (String × α)) (distinct : (keys pairs).Nodup) :
    ofPairs pairs = pairs := by
  induction pairs using List.reverseRecOn with
  | nil => rfl
  | append_singleton pairs pair inductionHypothesis =>
    rw [keys, List.map_append, List.nodup_append] at distinct
    rw [ofPairs_concat, inductionHypothesis distinct.1]
    apply put_of_not_mem
    intro member
    exact distinct.2.2 _ member pair.1 (by simp) rfl

theorem valueAt?_append (entries others : Keyed α) (key : String) :
    valueAt? (entries ++ others) key = (valueAt? entries key).or (valueAt? others key) := by
  induction entries with
  | nil => rfl
  | cons first rest inductionHypothesis =>
    obtain ⟨name, value⟩ := first
    by_cases found : name = key <;> simp [valueAt?_cons, found, inductionHypothesis]

theorem valueAt?_middle_of_ne (front back : Keyed α) (name key : String) (value : α)
    (apart : name ≠ key) :
    valueAt? (front ++ (name, value) :: back) key = valueAt? (front ++ back) key := by
  rw [valueAt?_append, valueAt?_append, valueAt?_cons, if_neg apart]

theorem valueAt?_map {β : Type} (change : α → β) (entries : Keyed α) (key : String) :
    valueAt? (entries.map fun entry => (entry.1, change entry.2)) key =
      (valueAt? entries key).map change := by
  induction entries with
  | nil => rfl
  | cons first rest inductionHypothesis =>
    obtain ⟨name, value⟩ := first
    by_cases found : name = key
    · simp [valueAt?_cons, found]
    · simpa [valueAt?_cons, found] using inductionHypothesis

theorem valueAt?_eq_none (entries : Keyed α) (key : String) :
    valueAt? entries key = none ↔ key ∉ keys entries := by
  induction entries with
  | nil => simp [valueAt?_nil, keys]
  | cons first rest inductionHypothesis =>
    obtain ⟨name, value⟩ := first
    by_cases found : name = key
    · simp [valueAt?_cons, keys, found]
    · have apart : ¬key = name := fun equal => found equal.symm
      simpa [valueAt?_cons, keys, found, apart] using inductionHypothesis

/-- The first entry of a key is the one that is found. -/
theorem valueAt?_eq_head? (entries : Keyed α) (key : String) :
    valueAt? entries key = (entries.filter (·.1 == key)).head?.map Prod.snd := by
  induction entries with
  | nil => rfl
  | cons first rest inductionHypothesis =>
    obtain ⟨name, value⟩ := first
    by_cases found : name = key <;> simp [valueAt?_cons, found, inductionHypothesis]

/-- A key that does not occur twice has at most one entry. -/
theorem filter_eq_nil_or_singleton (entries : Keyed α) (key : String)
    (once : (keys entries).count key ≤ 1) :
    entries.filter (·.1 == key) = [] ∨ ∃ entry, entries.filter (·.1 == key) = [entry] := by
  have length : (entries.filter (·.1 == key)).length ≤ 1 := by
    rw [← List.countP_eq_length_filter]
    rwa [keys, List.count_eq_countP, List.countP_map] at once
  rcases Nat.le_one_iff_eq_zero_or_eq_one.1 length with none | one
  · exact .inl (List.length_eq_zero_iff.1 none)
  · exact .inr (List.length_eq_one_iff.1 one)

/-- The order of entries does not matter to a key that does not occur twice. -/
theorem valueAt?_perm {entries others : Keyed α} (moved : entries.Perm others) (key : String)
    (once : (keys entries).count key ≤ 1) : valueAt? entries key = valueAt? others key := by
  rw [valueAt?_eq_head?, valueAt?_eq_head?]
  have kept := moved.filter (·.1 == key)
  rcases filter_eq_nil_or_singleton entries key once with nothing | ⟨entry, only⟩
  · rw [nothing, List.nil_perm] at kept
    rw [nothing, kept]
  · rw [only, List.singleton_perm] at kept
    rw [only, kept]

theorem mem_of_valueAt? (entries : Keyed α) (key : String) (value : α)
    (found : valueAt? entries key = some value) : (key, value) ∈ entries := by
  obtain ⟨before, after, rfl, -⟩ := exists_split entries key value found
  simp

theorem valueAt?_of_mem (entries : Keyed α) (distinct : (keys entries).Nodup) (key : String)
    (value : α) (inside : (key, value) ∈ entries) : valueAt? entries key = some value := by
  obtain ⟨before, after, rfl⟩ := List.append_of_mem inside
  rw [keys, List.map_append, List.nodup_append] at distinct
  exact valueAt?_split before after key value fun earlier =>
    distinct.2.2 _ earlier key (by simp) rfl

/-- Lists with the same keys are equal if entries of the same key are. -/
theorem eq_of_keys (first second : Keyed α) (same : keys first = keys second)
    (agree : ∀ entry ∈ first, ∀ other ∈ second, entry.1 = other.1 → entry = other) :
    first = second := by
  induction first generalizing second with
  | nil => exact (List.map_eq_nil_iff.1 same.symm).symm
  | cons entry rest inductionHypothesis =>
    cases second with
    | nil => cases same
    | cons other others =>
      simp only [keys, List.map_cons, List.cons.injEq] at same
      have head := agree entry List.mem_cons_self other List.mem_cons_self same.1
      have tail := inductionHypothesis others same.2 fun left inLeft right inRight =>
        agree left (List.mem_cons_of_mem _ inLeft) right (List.mem_cons_of_mem _ inRight)
      rw [head, tail]

end GraphQuery.Keyed
