import Mathlib.Data.List.Induction
import Mathlib.Data.Nat.Count
/-!
# Leaving things out

Agents, connections and waits are known by their places in lists that only grow. When some of them are left out, those
that are kept move up, in the same order. A choice tells which places are kept.
-/

namespace PubSub

/-- Which places are kept. -/
abbrev Choice := Nat → Bool

namespace Choice

variable {α β : Type} {choice : Choice} {list : List α} {index other : Nat}

/-- What is kept of a list. -/
def keep (choice : Choice) (list : List α) : List α :=
  (list.zipIdx.filter fun entry ↦ choice entry.2).map Prod.fst

/-- Where a place is once the others are left out. -/
def place (choice : Choice) (index : Nat) : Nat :=
  Nat.count (fun index ↦ choice index) index

theorem place_succ (choice : Choice) (index : Nat) :
    choice.place (index + 1) = choice.place index + if choice index then 1 else 0 :=
  Nat.count_succ _ index

theorem place_inj (h : choice index) (h' : choice other) : choice.place index = choice.place other ↔ index = other :=
  ⟨Nat.count_injective h h', fun same ↦ by rw [same]⟩

theorem place_lt (h : choice index) (lt : index < other) : choice.place index < choice.place other :=
  Nat.count_strict_mono h lt

theorem place_le (choice : Choice) (le : index ≤ other) : choice.place index ≤ choice.place other :=
  Nat.count_monotone _ le

theorem keep_concat (choice : Choice) (list : List α) (entry : α) :
    choice.keep (list ++ [entry]) = choice.keep list ++ if choice list.length then [entry] else [] := by
  unfold keep
  rw [List.zipIdx_append, List.filter_append, List.map_append]
  congr 1
  cases h : choice list.length <;> simp [h]

theorem keep_concat_of_left_out (h : choice list.length = false) (entry : α) :
    choice.keep (list ++ [entry]) = choice.keep list := by
  simp [keep_concat, h]

theorem length_keep (choice : Choice) (list : List α) : (choice.keep list).length = choice.place list.length := by
  induction list using List.reverseRecOn with
  | nil => rfl
  | append_singleton list entry ih =>
    rw [keep_concat, List.length_append, ih, List.length_append, List.length_singleton, place_succ]
    cases choice list.length <;> rfl

/-- What is kept stands at its new place. -/
theorem getElem?_keep (h : choice index) (list : List α) : (choice.keep list)[choice.place index]? = list[index]? := by
  induction list using List.reverseRecOn with
  | nil => rfl
  | append_singleton list entry ih =>
    rw [keep_concat]
    rcases Nat.lt_trichotomy index list.length with lt | rfl | gt
    · have lt' : choice.place index < (choice.keep list).length := length_keep choice list ▸ place_lt h lt
      rw [List.getElem?_append_left lt', List.getElem?_append_left lt, ih]
    · rw [← length_keep, if_pos h, List.getElem?_concat_length, List.getElem?_concat_length]
    · have beyond : (list ++ [entry]).length ≤ index := by simpa using Nat.succ_le_of_lt gt
      have beyond' := choice.place_le beyond
      rw [← length_keep, keep_concat] at beyond'
      rw [List.getElem?_eq_none beyond', List.getElem?_eq_none beyond]

theorem exists_place (choice : Choice) (list : List α) {new : Nat} (lt : new < (choice.keep list).length) :
    ∃ index < list.length, choice index ∧ choice.place index = new := by
  induction list using List.reverseRecOn with
  | nil => cases lt
  | append_singleton list entry ih =>
    by_cases earlier : new < (choice.keep list).length
    · obtain ⟨index, lt, h, same⟩ := ih earlier
      exact ⟨index, by simp; omega, h, same⟩
    · rw [keep_concat, List.length_append] at lt
      cases h : choice list.length with
      | false => simp [h] at lt; omega
      | true =>
        refine ⟨list.length, by simp, h, ?_⟩
        simp only [h, if_true, List.length_singleton] at lt
        rw [← length_keep]
        omega

/-- What is kept is known by what stands at the new places. -/
theorem eq_keep {kept : List α} (length : kept.length = choice.place list.length)
    (same : ∀ index, choice index → kept[choice.place index]? = list[index]?) : kept = choice.keep list := by
  refine List.ext_getElem? fun new ↦ ?_
  by_cases lt : new < (choice.keep list).length
  · obtain ⟨index, -, h, rfl⟩ := exists_place choice list lt
    rw [same index h, getElem?_keep h]
  · rw [List.getElem?_eq_none (Nat.le_of_not_lt lt)]
    exact List.getElem?_eq_none (by rw [length, ← length_keep]; exact Nat.le_of_not_lt lt)

theorem keep_map (choice : Choice) (f : α → β) (list : List α) :
    choice.keep (list.map f) = (choice.keep list).map f := by
  refine (eq_keep ?_ fun index h ↦ ?_).symm
  · rw [List.length_map, List.length_map, length_keep]
  · rw [List.getElem?_map, List.getElem?_map, getElem?_keep h]

theorem keep_modify (h : choice index) (list : List α) (change : α → α) :
    choice.keep (list.modify index change) = (choice.keep list).modify (choice.place index) change := by
  refine (eq_keep ?_ fun other h' ↦ ?_).symm
  · rw [List.length_modify, List.length_modify, length_keep]
  · rw [List.getElem?_modify, List.getElem?_modify, getElem?_keep h']
    simp only [place_inj h h']

theorem keep_modify_of_left_out (h : choice index = false) (list : List α) (change : α → α) :
    choice.keep (list.modify index change) = choice.keep list := by
  refine (eq_keep ?_ fun other h' ↦ ?_).symm
  · rw [List.length_modify, length_keep]
  · have apart : index ≠ other := fun same ↦ by rw [← same, h] at h'; cases h'
    simp [getElem?_keep h', apart]

theorem keep_set (h : choice index) (list : List α) (entry : α) :
    choice.keep (list.set index entry) = (choice.keep list).set (choice.place index) entry := by
  rw [List.set_eq_modify, keep_modify h, ← List.set_eq_modify]

theorem keep_set_of_left_out (h : choice index = false) (list : List α) (entry : α) :
    choice.keep (list.set index entry) = choice.keep list := by
  rw [List.set_eq_modify, keep_modify_of_left_out h]

/-- The kept entries with their new places. -/
theorem zipIdx_keep (choice : Choice) (list : List α) : (choice.keep list).zipIdx =
    (list.zipIdx.filter fun entry ↦ choice entry.2).map fun entry ↦ (entry.1, choice.place entry.2) := by
  induction list using List.reverseRecOn with
  | nil => rfl
  | append_singleton list entry ih =>
    rw [keep_concat, List.zipIdx_append, ih, List.zipIdx_append, List.filter_append, List.map_append, length_keep]
    congr 1
    cases h : choice list.length <;> simp [h]

end Choice

end PubSub
