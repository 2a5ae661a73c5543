import PubSub.Proofs.Isolation.Keeping
import PubSub.Proofs.Session.Reachable
/-!
# Labels when things are left out

Labels are owned by those whose things they stand for. When the things of some are left out, their labels go too, and
the other labels stand for the same things at their new places.
-/

namespace PubSub.Labels

variable {α β : Type} {owned : String → Bool} {mark : α → Bool} {move : α → β} {labels : Labels α} {rest : Labels β}
  {label : String} {thing : α}

/-- What is left of labels when those that are owned are left out. A label stands for something that is kept, by the
mark, if and only if it is kept itself. -/
structure Reduces (owned : String → Bool) (mark : α → Bool) (move : α → β) (labels : Labels α) (rest : Labels β) :
    Prop where
  same : rest = (labels.filter fun entry ↦ !owned entry.1).map fun entry ↦ (entry.1, move entry.2)
  belongs : ∀ entry ∈ labels, mark entry.2 = !owned entry.1

namespace Reduces

theorem empty : Reduces owned mark move [] [] :=
  ⟨rfl, nofun⟩

theorem mark_of_get? (reduces : labels.Reduces owned mark move rest) (h : labels.get? label = some thing) :
    mark thing = !owned label :=
  reduces.belongs (label, thing) (Session.mem_of_get? h)

theorem get? (reduces : labels.Reduces owned mark move rest) (kept : owned label = false) :
    rest.get? label = (labels.get? label).map move := by
  have found (entries : Labels α) :
      Labels.get? ((entries.filter fun entry ↦ !owned entry.1).map fun entry ↦ (entry.1, move entry.2)) label =
        (Labels.get? entries label).map move := by
    induction entries with
    | nil => rfl
    | cons entry others ih =>
      unfold Labels.get? at ih ⊢
      by_cases here : entry.1 = label
      · simp [here, kept]
      · cases owned entry.1 <;> simpa [here] using ih
  rw [reduces.same, found]

theorem remove (reduces : labels.Reduces owned mark move rest) (label : String) :
    (labels.remove label).Reduces owned mark move (rest.remove label) where
  same := by
    simp only [Labels.remove, reduces.same, List.filter_map, List.filter_filter, Function.comp_def]
    congr 1
    exact List.filter_congr fun entry _ ↦ Bool.and_comm _ _
  belongs entry hentry := reduces.belongs entry (List.mem_filter.1 hentry).1

theorem remove_left_out (reduces : labels.Reduces owned mark move rest) (left : owned label) :
    (labels.remove label).Reduces owned mark move rest where
  same := by
    rw [reduces.same, Labels.remove, List.filter_filter]
    congr 1
    refine List.filter_congr fun entry _ ↦ ?_
    by_cases here : entry.1 = label
    · simp [here, left]
    · simp [here]
  belongs entry hentry := reduces.belongs entry (List.mem_filter.1 hentry).1

theorem belongs_concat (reduces : labels.Reduces owned mark move rest) (own : mark thing = !owned label)
    (entry : String × α) (h : entry ∈ labels ++ [(label, thing)]) : mark entry.2 = !owned entry.1 := by
  rcases List.mem_append.1 h with former | new
  · exact reduces.belongs entry former
  · rw [List.mem_singleton.1 new]
    exact own

theorem put (reduces : labels.Reduces owned mark move rest) (kept : owned label = false) (thing : α)
    (own : mark thing) : (labels.put label thing).Reduces owned mark move (rest.put label (move thing)) where
  same := by
    rw [Labels.put, (reduces.remove label).same, Labels.put, List.filter_append, List.map_append]
    simp [kept]
  belongs := (reduces.remove label).belongs_concat (by rw [own, kept]; rfl)

theorem put_left_out (reduces : labels.Reduces owned mark move rest) (left : owned label) (thing : α)
    (own : mark thing = false) :
    (labels.put label thing).Reduces owned mark move rest where
  same := by
    rw [(reduces.remove_left_out left).same, Labels.put, List.filter_append]
    simp [left]
  belongs := (reduces.remove label).belongs_concat (by rw [own, left]; rfl)

/-- What is kept keeps its labels, as long as it does not come to stand where something else does. -/
theorem filter_move [DecidableEq α] [DecidableEq β] (reduces : labels.Reduces owned mark move rest) (own : mark thing)
    (apart : ∀ other, mark other → move other = move thing → other = thing) :
    (rest.filter fun entry ↦ entry.2 = move thing).map Prod.fst =
      (labels.filter fun entry ↦ entry.2 = thing).map Prod.fst := by
  rw [reduces.same, List.filter_map, List.filter_filter, List.map_map]
  congr 1
  refine List.filter_congr fun entry hentry ↦ ?_
  by_cases here : entry.2 = thing
  · have kept := reduces.belongs entry hentry
    rw [here, own] at kept
    simp [here, ← kept]
  · have moved (kept : owned entry.1 = false) : move entry.2 ≠ move thing := fun same ↦
      here (apart entry.2 (by rw [reduces.belongs entry hentry, kept]; rfl) same)
    cases kept : owned entry.1 with
    | true => simp [here]
    | false => simp [here, moved kept]

theorem labelsOf [DecidableEq α] [DecidableEq β] (reduces : labels.Reduces owned mark move rest) (thing : α)
    (own : mark thing)
    (apart : ∀ other, mark other → move other = move thing → other = thing) :
    rest.labelsOf (move thing) = labels.labelsOf thing := by
  have same := reduces.filter_move own apart
  simp only [Labels.labelsOf, beq_eq_decide]
  rw [same]

theorem any [DecidableEq α] [DecidableEq β] (reduces : labels.Reduces owned mark move rest) (thing : α)
    (own : mark thing)
    (apart : ∀ other, mark other → move other = move thing → other = thing) :
    rest.any (fun entry ↦ entry.2 = move thing) = labels.any fun entry ↦ entry.2 = thing := by
  have same := congrArg List.isEmpty (reduces.filter_move own apart)
  rw [List.isEmpty_map, List.isEmpty_map] at same
  have none {γ : Type} (list : List γ) (test : γ → Bool) : list.any test = !(list.filter test).isEmpty := by
    induction list with
    | nil => rfl
    | cons head others ih => cases h : test head <;> simp [h, ih]
  rw [none, none, same]

end Reduces

end PubSub.Labels
