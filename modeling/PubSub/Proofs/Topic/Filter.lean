import PubSub.Proofs.Topic.Levels
/-!
# What filters accept

The comparison of a filter with a topic, said of the places of their levels. The first `#` of a filter ends the
comparison: up to it the topic must have a level for each of the filter, and what comes behind it counts on neither
side. A filter without `#` is as long as the topics that it accepts.
-/

namespace PubSub.Filter

open Topic

variable {level actual : String} {filter topic : List String} {index bound : Nat}

/-- The first `#` of a filter stands at the place. -/
def EndsAt (filter : List String) (index : Nat) : Prop :=
  filter[index]? = some multiLevel ∧ ∀ earlier < index, filter[earlier]? ≠ some multiLevel

/-- At every place below the bound the filter has a `+` or the level of the topic. -/
def TakesBelow (filter topic : List String) (bound : Nat) : Prop :=
  ∀ index (_ : index < filter.length) (_ : index < topic.length), index < bound →
    filter[index] = singleLevel ∨ filter[index] = topic[index]

theorem endsAt_cons_zero_iff : EndsAt (level :: filter) 0 ↔ level = multiLevel := by
  simp [EndsAt]

theorem endsAt_cons_succ_iff : EndsAt (level :: filter) (index + 1) ↔ level ≠ multiLevel ∧ EndsAt filter index := by
  constructor
  · intro ⟨ends, first⟩
    refine ⟨fun same ↦ first 0 (Nat.succ_pos index) (by rw [same]; rfl), ends, fun earlier lt ↦ ?_⟩
    exact first (earlier + 1) (Nat.succ_lt_succ lt)
  · intro ⟨other, ends, first⟩
    refine ⟨ends, fun earlier lt ↦ ?_⟩
    cases earlier with
    | zero => simpa using other
    | succ earlier => exact first earlier (Nat.lt_of_succ_lt_succ lt)

/-- In a filter that does not begin with `#` the first `#` is the first one of the rest. -/
theorem exists_endsAt_cons_iff {property : Nat → Prop} (other : level ≠ multiLevel) :
    (∃ index, EndsAt (level :: filter) index ∧ property index) ↔
      ∃ index, EndsAt filter index ∧ property (index + 1) := by
  constructor
  · rintro ⟨index, ends, holds⟩
    cases index with
    | zero => exact absurd (endsAt_cons_zero_iff.1 ends) other
    | succ index => exact ⟨index, (endsAt_cons_succ_iff.1 ends).2, holds⟩
  · rintro ⟨index, ends, holds⟩
    exact ⟨index + 1, endsAt_cons_succ_iff.2 ⟨other, ends⟩, holds⟩

theorem takesBelow_zero (filter topic : List String) : TakesBelow filter topic 0 :=
  fun _ _ _ lt ↦ absurd lt (Nat.not_lt_zero _)

theorem takesBelow_cons_iff : TakesBelow (level :: filter) (actual :: topic) (bound + 1) ↔
    (level = singleLevel ∨ level = actual) ∧ TakesBelow filter topic bound := by
  constructor
  · intro takes
    refine ⟨takes 0 (by simp) (by simp) (Nat.succ_pos bound), fun index inFilter inTopic lt ↦ ?_⟩
    exact takes (index + 1) (by simpa using inFilter) (by simpa using inTopic) (Nat.succ_lt_succ lt)
  · intro ⟨taken, takes⟩ index inFilter inTopic lt
    cases index with
    | zero => exact taken
    | succ index =>
      exact takes index (by simpa using inFilter) (by simpa using inTopic) (Nat.lt_of_succ_lt_succ lt)

/-- Level by level and place by place are the same. The induction takes one level off both sides, and a `#` ends it. -/
theorem matchLevels_iff (filter topic : List String) :
    matchLevels filter topic ↔
      (∃ index, EndsAt filter index ∧ index ≤ topic.length ∧ TakesBelow filter topic index) ∨
        (multiLevel ∉ filter ∧ filter.length = topic.length ∧ TakesBelow filter topic filter.length) := by
  induction filter generalizing topic with
  | nil =>
    have endless (index : Nat) : ¬EndsAt [] index := fun ends ↦ by simp [EndsAt] at ends
    simp only [endless, false_and, exists_false, false_or, List.not_mem_nil, not_false_eq_true, true_and,
      List.length_nil, takesBelow_zero, and_true]
    cases topic <;> simp [matchLevels]
  | cons level filter ih =>
    by_cases multi : level = multiLevel
    · have accepted : matchLevels (level :: filter) topic := by cases topic <;> simp [matchLevels, multi]
      exact iff_of_true accepted (.inl ⟨0, endsAt_cons_zero_iff.2 multi, Nat.zero_le _, takesBelow_zero _ _⟩)
    · rw [exists_endsAt_cons_iff multi]
      cases topic with
      | nil => simp [matchLevels, multi]
      | cons actual topic =>
        have here : matchLevels (level :: filter) (actual :: topic) ↔
            (level = singleLevel ∨ level = actual) ∧ matchLevels filter topic := by
          simp [matchLevels, multi]
        simp only [here, ih, and_or_left, List.length_cons, Nat.add_le_add_iff_right, Nat.add_right_cancel_iff,
          takesBelow_cons_iff, List.mem_cons, Ne.symm multi, false_or, ← exists_and_left]
        simp only [and_left_comm]

/-- A filter accepts a topic exactly if, up to the first `#` of the filter, the topic has a level at every place and the
filter has that level or a `+` there; or if the filter has no `#`, as many levels as the topic, and at every place the
topic's level or a `+`. -/
theorem accepts_iff_places (filter topic : String) :
    accepts filter topic ↔
      (∃ index, EndsAt (levels filter) index ∧ index ≤ (levels topic).length ∧
        TakesBelow (levels filter) (levels topic) index) ∨
      (multiLevel ∉ levels filter ∧ (levels filter).length = (levels topic).length ∧
        TakesBelow (levels filter) (levels topic) (levels filter).length) :=
  matchLevels_iff (levels filter) (levels topic)

/-- A `#` also stands for no level and for empty ones, and what follows it does not count; a `+` stands for a level that
is there. Wildcards within a level, or in a topic, are plain characters. -/
example : accepts "a/#/b" "a" ∧ accepts "#" "/" ∧ ¬accepts "a/+" "a" ∧ ¬accepts "a+" "ab" ∧ ¬accepts "a" "+" := by
  decide

end PubSub.Filter
