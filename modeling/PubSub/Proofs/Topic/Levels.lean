import PubSub.Topic.Filter
import PubSub.Topic.Pattern
/-!
# Levels and wildcards

A topic is determined by its levels, and it contains a wildcard exactly if one of its levels does. A filter whose next
level is a literal accepts only topics whose next level is the same.
-/

namespace PubSub.Topic

theorem join_cons_of_ne_nil (level : String) {rest : List String} (h : rest ≠ []) :
    join (level :: rest) = level ++ "/" ++ join rest := by
  cases rest with
  | nil => exact absurd rfl h
  | cons next rest => rfl

theorem toList_join_cut (text : List Char) :
    (join (((cut text).1 :: (cut text).2).map String.ofList)).toList = text := by
  induction text with
  | nil => rfl
  | cons c rest ih =>
    by_cases h : c = '/'
    · subst h
      have hcut : cut ('/' :: rest) = ([], (cut rest).1 :: (cut rest).2) := rfl
      rw [hcut, List.map_cons, join_cons_of_ne_nil _ (by simp)]
      simpa using ih
    · have hcut : cut (c :: rest) = (c :: (cut rest).1, (cut rest).2) := by simp [cut, h]
      rw [hcut]
      cases hrest : (cut rest).2 with
      | nil => simpa [hrest, join] using ih
      | cons next further => simpa [hrest, join] using ih

/-- The levels of a topic put together are the topic again. -/
theorem join_levels (topic : String) : join (levels topic) = topic :=
  String.toList_injective (toList_join_cut topic.toList)

theorem levels_injective {first second : String} (h : levels first = levels second) : first = second := by
  rw [← join_levels first, h, join_levels]

theorem any_cut (p : Char → Bool) (slash : p '/' = false) (text : List Char) :
    text.any p = ((cut text).1 :: (cut text).2).any fun level ↦ level.any p := by
  induction text with
  | nil => rfl
  | cons c rest ih =>
    by_cases h : c = '/'
    · simp [cut, h, ih, slash]
    · simp [cut, h, ih, Bool.or_assoc]

/-- A text contains a wildcard exactly if one of its levels does. -/
theorem hasWildcard_eq_any (text : String) : hasWildcard text = (levels text).any hasWildcard := by
  rw [hasWildcard, any_cut _ rfl, levels, List.any_map]
  congr 1
  funext level
  simp [hasWildcard]

theorem not_hasWildcard_of_mem {text level : String} (h : hasWildcard text = false) (mem : level ∈ levels text) :
    hasWildcard level = false := by
  rw [hasWildcard_eq_any, List.any_eq_false] at h
  simpa using h level mem

theorem ne_singleLevel {level : String} (h : hasWildcard level = false) : level ≠ singleLevel := by
  rintro rfl
  simp [hasWildcard, singleLevel] at h

theorem ne_multiLevel {level : String} (h : hasWildcard level = false) : level ≠ multiLevel := by
  rintro rfl
  simp [hasWildcard, multiLevel] at h

end PubSub.Topic

namespace PubSub.Filter

variable {level : String} {filter topic : List String}

/-- A level other than `#` takes a level of the topic: any one if it is `+`, and else the same one. -/
theorem matchLevels_cons_iff (h : level ≠ Topic.multiLevel) :
    matchLevels (level :: filter) topic ↔
      ∃ actual rest, topic = actual :: rest ∧ (level = Topic.singleLevel ∨ level = actual) ∧
        matchLevels filter rest := by
  cases topic with
  | nil => simp [matchLevels, h]
  | cons actual rest =>
    simp only [matchLevels, beq_eq_false_iff_ne.2 h, Bool.false_or, Bool.and_eq_true, Bool.or_eq_true, beq_iff_eq]
    constructor
    · intro ⟨hlevel, hrest⟩
      exact ⟨actual, rest, rfl, hlevel, hrest⟩
    · rintro ⟨_, _, ⟨⟩, hlevel, hrest⟩
      exact ⟨hlevel, hrest⟩

/-- A literal level takes the same level of the topic. -/
theorem matchLevels_literal_iff (h : Topic.hasWildcard level = false) :
    matchLevels (level :: filter) topic ↔ ∃ rest, topic = level :: rest ∧ matchLevels filter rest := by
  rw [matchLevels_cons_iff (Topic.ne_multiLevel h)]
  constructor
  · rintro ⟨actual, rest, rfl, hlevel, hrest⟩
    obtain rfl := hlevel.resolve_left (Topic.ne_singleLevel h)
    exact ⟨rest, rfl, hrest⟩
  · rintro ⟨rest, rfl, hrest⟩
    exact ⟨level, rest, rfl, .inr rfl, hrest⟩

/-- A filter of literal levels accepts its own levels only. -/
theorem eq_of_matchLevels (h : ∀ level ∈ filter, Topic.hasWildcard level = false)
    (matched : matchLevels filter topic) : filter = topic := by
  induction filter generalizing topic with
  | nil => simpa [matchLevels] using matched.symm
  | cons level filter ih =>
    obtain ⟨hlevel, hfilter⟩ := List.forall_mem_cons.1 h
    obtain ⟨rest, rfl, hrest⟩ := (matchLevels_literal_iff hlevel).1 matched
    rw [ih hfilter hrest]

end PubSub.Filter
