import PubSub.Proofs.Topic.Grammar
/-!
# Patterns as filters

The dispatcher reads a pattern in its own way, but what it takes for a pattern is what the broker would send for
another text: the pattern cut off behind the last level that the dispatcher looks at, with a `#` in the place of all
that is cut off. Patterns that stand for themselves are left as they are.
-/

namespace PubSub.TopicPattern

open Topic

variable {text topic role name level : String} {rest tail : List String} {pattern : TopicPattern}

/-- What the dispatcher looks at after the name of the channel, and a `#` for the rest. -/
def openTail : List String → List String
  | [] => [multiLevel]
  | instanceId :: _ =>
    if instanceId = singleLevel ∨ instanceId = multiLevel then [multiLevel] else [instanceId, multiLevel]

/-- The filter for which a broker would send what the dispatcher takes for a pattern. -/
def canonical (text : String) : String :=
  if text = multiLevel ∨ IsVerbatim text then text
  else match levels text with
    | role :: name :: rest => join (role :: name :: openTail rest)
    | _ => text

theorem levels_canonical (several : text ≠ multiLevel) (unlike : ¬IsVerbatim text)
    (levels_eq : levels text = role :: name :: rest) : levels (canonical text) = role :: name :: openTail rest := by
  have same : canonical text = join (role :: name :: openTail rest) := by
    rw [canonical, if_neg (not_or.2 ⟨several, unlike⟩), levels_eq]
  rw [same]
  refine levels_join (List.cons_ne_nil _ _) fun level mem ↦ ?_
  have own (level : String) (mem : level ∈ role :: name :: rest) : '/' ∉ level.toList :=
    not_mem_of_mem_levels (levels_eq ▸ mem)
  have multi : '/' ∉ multiLevel.toList := by simp [multiLevel]
  simp only [List.mem_cons] at mem own
  rcases mem with rfl | rfl | mem
  · exact own _ (.inl rfl)
  · exact own _ (.inr (.inl rfl))
  · cases rest with
    | nil =>
      obtain rfl := List.mem_singleton.1 mem
      exact multi
    | cons instanceId further =>
      rw [openTail] at mem
      split at mem
      · obtain rfl := List.mem_singleton.1 mem
        exact multi
      · rcases List.mem_cons.1 mem with rfl | mem
        · exact own _ (.inr (.inr List.mem_cons_self))
        · obtain rfl := List.mem_singleton.1 mem
          exact multi

theorem matchLevels_multiLevel (topic : List String) : Filter.matchLevels [multiLevel] topic := by
  cases topic <;> rfl

/-- After the name, the canonical filter sends what the dispatcher takes. -/
theorem matchLevels_openTail_iff (placed : WellPlaced rest) (tail : List String) :
    Filter.matchLevels (openTail rest) tail ↔ (LevelPattern.ofLevel rest.head?).accepts tail.head? := by
  cases rest with
  | nil => exact iff_of_true (matchLevels_multiLevel tail) rfl
  | cons instanceId further =>
    have wildcard := placed.hasWildcard_iff List.mem_cons_self
    rw [openTail, List.head?_cons, LevelPattern.ofLevel]
    split
    · rename_i isOpen
      rw [if_pos (wildcard.2 isOpen)]
      exact iff_of_true (matchLevels_multiLevel tail) rfl
    · rename_i literal
      have literal : hasWildcard instanceId = false := by
        rw [← Bool.not_eq_true, wildcard]
        exact literal
      rw [if_neg (by simp [literal]), Filter.matchLevels_literal_iff literal]
      simp only [matchLevels_multiLevel, and_true, LevelPattern.accepts, beq_iff_eq]
      cases tail with
      | nil => simp
      | cons actual tail => simp [eq_comm]

/-- A pattern that neither is `#` nor stands for itself names its channel. -/
theorem channel_of_shapeOf {shape : PatternShape} (several : text ≠ multiLevel) (unlike : ¬IsVerbatim text)
    (read : shapeOf text = .ok shape) :
    ∃ role name rest, levels text = role :: name :: rest ∧ wildcardFault (role :: name :: rest) = none ∧
      hasWildcard name = false ∧ shape = .channel (.ofLevel (some role)) name (.ofLevel rest.head?) := by
  have hshape := parsed_of_shapeOf read
  rw [shapeOf_of_not_isVerbatim several unlike] at read
  cases hshape with
  | all eq => exact absurd eq several
  | exact literal =>
    split at read
    · cases read
    · cases found : channelLevel (levels text)[1]? <;> simp [found, Except.map] at read
  | channel levels_eq sound literal named => exact ⟨_, _, _, levels_eq, sound, literal, rfl⟩

/-- The dispatcher takes for a pattern exactly what a broker sends for the canonical filter of the pattern. -/
theorem accepts_eq_filter_accepts_canonical (parsed : parse text = .ok pattern) (topic : String) :
    pattern.accepts topic = Filter.accepts (canonical text) topic := by
  rw [Bool.eq_iff_iff]
  obtain ⟨htext, read⟩ := shapeOf_of_parse parsed
  by_cases all : text = multiLevel
  · subst all
    have shape : PatternShape.all = pattern.shape := Except.ok.inj read
    rw [accepts, ← shape]
    exact iff_of_true rfl (matchLevels_multiLevel (levels topic))
  by_cases verbatim : IsVerbatim text
  · have shape := Except.ok.inj ((shapeOf_of_isVerbatim verbatim).symm.trans read)
    rw [canonical, if_pos (.inr verbatim), accepts, ← shape, htext, beq_iff_eq]
    constructor
    · rintro rfl
      exact Filter.matchLevels_self (levels text)
    · intro matched
      exact levels_injective (Filter.eq_of_matchLevels (fun _ mem ↦ not_hasWildcard_of_mem verbatim.1 mem) matched)
  obtain ⟨role, name, rest, levels_eq, sound, literal, shape⟩ := channel_of_shapeOf all verbatim read
  have placed := (wildcardFault_eq_none_iff rest).1 (wildcardFault_of_cons (wildcardFault_of_cons sound))
  rw [accepts_channel_iff shape sound, Filter.accepts, levels_canonical all verbatim levels_eq,
    Filter.matchLevels_channel_iff (ne_multiLevel_of_wildcardFault sound) literal]
  simp only [matchLevels_openTail_iff placed]

/-- Behind a literal instance nothing of the pattern counts, so that the two agree on a topic that goes on otherwise. -/
theorem accepts_eq_filter_accepts_canonical_deep :
    ∃ pattern, parse "+/speed/left/+" = .ok pattern ∧ canonical "+/speed/left/+" = "+/speed/left/#" ∧
      pattern.accepts "car/speed/left" = Filter.accepts "+/speed/left/#" "car/speed/left" := by
  have parsed : parse "+/speed/left/+" =
      .ok ⟨"+/speed/left/+", .channel .any "speed" (.literal "left")⟩ := by rfl
  have same : canonical "+/speed/left/+" = "+/speed/left/#" := by decide
  exact ⟨_, parsed, same, same ▸ accepts_eq_filter_accepts_canonical parsed "car/speed/left"⟩

end PubSub.TopicPattern
