import PubSub.Proofs.Topic.Acceptance
/-!
# Where the dispatcher takes more than the broker sends

The dispatcher does not look at all levels of a topic, and an instance that the pattern leaves open may be missing. The
broker looks at every level until it meets a `#`. So the broker sends all that the dispatcher would take if nothing but
a `#` follows what the dispatcher looks at, or if the pattern is taken literally; for every other pattern there is a
topic that the dispatcher would take and that the broker does not send.
-/

namespace PubSub.Topic

theorem not_mem_of_mem_cut {text level : List Char} (h : level ∈ (cut text).1 :: (cut text).2) : '/' ∉ level := by
  induction text generalizing level with
  | nil => simp_all [cut]
  | cons c rest ih =>
    by_cases slash : c = '/'
    · subst slash
      have hcut : cut ('/' :: rest) = ([], (cut rest).1 :: (cut rest).2) := rfl
      rw [hcut] at h
      rcases List.mem_cons.1 h with rfl | h
      · simp
      · exact ih h
    · have hcut : cut (c :: rest) = (c :: (cut rest).1, (cut rest).2) := by simp [cut, slash]
      rw [hcut] at h
      rcases List.mem_cons.1 h with rfl | h
      · have first := ih List.mem_cons_self
        simp [first, Ne.symm slash]
      · exact ih (List.mem_cons_of_mem _ h)

theorem not_mem_of_mem_levels {topic level : String} (h : level ∈ levels topic) : '/' ∉ level.toList := by
  obtain ⟨text, htext, rfl⟩ := List.mem_map.1 h
  rw [String.toList_ofList]
  exact not_mem_of_mem_cut htext

/-- Levels without slashes are those of the topic that they are put together to. -/
theorem levels_join {levels : List String} (ne : levels ≠ []) (h : ∀ level ∈ levels, '/' ∉ level.toList) :
    Topic.levels (join levels) = levels := by
  induction levels with
  | nil => exact absurd rfl ne
  | cons level rest ih =>
    rw [List.forall_mem_cons] at h
    cases rest with
    | nil => exact levels_of_not_mem h.1
    | cons next rest =>
      rw [join, levels_append_slash h.1, ih (List.cons_ne_nil _ _) h.2]

end PubSub.Topic

namespace PubSub.Filter

/-- A filter accepts its own levels. -/
theorem matchLevels_self (levels : List String) : matchLevels levels levels := by
  induction levels with
  | nil => rfl
  | cons level rest ih => simp [matchLevels, ih]

/-- A filter that goes on with a literal name after its first level. -/
theorem matchLevels_channel_iff {role name : String} {filter topic : List String} (first : role ≠ Topic.multiLevel)
    (literal : Topic.hasWildcard name = false) :
    matchLevels (role :: name :: filter) topic ↔ ∃ actual rest, topic = actual :: name :: rest ∧
      (role = Topic.singleLevel ∨ role = actual) ∧ matchLevels filter rest := by
  rw [matchLevels_cons_iff first]
  constructor
  · rintro ⟨actual, further, rfl, taken, matched⟩
    obtain ⟨rest, rfl, behind⟩ := (matchLevels_literal_iff literal).1 matched
    exact ⟨actual, rest, rfl, taken, behind⟩
  · rintro ⟨actual, rest, rfl, taken, matched⟩
    exact ⟨actual, name :: rest, rfl, taken, (matchLevels_literal_iff literal).2 ⟨rest, rfl, matched⟩⟩

end PubSub.Filter

namespace PubSub.TopicPattern

open Topic

variable {text role name level next : String} {rest tail : List String} {pattern : TopicPattern}

/-! ## The levels of a channel pattern -/

/-- A level with a wildcard that others follow is `+`. -/
theorem eq_singleLevel_of_wildcardFault (sound : wildcardFault (level :: next :: rest) = none)
    (wildcard : hasWildcard level) : level = singleLevel := by
  rw [wildcardFault] at sound
  split at sound
  · cases sound
  · rename_i many
    split at sound
    · cases sound
    · rename_i single
      simp only [hasWildcard, List.any_eq_true, Bool.or_eq_true, beq_iff_eq] at wildcard
      obtain ⟨character, hmem, rfl | rfl⟩ := wildcard
      · by_cases same : level = singleLevel
        · exact same
        · exact absurd (by simp [hmem, same]) single
      · exact absurd (by simp [hmem]) many

theorem wildcardFault_of_cons (sound : wildcardFault (level :: rest) = none) : wildcardFault rest = none := by
  rw [wildcardFault] at sound
  split at sound
  · cases sound
  · split at sound
    · cases sound
    · exact sound

/-- Nothing follows a `#`. -/
theorem eq_nil_of_wildcardFault (sound : wildcardFault (multiLevel :: rest) = none) : rest = [] := by
  cases rest with
  | nil => rfl
  | cons next rest => exact absurd rfl (ne_multiLevel_of_wildcardFault sound)

theorem accepts_ofLevel_iff (sound : wildcardFault (level :: next :: rest) = none) (actual : String) :
    (LevelPattern.ofLevel (some level)).accepts (some actual) ↔ level = singleLevel ∨ level = actual := by
  constructor
  · intro accepted
    cases wildcard : hasWildcard level with
    | true => exact .inl (eq_singleLevel_of_wildcardFault sound wildcard)
    | false =>
      simp only [LevelPattern.ofLevel, wildcard, Bool.false_eq_true, if_false, LevelPattern.accepts, beq_iff_eq,
        Option.some.injEq] at accepted
      exact .inr accepted.symm
  · exact accepts_ofLevel

/-- The dispatcher looks at the role, at the name and at the level after it. -/
theorem accepts_channel_iff {topic : String} {instanceId : LevelPattern}
    (shape : pattern.shape = .channel (.ofLevel (some role)) name instanceId)
    (sound : wildcardFault (role :: name :: rest) = none) :
    pattern.accepts topic ↔ ∃ actual tail, levels topic = actual :: name :: tail ∧
      (role = singleLevel ∨ role = actual) ∧ instanceId.accepts tail.head? := by
  rw [accepts, shape]
  simp only [Topic.channelName?, role?, instanceId?, Bool.and_eq_true, beq_iff_eq]
  cases hlevels : levels topic with
  | nil => exact absurd hlevels (levels_ne_nil topic)
  | cons actual further =>
    cases further with
    | nil => simp
    | cons found tail =>
      have third : (actual :: found :: tail)[2]? = tail.head? := by simp [List.head?_eq_getElem?]
      rw [third]
      simp only [List.getElem?_cons_succ, List.getElem?_cons_zero, Option.some.injEq, accepts_ofLevel_iff sound]
      constructor
      · rintro ⟨⟨rfl, taken⟩, accepted⟩
        exact ⟨actual, tail, rfl, taken, accepted⟩
      · rintro ⟨_, _, ⟨⟩, taken, accepted⟩
        exact ⟨⟨rfl, taken⟩, accepted⟩

/-- The broker looks at the role, at the name and at all levels after it. -/
theorem filter_accepts_channel_iff {topic : String} (levels_eq : levels text = role :: name :: rest)
    (sound : wildcardFault (role :: name :: rest) = none) (literal : hasWildcard name = false) :
    Filter.accepts text topic ↔ ∃ actual tail, levels topic = actual :: name :: tail ∧
      (role = singleLevel ∨ role = actual) ∧ Filter.matchLevels rest tail := by
  rw [Filter.accepts, levels_eq, Filter.matchLevels_channel_iff (ne_multiLevel_of_wildcardFault sound) literal]

/-! ## The levels after the name -/

/-- Whether nothing but a `#` follows what the dispatcher looks at after the name of the channel. -/
def isOpenEnded : List String → Bool
  | [level] => level == multiLevel
  | [instanceId, level] => !hasWildcard instanceId && level == multiLevel
  | _ => false

/-- Behind a `#` the broker looks at nothing either. -/
theorem matchLevels_of_isOpenEnded (openEnded : isOpenEnded rest)
    (accepted : (LevelPattern.ofLevel rest.head?).accepts tail.head?) : Filter.matchLevels rest tail := by
  have matched (tail : List String) : Filter.matchLevels [multiLevel] tail := by cases tail <;> rfl
  cases rest with
  | nil => cases openEnded
  | cons first more =>
    cases more with
    | nil =>
      obtain rfl : first = multiLevel := by simpa [isOpenEnded] using openEnded
      exact matched tail
    | cons level more =>
      cases more with
      | cons next more => cases openEnded
      | nil =>
        obtain ⟨literal, rfl⟩ : hasWildcard first = false ∧ level = multiLevel := by
          simpa [isOpenEnded] using openEnded
        cases tail with
        | nil => simp [LevelPattern.ofLevel, literal, LevelPattern.accepts] at accepted
        | cons actual tail =>
          obtain rfl : actual = first := by
            simpa [LevelPattern.ofLevel, literal, LevelPattern.accepts] using accepted
          exact (Filter.matchLevels_literal_iff literal).2 ⟨tail, rfl, matched tail⟩

/-- Where levels follow that the broker looks at, there are some that the dispatcher takes and the broker does not. -/
theorem exists_of_not_isOpenEnded (sound : wildcardFault rest = none) (closed : isOpenEnded rest = false) :
    ∃ tail, (∀ level ∈ tail, level ∈ rest ∨ level = "") ∧ (LevelPattern.ofLevel rest.head?).accepts tail.head? ∧
      Filter.matchLevels rest tail = false := by
  -- A topic without the instance, if the pattern leaves the instance open.
  have without (instanceId : String) (more : List String) (other : instanceId ≠ multiLevel)
      (wildcard : hasWildcard instanceId) :
      (LevelPattern.ofLevel (some instanceId)).accepts none ∧ Filter.matchLevels (instanceId :: more) [] = false := by
    simp [LevelPattern.ofLevel, wildcard, LevelPattern.accepts, Filter.matchLevels, other]
  cases rest with
  | nil => exact ⟨[""], by simp, rfl, rfl⟩
  | cons instanceId more =>
    cases more with
    | nil =>
      have other : instanceId ≠ multiLevel := by simpa [isOpenEnded] using closed
      cases wildcard : hasWildcard instanceId with
      | true =>
        obtain ⟨accepted, unsent⟩ := without instanceId [] other wildcard
        exact ⟨[], by simp, accepted, unsent⟩
      | false =>
        refine ⟨[instanceId, ""], by simp, accepts_ofLevel (.inr rfl), ?_⟩
        rw [← Bool.not_eq_true, Filter.matchLevels_literal_iff wildcard]
        simp [Filter.matchLevels]
    | cons level more =>
      have other := ne_multiLevel_of_wildcardFault sound
      by_cases last : level = multiLevel
      · subst last
        obtain rfl : more = [] := eq_nil_of_wildcardFault (wildcardFault_of_cons sound)
        have wildcard : hasWildcard instanceId := by simpa [isOpenEnded] using closed
        obtain ⟨accepted, unsent⟩ := without instanceId [multiLevel] other wildcard
        exact ⟨[], by simp, accepted, unsent⟩
      · refine ⟨[instanceId], by simp, accepts_ofLevel (.inr rfl), ?_⟩
        rw [← Bool.not_eq_true, Filter.matchLevels_cons_iff other]
        simp [Filter.matchLevels, last]

/-! ## Faithful patterns -/

/-- Whether the dispatcher takes no topics for the pattern but those that the broker sends. -/
def isFaithful (pattern : TopicPattern) : Bool :=
  match pattern.shape with
  | .all | .exact => true
  | .channel _ _ _ => isOpenEnded ((levels pattern.text).drop 2)

theorem filter_accepts_of_isFaithful (parsed : parse text = .ok pattern) (faithful : pattern.isFaithful)
    {topic : String} (accepted : pattern.accepts topic) : Filter.accepts text topic := by
  obtain ⟨htext, hshape⟩ := parse_eq_ok parsed
  generalize shape : pattern.shape = meaning at hshape
  cases hshape with
  | all eq =>
    subst eq
    have levels_eq : levels multiLevel = [multiLevel] := rfl
    rw [Filter.accepts, levels_eq]
    cases levels topic <;> rfl
  | exact literal =>
    obtain rfl : text = topic := by simpa [accepts, shape, htext] using accepted
    exact Filter.matchLevels_self (levels text)
  | @channel role name rest levels_eq sound literal named =>
    have openEnded : isOpenEnded rest := by simpa [isFaithful, shape, htext, levels_eq] using faithful
    obtain ⟨actual, tail, hlevels, taken, accepted⟩ := (accepts_channel_iff shape sound).1 accepted
    have matched := matchLevels_of_isOpenEnded openEnded accepted
    exact (filter_accepts_channel_iff levels_eq sound literal).2 ⟨actual, tail, hlevels, taken, matched⟩

theorem exists_of_not_isFaithful (parsed : parse text = .ok pattern) (unfaithful : pattern.isFaithful = false) :
    ∃ topic, pattern.accepts topic ∧ Filter.accepts text topic = false := by
  obtain ⟨htext, hshape⟩ := parse_eq_ok parsed
  generalize shape : pattern.shape = meaning at hshape
  cases hshape with
  | all eq => simp [isFaithful, shape] at unfaithful
  | exact literal => simp [isFaithful, shape] at unfaithful
  | @channel role name rest levels_eq sound literal named =>
    have closed : isOpenEnded rest = false := by simpa [isFaithful, shape, htext, levels_eq] using unfaithful
    obtain ⟨tail, known, accepted, unsent⟩ :=
      exists_of_not_isOpenEnded (wildcardFault_of_cons (wildcardFault_of_cons sound)) closed
    have plain (level : String) (hmem : level ∈ role :: name :: tail) : '/' ∉ level.toList := by
      have own (level : String) (hmem : level ∈ role :: name :: rest) : '/' ∉ level.toList :=
        not_mem_of_mem_levels (levels_eq ▸ hmem)
      simp only [List.mem_cons] at hmem own
      rcases hmem with rfl | rfl | hmem
      · exact own _ (.inl rfl)
      · exact own _ (.inr (.inl rfl))
      · rcases known level hmem with hmem | rfl
        · exact own level (.inr (.inr hmem))
        · simp
    have hlevels : levels (join (role :: name :: tail)) = role :: name :: tail :=
      levels_join (List.cons_ne_nil _ _) plain
    refine ⟨join (role :: name :: tail), ?_, ?_⟩
    · exact (accepts_channel_iff shape sound).2 ⟨role, tail, hlevels, .inr rfl, accepted⟩
    · rw [← Bool.not_eq_true, filter_accepts_channel_iff levels_eq sound literal, hlevels]
      rintro ⟨actual, other, same, -, matched⟩
      obtain ⟨-, -, rfl⟩ : role = actual ∧ name = name ∧ tail = other := by simpa using same
      simp [unsent] at matched

/-- The faithful patterns are those for which the broker sends all that the dispatcher would take. -/
theorem isFaithful_iff (parsed : parse text = .ok pattern) :
    pattern.isFaithful ↔ ∀ topic, pattern.accepts topic → Filter.accepts text topic := by
  constructor
  · intro faithful topic accepted
    exact filter_accepts_of_isFaithful parsed faithful accepted
  · intro sent
    cases unfaithful : pattern.isFaithful with
    | true => rfl
    | false =>
      obtain ⟨topic, accepted, unsent⟩ := exists_of_not_isFaithful parsed unfaithful
      have sent := sent topic accepted
      rw [unsent] at sent
      cases sent

end PubSub.TopicPattern
