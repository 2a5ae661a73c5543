import PubSub.Proofs.Topic.Levels
/-!
# Filters and patterns

A receiver's pattern is used twice: the broker compares it with a topic level by level, and the dispatcher asks it again
what it means. What an accepted pattern means is listed here once, and the dispatcher is shown to let through whatever
the broker does.
-/

namespace PubSub.TopicPattern

open Topic

/-- The patterns that are accepted, with what they were found to mean. -/
inductive Parsed (text : String) : PatternShape → Prop
  | all (eq : text = multiLevel) : Parsed text .all
  | exact (literal : hasWildcard text = false) : Parsed text .exact
  | channel {role name : String} {rest : List String} (levels_eq : levels text = role :: name :: rest)
      (sound : wildcardFault (role :: name :: rest) = none) (literal : hasWildcard name = false) (named : name ≠ "") :
      Parsed text (.channel (.ofLevel (some role)) name (.ofLevel rest.head?))

theorem channelLevel_eq_ok {level : Option String} {name : String} (h : channelLevel level = .ok name) :
    level = some name ∧ hasWildcard name = false ∧ name ≠ "" := by
  cases level with
  | none => cases h
  | some found =>
    rw [channelLevel] at h
    split at h
    · cases h
    · split at h
      · cases h
      · obtain rfl := Except.ok.inj h
        simp_all

theorem parsed_of_shapeOf {text : String} {shape : PatternShape} (h : shapeOf text = .ok shape) :
    Parsed text shape := by
  rw [shapeOf] at h
  split at h
  · obtain rfl := Except.ok.inj h
    exact .all (by simp_all)
  · split at h
    · cases h
    · rename_i sound
      split at h
      · obtain rfl := Except.ok.inj h
        exact .exact (by simp_all)
      · cases hname : channelLevel (levels text)[1]? with
        | error fault => simp [hname, bind, Except.bind] at h
        | ok name =>
          simp only [hname, bind, Except.bind] at h
          obtain rfl := Except.ok.inj h
          obtain ⟨hlevel, literal, named⟩ := channelLevel_eq_ok hname
          cases hlevels : levels text with
          | nil => exact absurd hlevels (levels_ne_nil text)
          | cons role rest =>
            cases rest with
            | nil => simp [hlevels] at hlevel
            | cons next rest =>
              rw [hlevels] at hlevel sound
              obtain rfl : next = name := by simpa using hlevel
              have := Parsed.channel hlevels sound literal named
              simpa [List.head?_eq_getElem?] using this

theorem shapeOf_of_parse {text : String} {pattern : TopicPattern} (h : parse text = .ok pattern) :
    pattern.text = text ∧ shapeOf text = .ok pattern.shape := by
  rw [parse] at h
  split at h
  · rename_i shape hshape
    obtain rfl := Except.ok.inj h
    exact ⟨rfl, hshape⟩
  · cases h

theorem parse_eq_ok {text : String} {pattern : TopicPattern} (h : parse text = .ok pattern) :
    pattern.text = text ∧ Parsed text pattern.shape :=
  (shapeOf_of_parse h).imp_right parsed_of_shapeOf

/-- The first level of several is not `#`. -/
theorem ne_multiLevel_of_wildcardFault {level next : String} {rest : List String}
    (sound : wildcardFault (level :: next :: rest) = none) : level ≠ multiLevel := by
  rintro rfl
  simp [wildcardFault, multiLevel] at sound

/-- A level that a filter takes is accepted by the meaning of the filter's level. -/
theorem accepts_ofLevel {level actual : String} (taken : level = singleLevel ∨ level = actual) :
    (LevelPattern.ofLevel (some level)).accepts (some actual) := by
  rw [LevelPattern.ofLevel]
  split
  · rfl
  · rename_i literal
    obtain rfl := taken.resolve_left (ne_singleLevel (by simpa using literal))
    simp [LevelPattern.accepts]

/-- What comes after the channel name is accepted whenever a filter takes it. -/
theorem accepts_ofLevel_head? {filter topic : List String} (matched : Filter.matchLevels filter topic) :
    (LevelPattern.ofLevel filter.head?).accepts topic.head? := by
  cases filter with
  | nil => rfl
  | cons level filter =>
    rw [List.head?_cons, LevelPattern.ofLevel]
    split
    · rfl
    · rename_i literal
      obtain ⟨rest, rfl, -⟩ := (Filter.matchLevels_literal_iff (by simpa using literal)).1 matched
      simp [LevelPattern.accepts]

/-- The dispatcher lets through whatever the broker sends for the pattern of a receiver. -/
theorem accepts_of_filter_accepts {text topic : String} {pattern : TopicPattern} (parsed : parse text = .ok pattern)
    (matched : Filter.accepts text topic) : pattern.accepts topic := by
  obtain ⟨htext, hshape⟩ := parse_eq_ok parsed
  rw [Filter.accepts] at matched
  rw [accepts]
  generalize pattern.shape = shape at hshape
  cases hshape with
  | all => rfl
  | exact literal =>
    have hlevels := Filter.eq_of_matchLevels (fun _ mem ↦ not_hasWildcard_of_mem literal mem) matched
    simpa [htext] using levels_injective hlevels
  | channel levels_eq sound literal named =>
    rw [levels_eq, Filter.matchLevels_cons_iff (ne_multiLevel_of_wildcardFault sound)] at matched
    obtain ⟨actual, further, hfirst, role, hnext⟩ := matched
    obtain ⟨rest, rfl, hrest⟩ := (Filter.matchLevels_literal_iff literal).1 hnext
    have instanceId := accepts_ofLevel_head? hrest
    simp only [Topic.channelName?, role?, instanceId?, hfirst]
    simpa [accepts_ofLevel role, List.head?_eq_getElem?] using instanceId

/-- A pattern with a level after the instance, which the dispatcher does not look at. -/
theorem accepts_of_filter_accepts_deep :
    ∃ pattern, parse "+/speed/left/+" = .ok pattern ∧ Filter.accepts "+/speed/left/+" "car/speed/left/now" ∧
      pattern.accepts "car/speed/left/now" := by
  have parsed : parse "+/speed/left/+" =
      .ok ⟨"+/speed/left/+", .channel .any "speed" (.literal "left")⟩ := by rfl
  have matched : Filter.accepts "+/speed/left/+" "car/speed/left/now" := by decide
  exact ⟨_, parsed, matched, accepts_of_filter_accepts parsed matched⟩

end PubSub.TopicPattern
