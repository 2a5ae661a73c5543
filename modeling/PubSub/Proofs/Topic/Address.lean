import PubSub.Proofs.Topic.Coverage
import PubSub.Topic.Address
/-!
# Which senders a receiver hears

Addresses are made of levels that have been checked, so the text of an address is cut into the same levels again, and
the text of every receiver's address is an accepted pattern. It is read in one of two ways: as the topic itself if role
and instance are both literal, and level by level otherwise. Senders use topics of at most three levels, and for these
the two readings agree, so that each level of the receiver's address can be compared on its own.
-/

namespace PubSub.Topic

variable {part : AddressPart} {level text : String} {rest : List String}

/-- A level that stands for nothing but itself. -/
structure IsLiteral (level : String) : Prop where
  ne_empty : level ≠ ""
  noSlash : '/' ∉ level.toList
  noWildcard : hasWildcard level = false

theorem literalLevel_eq_ok_iff : literalLevel part level = .ok () ↔ IsLiteral level := by
  rw [literalLevel]
  constructor
  · intro accepted
    split at accepted
    · cases accepted
    · rename_i named
      split at accepted
      · cases accepted
      · rename_i whole
        split at accepted
        · cases accepted
        · rename_i plain
          exact ⟨by simpa using named, by simpa using whole, by simpa using plain⟩
  · intro literal
    have named : level.isEmpty = false := by simpa using literal.ne_empty
    have whole : level.toList.contains '/' = false := by simpa using literal.noSlash
    rw [named, whole, literal.noWildcard]
    rfl

/-- The levels that leave a place of a pattern open, and those that stand for themselves there. -/
def IsChoice (level : String) : Prop :=
  level = singleLevel ∨ IsLiteral level

theorem IsChoice.noSlash (choice : IsChoice level) : '/' ∉ level.toList := by
  rcases choice with rfl | literal
  · simp [singleLevel]
  · exact literal.noSlash

/-- Neither `+` nor a literal level is a misplaced wildcard. -/
theorem IsChoice.wildcardFault_cons (choice : IsChoice level) :
    TopicPattern.wildcardFault (level :: rest) = TopicPattern.wildcardFault rest := by
  rw [TopicPattern.wildcardFault]
  rcases choice with rfl | literal
  · simp [singleLevel]
  · have plain : ∀ c ∈ level.toList, c ≠ '+' ∧ c ≠ '#' := by simpa [hasWildcard] using literal.noWildcard
    have noMulti : '#' ∉ level.toList := fun mem ↦ (plain _ mem).2 rfl
    have noSingle : '+' ∉ level.toList := fun mem ↦ (plain _ mem).1 rfl
    simp [noMulti, noSingle]

end PubSub.Topic

namespace PubSub.TopicAddress

open Topic

variable {name other level last text : String} {identity : Identity} {role instanceId : Option String}
  {address sender receiver : TopicAddress}

/-! ## Accepted addresses -/

section

variable {α : Type} {guard : Except Error Unit} {result : α}

theorem guard_bind_eq_ok_iff {next : Unit → Except Error α} :
    guard >>= next = .ok result ↔ guard = .ok () ∧ next () = .ok result := by
  cases guard with
  | error error => simp [bind, Except.bind]
  | ok done => simp [bind, Except.bind]

theorem unless_bind_eq_ok_iff {exempt : Bool} {next : Except Error α} :
    (if exempt = true then next else guard >>= fun _ ↦ next) = .ok result ↔
      (exempt = true ∨ guard = .ok ()) ∧ next = .ok result := by
  cases exempt with
  | true => simp
  | false => simp [guard_bind_eq_ok_iff]

end

/-- A sender's address consists of literal levels. -/
theorem forSender_eq_ok_iff :
    forSender name identity role instanceId = .ok address ↔
      IsLiteral name ∧ IsLiteral (role.getD identity.role) ∧
        (∀ level ∈ instanceId <|> identity.instanceId, IsLiteral level) ∧
          ⟨role.getD identity.role, name, instanceId <|> identity.instanceId⟩ = address := by
  simp only [forSender, validChannelName, guard_bind_eq_ok_iff, literalLevel_eq_ok_iff]
  cases instanceId <|> identity.instanceId with
  | none => simp [pure, Except.pure]
  | some level => simp [guard_bind_eq_ok_iff, literalLevel_eq_ok_iff, pure, Except.pure]

/-- A receiver's address names its channel literally, and leaves open what its options leave open. -/
theorem forReceiver_eq_ok_iff :
    forReceiver name role instanceId = .ok address ↔
      IsLiteral name ∧ IsChoice (role.getD singleLevel) ∧
        (instanceId.getD multiLevel = multiLevel ∨ IsChoice (instanceId.getD multiLevel)) ∧
          ⟨role.getD singleLevel, name, some (instanceId.getD multiLevel)⟩ = address := by
  simp only [forReceiver, validChannelName, guard_bind_eq_ok_iff, unless_bind_eq_ok_iff, literalLevel_eq_ok_iff]
  simp only [Bool.or_eq_true, beq_iff_eq, pure, Except.pure, Except.ok.injEq, IsChoice]
  rw [or_assoc, or_left_comm]

/-- The text of an address is cut into the levels that the address was built from. -/
theorem levels_text (whole : ∀ level ∈ address.levels, '/' ∉ level.toList) :
    Topic.levels address.text = address.levels :=
  levels_join (List.cons_ne_nil _ _) whole

/-! ## The pattern of a receiver -/

/-- A text of three levels of which the second is literal and only the last may be `#` is an accepted pattern: it means
the topic itself if there is no wildcard in it. -/
theorem parse_of_levels (levels_eq : Topic.levels text = [level, name, last]) (first : IsChoice level)
    (named : IsLiteral name) (third : last = multiLevel ∨ IsChoice last) :
    TopicPattern.parse text = .ok ⟨text, if hasWildcard text then
      .channel (.ofLevel (some level)) name (.ofLevel (some last)) else .exact⟩ := by
  have several : (text == multiLevel) = false := by
    rw [beq_eq_false_iff_ne]
    rintro rfl
    have single : Topic.levels multiLevel = [multiLevel] := rfl
    rw [single] at levels_eq
    cases levels_eq
  have sound : TopicPattern.wildcardFault [level, name, last] = none := by
    rw [first.wildcardFault_cons, IsChoice.wildcardFault_cons (.inr named)]
    rcases third with rfl | choice
    · rfl
    · rw [choice.wildcardFault_cons, TopicPattern.wildcardFault]
  have found : TopicPattern.channelLevel (some name) = .ok name := by
    simp [TopicPattern.channelLevel, named.noWildcard, named.ne_empty, pure, Except.pure]
  have shape : TopicPattern.shapeOf text = .ok (if hasWildcard text then
      .channel (.ofLevel (some level)) name (.ofLevel (some last)) else .exact) := by
    rw [TopicPattern.shapeOf, several, levels_eq, sound]
    cases wildcard : hasWildcard text with
    | true => simp [found, bind, Except.bind, pure, Except.pure]
    | false => simp [pure, Except.pure]
  rw [TopicPattern.parse, shape]
  rfl

/-- The last level of a pattern is compared with the instance of a topic, which may be missing. -/
theorem accepts_ofLevel_last_iff (third : last = multiLevel ∨ IsChoice last) (actual : Option String) :
    (LevelPattern.ofLevel (some last)).accepts actual ↔ last = singleLevel ∨ last = multiLevel ∨ actual = some last := by
  rcases third with rfl | rfl | literal
  · exact ⟨fun _ ↦ .inr (.inl rfl), fun _ ↦ rfl⟩
  · exact ⟨fun _ ↦ .inl rfl, fun _ ↦ rfl⟩
  · have notSingle := ne_singleLevel literal.noWildcard
    have notMulti := ne_multiLevel literal.noWildcard
    simp [LevelPattern.ofLevel, literal.noWildcard, LevelPattern.accepts, notSingle, notMulti]

/-- Level by level, and as a whole: on topics of two or three levels an exact pattern accepts what a pattern of the
same three literal levels would. -/
theorem accepts_of_levels {topic actual found : String} {tail : Option String}
    (levels_eq : Topic.levels text = [level, name, last]) (first : IsChoice level) (named : IsLiteral name)
    (third : last = multiLevel ∨ IsChoice last) (topic_eq : Topic.levels topic = actual :: found :: tail.toList) :
    ∃ pattern, TopicPattern.parse text = .ok pattern ∧
      (pattern.accepts topic ↔ found = name ∧ (level = singleLevel ∨ level = actual) ∧
        (last = singleLevel ∨ last = multiLevel ∨ tail = some last)) := by
  refine ⟨_, parse_of_levels levels_eq first named third, ?_⟩
  cases wildcard : hasWildcard text with
  | true =>
    have sound : TopicPattern.wildcardFault [level, name] = none := by
      rw [first.wildcardFault_cons, IsChoice.wildcardFault_cons (.inr named), TopicPattern.wildcardFault]
    have head : tail.toList.head? = tail := by cases tail <;> rfl
    rw [if_pos rfl, TopicPattern.accepts_channel_iff rfl sound, topic_eq, ← accepts_ofLevel_last_iff third]
    constructor
    · rintro ⟨_, _, ⟨⟩, role, instanceId⟩
      exact ⟨rfl, role, head ▸ instanceId⟩
    · rintro ⟨rfl, role, instanceId⟩
      exact ⟨actual, tail.toList, rfl, role, head.symm ▸ instanceId⟩
  | false =>
    have literal (part : String) (mem : part ∈ [level, name, last]) : hasWildcard part = false :=
      not_hasWildcard_of_mem wildcard (levels_eq ▸ mem)
    have notSingle := ne_singleLevel (literal level (by simp))
    have lastSingle := ne_singleLevel (literal last (by simp))
    have lastMulti := ne_multiLevel (literal last (by simp))
    have same : text = topic ↔ [level, name, last] = actual :: found :: tail.toList := by
      rw [← levels_eq, ← topic_eq]
      exact ⟨congrArg Topic.levels, levels_injective⟩
    simp only [TopicPattern.accepts, Bool.false_eq_true, if_false, beq_iff_eq, same]
    cases tail <;> simp [notSingle, lastSingle, lastMulti, and_left_comm, eq_comm]

/-! ## Senders and receivers -/

/-- The levels that a sender publishes with. -/
theorem levels_of_forSender (sends : forSender name identity role instanceId = .ok sender) :
    Topic.levels sender.text = role.getD identity.role :: name :: (instanceId <|> identity.instanceId).toList := by
  obtain ⟨named, roleLiteral, instanceLiteral, rfl⟩ := forSender_eq_ok_iff.1 sends
  apply levels_text
  intro level mem
  simp only [levels, List.mem_cons, Option.mem_toList] at mem
  rcases mem with rfl | rfl | mem
  · exact roleLiteral.noSlash
  · exact named.noSlash
  · exact (instanceLiteral level mem).noSlash

/-- The levels that a receiver subscribes with. -/
theorem levels_of_forReceiver (listens : forReceiver name role instanceId = .ok receiver) :
    Topic.levels receiver.text = [role.getD singleLevel, name, instanceId.getD multiLevel] := by
  obtain ⟨named, roleChoice, instanceChoice, rfl⟩ := forReceiver_eq_ok_iff.1 listens
  apply levels_text
  intro level mem
  simp only [levels, Option.toList_some, List.mem_cons, List.not_mem_nil, or_false] at mem
  rcases mem with rfl | rfl | rfl
  · exact roleChoice.noSlash
  · exact named.noSlash
  · rcases instanceChoice with all | choice
    · rw [all]
      simp [multiLevel]
    · exact choice.noSlash

/-- A receiver's address is an accepted pattern, and it takes a sender's topic exactly if both name the same channel
and the sender has the role and the instance that the receiver asks for, as far as it asks for one. -/
theorem forReceiver_accepts_iff {wantedRole wantedInstance : Option String}
    (sends : forSender name identity role instanceId = .ok sender)
    (listens : forReceiver other wantedRole wantedInstance = .ok receiver) :
    ∃ pattern, TopicPattern.parse receiver.text = .ok pattern ∧
      (pattern.accepts sender.text ↔ name = other ∧
        (∀ wanted ∈ wantedRole, wanted = singleLevel ∨ wanted = role.getD identity.role) ∧
        (∀ wanted ∈ wantedInstance, wanted = singleLevel ∨ wanted = multiLevel ∨
          (instanceId <|> identity.instanceId) = some wanted)) := by
  obtain ⟨named, roleChoice, instanceChoice, -⟩ := forReceiver_eq_ok_iff.1 listens
  obtain ⟨pattern, parsed, accepts_iff⟩ := accepts_of_levels (levels_of_forReceiver listens) roleChoice named
    instanceChoice (levels_of_forSender sends)
  refine ⟨pattern, parsed, accepts_iff.trans ?_⟩
  -- An option that is absent stands for the wildcard that leaves its place open.
  cases wantedRole <;> cases wantedInstance <;> simp

/-- A role and an instance that are both literal make an exact pattern; the role is the agent's, the instance is not. -/
theorem forReceiver_accepts_literal :
    ∃ pattern, TopicPattern.parse "car/speed/left" = .ok pattern ∧ pattern.accepts "car/speed/left" := by
  have sends : forSender "speed" ⟨"car", some "right"⟩ none (some "left") = .ok ⟨"car", "speed", some "left"⟩ := by rfl
  have listens : forReceiver "speed" (some "car") (some "left") = .ok ⟨"car", "speed", some "left"⟩ := by rfl
  obtain ⟨pattern, parsed, accepts_iff⟩ := forReceiver_accepts_iff sends listens
  exact ⟨pattern, parsed, accepts_iff.2 (by simp)⟩

end PubSub.TopicAddress
