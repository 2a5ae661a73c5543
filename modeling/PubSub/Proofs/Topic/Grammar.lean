import PubSub.Proofs.Topic.Coverage
/-!
# The grammar of receiver patterns

Which texts are receiver patterns, said without the reader that decides it. A wildcard has its level for itself, and
only the last level may be `#`. A text that stands for itself, without wildcards and not of two levels, needs no more;
every other pattern but `#` alone names its channel in the second level. The reader accepts these texts and no others,
and what it refuses is reported as it was given.
-/

namespace PubSub.TopicPattern

open Topic

variable {text level name : String} {rest : List String}

/-! ## Wildcards in their places -/

/-- Every wildcard has its level for itself, and `#` stands in the last level only. -/
def WellPlaced (levels : List String) : Prop :=
  (∀ index (_ : index < levels.length), '#' ∈ levels[index].toList →
    levels[index] = multiLevel ∧ index + 1 = levels.length) ∧
  ∀ level ∈ levels, '+' ∈ level.toList → level = singleLevel

/-- A text that stands for itself: it has no wildcards, and not just the two levels of a role and a channel. -/
def IsVerbatim (text : String) : Prop :=
  hasWildcard text = false ∧ (levels text).length ≠ 2

/-- The receiver patterns. -/
def IsPattern (text : String) : Prop :=
  text = multiLevel ∨ WellPlaced (levels text) ∧ (IsVerbatim text ∨
    ∃ name ∈ (levels text)[1]?, name ≠ "" ∧ name ≠ singleLevel ∧ name ≠ multiLevel)

instance (levels : List String) : Decidable (WellPlaced levels) :=
  inferInstanceAs (Decidable (_ ∧ _))

instance (text : String) : Decidable (IsVerbatim text) :=
  inferInstanceAs (Decidable (_ ∧ _))

instance (text : String) : Decidable (IsPattern text) :=
  inferInstanceAs (Decidable (_ ∨ _))

theorem wellPlaced_nil : WellPlaced [] :=
  ⟨by simp, by simp⟩

theorem wellPlaced_cons_iff : WellPlaced (level :: rest) ↔
    ('#' ∈ level.toList → level = multiLevel ∧ rest = []) ∧ ('+' ∈ level.toList → level = singleLevel) ∧
      WellPlaced rest := by
  constructor
  · rintro ⟨multi, single⟩
    refine ⟨fun mem ↦ ?_, single level List.mem_cons_self, fun index h mem ↦ ?_, fun other hmem ↦ ?_⟩
    · obtain ⟨same, last⟩ := multi 0 (by simp) mem
      exact ⟨same, by simpa using last⟩
    · obtain ⟨same, last⟩ := multi (index + 1) (by simpa using h) (by simpa using mem)
      exact ⟨by simpa using same, by simpa using last⟩
    · exact single other (List.mem_cons_of_mem _ hmem)
  · rintro ⟨multi, single, others⟩
    refine ⟨fun index h mem ↦ ?_, List.forall_mem_cons.2 ⟨single, others.2⟩⟩
    cases index with
    | zero =>
      obtain ⟨same, rfl⟩ := multi (by simpa using mem)
      exact ⟨by simpa using same, rfl⟩
    | succ index =>
      obtain ⟨same, last⟩ := others.1 index (by simpa using h) (by simpa using mem)
      exact ⟨by simpa using same, by simpa using last⟩

/-- Looking from level to level finds a fault unless all wildcards are in their places. -/
theorem wildcardFault_eq_none_iff (levels : List String) : wildcardFault levels = none ↔ WellPlaced levels := by
  induction levels with
  | nil => exact iff_of_true rfl wellPlaced_nil
  | cons level rest ih =>
    rw [wellPlaced_cons_iff, wildcardFault, ← ih]
    split
    · rename_i fault
      have misplaced : ¬('#' ∈ level.toList → level = multiLevel ∧ rest = []) := by
        intro placed
        obtain ⟨mem, other⟩ : '#' ∈ level.toList ∧ (level ≠ multiLevel ∨ rest ≠ []) := by simpa using fault
        exact other.elim (fun h ↦ h (placed mem).1) (fun h ↦ h (placed mem).2)
      simp [misplaced]
    · rename_i sound
      have placed : '#' ∈ level.toList → level = multiLevel ∧ rest = [] := by simpa using sound
      split
      · rename_i fault
        have shared : ¬('+' ∈ level.toList → level = singleLevel) := by simpa using fault
        simp [shared]
      · rename_i sound
        have whole : '+' ∈ level.toList → level = singleLevel := by simpa using sound
        exact ⟨fun others ↦ ⟨placed, whole, others⟩, fun all ↦ all.2.2⟩

/-- Where wildcards are in their places, a level with one is one. -/
theorem WellPlaced.hasWildcard_iff {levels : List String} (placed : WellPlaced levels) (mem : level ∈ levels) :
    hasWildcard level ↔ level = singleLevel ∨ level = multiLevel := by
  constructor
  · intro wildcard
    simp only [hasWildcard, List.any_eq_true, Bool.or_eq_true, beq_iff_eq] at wildcard
    obtain ⟨character, hmem, rfl | rfl⟩ := wildcard
    · exact .inl (placed.2 level mem hmem)
    · obtain ⟨index, h, rfl⟩ := List.getElem_of_mem mem
      exact .inr (placed.1 index h hmem).1
  · rintro (rfl | rfl) <;> rfl

/-! ## What is read -/

theorem IsVerbatim.ne_multiLevel (verbatim : IsVerbatim text) : text ≠ multiLevel :=
  Topic.ne_multiLevel verbatim.1

theorem IsVerbatim.wellPlaced (verbatim : IsVerbatim text) : WellPlaced (levels text) := by
  have plain (level : String) (mem : level ∈ levels text) : '#' ∉ level.toList ∧ '+' ∉ level.toList := by
    have literal := not_hasWildcard_of_mem verbatim.1 mem
    simp only [hasWildcard, List.any_eq_false, Bool.or_eq_true, beq_iff_eq, not_or] at literal
    exact ⟨fun mem ↦ (literal _ mem).2 rfl, fun mem ↦ (literal _ mem).1 rfl⟩
  exact ⟨fun index h mem ↦ absurd mem (plain _ (List.getElem_mem h)).1,
    fun level hmem mem ↦ absurd mem (plain level hmem).2⟩

theorem shapeOf_of_isVerbatim (verbatim : IsVerbatim text) : shapeOf text = .ok .exact := by
  have sound := (wildcardFault_eq_none_iff _).2 verbatim.wellPlaced
  simp [shapeOf, verbatim.ne_multiLevel, sound, verbatim.1, verbatim.2, pure, Except.pure]

/-- A text that neither is `#` nor stands for itself is searched for faults, and then for the name of its channel. -/
theorem shapeOf_of_not_isVerbatim (several : text ≠ multiLevel) (unlike : ¬IsVerbatim text) :
    shapeOf text = match wildcardFault (levels text) with
      | some fault => .error fault
      | none => (channelLevel (levels text)[1]?).map fun name ↦
          .channel (.ofLevel (levels text)[0]?) name (.ofLevel (levels text)[2]?) := by
  have exact : (!hasWildcard text && (levels text).length != 2) = false := by
    rw [← Bool.not_eq_true]
    intro verbatim
    exact unlike (by simpa [IsVerbatim] using verbatim)
  rw [shapeOf, if_neg (by simpa using several)]
  cases wildcardFault (levels text) with
  | some fault => rfl
  | none =>
    simp only [exact, Bool.false_eq_true, if_false]
    cases channelLevel (levels text)[1]? <;> rfl

/-- A level names a channel if it is neither empty nor a wildcard. -/
theorem WellPlaced.channelLevel_eq {levels : List String} (placed : WellPlaced levels) :
    (∃ name ∈ levels[1]?, (name ≠ "" ∧ name ≠ singleLevel ∧ name ≠ multiLevel) ∧
        channelLevel levels[1]? = .ok name) ∨
      (¬∃ name ∈ levels[1]?, name ≠ "" ∧ name ≠ singleLevel ∧ name ≠ multiLevel) ∧
        ∃ fault, channelLevel levels[1]? = .error fault := by
  cases second : levels[1]? with
  | none => exact .inr ⟨by simp, _, rfl⟩
  | some name =>
    have wildcard := placed.hasWildcard_iff (List.mem_of_getElem? second)
    by_cases literal : name ≠ singleLevel ∧ name ≠ multiLevel
    · have plain : hasWildcard name = false := by
        rw [← Bool.not_eq_true, wildcard, not_or]
        exact literal
      by_cases named : name = ""
      · refine .inr ⟨by simp [named], .emptyChannelName, ?_⟩
        subst named
        rfl
      · exact .inl ⟨name, rfl, ⟨named, literal⟩, by simp [channelLevel, plain, named, pure, Except.pure]⟩
    · have found : hasWildcard name := by
        rw [wildcard]
        exact Decidable.byContradiction fun other ↦ literal (not_or.1 other)
      refine .inr ⟨?_, .wildcardChannelName, by simp [channelLevel, found]; rfl⟩
      rintro ⟨other, ⟨⟩, -, notWildcard⟩
      exact literal notWildcard

/-- A text is accepted exactly if it is a receiver pattern. The pattern keeps the text, and is bound to the channel in
the second level unless it is `#` or stands for itself; the refusal of any other text names that text. -/
theorem parse_decides (text : String) :
    (IsPattern text ∧ ∃ pattern, parse text = .ok pattern ∧ pattern.text = text ∧
      pattern.channelName? = if text = multiLevel ∨ IsVerbatim text then none else (levels text)[1]?) ∨
    (¬IsPattern text ∧ ∃ fault, parse text = .error (.malformedAddress text fault)) := by
  by_cases all : text = multiLevel
  · subst all
    exact .inl ⟨.inl rfl, ⟨multiLevel, .all⟩, rfl, rfl, rfl⟩
  by_cases verbatim : IsVerbatim text
  · refine .inl ⟨.inr ⟨verbatim.wellPlaced, .inl verbatim⟩, ⟨text, .exact⟩, ?_, rfl, ?_⟩
    · rw [parse, shapeOf_of_isVerbatim verbatim]
      rfl
    · rw [if_pos (.inr verbatim)]
      rfl
  rw [parse, shapeOf_of_not_isVerbatim all verbatim]
  have grammar : IsPattern text ↔ WellPlaced (levels text) ∧
      ∃ name ∈ (levels text)[1]?, name ≠ "" ∧ name ≠ singleLevel ∧ name ≠ multiLevel := by
    simp [IsPattern, all, verbatim]
  rw [grammar, if_neg (not_or.2 ⟨all, verbatim⟩)]
  cases sound : wildcardFault (levels text) with
  | some fault =>
    refine .inr ⟨fun pattern ↦ ?_, fault, rfl⟩
    rw [(wildcardFault_eq_none_iff _).2 pattern.1] at sound
    cases sound
  | none =>
    have placed := (wildcardFault_eq_none_iff _).1 sound
    rcases placed.channelLevel_eq with ⟨name, second, literal, read⟩ | ⟨unnamed, fault, refused⟩
    · refine .inl ⟨⟨placed, name, second, literal⟩, ⟨text, _⟩, by rw [read]; rfl, rfl, ?_⟩
      exact (Option.mem_def.1 second).symm
    · exact .inr ⟨fun pattern ↦ unnamed pattern.2, fault, by rw [refused]; rfl⟩

/-- Levels may be empty, and any may follow the instance; the channel is always named. -/
example : IsPattern "" ∧ IsPattern "/speed//+" ∧ ¬IsPattern "car/" ∧ ¬IsPattern "car/+/left" := by decide

end PubSub.TopicPattern
