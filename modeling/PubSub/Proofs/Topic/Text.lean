import PubSub.Proofs.Topic.Address
import Mathlib.Data.List.Basic
/-!
# The texts of addresses

An address is known by its text. The levels of an address that a channel can have contain no slash, so its text is cut
into these levels again, and no two such addresses share a text. Whether an address is a pattern can be seen from its
text, because a wildcard never stands where the channel is named. In the other direction every text of two or three
levels reads as an address, whatever the levels are, and that address has the text.
-/

namespace PubSub.TopicAddress

open Topic

variable {text : String} {address other : TopicAddress}

/-- The addresses that channels can have. -/
inductive Built : TopicAddress → Prop
  | sender {name : String} {identity : Identity} {role instanceId : Option String} {address : TopicAddress}
    (sends : forSender name identity role instanceId = .ok address) : Built address
  | receiver {name : String} {role instanceId : Option String} {address : TopicAddress}
    (listens : forReceiver name role instanceId = .ok address) : Built address

/-! ## Reading -/

/-- A text reads as the address that has its levels. -/
theorem parse_eq_ok_iff : parse text = .ok address ↔ Topic.levels text = address.levels := by
  obtain ⟨role, name, instanceId⟩ := address
  rw [parse]
  split
  · rename_i cut
    rw [cut]
    cases instanceId <;> simp [levels, pure, Except.pure]
  · rename_i cut
    rw [cut]
    cases instanceId <;> simp [levels, pure, Except.pure]
  · rename_i two three
    refine iff_of_false (fun read ↦ by cases read) fun cut ↦ ?_
    cases instanceId with
    | none => exact two role name cut
    | some level => exact three role name level cut

/-- An address has two levels or three, and there is one for any two or three levels. -/
theorem exists_levels_iff (parts : List String) :
    (∃ address : TopicAddress, parts = address.levels) ↔ parts.length = 2 ∨ parts.length = 3 := by
  constructor
  · rintro ⟨⟨role, name, instanceId⟩, rfl⟩
    cases instanceId
    · exact .inl rfl
    · exact .inr rfl
  · rintro (two | three)
    · obtain ⟨role, name, rfl⟩ := List.length_eq_two.1 two
      exact ⟨⟨role, name, none⟩, rfl⟩
    · obtain ⟨role, name, level, rfl⟩ := List.length_eq_three.1 three
      exact ⟨⟨role, name, some level⟩, rfl⟩

/-- A text that reads as an address is the text of that address, and its levels are those of the address. -/
theorem text_of_parse (read : parse text = .ok address) :
    address.text = text ∧ role? text = some address.role ∧ channelName? text = some address.channelName ∧
      instanceId? text = address.instanceId := by
  have cut := parse_eq_ok_iff.1 read
  refine ⟨?_, ?_, ?_, ?_⟩
  · rw [TopicAddress.text, ← cut, join_levels]
  · rw [role?, cut]
    rfl
  · rw [channelName?, cut]
    rfl
  · rw [instanceId?, cut, levels]
    cases address.instanceId <;> rfl

/-! ## Addresses of channels -/

/-- The text of an address that a channel has is cut into the levels of the address. -/
theorem Built.levels_text (built : Built address) : Topic.levels address.text = address.levels := by
  cases built with
  | sender sends =>
    rw [levels_of_forSender sends]
    obtain ⟨-, -, -, rfl⟩ := forSender_eq_ok_iff.1 sends
    rfl
  | receiver listens =>
    rw [levels_of_forReceiver listens]
    obtain ⟨-, -, -, rfl⟩ := forReceiver_eq_ok_iff.1 listens
    rfl

theorem Built.isLiteral_channelName (built : Built address) : IsLiteral address.channelName := by
  cases built with
  | sender sends =>
    obtain ⟨named, -, -, rfl⟩ := forSender_eq_ok_iff.1 sends
    exact named
  | receiver listens =>
    obtain ⟨named, -, -, rfl⟩ := forReceiver_eq_ok_iff.1 listens
    exact named

theorem Built.parse_text (built : Built address) : parse address.text = .ok address :=
  parse_eq_ok_iff.2 built.levels_text

theorem Built.eq_of_text (built : Built address) (also : Built other) (same : address.text = other.text) :
    address = other := by
  have read := built.parse_text
  rw [same, also.parse_text] at read
  exact (Except.ok.inj read).symm

theorem hasWildcard_iff : hasWildcard text ↔ '+' ∈ text.toList ∨ '#' ∈ text.toList := by
  simp [hasWildcard, and_or_left, exists_or]

theorem Built.isPattern_eq (built : Built address) : address.isPattern = hasWildcard address.text := by
  rw [hasWildcard_eq_any, built.levels_text, isPattern, levels]
  cases address.instanceId <;> simp [built.isLiteral_channelName.noWildcard]

/-- A sender publishes on one topic. -/
theorem isPattern_of_forSender {name : String} {identity : Identity} {role instanceId : Option String}
    (sends : forSender name identity role instanceId = .ok address) : address.isPattern = false := by
  obtain ⟨-, literalRole, literalInstance, rfl⟩ := forSender_eq_ok_iff.1 sends
  rw [isPattern, literalRole.noWildcard, Bool.false_or, Option.any_eq_false]
  intro level mem
  simpa using (literalInstance level mem).noWildcard

/-- Reading the text of an address that a channel has gives back the address, so that distinct addresses have distinct
texts; and such an address is a pattern exactly if there is a wildcard in its text, as there is never in that of a
sender. A text reads as an address exactly if it has two or three levels: of the address that has the text, and whose
parts are the levels of the text. -/
theorem text_determines :
    (∀ address, Built address → parse address.text = .ok address ∧
      (address.isPattern ↔ '+' ∈ address.text.toList ∨ '#' ∈ address.text.toList)) ∧
    (∀ address other, Built address → Built other → address ≠ other → address.text ≠ other.text) ∧
    (∀ name identity role instanceId address, forSender name identity role instanceId = .ok address →
      address.isPattern = false) ∧
    ∀ text, ((∃ address, parse text = .ok address) ↔
        (Topic.levels text).length = 2 ∨ (Topic.levels text).length = 3) ∧
      ∀ address, parse text = .ok address → address.text = text ∧ role? text = some address.role ∧
        channelName? text = some address.channelName ∧ instanceId? text = address.instanceId := by
  refine ⟨fun address built ↦ ⟨built.parse_text, ?_⟩, fun address other built also distinct same ↦ ?_, ?_, ?_⟩
  · rw [built.isPattern_eq, hasWildcard_iff]
  · exact distinct (built.eq_of_text also same)
  · exact fun _ _ _ _ _ sends ↦ isPattern_of_forSender sends
  · refine fun text ↦ ⟨?_, fun address read ↦ text_of_parse read⟩
    simp only [parse_eq_ok_iff, exists_levels_iff]

/-- A sender and a receiver of one channel, of which only the receiver listens to a pattern; and a text that no channel
can have, whose levels are empty. -/
theorem text_determines_open : ∃ sender receiver : TopicAddress,
    forSender "speed" ⟨"car", some "left"⟩ none none = .ok sender ∧ forReceiver "speed" none none = .ok receiver ∧
    parse "car/speed/left" = .ok sender ∧ parse "+/speed/#" = .ok receiver ∧ sender.text ≠ receiver.text ∧
    sender.isPattern = false ∧ receiver.isPattern ∧
    ∃ address, parse "//" = .ok address ∧ address.text = "//" ∧ address.instanceId = some "" := by
  have sends : forSender "speed" ⟨"car", some "left"⟩ none none = .ok ⟨"car", "speed", some "left"⟩ := by rfl
  have listens : forReceiver "speed" none none = .ok ⟨"+", "speed", some "#"⟩ := by rfl
  obtain ⟨channels, distinct, senders, texts⟩ := text_determines
  obtain ⟨address, read⟩ := (texts "//").1.2 (.inr rfl)
  obtain ⟨same, -, -, last⟩ := (texts "//").2 address read
  refine ⟨_, _, sends, listens, (channels _ (.sender sends)).1, (channels _ (.receiver listens)).1, ?_,
    senders _ _ _ _ _ sends, (channels _ (.receiver listens)).2.2 (by decide), address, read, same, last.symm⟩
  exact distinct _ _ (.sender sends) (.receiver listens) (by decide)

end PubSub.TopicAddress
