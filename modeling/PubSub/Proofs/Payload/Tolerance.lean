import PubSub.Proofs.Payload.RoundTrip
/-!
# Records are read without a shared schema

A record may come from a writer that has another version of it: as a map with its fields in another order, with some of
them missing, and with entries that the reader does not know, whatever their values are. The known fields are read all
the same, because what is passed over is passed over whole. A field that is there twice is never read.
-/

namespace PubSub

open MessagePack

variable {bytes : Bytes}

/-- What is read from a form of an item is what the item stands for, whatever follows. -/
theorem decode?_bind_of_written {α : Type} [Packable α] {item : Item} (written : item.Written Item.maxDepth bytes)
    (rest : Bytes) : (Item.decode? (bytes ++ rest) >>= unpack?) = (unpack? item : Option α) :=
  bind_of_eq_some (Item.decode?_of_written written rest) _

/-- Records are read by the names of their fields. Take any form of a map that holds what the writer of a value gives for
the fields that are kept, in any order, and other entries under strings that name no field, with any items as their
values. A reading and a move are read as the value if both of their fields are kept, and refused otherwise; overrides, a
configuration and each section of it are read with the defaults for what is not kept, so as the value itself if
everything is kept. A map with two entries for one field is refused. -/
theorem reads_named_fields {entries : List (Item × Item)} (rest : Bytes) :
    ((Item.map entries).Written Item.maxDepth bytes →
      ((∀ (keep : String → Bool) (reading : Reading), Tells keep (pack reading).readBack entries →
          PayloadKind.reading.decode? (bytes ++ rest) = if keep "sensor" && keep "value" then some reading else none) ∧
        (Twice ["sensor", "value"] entries → PayloadKind.reading.decode? (bytes ++ rest) = none)) ∧
      ((∀ (keep : String → Bool) (overrides : BrokerOverrides), Tells keep (pack overrides).readBack entries →
          PayloadKind.overrides.decode? (bytes ++ rest) = some (overrides.keeping keep)) ∧
        (Twice BrokerOptions.fieldNames entries → PayloadKind.overrides.decode? (bytes ++ rest) = none)) ∧
      ((∀ (keep : String → Bool) (config : Config), config.Tells keep entries →
          PayloadKind.config.decode? (bytes ++ rest) = some (config.keeping keep)) ∧
        (Config.Twice entries → PayloadKind.config.decode? (bytes ++ rest) = none)) ∧
      ((∀ (keep : String → Bool) (options : BrokerOptions), Tells keep (pack options).readBack entries →
          (Item.decode? (bytes ++ rest) >>= unpack?) = some (options.keeping keep)) ∧
        (Twice BrokerOptions.fieldNames entries →
          (Item.decode? (bytes ++ rest) >>= unpack?) = (none : Option BrokerOptions))) ∧
      ((∀ (keep : String → Bool) (defaults : ChannelDefaults), Tells keep (pack defaults).readBack entries →
          (Item.decode? (bytes ++ rest) >>= unpack?) = some (defaults.keeping keep)) ∧
        (Twice ChannelDefaults.fieldNames entries →
          (Item.decode? (bytes ++ rest) >>= unpack?) = (none : Option ChannelDefaults))) ∧
      ((∀ (keep : String → Bool) (behavior : Behavior), Tells keep (pack behavior).readBack entries →
          (Item.decode? (bytes ++ rest) >>= unpack?) = some (behavior.keeping keep)) ∧
        (Twice Behavior.fieldNames entries →
          (Item.decode? (bytes ++ rest) >>= unpack?) = (none : Option Behavior)))) ∧
    ((Item.map [(.ofString "Move", .map entries)]).Written Item.maxDepth bytes →
      (∀ (keep : String → Bool) (x y : Int32), Tells keep (Command.coordinates x y).readBack entries →
          PayloadKind.command.decode? (bytes ++ rest) = if keep "x" && keep "y" then some (.move x y) else none) ∧
        (Twice ["x", "y"] entries → PayloadKind.command.decode? (bytes ++ rest) = none)) := by
  constructor
  · intro written
    refine ⟨⟨fun _ _ tells ↦ ?_, fun twice ↦ ?_⟩, ⟨fun _ _ tells ↦ ?_, fun twice ↦ ?_⟩,
      ⟨fun _ _ tells ↦ ?_, fun twice ↦ ?_⟩, ⟨fun _ _ tells ↦ ?_, fun twice ↦ ?_⟩,
      ⟨fun _ _ tells ↦ ?_, fun twice ↦ ?_⟩, ⟨fun _ _ tells ↦ ?_, fun twice ↦ ?_⟩⟩
    all_goals refine (decode?_bind_of_written written rest).trans ?_
    · exact Reading.unpack?_of_tells tells
    · exact Reading.unpack?_of_twice twice
    · exact BrokerOverrides.unpack?_of_tells tells
    · exact BrokerOverrides.unpack?_of_twice twice
    · exact Config.unpack?_of_tells tells
    · exact Config.unpack?_of_twice twice
    · exact BrokerOptions.unpack?_of_tells tells
    · exact BrokerOptions.unpack?_of_twice twice
    · exact ChannelDefaults.unpack?_of_tells tells
    · exact ChannelDefaults.unpack?_of_twice twice
    · exact Behavior.unpack?_of_tells tells
    · exact Behavior.unpack?_of_twice twice
  · intro written
    have reads : PayloadKind.command.decode? (bytes ++ rest) = Command.move? (.map entries) :=
      (decode?_bind_of_written written rest).trans (Command.unpack?_move _)
    refine ⟨fun _ _ _ tells ↦ ?_, fun twice ↦ ?_⟩
    · exact reads.trans (Command.move?_of_tells tells)
    · exact reads.trans (Command.move?_of_twice twice)

/-- A reading behind a longer header than needed, its fields the other way round, with an array and an extension under a
name that is unknown; that name alone, which leaves all fields open; one section with one of its fields; the first field
twice, by its number; a section with a host twice, in a text and in a binary string; and a move with its coordinates the
other way round, and with one of them twice. -/
theorem reads_named_fields_reordered :
    let skipped : String × Item := ("unit", .array [.nil, .extension 5 [1]])
    let reading : List (String × Item) := [skipped, ("value", .float64 0x3ff8000000000000), ("sensor", .ofString "t")]
    let channels : List (String × Item) := [skipped, ("channels", record [("retain", .boolean true), skipped])]
    let doubled : Item := .map [(.unsigned 0, .nil), (.unsigned 0, .nil)]
    let hosts : Item := .map [(.ofString "host", .ofString "h"), (.binary (Bytes.ofString "host"), .nil)]
    let move : List (String × Item) := [skipped, ("y", .signed 2), ("x", .signed (-1))]
    let read (α : Type) [Packable α] (item : Item) : Option α := Item.decode? (item.encode ++ []) >>= unpack?
    PayloadKind.reading.decode? ([0xde, 0, 3] ++ Item.encodeEntries (entriesOf reading) ++ [0xc1]) =
      some ⟨"t", ⟨0x3ff8000000000000⟩⟩ ∧
    (read Reading (record [skipped]) = none ∧ read BrokerOverrides (record [skipped]) = some .none ∧
      read Config (record [skipped]) = some .standard ∧ read BrokerOptions (record [skipped]) = some .tcp ∧
      read ChannelDefaults (record [skipped]) = some .standard ∧ read Behavior (record [skipped]) = some .standard) ∧
    read Config (record channels) = some { Config.standard with channels := ⟨.atLeastOnce, true⟩ } ∧
    (read Reading doubled = none ∧ read BrokerOverrides doubled = none ∧ read Config doubled = none ∧
      read BrokerOptions doubled = none ∧ read ChannelDefaults doubled = none ∧ read Behavior doubled = none) ∧
    read Config (record [("broker", hosts)]) = none ∧
    read Command (record [("Move", record move)]) = some (.move (-1) 2) ∧
    read Command (record [("Move", doubled)]) = none := by
  intro skipped reading channels doubled hosts move read
  have fits : Item.FitAll Item.maxDepth [record reading, record [skipped], record channels, doubled,
      record [("broker", hosts)], record [("Move", record move)], record [("Move", doubled)]] := by
    and_intros <;> first | trivial | decide | (show _ < UInt32.size; decide)
  obtain ⟨readingFits, skippedFits, channelsFit, doubledFits, brokerFits, moveFits, movesFit, -⟩ := fits
  have unknown (names : List String) (absent : "unit" ∉ names) : ∀ field ∈ [skipped], field.1 ∉ names :=
    List.forall_mem_singleton.2 absent
  have silent (fields : List (String × Item)) (absent : "unit" ∉ fields.map Prod.fst) :
      Tells (fun _ ↦ false) (record fields).readBack (Item.readBackEntries (entriesOf [skipped])) :=
    tells_readBack_of_perm (unknown _ absent) (by simp)
  have twice (names : List String) (some : 0 < names.length) : Twice names [(.unsigned 0, .nil), (.unsigned 0, .nil)] :=
    have stands : IsKey names 0 (.unsigned 0) := .number some (show (0 : UInt64).toNat = 0 from rfl)
    ⟨0, _, _, [], stands, stands, .refl _⟩
  refine ⟨?_, ?_, ?_, ?_, ?_, ?_, ?_⟩
  · have header : (Header.map reading.length).Form [0xde, 0, 3] := by
      have known : (0xde, 2, Header.map) ∈ Header.naturalMarkers := by simp [Header.naturalMarkers]
      exact Header.Form.of_nat known (show 3 < _ by decide)
    have order : reading.Perm [("sensor", .ofString "t"), ("value", .float64 0x3ff8000000000000), skipped] :=
      List.reverse_perm [("sensor", Item.ofString "t"), ("value", Item.float64 0x3ff8000000000000), skipped]
    have tells : Tells (fun _ ↦ true) (pack (⟨"t", ⟨0x3ff8000000000000⟩⟩ : Reading)).readBack _ :=
      tells_readBack_of_perm (unknown _ (by decide)) order
    exact ((reads_named_fields [0xc1]).1 (written_record header readingFits)).1.1 _ _ tells
  · obtain ⟨⟨reading, -⟩, ⟨overrides, -⟩, ⟨config, -⟩, ⟨options, -⟩, ⟨channels, -⟩, ⟨behavior, -⟩⟩ :=
      (reads_named_fields []).1 (Item.written_encode skippedFits)
    have parts : Config.standard.Tells (fun _ ↦ false) (Item.readBackEntries (entriesOf [skipped])) := by
      refine ⟨_, _, _, silent _ (by decide), silent _ (by decide), silent _ (by decide), ?_⟩
      refine ⟨_, entriesOf [skipped], rfl, List.forall_mem_singleton.2 ⟨_, rfl, by decide⟩, .refl _⟩
    exact ⟨reading _ ⟨"t", ⟨0⟩⟩ (silent _ (by decide)), overrides _ .none (silent _ (by decide)), config _ _ parts,
      options _ .tcp (silent _ (by decide)), channels _ .standard (silent _ (by decide)),
      behavior _ .standard (silent _ (by decide))⟩
  · let keep : String → Bool := fun name ↦ name == "channels" || name == "retain"
    let config : Config := { Config.standard with channels := ⟨.atLeastOnce, true⟩ }
    have brokerTells : Tells keep (pack config.broker).readBack [] :=
      ⟨_, [], readBack_record _, by simp, .refl _⟩
    have channelsTell : Tells keep (pack config.channels).readBack _ :=
      tells_readBack_of_perm (unknown _ (by decide)) (.refl _)
    have behaviorTells : Tells keep (pack config.behavior).readBack [] :=
      ⟨_, [], readBack_record _, by simp, .refl _⟩
    have tells : config.Tells keep (Item.readBackEntries (entriesOf channels)) := by
      refine ⟨[], _, [], brokerTells, channelsTell, behaviorTells, _, entriesOf [skipped], rfl, ?_, .swap _ _ _⟩
      exact List.forall_mem_singleton.2 ⟨_, rfl, by decide⟩
    exact ((reads_named_fields []).1 (Item.written_encode channelsFit)).2.2.1.1 _ _ tells
  · obtain ⟨⟨-, reading⟩, ⟨-, overrides⟩, ⟨-, config⟩, ⟨-, options⟩, ⟨-, channels⟩, ⟨-, behavior⟩⟩ :=
      (reads_named_fields []).1 (Item.written_encode doubledFits)
    exact ⟨reading (twice _ (by decide)), overrides (twice _ (by decide)), config (.inl (twice _ (by decide))),
      options (twice _ (by decide)), channels (twice _ (by decide)), behavior (twice _ (by decide))⟩
  · have twice : Twice BrokerOptions.fieldNames
        [(.ofString "host", .ofString "h"), (.binary (Bytes.ofString "host"), .nil)] :=
      ⟨1, _, _, [], isKey_ofString rfl, .name (show _ = some "host" from rfl) rfl, .refl _⟩
    have spoilt : Config.Twice [(.ofString "broker", hosts)] :=
      .inr ⟨_, List.mem_cons_self, _, List.mem_cons_self, twice⟩
    exact ((reads_named_fields []).1 (Item.written_encode brokerFits)).2.2.1.2 spoilt
  · have order : move.Perm [("x", .signed (-1)), ("y", .signed 2), skipped] :=
      List.reverse_perm [("x", Item.signed (-1)), ("y", Item.signed 2), skipped]
    have tells : Tells (fun _ ↦ true) (Command.coordinates (-1) 2).readBack _ :=
      tells_readBack_of_perm (unknown _ (by decide)) order
    exact ((reads_named_fields []).2 (Item.written_encode moveFits)).1 _ _ _ tells
  · exact ((reads_named_fields []).2 (Item.written_encode movesFit)).2 (twice _ (by decide))

end PubSub
