import PubSub.Proofs.Payload.Fields
/-!
# Payloads are read back

What is written of a payload is read as the payload again, by whoever expects the kind. This holds of every kind whose
shape is fixed beforehand and whose values do not refuse to be written.
-/

namespace PubSub

open MessagePack

namespace MessagePack

variable {fields : List (String × Item)} {depth : Nat}

theorem fits_ofString {text : String} (short : text.utf8ByteSize < UInt32.size) : (Item.ofString text).Fits depth := by
  rw [← length_ofString] at short
  exact short

theorem fits_record (few : fields.length < UInt32.size)
    (fits : ∀ field ∈ fields, field.1.utf8ByteSize < UInt32.size ∧ field.2.Fits depth) :
    (record fields).Fits (depth + 1) := by
  refine ⟨by simpa using few, Nat.succ_pos depth, ?_⟩
  rw [Nat.add_sub_cancel]
  clear few
  induction fields with
  | nil => trivial
  | cons field rest ih =>
    rw [List.forall_mem_cons] at fits
    refine ⟨⟨?_, fits.1.2⟩, ih fits.2⟩
    exact fits_ofString fits.1.1

/-- Whether the value is read back from its item, which can be written with at most `depth` containers open at once. -/
structure Returns {α : Type} [Packable α] (depth : Nat) (value : α) : Prop where
  fits : (pack value).Fits depth
  unpack : unpack? (pack value).readBack = some value

namespace Returns

/-! ## Values -/

section Values

variable {α : Type} [Packable α]

theorem bool (value : Bool) : Returns depth value :=
  ⟨trivial, unpack?_bool value⟩

theorem string {text : String} (short : text.utf8ByteSize < UInt32.size) : Returns depth text :=
  ⟨fits_ofString short, unpack?_string text⟩

theorem float (value : Binary64) : Returns depth value :=
  ⟨trivial, unpack?_float value⟩

theorem uint16 (value : UInt16) : Returns depth value :=
  ⟨trivial, unpack?_uint16 value⟩

theorem uint32 (value : UInt32) : Returns depth value :=
  ⟨trivial, unpack?_uint32 value⟩

theorem int64 (value : Int64) : Returns depth value :=
  ⟨trivial, unpack?_int64 value⟩

theorem int32 (value : Int32) : Returns depth value :=
  ⟨trivial, unpack?_int32 value⟩

theorem qos (value : QoS) : Returns depth value :=
  ⟨trivial, unpack?_qos value⟩

theorem option {value : Option α} (solid : unpack? Item.nil = (none : Option α))
    (held : ∀ held, value = some held → Returns depth held) : Returns depth value where
  fits := by
    cases value with
    | none => trivial
    | some inner => exact (held inner rfl).fits
  unpack := unpack?_option solid fun inner same ↦ (held inner same).unpack

theorem list {values : List α} (few : values.length < UInt32.size) (each : ∀ value ∈ values, Returns depth value) :
    Returns (depth + 1) values := by
  have fits (values : List α) (each : ∀ value ∈ values, Returns depth value) :
      Item.FitAll depth (values.map pack) := by
    induction values with
    | nil => trivial
    | cons value rest ih =>
      rw [List.forall_mem_cons] at each
      exact ⟨each.1.fits, ih each.2⟩
  have read (values : List α) (each : ∀ value ∈ values, Returns depth value) :
      (Item.readBackItems (values.map pack)).mapM unpack? = some values := by
    induction values with
    | nil => rfl
    | cons value rest ih =>
      rw [List.forall_mem_cons] at each
      simp [Item.readBackItems, each.1.unpack, ih each.2]
  exact ⟨⟨by simpa using few, Nat.succ_pos depth, fits values each⟩, read values each⟩

end Values

end Returns

end MessagePack

/-! ## Structures -/

/-- The texts in broker options. -/
def BrokerOptions.texts (options : BrokerOptions) : List String :=
  [options.protocol, options.host, options.path, options.username, options.password]

/-- The texts in broker overrides, as far as they are given. -/
def BrokerOverrides.texts (overrides : BrokerOverrides) : List (Option String) :=
  [overrides.protocol, overrides.host, overrides.path, overrides.username, overrides.password]

namespace MessagePack.Returns

variable {depth : Nat}

/-- A record is read back if it is read from a map that tells all its fields. -/
theorem unpack?_of_all {α : Type} [Packable α] {fields : List (String × Item)} {value : α}
    (reads : ∀ entries, Tells (fun _ ↦ true) (record fields).readBack entries → unpack? (.map entries) = some value) :
    unpack? (record fields).readBack = some value := by
  obtain ⟨entries, same, tells⟩ := exists_tells_readBack fields
  rw [same]
  exact reads entries tells

theorem reading {reading : Reading} (short : reading.sensor.utf8ByteSize < UInt32.size) :
    Returns (depth + 1) reading := by
  have sensor : Returns depth reading.sensor := string short
  have value : Returns depth reading.value := float reading.value
  refine ⟨fits_record (show 2 < UInt32.size by decide) ?_, unpack?_of_all fun _ tells ↦ Reading.unpack?_of_tells tells⟩
  simp only [List.forall_mem_cons]
  exact ⟨⟨by decide, sensor.fits⟩, ⟨by decide, value.fits⟩, by simp⟩

theorem command (command : Command) : Returns (depth + 2) command := by
  cases command with
  | start => exact ⟨fits_ofString (by decide), rfl⟩
  | stop => exact ⟨fits_ofString (by decide), rfl⟩
  | move x y =>
    have left : Returns depth x := int32 x
    have right : Returns depth y := int32 y
    refine ⟨fits_record (show 1 < UInt32.size by decide) ?_, ?_⟩
    · simp only [List.forall_mem_singleton]
      refine ⟨by decide, fits_record (show 2 < UInt32.size by decide) ?_⟩
      simp only [List.forall_mem_cons]
      exact ⟨⟨by decide, left.fits⟩, ⟨by decide, right.fits⟩, by simp⟩
    · obtain ⟨entries, same, tells⟩ := exists_tells_readBack [("x", pack x), ("y", pack y)]
      refine (Command.unpack?_move _).trans ?_
      rw [same]
      exact Command.move?_of_tells tells

/-- Broker options are read back with whatever defaults the reader has. -/
theorem brokerOptions {options : BrokerOptions} (short : ∀ text ∈ options.texts, text.utf8ByteSize < UInt32.size) :
    Returns (depth + 1) options := by
  simp only [BrokerOptions.texts, List.forall_mem_cons] at short
  obtain ⟨protocol, host, path, username, password, -⟩ := short
  have protocol : Returns depth options.protocol := string protocol
  have host : Returns depth options.host := string host
  have port : Returns depth options.port := uint16 options.port
  have path : Returns depth options.path := string path
  have username : Returns depth options.username := string username
  have password : Returns depth options.password := string password
  refine ⟨fits_record (show 6 < UInt32.size by decide) ?_,
    unpack?_of_all fun _ tells ↦ BrokerOptions.unpack?_of_tells tells⟩
  simp only [List.forall_mem_cons]
  exact ⟨⟨by decide, protocol.fits⟩, ⟨by decide, host.fits⟩, ⟨by decide, port.fits⟩, ⟨by decide, path.fits⟩,
    ⟨by decide, username.fits⟩, ⟨by decide, password.fits⟩, by simp⟩

/-- An override that is not given stands as nil, and is not given when it is read. -/
theorem brokerOverrides {overrides : BrokerOverrides}
    (short : ∀ given ∈ overrides.texts, ∀ text, given = some text → text.utf8ByteSize < UInt32.size) :
    Returns (depth + 1) overrides := by
  have text {given : Option String} (short : ∀ text, given = some text → text.utf8ByteSize < UInt32.size) :
      Returns depth given :=
    option rfl fun held same ↦ string (short held same)
  simp only [BrokerOverrides.texts, List.forall_mem_cons] at short
  obtain ⟨protocol, host, path, username, password, -⟩ := short
  have protocol : Returns depth overrides.protocol := text protocol
  have host : Returns depth overrides.host := text host
  have port : Returns depth overrides.port := option rfl fun held _ ↦ uint16 held
  have path : Returns depth overrides.path := text path
  have username : Returns depth overrides.username := text username
  have password : Returns depth overrides.password := text password
  refine ⟨fits_record (show 6 < UInt32.size by decide) ?_,
    unpack?_of_all fun _ tells ↦ BrokerOverrides.unpack?_of_tells tells⟩
  simp only [List.forall_mem_cons]
  exact ⟨⟨by decide, protocol.fits⟩, ⟨by decide, host.fits⟩, ⟨by decide, port.fits⟩, ⟨by decide, path.fits⟩,
    ⟨by decide, username.fits⟩, ⟨by decide, password.fits⟩, by simp⟩

theorem channelDefaults (defaults : ChannelDefaults) : Returns (depth + 1) defaults := by
  have quality : Returns depth defaults.qos := qos defaults.qos
  have retain : Returns depth defaults.retain := bool defaults.retain
  refine ⟨fits_record (show 2 < UInt32.size by decide) ?_,
    unpack?_of_all fun _ tells ↦ ChannelDefaults.unpack?_of_tells tells⟩
  simp only [List.forall_mem_cons]
  exact ⟨⟨by decide, quality.fits⟩, ⟨by decide, retain.fits⟩, by simp⟩

theorem behavior (behavior : Behavior) : Returns (depth + 1) behavior := by
  have autoConnect : Returns depth behavior.autoConnect := bool behavior.autoConnect
  refine ⟨fits_record (show 1 < UInt32.size by decide) ?_,
    unpack?_of_all fun _ tells ↦ Behavior.unpack?_of_tells tells⟩
  simp only [List.forall_mem_singleton]
  exact ⟨by decide, autoConnect.fits⟩

theorem config {config : Config} (short : ∀ text ∈ config.broker.texts, text.utf8ByteSize < UInt32.size) :
    Returns (depth + 2) config := by
  have broker : Returns (depth + 1) config.broker := brokerOptions short
  have channels : Returns (depth + 1) config.channels := channelDefaults config.channels
  have conduct : Returns (depth + 1) config.behavior := behavior config.behavior
  refine ⟨fits_record (show 3 < UInt32.size by decide) ?_, ?_⟩
  · simp only [List.forall_mem_cons]
    exact ⟨⟨by decide, broker.fits⟩, ⟨by decide, channels.fits⟩, ⟨by decide, conduct.fits⟩, by simp⟩
  · obtain ⟨entries, same, tells⟩ := config.exists_tells
    rw [same]
    exact Config.unpack?_of_tells tells

end MessagePack.Returns

/-! ## Kinds -/

namespace PayloadKind

/-- Whether the shape of the values is fixed beforehand, and they do not refuse to be written. -/
def isFixed : PayloadKind → Bool
  | dynamic | unencodable => false
  | _ => true

/-- Whether every text and every sequence in a value is short enough for its length to be written. -/
def IsShort : (kind : PayloadKind) → kind.Value → Prop
  | note, value | string, value => value.utf8ByteSize < UInt32.size
  | reading, value => value.sensor.utf8ByteSize < UInt32.size
  | list, value => value.length < UInt32.size
  | config, value => ∀ text ∈ value.broker.texts, text.utf8ByteSize < UInt32.size
  | overrides, value => ∀ given ∈ value.texts, ∀ text, given = some text → text.utf8ByteSize < UInt32.size
  | _, _ => True

theorem returns {kind : PayloadKind} {value : kind.Value} (fixed : kind.isFixed) (short : kind.IsShort value) :
    Returns Item.maxDepth value := by
  cases kind with
  | note => exact .string short
  | string => exact .string short
  | reading => exact .reading short
  | command => exact .command value
  | u32 => exact .uint32 value
  | i64 => exact .int64 value
  | bool => exact .bool value
  | f64 => exact .float value
  | maybe => exact .option rfl fun held _ ↦ .uint32 held
  | list => exact .list short fun value _ ↦ .int64 value
  | qos => exact .qos value
  | config => exact .config short
  | overrides => exact .brokerOverrides short
  | dynamic => cases fixed
  | unencodable => cases fixed

end PayloadKind

end PubSub
