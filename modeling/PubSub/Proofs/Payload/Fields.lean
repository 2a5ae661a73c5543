import PubSub.Payload.Kind
import PubSub.Proofs.MessagePack.Record
/-!
# Reading payloads field by field

A value is read from the item that was written for it. A record is read from any map that tells its fields: where some
are left out, the fields of configurations and of overrides have their defaults, and what requires its fields is not
read. None is read from a map that has a field twice.
-/

namespace PubSub

open MessagePack

namespace MessagePack

/-- What reads on from a value goes on with the value that was found. -/
theorem bind_of_eq_some {α β : Type} {found : Option α} {value : α} (h : found = some value) (next : α → Option β) :
    (found >>= next) = next value := by
  rw [h]
  rfl

/-- What reads on from a value that was not found finds nothing. -/
theorem bind_of_eq_none {α β : Type} {found : Option α} (h : found = none) (next : α → Option β) :
    (found >>= next) = none := by
  rw [h]
  rfl

/-! ## Values -/

theorem integerIn?_eq {item : Item} {low high n : Int} (h : item.integer? = some n) (le : low ≤ n) (ge : n ≤ high) :
    item.integerIn? low high = some n := by
  simp [Item.integerIn?, h, le, ge]

theorem integer?_unsigned (value : UInt64) : (Item.unsigned value).readBack.integer? = some (value.toNat : Int) :=
  rfl

theorem integer?_signed (value : Int64) : (Item.signed value).readBack.integer? = some value.toInt := by
  have high := value.toInt_lt
  simp only [Item.readBack]
  split
  · have small : value.toInt.toNat < UInt64.size := by
      rw [UInt64.size]
      omega
    simp only [Item.integer?, UInt64.toNat_ofNat_of_lt' small, Option.some.injEq]
    omega
  · rfl

theorem unpack?_bool (value : Bool) : unpack? (pack value).readBack = some value :=
  rfl

theorem unpack?_string (text : String) : unpack? (pack text).readBack = some text :=
  Bytes.toString?_ofString text

theorem unpack?_float (value : Binary64) : unpack? (pack value).readBack = some value :=
  rfl

theorem unpack?_uint16 (value : UInt16) : unpack? (pack value).readBack = some value := by
  have high := value.toNat_lt
  have read : (pack value).readBack.integer? = some (value.toNat : Int) := by
    rw [← UInt16.toNat_toUInt64]
    exact integer?_unsigned value.toUInt64
  have within := integerIn?_eq read (Int.natCast_nonneg _) (show _ ≤ (0xffff : Int) by omega)
  simp only [unpack?, within, Option.map_some, Int.toNat_natCast, UInt16.ofNat_toNat]

theorem unpack?_uint32 (value : UInt32) : unpack? (pack value).readBack = some value := by
  have high := value.toNat_lt
  have read : (pack value).readBack.integer? = some (value.toNat : Int) := by
    rw [← UInt32.toNat_toUInt64]
    exact integer?_unsigned value.toUInt64
  have within := integerIn?_eq read (Int.natCast_nonneg _) (show _ ≤ (0xffffffff : Int) by omega)
  simp only [unpack?, within, Option.map_some, Int.toNat_natCast, UInt32.ofNat_toNat]

theorem unpack?_int64 (value : Int64) : unpack? (pack value).readBack = some value := by
  have read : (pack value).readBack.integer? = some value.toInt := integer?_signed value
  have within := integerIn?_eq read value.minValue_le_toInt value.toInt_le
  simp only [unpack?, within, Option.map_some, Int64.ofInt_toInt]

theorem unpack?_int32 (value : Int32) : unpack? (pack value).readBack = some value := by
  have read : (pack value).readBack.integer? = some value.toInt := by
    rw [← Int32.toInt_toInt64]
    exact integer?_signed value.toInt64
  have within := integerIn?_eq read value.minValue_le_toInt value.toInt_le
  simp only [unpack?, within, Option.map_some, Int32.ofInt_toInt]

theorem unpack?_qos (value : QoS) : unpack? (pack value).readBack = some value := by
  cases value <;> rfl

/-- An optional value is read back if no value of the type stands as nil. -/
theorem unpack?_option {α : Type} [Packable α] (solid : unpack? Item.nil = (none : Option α)) {value : Option α}
    (held : ∀ held, value = some held → unpack? (pack held).readBack = some held) :
    unpack? (pack value).readBack = some value := by
  cases value with
  | none => rfl
  | some inner =>
    have read := held inner rfl
    change unpack? (pack inner).readBack = _
    cases h : (pack inner).readBack with
    | nil =>
      rw [h, solid] at read
      cases read
    | _ =>
      rw [h] at read
      exact congrArg (Option.map some) read

/-! ## Fields -/

section Fields

variable {α : Type} [Packable α] {item : Item} {value : α} {keep : String → Bool} {name : String}

theorem required?_kept (reads : unpack? item = some value) :
    required? (kept keep (name, item)) = if keep name then some value else none := by
  unfold kept
  split
  · exact reads
  · rfl

theorem defaulted?_kept (reads : unpack? item = some value) (default : α) :
    defaulted? default (kept keep (name, item)) = some (if keep name then value else default) := by
  unfold kept
  split
  · exact reads
  · rfl

/-- Two fields that must be given make a value if both are kept. -/
theorem required?_both {β γ : Type} [Packable β] {other : Item} {second : β} {otherName : String}
    (reads : unpack? item = some value) (readsOther : unpack? other = some second) (make : α → β → γ) :
    ((required? (kept keep (name, item)) : Option α) >>= fun value ↦
      required? (kept keep (otherName, other)) >>= fun second ↦ pure (make value second)) =
      if keep name && keep otherName then some (make value second) else none := by
  rw [required?_kept reads, required?_kept readsOther]
  cases keep name <;> cases keep otherName <;> rfl

end Fields

end MessagePack

variable {keep : String → Bool} {entries : List (Item × Item)}

/-! ## Sections of a configuration -/

namespace BrokerOptions

/-- The options with the defaults for all fields that are not kept. -/
def keeping (keep : String → Bool) (options : BrokerOptions) : BrokerOptions where
  protocol := if keep "protocol" then options.protocol else tcp.protocol
  host := if keep "host" then options.host else tcp.host
  port := if keep "port" then options.port else tcp.port
  path := if keep "path" then options.path else tcp.path
  username := if keep "username" then options.username else tcp.username
  password := if keep "password" then options.password else tcp.password

theorem nodup_fieldNames : fieldNames.Nodup := by
  decide

theorem unpack?_of_tells {options : BrokerOptions} (tells : Tells keep (pack options).readBack entries) :
    unpack? (.map entries) = some (options.keeping keep) := by
  refine (bind_of_eq_some (fields?_of_tells_readBack tells nodup_fieldNames) _).trans ?_
  refine (bind_of_eq_some (defaulted?_kept (unpack?_string options.protocol) _) _).trans ?_
  refine (bind_of_eq_some (defaulted?_kept (unpack?_string options.host) _) _).trans ?_
  refine (bind_of_eq_some (defaulted?_kept (unpack?_uint16 options.port) _) _).trans ?_
  refine (bind_of_eq_some (defaulted?_kept (unpack?_string options.path) _) _).trans ?_
  refine (bind_of_eq_some (defaulted?_kept (unpack?_string options.username) _) _).trans ?_
  exact bind_of_eq_some (defaulted?_kept (unpack?_string options.password) _) _

theorem unpack?_of_twice (twice : Twice fieldNames entries) : unpack? (.map entries) = (none : Option BrokerOptions) :=
  bind_of_eq_none (fieldsOfMap?_of_twice nodup_fieldNames twice) _

end BrokerOptions

namespace ChannelDefaults

/-- The section with the defaults for all fields that are not kept. -/
def keeping (keep : String → Bool) (defaults : ChannelDefaults) : ChannelDefaults where
  qos := if keep "qos" then defaults.qos else standard.qos
  retain := if keep "retain" then defaults.retain else standard.retain

theorem nodup_fieldNames : fieldNames.Nodup := by
  decide

theorem unpack?_of_tells {defaults : ChannelDefaults} (tells : Tells keep (pack defaults).readBack entries) :
    unpack? (.map entries) = some (defaults.keeping keep) := by
  refine (bind_of_eq_some (fields?_of_tells_readBack tells nodup_fieldNames) _).trans ?_
  refine (bind_of_eq_some (defaulted?_kept (unpack?_qos defaults.qos) _) _).trans ?_
  exact bind_of_eq_some (defaulted?_kept (unpack?_bool defaults.retain) _) _

theorem unpack?_of_twice (twice : Twice fieldNames entries) :
    unpack? (.map entries) = (none : Option ChannelDefaults) :=
  bind_of_eq_none (fieldsOfMap?_of_twice nodup_fieldNames twice) _

end ChannelDefaults

namespace Behavior

/-- The section with the defaults for all fields that are not kept. -/
def keeping (keep : String → Bool) (behavior : Behavior) : Behavior where
  autoConnect := if keep "auto_connect" then behavior.autoConnect else standard.autoConnect

theorem nodup_fieldNames : fieldNames.Nodup := by
  decide

theorem unpack?_of_tells {behavior : Behavior} (tells : Tells keep (pack behavior).readBack entries) :
    unpack? (.map entries) = some (behavior.keeping keep) := by
  refine (bind_of_eq_some (fields?_of_tells_readBack tells nodup_fieldNames) _).trans ?_
  exact bind_of_eq_some (defaulted?_kept (unpack?_bool behavior.autoConnect) _) _

theorem unpack?_of_twice (twice : Twice fieldNames entries) : unpack? (.map entries) = (none : Option Behavior) :=
  bind_of_eq_none (fieldsOfMap?_of_twice nodup_fieldNames twice) _

end Behavior

/-! ## Configurations -/

namespace Config

/-- The configuration with the defaults for all sections that are not kept, and for all fields that are not kept in the
others. -/
def keeping (keep : String → Bool) (config : Config) : Config where
  broker := if keep "broker" then config.broker.keeping keep else standard.broker
  channels := if keep "channels" then config.channels.keeping keep else standard.channels
  behavior := if keep "behavior" then config.behavior.keeping keep else standard.behavior

/-- Whether a map has an entry for each section that is kept, in any order, and besides only entries under foreign keys,
and whether the map of each section tells the fields that are kept. -/
def Tells (keep : String → Bool) (config : Config) (entries : List (Item × Item)) : Prop :=
  ∃ broker channels behavior, MessagePack.Tells keep (pack config.broker).readBack broker ∧
    MessagePack.Tells keep (pack config.channels).readBack channels ∧
    MessagePack.Tells keep (pack config.behavior).readBack behavior ∧
    MessagePack.Tells keep
      (record [("broker", .map broker), ("channels", .map channels), ("behavior", .map behavior)]) entries

theorem nodup_fieldNames : fieldNames.Nodup := by
  decide

theorem unpack?_of_tells {config : Config} (tells : config.Tells keep entries) :
    unpack? (.map entries) = some (config.keeping keep) := by
  obtain ⟨broker, channels, behavior, brokerTells, channelsTell, behaviorTells, tells⟩ := tells
  refine (bind_of_eq_some (fields?_of_tells tells nodup_fieldNames) _).trans ?_
  refine (bind_of_eq_some (defaulted?_kept (BrokerOptions.unpack?_of_tells brokerTells) _) _).trans ?_
  refine (bind_of_eq_some (defaulted?_kept (ChannelDefaults.unpack?_of_tells channelsTell) _) _).trans ?_
  exact bind_of_eq_some (defaulted?_kept (Behavior.unpack?_of_tells behaviorTells) _) _

/-- A configuration that is read back has all its sections, with all their fields. -/
theorem exists_tells (config : Config) :
    ∃ entries, (pack config).readBack = .map entries ∧ config.Tells (fun _ ↦ true) entries := by
  have broker : ∃ entries, (pack config.broker).readBack = .map entries ∧
      MessagePack.Tells (fun _ ↦ true) (pack config.broker).readBack entries := exists_tells_readBack _
  have channels : ∃ entries, (pack config.channels).readBack = .map entries ∧
      MessagePack.Tells (fun _ ↦ true) (pack config.channels).readBack entries := exists_tells_readBack _
  have behavior : ∃ entries, (pack config.behavior).readBack = .map entries ∧
      MessagePack.Tells (fun _ ↦ true) (pack config.behavior).readBack entries := exists_tells_readBack _
  obtain ⟨broker, sameBroker, brokerTells⟩ := broker
  obtain ⟨channels, sameChannels, channelsTell⟩ := channels
  obtain ⟨behavior, sameBehavior, behaviorTells⟩ := behavior
  have whole : (pack config).readBack = record [("broker", (pack config.broker).readBack),
      ("channels", (pack config.channels).readBack), ("behavior", (pack config.behavior).readBack)] :=
    readBack_record _
  rw [sameBroker, sameChannels, sameBehavior] at whole
  exact ⟨_, whole, broker, channels, behavior, brokerTells, channelsTell, behaviorTells, tells_record _⟩

/-- The sections, and the names of their fields. -/
def sections : List (String × List String) := [
  ("broker", BrokerOptions.fieldNames), ("channels", ChannelDefaults.fieldNames), ("behavior", Behavior.fieldNames)]

/-- Whether a map has a section twice, or a section whose map has a field twice. -/
def Twice (entries : List (Item × Item)) : Prop :=
  MessagePack.Twice fieldNames entries ∨
    ∃ part ∈ sections, ∃ inner, (Item.ofString part.1, Item.map inner) ∈ entries ∧ MessagePack.Twice part.2 inner

theorem unpack?_of_twice (twice : Twice entries) : unpack? (.map entries) = (none : Option Config) := by
  rcases twice with twice | ⟨part, known, inner, among, twice⟩
  · exact bind_of_eq_none (fieldsOfMap?_of_twice nodup_fieldNames twice) _
  · cases reads : fieldsOfMap? fieldNames entries with
    | none => exact bind_of_eq_none reads _
    | some fields =>
      refine (bind_of_eq_some reads _).trans ?_
      obtain ⟨broker, channels, behavior, rfl⟩ := List.length_eq_three.1 (length_of_fieldsOfMap? reads)
      have told {index : Nat} (stands : fieldNames[index]? = some part.1) :
          [broker, channels, behavior][index]? = some (some (.map inner)) :=
        getElem?_of_fieldsOfMap? nodup_fieldNames (isKey_ofString stands) among reads
      simp only [sections, List.mem_cons, List.not_mem_nil, or_false] at known
      rcases known with rfl | rfl | rfl
      · obtain rfl : broker = some (.map inner) := Option.some.inj (told (show fieldNames[0]? = _ from rfl))
        exact bind_of_eq_none (BrokerOptions.unpack?_of_twice twice) _
      · obtain rfl : channels = some (.map inner) := Option.some.inj (told (show fieldNames[1]? = _ from rfl))
        exact Option.bind_eq_none_iff.2 fun _ _ ↦ bind_of_eq_none (ChannelDefaults.unpack?_of_twice twice) _
      · obtain rfl : behavior = some (.map inner) := Option.some.inj (told (show fieldNames[2]? = _ from rfl))
        exact Option.bind_eq_none_iff.2 fun _ _ ↦ Option.bind_eq_none_iff.2 fun _ _ ↦
          bind_of_eq_none (Behavior.unpack?_of_twice twice) _

end Config

/-! ## Overrides -/

namespace BrokerOverrides

/-- The overrides without those that are not kept. -/
def keeping (keep : String → Bool) (overrides : BrokerOverrides) : BrokerOverrides where
  protocol := if keep "protocol" then overrides.protocol else .none
  host := if keep "host" then overrides.host else .none
  port := if keep "port" then overrides.port else .none
  path := if keep "path" then overrides.path else .none
  username := if keep "username" then overrides.username else .none
  password := if keep "password" then overrides.password else .none

theorem unpack?_of_tells {overrides : BrokerOverrides} (tells : Tells keep (pack overrides).readBack entries) :
    unpack? (.map entries) = some (overrides.keeping keep) := by
  have text (given : Option String) : unpack? (pack given).readBack = some given :=
    unpack?_option rfl fun held _ ↦ unpack?_string held
  have port : unpack? (pack overrides.port).readBack = some overrides.port :=
    unpack?_option rfl fun held _ ↦ unpack?_uint16 held
  refine (bind_of_eq_some (fields?_of_tells_readBack tells BrokerOptions.nodup_fieldNames) _).trans ?_
  refine (bind_of_eq_some (defaulted?_kept (text overrides.protocol) _) _).trans ?_
  refine (bind_of_eq_some (defaulted?_kept (text overrides.host) _) _).trans ?_
  refine (bind_of_eq_some (defaulted?_kept port _) _).trans ?_
  refine (bind_of_eq_some (defaulted?_kept (text overrides.path) _) _).trans ?_
  refine (bind_of_eq_some (defaulted?_kept (text overrides.username) _) _).trans ?_
  exact bind_of_eq_some (defaulted?_kept (text overrides.password) _) _

theorem unpack?_of_twice (twice : Twice BrokerOptions.fieldNames entries) :
    unpack? (.map entries) = (.none : Option BrokerOverrides) :=
  bind_of_eq_none (fieldsOfMap?_of_twice BrokerOptions.nodup_fieldNames twice) _

end BrokerOverrides

/-! ## Messages -/

theorem Reading.unpack?_of_tells {reading : Reading} (tells : Tells keep (pack reading).readBack entries) :
    unpack? (.map entries) = if keep "sensor" && keep "value" then some reading else none := by
  have fields := fields?_of_tells_readBack tells (show ["sensor", "value"].Nodup by decide)
  refine (bind_of_eq_some fields _).trans ?_
  exact required?_both (unpack?_string reading.sensor) (unpack?_float reading.value) Reading.mk

theorem Reading.unpack?_of_twice (twice : Twice ["sensor", "value"] entries) :
    unpack? (.map entries) = (none : Option Reading) :=
  bind_of_eq_none (fieldsOfMap?_of_twice (by decide) twice) _

namespace Command

/-- The record of the coordinates of a move. -/
def coordinates (x y : Int32) : Item :=
  record [("x", pack x), ("y", pack y)]

theorem unpack?_move (content : Item) : unpack? (.map [(.ofString "Move", content)]) = move? content := by
  have key : FieldKey.of? caseNames (Item.ofString "Move") = some (.field 2) :=
    (isKey_ofString rfl).of?_eq (by decide)
  exact bind_of_eq_some key _

theorem move?_of_tells {x y : Int32} (tells : Tells keep (coordinates x y).readBack entries) :
    move? (.map entries) = if keep "x" && keep "y" then some (.move x y) else none := by
  have fields := fields?_of_tells_readBack tells (show ["x", "y"].Nodup by decide)
  refine (bind_of_eq_some fields _).trans ?_
  exact required?_both (unpack?_int32 x) (unpack?_int32 y) Command.move

theorem move?_of_twice (twice : Twice ["x", "y"] entries) : move? (.map entries) = none :=
  bind_of_eq_none (fieldsOfMap?_of_twice (by decide) twice) _

end Command

end PubSub
