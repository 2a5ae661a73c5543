import PubSub.Config.Document
import PubSub.Proofs.Toml.Tables
/-!
# Reading a configuration from a table

A configuration has fields, and each belongs to a part that is a table of the file. What reading a table gives depends
on what the table lists under the keys of the fields, in whatever order and among whatever other keys. A single field
that does not fit is enough to refuse the table.
-/

namespace PubSub

open Toml

namespace Config

/-- The parts of a configuration, each a table of the file. -/
inductive Part where
  | broker
  | channels
  | behavior
  deriving DecidableEq

/-- The fields of a configuration. -/
inductive Field where
  | protocol
  | host
  | port
  | path
  | username
  | password
  | qos
  | retain
  | autoConnect
  deriving DecidableEq

/-- The key of a part. -/
def Part.key : Part → String
  | broker => "broker"
  | channels => "channels"
  | behavior => "behavior"

namespace Field

/-- The part that a field belongs to. -/
def part : Field → Part
  | protocol | host | port | path | username | password => .broker
  | qos | retain => .channels
  | autoConnect => .behavior

/-- The key of a field within its part. -/
def key : Field → String
  | protocol => "protocol"
  | host => "host"
  | port => "port"
  | path => "path"
  | username => "username"
  | password => "password"
  | qos => "qos"
  | retain => "retain"
  | autoConnect => "auto_connect"

/-- What a field holds. -/
abbrev Data : Field → Type
  | protocol | host | path | username | password => String
  | port => UInt16
  | qos => QoS
  | retain | autoConnect => Bool

/-- What a value sets a field to. -/
def read : (field : Field) → Value → Setting field.Data
  | protocol | host | path | username | password => Setting.text
  | port => Setting.port
  | qos => Setting.quality
  | retain | autoConnect => Setting.flag

end Field

/-- What a configuration holds in a field. -/
def content (config : Config) : (field : Field) → field.Data
  | .protocol => config.broker.protocol
  | .host => config.broker.host
  | .port => config.broker.port
  | .path => config.broker.path
  | .username => config.broker.username
  | .password => config.broker.password
  | .qos => config.channels.qos
  | .retain => config.channels.retain
  | .autoConnect => config.behavior.autoConnect

theorem Part.eq_of_key_eq {part other : Part} (h : part.key = other.key) : part = other := by
  cases part <;> cases other <;> first | rfl | exact absurd h (by decide)

theorem Field.eq_of_key_eq {field other : Field} (h : field.key = other.key) : field = other := by
  cases field <;> cases other <;> first | rfl | exact absurd h (by decide)

/-- What a table lists for a field. -/
def Field.told (field : Field) (table : Table) : List Value :=
  table.inside field.part.key field.key

end Config

/-! ## Reading one entry after the other -/

/-- Whether values that stand under one name, read one after the other, make a field what it is in the end. -/
def Settles {α : Type} (read : Value → Setting α) (values : List Value) (before after : α) : Prop :=
  values.foldlM (fun _ value ↦ read value) before = .ok after

namespace Settles

variable {α : Type} {read : Value → Setting α} {value : Value} {values : List Value} {before after : α}

theorem nil : Settles read [] before before :=
  rfl

theorem singleton (h : read value = .ok after) : Settles read [value] before after := by
  rw [Settles, List.foldlM_cons, h]
  rfl

theorem eq_of_nil (h : Settles read [] before after) : before = after :=
  Except.ok.inj h

theorem of_cons (h : Settles read (value :: values) before after) :
    ∃ next, read value = .ok next ∧ Settles read values next after := by
  rw [Settles, List.foldlM_cons] at h
  cases first : read value with
  | error fault =>
    rw [first] at h
    cases h
  | ok next =>
    rw [first] at h
    exact ⟨next, rfl, h⟩

end Settles

/-- Whether entries fill slots: an entry with the key of a slot is read into this slot and no other one, an entry with
another key is passed over, and the slots are all that there is. -/
structure Fills {ι σ : Type} {Data : ι → Type} (key : ι → String) (read : (slot : ι) → Value → Setting (Data slot))
    (content : (slot : ι) → σ → Data slot) (step : σ → String × Value → Setting σ) : Prop where
  apart : ∀ {slot other}, key slot = key other → slot = other
  determined : ∀ {state other}, (∀ slot, content slot state = content slot other) → state = other
  known : ∀ slot state, ∃ put : Data slot → σ,
    (∀ value, step state (key slot, value) = read slot value >>= fun filled ↦ pure (put filled)) ∧
      ∀ filled, content slot (put filled) = filled ∧
        ∀ other, other ≠ slot → content other (put filled) = content other state
  unknown : ∀ state {name value}, (∀ slot, key slot ≠ name) → step state (name, value) = pure state

namespace Fills

variable {ι σ : Type} {Data : ι → Type} {key : ι → String} {read : (slot : ι) → Value → Setting (Data slot)}
  {content : (slot : ι) → σ → Data slot} {step : σ → String × Value → Setting σ} {entries : Table} {state result : σ}

/-- A table that fits each slot fills them all. -/
theorem foldlM (fills : Fills key read content step)
    (settles : ∀ slot, Settles (read slot) (entries.under (key slot)) (content slot state) (content slot result)) :
    entries.foldlM step state = .ok result := by
  induction entries generalizing state with
  | nil => exact congrArg Except.ok (fills.determined fun slot ↦ (settles slot).eq_of_nil)
  | cons entry entries ih =>
    obtain ⟨name, value⟩ := entry
    simp only [Table.under_cons] at settles
    rw [List.foldlM_cons]
    by_cases known : ∃ slot, key slot = name
    · obtain ⟨slot, rfl⟩ := known
      have here := settles slot
      rw [if_pos rfl] at here
      obtain ⟨filled, reads, here⟩ := here.of_cons
      obtain ⟨put, steps, puts⟩ := fills.known slot state
      obtain ⟨holds, others⟩ := puts filled
      rw [steps, reads]
      refine ih fun other ↦ ?_
      by_cases same : other = slot
      · subst same
        rwa [holds]
      · have there := settles other
        rwa [if_neg fun equal ↦ same (fills.apart equal).symm, ← others other same] at there
    · have absent (slot : ι) : key slot ≠ name := fun equal ↦ known ⟨slot, equal⟩
      rw [fills.unknown state absent]
      refine ih fun slot ↦ ?_
      have there := settles slot
      rwa [if_neg (absent slot).symm] at there

/-- One value that does not fit its slot is enough to refuse a table. -/
theorem exists_foldlM_eq_error (fills : Fills key read content step) (slot : ι) {value : Value} {fault : ConfigFault}
    (among : value ∈ entries.under (key slot)) (refused : read slot value = .error fault) (state : σ) :
    ∃ fault, entries.foldlM step state = .error fault := by
  induction entries generalizing state with
  | nil => cases among
  | cons entry entries ih =>
    obtain ⟨name, first⟩ := entry
    rw [Table.under_cons] at among
    rw [List.foldlM_cons]
    cases taken : step state (name, first) with
    | error fault => exact ⟨fault, rfl⟩
    | ok next =>
      split at among
      · rename_i same
        subst same
        rcases List.mem_cons.1 among with rfl | among
        · obtain ⟨put, steps, -⟩ := fills.known slot state
          rw [steps, refused] at taken
          cases taken
        · exact ih among next
      · exact ih among next

end Fills

namespace Config

/-! ## The parts and their fields -/

/-- What a part holds. -/
abbrev Part.Data : Part → Type
  | broker => BrokerOptions
  | channels => ChannelDefaults
  | behavior => Behavior

/-- What a value sets a part to. -/
def Part.read : (part : Part) → Value → Setting part.Data
  | broker => BrokerOptions.ofValue
  | channels => ChannelDefaults.ofValue
  | behavior => Behavior.ofValue

/-- A part with one entry of its table read. -/
def Part.withEntry : (part : Part) → part.Data → String × Value → Setting part.Data
  | broker => BrokerOptions.withEntry
  | channels => ChannelDefaults.withEntry
  | behavior => Behavior.withEntry

/-- What a configuration holds in a part. -/
def partContent (config : Config) : (part : Part) → part.Data
  | .broker => config.broker
  | .channels => config.channels
  | .behavior => config.behavior

/-- The configuration with one part given and the others at their defaults. -/
def Part.config : (part : Part) → part.Data → Config
  | broker, options => { standard with broker := options }
  | channels, defaults => { standard with channels := defaults }
  | behavior, switches => { standard with behavior := switches }

theorem fills_parts : Fills Part.key Part.read (fun part config ↦ partContent config part) withEntry where
  apart := Part.eq_of_key_eq
  determined {config other} same := by
    rw [Config.mk.injEq]
    exact ⟨same .broker, same .channels, same .behavior⟩
  known part config := by
    cases part
    all_goals
      refine ⟨_, fun value ↦ rfl, fun filled ↦ ⟨rfl, ?_⟩⟩
      rintro (_ | _ | _) other <;> first | rfl | exact absurd rfl other
  unknown config name value absent := by
    have broker : name ≠ "broker" := (absent .broker).symm
    have channels : name ≠ "channels" := (absent .channels).symm
    have behavior : name ≠ "behavior" := (absent .behavior).symm
    simp [withEntry, broker, channels, behavior]

/-- The fields of a part. -/
abbrev Part.Member (part : Part) : Type :=
  { field : Field // field.part = part }

theorem fills_fields (part : Part) : Fills (fun member : part.Member ↦ member.1.key) (fun member ↦ member.1.read)
    (fun member data ↦ (part.config data).content member.1) part.withEntry where
  apart same := Subtype.ext (Field.eq_of_key_eq same)
  determined {state other} same := by
    cases part with
    | broker =>
      rw [BrokerOptions.mk.injEq]
      exact ⟨same ⟨.protocol, rfl⟩, same ⟨.host, rfl⟩, same ⟨.port, rfl⟩, same ⟨.path, rfl⟩, same ⟨.username, rfl⟩,
        same ⟨.password, rfl⟩⟩
    | channels =>
      rw [ChannelDefaults.mk.injEq]
      exact ⟨same ⟨.qos, rfl⟩, same ⟨.retain, rfl⟩⟩
    | behavior =>
      rw [Behavior.mk.injEq]
      exact same ⟨.autoConnect, rfl⟩
  known member state := by
    obtain ⟨field, rfl⟩ := member
    cases field
    all_goals
      refine ⟨_, fun value ↦ rfl, fun filled ↦ ⟨rfl, ?_⟩⟩
      rintro ⟨_ | _ | _ | _ | _ | _ | _ | _ | _, belongs⟩ other <;> first | rfl | exact absurd rfl other
  unknown state name value absent := by
    have other (field : Field) (belongs : field.part = part) : name ≠ field.key := (absent ⟨field, belongs⟩).symm
    cases part with
    | broker =>
      have protocol : name ≠ "protocol" := other .protocol rfl
      have host : name ≠ "host" := other .host rfl
      have port : name ≠ "port" := other .port rfl
      have path : name ≠ "path" := other .path rfl
      have username : name ≠ "username" := other .username rfl
      have password : name ≠ "password" := other .password rfl
      simp [Part.withEntry, BrokerOptions.withEntry, protocol, host, port, path, username, password]
    | channels =>
      have qos : name ≠ "qos" := other .qos rfl
      have retain : name ≠ "retain" := other .retain rfl
      simp [Part.withEntry, ChannelDefaults.withEntry, qos, retain]
    | behavior =>
      have autoConnect : name ≠ "auto_connect" := other .autoConnect rfl
      simp [Part.withEntry, Behavior.withEntry, autoConnect]

/-! ## Tables -/

/-- A part is missing in a table, or it is a table itself. -/
def IsTabular (part : Part) (table : Table) : Prop :=
  table.under part.key = [] ∨ ∃ origin entries, table.under part.key = [.table origin entries]

theorem content_partContent (config : Config) (field : Field) :
    (field.part.config (config.partContent field.part)).content field = config.content field := by
  cases field <;> rfl

theorem Part.read_table (part : Part) (origin : Origin) (entries : Table) :
    part.read (.table origin entries) = entries.foldlM part.withEntry (standard.partContent part) := by
  cases part <;> rfl

/-- What a table comes to depends on what it says of the fields. -/
theorem foldlM_withEntry_of_told {table : Table} {config : Config} (tabular : ∀ part, IsTabular part table)
    (settles : ∀ field : Field, Settles field.read (field.told table) (standard.content field) (config.content field)) :
    table.foldlM withEntry standard = .ok config := by
  refine fills_parts.foldlM fun part ↦ ?_
  have reads (entries : Table) (lists : ∀ field : Field, field.part = part → field.told table = entries.under field.key) :
      entries.foldlM part.withEntry (standard.partContent part) = .ok (config.partContent part) := by
    refine (fills_fields part).foldlM ?_
    rintro ⟨field, rfl⟩
    rw [content_partContent, content_partContent, ← lists field rfl]
    exact settles field
  rcases tabular part with none | ⟨origin, entries, found⟩
  · rw [none]
    refine congrArg Except.ok (Except.ok.inj (reads [] fun field belongs ↦ ?_))
    rw [Field.told, belongs, Table.inside, none, Table.under_nil]
  · rw [found]
    refine .singleton ((part.read_table origin entries).trans (reads entries fun field belongs ↦ ?_))
    rw [Field.told, belongs, Table.inside_of_under found]

/-- A single value that does not fit its field is enough to refuse a table. -/
theorem exists_foldlM_withEntry_eq_error {table : Table} {field : Field} {value : Value} {fault : ConfigFault}
    (tells : field.told table = [value]) (refused : field.read value = .error fault) :
    ∃ fault, table.foldlM withEntry standard = .error fault := by
  obtain ⟨origin, entries, found⟩ := Table.exists_of_inside_ne_nil fun none ↦ nomatch tells.symm.trans none
  rw [Field.told, Table.inside_of_under found] at tells
  obtain ⟨fault, spoilt⟩ := (fills_fields field.part).exists_foldlM_eq_error ⟨field, rfl⟩
    (tells ▸ List.mem_cons_self) refused (standard.partContent field.part)
  have unread := (field.part.read_table origin entries).trans spoilt
  exact fills_parts.exists_foldlM_eq_error field.part (found ▸ List.mem_cons_self) unread standard

theorem read_port_of_not {n : Int} (outside : ¬(0 ≤ n ∧ n ≤ 65535)) :
    ∃ fault, Field.port.read (.integer n) = .error fault := by
  have failed : Setting.natural 65535 (.integer n) = .error .malformed := if_neg outside
  refine ⟨.malformed, ?_⟩
  rw [Field.read, Setting.port, failed]
  rfl

theorem read_qos_of_not {n : Int} (outside : ¬(0 ≤ n ∧ n ≤ 2)) :
    ∃ fault, Field.qos.read (.integer n) = .error fault := by
  by_cases byte : 0 ≤ n ∧ n ≤ (255 : Nat)
  · have read : Setting.natural 255 (.integer n) = .ok n.toNat := if_pos byte
    have unknown : QoS.ofLevel? n.toNat = none := by
      cases known : QoS.ofLevel? n.toNat with
      | none => rfl
      | some quality =>
        have level : n.toNat = quality.level.toNat := QoS.ofLevel?_eq_some_iff.1 known
        have small : quality.level.toNat ≤ 2 := by cases quality <;> decide
        omega
    refine ⟨.invalidQoS n.toNat, ?_⟩
    simp only [Field.read, Setting.quality, read, bind, Except.bind, QoS.checked, unknown]
    rfl
  · have failed : Setting.natural 255 (.integer n) = .error .malformed := if_neg byte
    refine ⟨.malformed, ?_⟩
    rw [Field.read, Setting.quality, failed]
    rfl

end Config

end PubSub
