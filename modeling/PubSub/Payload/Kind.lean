import PubSub.Config.Packed
import PubSub.Error
import PubSub.MessagePack.Reader
import PubSub.Payload.AnyValue
import PubSub.Payload.Message
/-!
# Payload kinds

A channel carries payloads of one kind. Two kinds are different even when their values are of one type and are written
alike, as a note and a string are, so a channel of notes is no channel of strings. Payloads are written as MessagePack
with named fields and read from the first item of a byte string.
-/

namespace PubSub

open MessagePack

/-- The kinds of payload that a channel can carry. -/
inductive PayloadKind where
  | note
  | string
  | reading
  | command
  | u32
  | i64
  | bool
  | f64
  | maybe
  | list
  | qos
  | config
  | overrides
  | dynamic
  /-- Values that refuse to be written, each for the reason that it holds. -/
  | unencodable
  deriving DecidableEq

namespace PayloadKind

abbrev Value : PayloadKind → Type
  | note => String
  | string => String
  | reading => Reading
  | command => Command
  | u32 => UInt32
  | i64 => Int64
  | bool => Bool
  | f64 => Binary64
  | maybe => Option UInt32
  | list => List Int64
  | qos => QoS
  | config => Config
  | overrides => BrokerOverrides
  | dynamic => AnyValue
  | unencodable => String

instance decidableEqValue : (kind : PayloadKind) → DecidableEq kind.Value
  | note | string | unencodable => inferInstanceAs (DecidableEq String)
  | reading => inferInstanceAs (DecidableEq Reading)
  | command => inferInstanceAs (DecidableEq Command)
  | u32 => inferInstanceAs (DecidableEq UInt32)
  | i64 => inferInstanceAs (DecidableEq Int64)
  | bool => inferInstanceAs (DecidableEq Bool)
  | f64 => inferInstanceAs (DecidableEq Binary64)
  | maybe => inferInstanceAs (DecidableEq (Option UInt32))
  | list => inferInstanceAs (DecidableEq (List Int64))
  | qos => inferInstanceAs (DecidableEq QoS)
  | config => inferInstanceAs (DecidableEq Config)
  | overrides => inferInstanceAs (DecidableEq BrokerOverrides)
  | dynamic => inferInstanceAs (DecidableEq AnyValue)

instance packing : (kind : PayloadKind) → Packable kind.Value
  | note | string | unencodable => inferInstanceAs (Packable String)
  | reading => inferInstanceAs (Packable Reading)
  | command => inferInstanceAs (Packable Command)
  | u32 => inferInstanceAs (Packable UInt32)
  | i64 => inferInstanceAs (Packable Int64)
  | bool => inferInstanceAs (Packable Bool)
  | f64 => inferInstanceAs (Packable Binary64)
  | maybe => inferInstanceAs (Packable (Option UInt32))
  | list => inferInstanceAs (Packable (List Int64))
  | qos => inferInstanceAs (Packable QoS)
  | config => inferInstanceAs (Packable Config)
  | overrides => inferInstanceAs (Packable BrokerOverrides)
  | dynamic => inferInstanceAs (Packable AnyValue)

/-- Why a value refuses to be written, if it does. -/
def refusal? : (kind : PayloadKind) → kind.Value → Option String
  | unencodable, reason => some reason
  | _, _ => none

def encode (kind : PayloadKind) (value : kind.Value) : Except Error Bytes :=
  match kind.refusal? value with
  | some reason => throw (.encode ("MessagePack serialization failed: " ++ reason))
  | none => pure (pack value).encode

/-- The value that the first item of a byte string stands for, if it stands for one of the kind. -/
def decode? (kind : PayloadKind) (bytes : Bytes) : Option kind.Value :=
  Item.decode? bytes >>= unpack?

end PayloadKind

/-- A value together with its kind. -/
structure Payload where
  kind : PayloadKind
  value : kind.Value
  deriving DecidableEq

end PubSub
