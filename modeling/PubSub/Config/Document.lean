import PubSub.Config.Basic
import PubSub.Bytes
import PubSub.Error
import PubSub.Toml.Document
/-!
# Configuration files

A configuration file is a TOML document with a table per section. It overlays the defaults: fields and sections that it
leaves out keep them, and keys that are no field are passed over whatever their value is. A section may also stand as
the array of its fields in order, where trailing fields may be left out and surplus elements are ignored. The fields
are read in the order of the document, and the first that does not fit decides why the document is refused.
-/

namespace PubSub

open Toml

/-- What reading a setting gives. -/
abbrev Setting := Except ConfigFault

namespace Setting

def text : Value → Setting String
  | .string text => pure text
  | _ => throw .malformed

def flag : Value → Setting Bool
  | .boolean value => pure value
  | _ => throw .malformed

/-- An integer from 0 to `high`. -/
def natural (high : Nat) : Value → Setting Nat
  | .integer n => if 0 ≤ n ∧ n ≤ high then pure n.toNat else throw .malformed
  | _ => throw .malformed

def port (value : Value) : Setting UInt16 :=
  UInt16.ofNat <$> natural 65535 value

/-- The level of a delivery guarantee. A byte that is no level is named in the fault. -/
def quality (value : Value) : Setting QoS := do
  QoS.checked (← natural 255 value)

/-- The entries of a section. A time stands for a table without any field. -/
def entries (names : List String) : Value → Setting Table
  | .table _ entries => pure entries
  | .array items => pure (names.zip items)
  | .tables items => pure (names.zip (items.map (.table .header)))
  | .dateTime => pure []
  | _ => throw .malformed

end Setting

namespace BrokerOptions

/-- The options with one field of the section read. -/
def withEntry (options : BrokerOptions) : String × Value → Setting BrokerOptions
  | ("protocol", value) => do pure { options with protocol := ← Setting.text value }
  | ("host", value) => do pure { options with host := ← Setting.text value }
  | ("port", value) => do pure { options with port := ← Setting.port value }
  | ("path", value) => do pure { options with path := ← Setting.text value }
  | ("username", value) => do pure { options with username := ← Setting.text value }
  | ("password", value) => do pure { options with password := ← Setting.text value }
  | _ => pure options

def ofValue (value : Value) : Setting BrokerOptions := do
  (← Setting.entries ["protocol", "host", "port", "path", "username", "password"] value).foldlM withEntry tcp

end BrokerOptions

namespace ChannelDefaults

def withEntry (defaults : ChannelDefaults) : String × Value → Setting ChannelDefaults
  | ("qos", value) => do pure { defaults with qos := ← Setting.quality value }
  | ("retain", value) => do pure { defaults with retain := ← Setting.flag value }
  | _ => pure defaults

def ofValue (value : Value) : Setting ChannelDefaults := do
  (← Setting.entries ["qos", "retain"] value).foldlM withEntry standard

end ChannelDefaults

namespace Behavior

def withEntry (behavior : Behavior) : String × Value → Setting Behavior
  | ("auto_connect", value) => do pure { behavior with autoConnect := ← Setting.flag value }
  | _ => pure behavior

def ofValue (value : Value) : Setting Behavior := do
  (← Setting.entries ["auto_connect"] value).foldlM withEntry standard

end Behavior

namespace Config

def withEntry (config : Config) : String × Value → Setting Config
  | ("broker", value) => do pure { config with broker := ← BrokerOptions.ofValue value }
  | ("channels", value) => do pure { config with channels := ← ChannelDefaults.ofValue value }
  | ("behavior", value) => do pure { config with behavior := ← Behavior.ofValue value }
  | _ => pure config

def parse (document : String) : Setting Config :=
  match parse? document with
  | none => throw .malformed
  | some table => table.foldlM withEntry standard

def ofFile (file : Option Bytes) : Setting Config :=
  match file >>= Bytes.toString? with
  | none => throw .unreadable
  | some document => parse document

/-- The configuration in the first of some files that exists. Without a file, and when that file cannot be used, the
defaults hold. -/
def load (files : List (Option Bytes)) : Config :=
  match files.find? Option.isSome with
  | none => standard
  | some file =>
    match ofFile file with
    | .ok config => config
    | .error _ => standard

end Config

end PubSub
